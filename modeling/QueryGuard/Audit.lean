import QueryGuard.Json.Printer
import QueryGuard.Failure

/-!
The audit log: one JSON object a line, added at the end of a file. A record that cannot be
written is dropped; the work it tells of has been done and is not undone.
-/

namespace QueryGuard.Audit

/-- Time, event and the fields of the payload, which override them. A payload that is no object
goes under `payload`; a missing one adds nothing. -/
def fields (time event : String) (payload : Json) : List (String × Json) :=
  let head := Json.ofFields [("ts", time), ("event", event)]
  match payload with
  | .obj more => more.foldl (fun out f => Json.put f.1 f.2 out) head
  | .null => head
  | other => Json.put "payload" other head

/-- The line of a record, its end included. -/
def line (time event : String) (payload : Json) : String :=
  Json.render (.obj (fields time event payload)) ++ "\n"

/-- A log is a file that takes lines at its end, or one that cannot be made. Without a file
nothing is kept. -/
inductive Log where
  | disabled
  | file (text : String)
  | unwritable (reason : String)

namespace Log

/-- The log at `path` where the given plain files exist. A plain file cannot be the directory of
another. -/
def openAt (files : List String) (path : String) : Log :=
  if files.any fun f => (f ++ "/").toList.isPrefixOf path.toList then
    unwritable "Not a directory"
  else file ""

/-- Adds a record, or tells why that failed. -/
def tryRecord (log : Log) (time event : String) (payload : Json) : Except Failure Unit × Log :=
  match log with
  | disabled => (.ok (), disabled)
  | file text => (.ok (), file (text ++ line time event payload))
  | unwritable reason => (.error (.files reason), unwritable reason)

/-- Adds a record if that is possible. -/
def record (log : Log) (time event : String) (payload : Json) : Log :=
  (log.tryRecord time event payload).2

def text : Log → String
  | file text => text
  | _ => ""

end Log

end QueryGuard.Audit
