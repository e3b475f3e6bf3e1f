import QueryGuard.CommandLine.Address
import QueryGuard.CommandLine.LogFilter
import QueryGuard.CommandLine.Settings
import QueryGuard.Draft.Credential
import QueryGuard.Gate.Basic
import QueryGuard.Schema.Diagram

/-!
One run of the command line. Logging is set up first; a check needs no database; every other
command needs an address, and connects before it does anything.
-/

namespace QueryGuard.CommandLine

/-- What surrounds a run. -/
structure Host where
  environment : List (String × String)
  driver : String → Except Failure Database
  /-- Drafts by means of a key. -/
  drafter : String → String → Schema → Except Failure String
  log : String → Audit.Log
  time : String
  elapsed : Stage → Float

inductive Output where
  | document (j : Json)
  | text (t : String)

/-- The text of an output, its last line ended. -/
def Output.render : Output → String
  | document j => j.pretty ++ "\n"
  | text t => t ++ "\n"

/-- What a run leaves: an exit code, perhaps an output, what went wrong, and its log. -/
structure Ending where
  code : Nat
  output : Option Output
  error : Option String
  log : Audit.Log

namespace Ending

def usage : Ending := ⟨2, none, none, .disabled⟩

def failed (message : String) (log : Audit.Log) : Ending := ⟨1, none, some message, log⟩

/-- An output and, if the outcome is a refusal, its reason. -/
def shown (output : Output) (refusal : Option String) (log : Audit.Log) : Ending :=
  ⟨if refusal.isSome then 1 else 0, some output, refusal, log⟩

end Ending

/-- Validation and policy by themselves, with the plan of nothing. -/
def checkReport (sql : String) (write : Bool) : Json :=
  let refusal := if write then Validation.write sql else Validation.read sql
  .obj [("validation", Validation.toJson refusal),
    ("policy", (Policy.judge sql .blank (!write)).toJson)]

def showRun (format : Render.Format) (o : RunOutcome) : Except Failure Output :=
  match o with
  | .executed _ result _ _ _ =>
    if format = .json then .ok (.document o.toJson)
    else (Render.result result format).map .text
  | _ => .ok (.document o.toJson)

def ending {α : Type} (x : Traced α) (log : Audit.Log) (present : α → Except Failure Output)
    (refusal : α → Option String) : Ending :=
  match x.outcome with
  | .error f => .failed f.message log
  | .ok a =>
    match present a with
    | .error f => .failed f.message log
    | .ok output => .shown output (refusal a) log

/-- A command that needs the gate. Serving goes on until it is broken off, and shows nothing. -/
def carryOut (w : World) (g : Gate) (time : String) : Command → Ending
  | .check sql write => .shown (.document (checkReport sql write)) none g.log
  | .plan sql =>
    let (x, g) := g.plan w time sql
    ending x g.log (fun o => .ok (.document o.toJson)) fun _ => none
  | .run sql options format =>
    let (x, g) := g.run w time sql options
    ending x g.log (showRun format) RunOutcome.error?
  | .write sql allowWrite =>
    let (x, g) := g.write w time sql allowWrite
    ending x g.log (fun o => .ok (.document o.toJson)) WriteOutcome.error?
  | .ask text execute options =>
    let (x, g) := g.ask w time text execute options
    ending x g.log (fun o => .ok (.document o.toJson)) fun _ => none
  | .schema => ending w.database.askSchema g.log (fun s => .ok (.document s.toJson)) fun _ => none
  | .erd => ending w.database.askSchema g.log (fun s => .ok (.text s.diagram)) fun _ => none
  | .serve _ _ => ⟨0, none, none, g.log⟩

/-- The gate with the limits and the log that were asked for. Logs begin empty. -/
def gateFor (h : Host) (s : Settings) : Gate :=
  { Gate.initial with
    limits := s.limits
    log := match s.auditLog with
      | none => .disabled
      | some path => h.log path }

def worldFor (h : Host) (s : Settings) (db : Database) : World where
  database := db
  drafter := (Credential.find s.apiKey h.environment).toOption.map h.drafter
  searchedAt := 0
  storedAt := 0
  elapsed := h.elapsed

def session (h : Host) (s : Settings) (command : Command) : Ending :=
  match checkFilter s.logFilter with
  | .error f => .failed f.message .disabled
  | .ok () =>
    match command with
    | .check sql write => .shown (.document (checkReport sql write)) none .disabled
    | command =>
      match s.database with
      | none => .failed "database url required (--db or DATABASE_URL)" .disabled
      | some address =>
        match Address.connect h.driver address with
        | .error f => .failed f.message .disabled
        | .ok db => carryOut (worldFor h s db) (gateFor h s) h.time command

def run (h : Host) (arguments : List String) : Ending :=
  match invocation arguments h.environment with
  | .help => ⟨0, none, none, .disabled⟩
  | .invalid => .usage
  | .valid settings command => session h settings command

end QueryGuard.CommandLine
