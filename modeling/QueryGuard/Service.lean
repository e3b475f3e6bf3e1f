import QueryGuard.Gate.Basic
import QueryGuard.Intake
import QueryGuard.Json.Reader
import QueryGuard.Schema.Diagram

/-!
The gate as a service over HTTP. A request is refused for its path, its method, the type of its
body, a body that is no JSON, and one that is not the record asked for, in this order. What the
gate refuses or fails to do is the client's fault; only a request in plain language without a
drafter, and a schema that cannot be read, are the server's.
-/

namespace QueryGuard.Service

open Json

structure HttpRequest where
  method : String
  path : String
  contentType : Option String
  body : String

/-- A reply without a document has a status only. -/
structure Reply where
  status : Nat
  document : Option Json

inductive Route where
  | health
  | schema
  | erd
  | plan
  | query
  | write
  | ask
deriving DecidableEq

def routes : List (String × Route) := [
  ("/health", .health), ("/schema", .schema), ("/erd", .erd), ("/plan", .plan),
  ("/query", .query), ("/write", .write), ("/ask", .ask)]

/-- The part of a path behind a question mark does not count. -/
def route? (path : String) : Option Route :=
  routes.lookup (String.ofList (path.toList.takeWhile (· != '?')))

/-- The methods of a route; what answers GET answers HEAD too. -/
def Route.methods : Route → List String
  | .health | .schema | .erd => ["GET", "HEAD"]
  | .plan | .query | .write | .ask => ["POST"]

def refused (status : Nat) : Reply := ⟨status, none⟩

def reply (status : Nat) (document : Json) : Reply := ⟨status, some document⟩

def failure (status : Nat) (f : Failure) : Reply := reply status (.obj [("error", f.message)])

/-- Whether the body is said to be JSON, or a format built on it. Parameters do not count. -/
def isJsonType (contentType : String) : Bool :=
  let kind := Text.trim (contentType.toList.takeWhile (· != ';'))
  let kind := kind.map Char.toLower
  kind == "application/json".toList ||
    ("application/".toList.isPrefixOf kind && "+json".toList.isSuffixOf kind)

/-- The fields of a body, or the status with which it is refused. A record may be a list of its
values; of the named fields none may come twice. -/
def bodyFields (names : List String) (r : HttpRequest) : Except Nat (List (String × Json)) :=
  if !(r.contentType.map isJsonType).getD false then .error 415
  else
    match parse? r.body with
    | none => .error 400
    | some (.arr items) =>
      if items.length ≤ names.length then .ok (names.zip items) else .error 400
    | some _ =>
      match writtenFields? r.body with
      | none => .error 422
      | some fields =>
        let known := fields.filter fun f => names.contains f.1
        if (known.map (·.1)).eraseDups.length = known.length then .ok known else .error 422

/-- A body read as a record. -/
def withBody {α : Type} (names : List String) (read : List (String × Json) → Option α)
    (r : HttpRequest) : Except Nat α := do
  let fields ← bodyFields names r
  match read fields with
  | none => .error 422
  | some a => .ok a

def planBody : HttpRequest → Except Nat String :=
  withBody ["sql"] fun f => need f "sql" str?

def queryBody : HttpRequest → Except Nat (String × RunOptions) :=
  withBody ["sql", "mode", "safe"] fun f => do
    return (← need f "sql" str?,
      ⟨← maybe f "mode" .execute RunMode.ofJson?, ← maybe f "safe" true bool?⟩)

def writeBody : HttpRequest → Except Nat (String × Bool) :=
  withBody ["sql", "allow_write"] fun f => do
    return (← need f "sql" str?, ← maybe f "allow_write" false bool?)

def askBody : HttpRequest → Except Nat (String × Bool × RunOptions) :=
  withBody ["prompt", "execute", "mode"] fun f => do
    return (← need f "prompt" str?, ← maybe f "execute" false bool?,
      { mode := ← maybe f "mode" .execute RunMode.ofJson? })

def runReply : Except Failure RunOutcome → Reply
  | .ok o => reply (if o.error?.isSome then 400 else 200) o.toJson
  | .error f => failure 400 f

def writeReply : Except Failure WriteOutcome → Reply
  | .ok o => reply (if o.error?.isSome then 400 else 200) o.toJson
  | .error f => failure 400 f

def askReply : Except Failure AskOutcome → Reply
  | .ok o => reply 200 o.toJson
  | .error .noDrafter => failure 503 .noDrafter
  | .error .missingKey => failure 503 .missingKey
  | .error f => failure 400 f

def schemaReply (write : Schema → Json) : Except Failure Schema → Reply
  | .ok s => reply 200 (write s)
  | .error f => failure 500 f

variable (w : World) (time : String)

def answer (g : Gate) (r : HttpRequest) : Route → Reply × Gate
  | .health => (reply 200 (.obj [("status", "ok")]), g)
  | .schema => (schemaReply Schema.toJson w.database.schema, g)
  | .erd => (schemaReply (fun s => .obj [("erd", s.diagram)]) w.database.schema, g)
  | .plan =>
    match planBody r with
    | .error status => (refused status, g)
    | .ok sql =>
      let (x, g) := g.plan w time sql
      match x.outcome with
      | .ok o => (reply 200 o.toJson, g)
      | .error f => (failure 500 f, g)
  | .query =>
    match queryBody r with
    | .error status => (refused status, g)
    | .ok (sql, options) =>
      let (x, g) := g.run w time sql options
      (runReply x.outcome, g)
  | .write =>
    match writeBody r with
    | .error status => (refused status, g)
    | .ok (sql, allowWrite) =>
      let (x, g) := g.write w time sql allowWrite
      (writeReply x.outcome, g)
  | .ask =>
    match askBody r with
    | .error status => (refused status, g)
    | .ok (text, execute, options) =>
      let (x, g) := g.ask w time text execute options
      (askReply x.outcome, g)

/-- Every origin is let in, so the question for leave to send is answered for every path. -/
def respond (g : Gate) (r : HttpRequest) : Reply × Gate :=
  if r.method = "OPTIONS" then (refused 200, g)
  else match route? r.path with
    | none => (refused 404, g)
    | some route =>
      if route.methods.contains r.method then answer w time g r route else (refused 405, g)

/-- What a client sees of a service: replies, or, where no listener can be reached, nothing. -/
inductive Link where
  | up
  | down
deriving DecidableEq

/-- Requests one after the other, each with the world it meets. -/
def exchange (link : Link) (g : Gate) :
    List (World × HttpRequest) → List (Option Reply) × Gate
  | [] => ([], g)
  | (w, r) :: rest =>
    match link with
    | .down =>
      let (replies, g) := exchange link g rest
      (none :: replies, g)
    | .up =>
      let (first, g) := respond w time g r
      let (replies, g) := exchange link g rest
      (some first :: replies, g)

end QueryGuard.Service
