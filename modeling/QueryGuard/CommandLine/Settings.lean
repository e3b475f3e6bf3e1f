import QueryGuard.CommandLine.Arguments
import QueryGuard.Decimal.Word
import QueryGuard.Intake
import QueryGuard.Render.Basic

/-!
The commands and their options. Options for all commands may stand before or after the command's
name, where the later place counts more; for some of them a variable of the environment stands
in.
-/

namespace QueryGuard.CommandLine

structure Settings where
  database : Option String
  apiKey : Option String
  logFilter : String
  auditLog : Option String
  limits : Limits

inductive Command where
  | plan (sql : String)
  | check (sql : String) (write : Bool)
  | run (sql : String) (options : RunOptions) (format : Render.Format)
  | write (sql : String) (allowWrite : Bool)
  | ask (text : String) (execute : Bool) (options : RunOptions)
  | schema
  | erd
  | serve (host : String) (number : Nat)

/-- What a command line comes to. -/
inductive Invocation where
  | help
  | invalid
  | valid (settings : Settings) (command : Command)

def generalForms : List OptionForm := [
  { name := "db", letter := some 'd' }, { name := "api-key", letter := some 'k' },
  { name := "log-level" }, { name := "log-json", takesValue := false }, { name := "audit-log" },
  { name := "safe-limit" }, { name := "preview-limit" },
  { name := "help", letter := some 'h', takesValue := false }]

def commandForms : String → List OptionForm
  | "check" => [{ name := "write", takesValue := false }]
  | "run" => [{ name := "mode" }, { name := "unsafe", takesValue := false },
      { name := "format", letter := some 'f' }]
  | "write" => [{ name := "allow-write", takesValue := false }]
  | "ask" => [{ name := "execute", letter := some 'e', takesValue := false }, { name := "mode" }]
  | "serve" => [{ name := "port", letter := some 'p' }, { name := "host" }]
  | _ => []

/-- A whole number below a bound, perhaps with a plus sign. -/
def natural? (bound : Nat) (text : String) : Option Nat :=
  let digits := match text.toList with
    | '+' :: s => s
    | s => s
  if digits.isEmpty || !digits.all Char.isDigit then none
  else
    let n := digits.foldl (fun n c => 10 * n + (c.toNat - '0'.toNat)) 0
    if n < bound then some n else none

/-- The value of an option read with `read`; an ill-formed one is refused. -/
def optional? {α : Type} (name : String) (items : List Item) (default : α)
    (read : String → Option α) : Option α :=
  match valueOf? name items with
  | none => some default
  | some text => read text

def mode? (items : List Item) : Option RunMode :=
  optional? "mode" items .execute fun text => RunMode.ofJson? (.str text)

def format? (items : List Item) : Option Render.Format :=
  optional? "format" items .json fun text =>
    [("json", Render.Format.json), ("table", .table), ("grid", .grid), ("csv", .csv)].lookup text

def command? (name : String) (items : List Item) : Option Command :=
  match name, words items with
  | "plan", [sql] => some (.plan sql)
  | "check", [sql] => some (.check sql (hasFlag "write" items))
  | "run", [sql] => do
    return .run sql ⟨← mode? items, !hasFlag "unsafe" items⟩ (← format? items)
  | "write", [sql] => some (.write sql (hasFlag "allow-write" items))
  | "ask", [text] => do
    return .ask text (hasFlag "execute" items) { mode := ← mode? items }
  | "schema", [] => some .schema
  | "erd", [] => some .erd
  | "serve", [] => do
    let number ← optional? "port" items 3000 (natural? 65536)
    return .serve ((valueOf? "host" items).getD "127.0.0.1") number
  | _, _ => none

/-- Numbers are checked in both places, also where one hides the other, and a log needs a
name. -/
def settings? (environment : List (String × String)) (before after : List Item) :
    Option Settings := do
  let general (name : String) : Option String :=
    valueOf? name after <|> valueOf? name before
  let safe ← optional? "safe-limit" before 1000 (natural? Decimal.words64)
  let safe ← optional? "safe-limit" after safe (natural? Decimal.words64)
  let preview ← optional? "preview-limit" before 50 (natural? Decimal.words64)
  let preview ← optional? "preview-limit" after preview (natural? Decimal.words64)
  let logs := [valueOf? "audit-log" before, valueOf? "audit-log" after,
    environment.lookup "AUDIT_LOG_PATH"].filterMap id
  if logs.contains "" then none
  return {
    database := general "db" <|> environment.lookup "DATABASE_URL"
    apiKey := general "api-key"
    logFilter := ((general "log-level" <|> environment.lookup "SQLGATE_LOG").getD "info")
    auditLog := general "audit-log" <|> environment.lookup "AUDIT_LOG_PATH"
    limits := ⟨safe, preview⟩ }

def isHelp (items : List Item) : Bool := hasFlag "help" items

def invocation (arguments : List String) (environment : List (String × String)) : Invocation :=
  match items? generalForms true arguments with
  | none => .invalid
  | some (before, rest) =>
    if isHelp before then .help
    else match words before with
      | ["help"] => .help
      | [name] =>
        match items? (generalForms ++ commandForms name) false rest with
        | none => .invalid
        | some (after, _) =>
          if isHelp after then .help
          else if !eachOnce before || !eachOnce after then .invalid
          else match command? name after, settings? environment before after with
            | some command, some settings => .valid settings command
            | _, _ => .invalid
      | _ => .invalid

end QueryGuard.CommandLine
