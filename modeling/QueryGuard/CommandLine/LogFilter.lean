import QueryGuard.Failure
import QueryGuard.Text.Blank

/-!
Filters for the log: directives between commas, each a level, a target, or a target with a level.
Between target and level there may be a span in brackets, with fields in braces. A level is a
name in any letter case or a number up to five; nothing at all is a filter too.
-/

namespace QueryGuard.CommandLine

open Text

def levelNames : List String := ["off", "error", "warn", "info", "debug", "trace"]

def isLevel (s : List Char) : Bool :=
  let digits := match s with
    | '+' :: t => t
    | t => t
  let isNumber := !digits.isEmpty && digits.all Char.isDigit &&
    decide (digits.foldl (fun n c => 10 * n + (c.toNat - '0'.toNat)) 0 ≤ 5)
  isNumber || levelNames.any fun n => n.toList == s.map Char.toLower

/-- Why a directive is refused. -/
inductive FilterFault where
  | level
  | form

def FilterFault.message : FilterFault → String
  | level => "error parsing level filter: expected one of \"off\", \"error\", \"warn\", " ++
      "\"info\", \"debug\", \"trace\", or a number 0-5"
  | form => "invalid filter directive"

def levelFault? (s : List Char) : Option FilterFault :=
  if s.isEmpty || isLevel s then none else some .level

/-- Fields stand between commas, none of them empty, up to a brace and a bracket. -/
def afterFields? (s : List Char) : Option (List Char) :=
  let inside := s.takeWhile (· != '\x7d')
  match s.dropWhile (· != '\x7d') with
  | _ :: ']' :: rest => if (splitWhere (· == ',') inside).all (· ≠ []) then some rest else none
  | _ => none

/-- What follows a span; its opening bracket has been read. -/
def afterSpan? : List Char → Option (List Char)
  | [] => none
  | c :: s =>
    if c = ']' then some s
    else if c = '\x7b' then afterFields? s
    else afterSpan? s

/-- What follows the target, from the first equals sign or bracket on. -/
def tailFault? : List Char → Option FilterFault
  | [] => none
  | '=' :: level => levelFault? level
  | _ :: span =>
    match afterSpan? span with
    | some ('=' :: level) => levelFault? level
    | _ => some .form

def directiveFault? (s : List Char) : Option FilterFault :=
  match trim s with
  | [] => some .form
  | c :: t =>
    if c = '[' then tailFault? (c :: t)
    else if isWordStart c then tailFault? ((c :: t).dropWhile fun c => c != '=' && c != '[')
    else some .form
where
  /-- A directive begins with a letter, a digit, a dash, a colon or an underscore. -/
  isWordStart (c : Char) : Bool :=
    c.isAlphanum || decide (0x80 ≤ c.toNat) || c == '-' || c == ':' || c == '_'

def filterFault? (filter : String) : Option FilterFault :=
  ((splitWhere (· == ',') filter.toList).filter (· ≠ [])).findSome? directiveFault?

/-- Logging can be set up with every filter that has no fault. -/
def checkFilter (filter : String) : Except Failure Unit :=
  match filterFault? filter with
  | some fault => .error (.logging ("invalid log level: " ++ fault.message))
  | none => .ok ()

end QueryGuard.CommandLine
