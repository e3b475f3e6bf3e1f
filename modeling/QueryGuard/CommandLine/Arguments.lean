/-!
Reading the words of a command line: long and short options, with or without a value, and plain
words. A value stands in the next word, behind an equals sign, or, for a short option, right
behind its letter; a word that looks like an option is not taken for a value. After `--` all
words are plain.
-/

namespace QueryGuard.CommandLine

structure OptionForm where
  name : String
  letter : Option Char := none
  takesValue : Bool := true

inductive Item where
  | flag (name : String)
  | value (name : String) (text : String)
  | word (text : String)
deriving DecidableEq

/-- A dash by itself is a plain word. -/
def looksLikeOption : List Char → Bool
  | '-' :: _ :: _ => true
  | _ => false

/-- A word split at its first equals sign. -/
def splitValue (s : List Char) : List Char × Option (List Char) :=
  match s.dropWhile (· != '=') with
  | [] => (s, none)
  | _ :: v => (s.takeWhile (· != '='), some v)

/-- What a word that looks like an option says: items, and the name of an option whose value is
in the next word. -/
structure Parsed where
  items : List Item
  pending : Option String := none

variable (forms : List OptionForm)

def long? (s : List Char) : Option Parsed :=
  let (name, v) := splitValue s
  match forms.find? fun f => f.name.toList == name, v with
  | none, _ => none
  | some f, some v => if f.takesValue then some ⟨[.value f.name (String.ofList v)], none⟩ else none
  | some f, none => some (if f.takesValue then ⟨[], some f.name⟩ else ⟨[.flag f.name], none⟩)

/-- Letters run together: flags, and at the end perhaps an option with its value. -/
def letters? : List Char → Option Parsed
  | [] => some ⟨[], none⟩
  | c :: s =>
    match forms.find? fun f => f.letter == some c with
    | none => none
    | some f =>
      if f.takesValue then
        match s with
        | [] => some ⟨[], some f.name⟩
        | '=' :: v => some ⟨[.value f.name (String.ofList v)], none⟩
        | v => some ⟨[.value f.name (String.ofList v)], none⟩
      else (letters? s).map fun p => ⟨.flag f.name :: p.items, p.pending⟩

/-- Items of a command line in order. At `stop` they end with the first plain word, and what
follows it is returned. -/
def items? (stop : Bool) : List String → Option (List Item × List String)
  | [] => some ([], [])
  | a :: rest =>
    if a = "--" then
      if stop then none else some (rest.map .word, [])
    else if looksLikeOption a.toList then
      let parsed := match a.toList with
        | '-' :: '-' :: s => long? forms s
        | s => letters? forms s.tail
      match parsed, rest with
      | none, _ => none
      | some ⟨found, none⟩, rest => (items? stop rest).map fun (more, r) => (found ++ more, r)
      | some ⟨_, some _⟩, [] => none
      | some ⟨found, some name⟩, v :: rest =>
        if looksLikeOption v.toList then none
        else (items? stop rest).map fun (more, r) => (found ++ .value name v :: more, r)
    else if stop then some ([.word a], rest)
    else (items? stop rest).map fun (more, r) => (.word a :: more, r)

/-- The name of an option that an item sets. -/
def Item.name? : Item → Option String
  | .flag name => some name
  | .value name _ => some name
  | .word _ => none

def words (items : List Item) : List String := items.filterMap fun
  | .word text => some text
  | _ => none

/-- No option is given twice. -/
def eachOnce (items : List Item) : Bool :=
  let names := items.filterMap Item.name?
  names.eraseDups.length == names.length

def valueOf? (name : String) (items : List Item) : Option String := items.findSome? fun
  | .value n text => if n = name then some text else none
  | _ => none

def hasFlag (name : String) (items : List Item) : Bool := items.contains (.flag name)

end QueryGuard.CommandLine
