import QueryGuard.Json.Basic
import QueryGuard.Decimal.Reading

/-!
Reading JSON text. One value is read, with nothing but blanks around it. Refused are control
characters in a string, halves of a surrogate pair by themselves, numbers beyond the largest
floating-point number and more than 127 brackets inside one another. Of fields with one name
the last counts.

Each function reads at the head of the text and returns the rest.
-/

namespace QueryGuard.Json

def isSpace (c : Char) : Bool := c == ' ' || c == '\n' || c == '\t' || c == '\r'

def skipSpace (s : List Char) : List Char := s.dropWhile isSpace

def hexValue? (c : Char) : Option Nat :=
  if c.isDigit then some (c.toNat - '0'.toNat)
  else if 'a' ≤ c ∧ c ≤ 'f' then some (c.toNat - 'a'.toNat + 10)
  else if 'A' ≤ c ∧ c ≤ 'F' then some (c.toNat - 'A'.toNat + 10)
  else none

def hex4? (a b c d : Char) : Option Nat := do
  return ((← hexValue? a) * 16 + (← hexValue? b)) * 256 + (← hexValue? c) * 16 + (← hexValue? d)

def shortEscape? (c : Char) : Option Char :=
  if c = '"' ∨ c = '\\' ∨ c = '/' then some c
  else if c = 'b' then some (Char.ofNat 0x8)
  else if c = 'f' then some (Char.ofNat 0xC)
  else if c = 'n' then some '\n'
  else if c = 'r' then some '\r'
  else if c = 't' then some '\t'
  else none

def isHighSurrogate (n : Nat) : Bool := decide (0xD800 ≤ n) && decide (n < 0xDC00)
def isLowSurrogate (n : Nat) : Bool := decide (0xDC00 ≤ n) && decide (n < 0xE000)

/-- The rest of a string after its opening quote. -/
def stringTail? : List Char → Option (List Char × List Char)
  | [] => none
  | '"' :: s => some ([], s)
  | '\\' :: 'u' :: a :: b :: c :: d :: s =>
    match hex4? a b c d with
    | none => none
    | some n =>
      if isHighSurrogate n then
        match s with
        | '\\' :: 'u' :: e :: f :: g :: h :: t =>
          match hex4? e f g h with
          | none => none
          | some m =>
            if isLowSurrogate m then
              let c := Char.ofNat (0x10000 + (n - 0xD800) * 0x400 + (m - 0xDC00))
              (stringTail? t).map fun (cs, r) => (c :: cs, r)
            else none
        | _ => none
      else if isLowSurrogate n then none
      else (stringTail? s).map fun (cs, r) => (Char.ofNat n :: cs, r)
  | '\\' :: e :: s =>
    match shortEscape? e with
    | none => none
    | some c => (stringTail? s).map fun (cs, r) => (c :: cs, r)
  | c :: s =>
    if c.toNat < 0x20 ∨ c = '\\' then none
    else (stringTail? s).map fun (cs, r) => (c :: cs, r)

def digits (s : List Char) : List Nat × List Char :=
  ((s.takeWhile Char.isDigit).map fun c => c.toNat - '0'.toNat, s.dropWhile Char.isDigit)

/-- At least one digit. -/
def digits? (s : List Char) : Option (List Nat × List Char) :=
  match digits s with
  | ([], _) => none
  | found => some found

def natOfDigits (ds : List Nat) : Nat := ds.foldl (fun n d => 10 * n + d) 0

/-- The part of a number from the exponent mark on; no mark, no exponent. -/
def exponent? : List Char → Option (Option Int × List Char)
  | [] => some (none, [])
  | c :: s =>
    if c = 'e' ∨ c = 'E' then
      let (negative, s) := match s with
        | '+' :: t => (false, t)
        | '-' :: t => (true, t)
        | t => (false, t)
      (digits? s).map fun (ds, r) =>
        let n : Int := natOfDigits ds
        (some (if negative then -n else n), r)
    else some (none, c :: s)

/-- The part of a number from the point on; no point, no fraction. -/
def fraction? : List Char → Option (Option (List Nat) × List Char)
  | '.' :: s => (digits? s).map fun (ds, r) => (some ds, r)
  | s => some (none, s)

/-- Whole digits without a leading zero. -/
def whole? (s : List Char) : Option (List Nat × List Char) :=
  match digits? s with
  | some (0 :: _ :: _, _) => none
  | found => found

/-- A whole number that has 64 bits stays one; minus zero, fractions and larger numbers become
floating-point numbers. -/
def number? (s : List Char) : Option (Json × List Char) := do
  let (negative, s) := match s with
    | '-' :: t => (true, t)
    | t => (false, t)
  let (whole, s) ← whole? s
  let (fraction, s) ← fraction? s
  let (exponent, s) ← exponent? s
  let n := natOfDigits whole
  let isWhole := fraction.isNone && exponent.isNone
  if isWhole && !negative && decide (n < Decimal.words64) then
    return (.int n, s)
  else if isWhole && negative && n != 0 && decide (n ≤ Decimal.halfWords64) then
    return (.int (-n), s)
  else
    let x ← Decimal.ofDigits whole (fraction.getD []) (exponent.getD 0)
    return (.float (if negative then -x else x), s)

def literal? (name : String) (value : Json) (s : List Char) : Option (Json × List Char) :=
  (name.toList.isPrefixOf? s).map (value, ·)

mutual

/-- `fuel` bounds the calls, `depth` the brackets that may still open. -/
def value? (fuel depth : Nat) (s : List Char) : Option (Json × List Char) :=
  match fuel with
  | 0 => none
  | fuel + 1 =>
    match skipSpace s with
    | '"' :: t => (stringTail? t).map fun (cs, r) => (str (String.ofList cs), r)
    | '[' :: t =>
      match depth with
      | 0 => none
      | depth + 1 =>
        match skipSpace t with
        | ']' :: r => some (arr [], r)
        | _ => (items? fuel depth t).map fun (vs, r) => (arr vs, r)
    | '{' :: t =>
      match depth with
      | 0 => none
      | depth + 1 =>
        match skipSpace t with
        | '}' :: r => some (obj [], r)
        | _ => (members? fuel depth t).map fun (fs, r) => (obj (ofFields fs), r)
    | 'n' :: t => literal? "ull" null t
    | 't' :: t => literal? "rue" (bool true) t
    | 'f' :: t => literal? "alse" (bool false) t
    | t => number? t

/-- One or more items and the closing bracket. -/
def items? (fuel depth : Nat) (s : List Char) : Option (List Json × List Char) :=
  match fuel with
  | 0 => none
  | fuel + 1 =>
    match value? fuel depth s with
    | none => none
    | some (v, r) =>
      match skipSpace r with
      | ']' :: t => some ([v], t)
      | ',' :: t => (items? fuel depth t).map fun (vs, u) => (v :: vs, u)
      | _ => none

/-- One or more fields and the closing brace. -/
def members? (fuel depth : Nat) (s : List Char) : Option (List (String × Json) × List Char) :=
  match fuel with
  | 0 => none
  | fuel + 1 =>
    match skipSpace s with
    | '"' :: t =>
      match stringTail? t with
      | none => none
      | some (name, r) =>
        match skipSpace r with
        | ':' :: u =>
          match value? fuel depth u with
          | none => none
          | some (v, w) =>
            let f := (String.ofList name, v)
            match skipSpace w with
            | '}' :: x => some ([f], x)
            | ',' :: x => (members? fuel depth x).map fun (fs, y) => (f :: fs, y)
            | _ => none
        | _ => none
    | _ => none

end

/-- The value a whole text stands for. Each character is met by at most two calls. -/
def parse? (text : String) : Option Json :=
  let s := text.toList
  match value? (2 * s.length + 2) 127 s with
  | some (v, r) => if (skipSpace r).isEmpty then some v else none
  | none => none

/-- The fields of a text that is an object, as they are written, repeated names included. -/
def writtenFields? (text : String) : Option (List (String × Json)) :=
  let s := text.toList
  match skipSpace s with
  | '\x7b' :: t =>
    match skipSpace t with
    | '\x7d' :: r => if (skipSpace r).isEmpty then some [] else none
    | _ =>
      match members? (2 * s.length + 2) 126 t with
      | some (fs, r) => if (skipSpace r).isEmpty then some fs else none
      | none => none
  | _ => none

end QueryGuard.Json
