import Mathlib

/-!
# JSON

A reader of JSON texts, with the whole grammar: white space, the three words, numbers with a
fraction and an exponent, strings with escapes, arrays and objects.  Numbers are read as rational
numbers.

The writer is only for objects whose members are natural numbers.
-/

namespace WaffleFinance.Lib.Json

inductive Value where
  | null
  | bool (b : Bool)
  | number (n : ℚ)
  | string (t : List Char)
  | array (items : List Value)
  /-- The members as they stand in the text. -/
  | object (members : List (List Char × Value))

/-- A member of an object: the last one of that name. -/
def Value.member (key : List Char) : Value → Option Value
  | .object members => (members.reverse.find? fun m => m.1 = key).map Prod.snd
  | _ => none

/-! ### The reader -/

def isSpace (c : Char) : Bool := c == ' ' || c == '\t' || c == '\n' || c == '\r'

def skip (t : List Char) : List Char := t.dropWhile isSpace

/-- One or more digits. -/
def digits (t : List Char) : Option (List Char × List Char) :=
  if t.takeWhile Char.isDigit = [] then none
  else some (t.takeWhile Char.isDigit, t.dropWhile Char.isDigit)

/-- Digits of which the first is zero only if it is the only one. -/
def integer (t : List Char) : Option (ℕ × List Char) :=
  match digits t with
  | some ('0' :: _ :: _, _) => none
  | some (ds, t) => some (Nat.ofDigitChars 10 ds 0, t)
  | none => none

def fraction : List Char → Option (ℚ × List Char)
  | '.' :: t => (digits t).map fun r => (Nat.ofDigitChars 10 r.1 0 / 10 ^ r.1.length, r.2)
  | t => some (0, t)

def exponentDigits : List Char → Option (ℤ × List Char)
  | '-' :: t => (digits t).map fun r => (-(Nat.ofDigitChars 10 r.1 0 : ℤ), r.2)
  | '+' :: t => (digits t).map fun r => ((Nat.ofDigitChars 10 r.1 0 : ℤ), r.2)
  | t => (digits t).map fun r => ((Nat.ofDigitChars 10 r.1 0 : ℤ), r.2)

def exponent : List Char → Option (ℤ × List Char)
  | 'e' :: t => exponentDigits t
  | 'E' :: t => exponentDigits t
  | t => some (0, t)

def unsigned (t : List Char) : Option (ℚ × List Char) := do
  let n ← integer t
  let f ← fraction n.2
  let e ← exponent f.2
  some ((n.1 + f.1) * 10 ^ e.1, e.2)

def number : List Char → Option (ℚ × List Char)
  | '-' :: t => (unsigned t).map fun r => (-r.1, r.2)
  | t => unsigned t

/-- What a character stands for after a backslash. -/
def escape : Char → Option Char
  | '\x22' => some '\x22'
  | '\x5c' => some '\x5c'
  | '/' => some '/'
  | 'b' => some '\x08'
  | 'f' => some '\x0c'
  | 'n' => some '\n'
  | 'r' => some '\r'
  | 't' => some '\t'
  | _ => none

def hexValue (c : Char) : Option ℕ :=
  if c.isDigit then some (c.toNat - '0'.toNat)
  else if 'a' ≤ c ∧ c ≤ 'f' then some (c.toNat - 'a'.toNat + 10)
  else if 'A' ≤ c ∧ c ≤ 'F' then some (c.toNat - 'A'.toNat + 10)
  else none

def unicode (digits : List Char) : Option Char :=
  (digits.mapM hexValue).map fun values => Char.ofNat (values.foldl (fun n v => 16 * n + v) 0)

/-- A string after its first quotation mark. -/
def stringBody : List Char → Option (List Char × List Char)
  | '\x22' :: t => some ([], t)
  | '\x5c' :: 'u' :: a :: b :: c :: d :: t => do
    let e ← unicode [a, b, c, d]
    let r ← stringBody t
    some (e :: r.1, r.2)
  | '\x5c' :: c :: t => do
    let e ← escape c
    let r ← stringBody t
    some (e :: r.1, r.2)
  | c :: t => if c.toNat < 32 then none else (stringBody t).map fun r => (c :: r.1, r.2)
  | [] => none

/-- The values without parts. -/
def scalar : List Char → Option (Value × List Char)
  | '\x22' :: t => (stringBody t).map fun r => (.string r.1, r.2)
  | 't' :: 'r' :: 'u' :: 'e' :: t => some (.bool true, t)
  | 'f' :: 'a' :: 'l' :: 's' :: 'e' :: t => some (.bool false, t)
  | 'n' :: 'u' :: 'l' :: 'l' :: t => some (.null, t)
  | t => (number t).map fun r => (.number r.1, r.2)

/-- The name of a member, with the colon. -/
def key (t : List Char) : Option (List Char × List Char) :=
  match skip t with
  | '\x22' :: t => do
    let r ← stringBody t
    match skip r.2 with
    | ':' :: t => some (r.1, t)
    | _ => none
  | _ => none

mutual

/-- The number bounds how deep the text is read. -/
def value : ℕ → List Char → Option (Value × List Char)
  | 0, _ => none
  | fuel + 1, t =>
    match skip t with
    | '[' :: t =>
      match skip t with
      | ']' :: t => some (.array [], t)
      | t => (elements fuel t).map fun r => (.array r.1, r.2)
    | '\x7b' :: t =>
      match skip t with
      | '\x7d' :: t => some (.object [], t)
      | t => (members fuel t).map fun r => (.object r.1, r.2)
    | t => scalar t

/-- The items of an array that is not empty, and its end. -/
def elements : ℕ → List Char → Option (List Value × List Char)
  | 0, _ => none
  | fuel + 1, t => do
    let item ← value fuel t
    match skip item.2 with
    | ',' :: t => (elements fuel t).map fun r => (item.1 :: r.1, r.2)
    | ']' :: t => some ([item.1], t)
    | _ => none

/-- The members of an object that is not empty, and its end. -/
def members : ℕ → List Char → Option (List (List Char × Value) × List Char)
  | 0, _ => none
  | fuel + 1, t => do
    let name ← key t
    let item ← value fuel name.2
    match skip item.2 with
    | ',' :: t => (members fuel t).map fun r => ((name.1, item.1) :: r.1, r.2)
    | '\x7d' :: t => some ([(name.1, item.1)], t)
    | _ => none

end

/-- A text that is one value.  No text is deeper than twice its length. -/
def parse (t : List Char) : Option Value :=
  match value (2 * t.length + 2) t with
  | some (v, rest) => if skip rest = [] then some v else none
  | none => none

/-! ### The writer -/

def memberText (name : List Char) (n : ℕ) (rest : List Char) : List Char :=
  '\x22' :: name ++ '\x22' :: ':' :: (Nat.toDigits 10 n ++ rest)

def membersText : List (List Char × ℕ) → List Char
  | [] => ['\x7d']
  | [m] => memberText m.1 m.2 ['\x7d']
  | m :: m' :: ms => memberText m.1 m.2 (',' :: membersText (m' :: ms))

/-- An object of natural numbers. -/
def stringify (ms : List (List Char × ℕ)) : List Char := '\x7b' :: membersText ms

end WaffleFinance.Lib.Json
