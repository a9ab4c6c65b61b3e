import CcsTrans.Json.Value

/-!
Writing a JSON value.

`dump` writes a value on one line or, given an indentation step, over several. It fails on
a string that is not UTF-8. `canon` is the value that its text denotes: a signed integer
that is not negative reads back as an unsigned one, and a double that is not finite as
`null`.
-/

namespace CcsTrans.Json

open CcsTrans.Text

/-! ### UTF-8 -/

/-- Where a reader of UTF-8 stands: between characters, or owing an octet of a range and
then `more` further tails. -/
inductive Utf8State where
  | start
  | need (low high : UInt8) (more : ℕ)
  deriving DecidableEq

/-- One octet: no character may be overlong, a surrogate or past U+10FFFF. -/
def utf8Step : Utf8State → UInt8 → Option Utf8State
  | .start, b =>
    if b ≤ 0x7F then some .start
    else if 0xC2 ≤ b ∧ b ≤ 0xDF then some (.need 0x80 0xBF 0)
    else if b = 0xE0 then some (.need 0xA0 0xBF 1)
    else if b = 0xED then some (.need 0x80 0x9F 1)
    else if 0xE1 ≤ b ∧ b ≤ 0xEF then some (.need 0x80 0xBF 1)
    else if b = 0xF0 then some (.need 0x90 0xBF 2)
    else if 0xF1 ≤ b ∧ b ≤ 0xF3 then some (.need 0x80 0xBF 2)
    else if b = 0xF4 then some (.need 0x80 0x8F 2)
    else none
  | .need low high more, b =>
    if low ≤ b ∧ b ≤ high then
      some (match more with
        | 0 => .start
        | n + 1 => .need 0x80 0xBF n)
    else none

def utf8Run : Utf8State → Bytes → Option Utf8State
  | q, [] => some q
  | q, b :: t => (utf8Step q b).bind fun q' => utf8Run q' t

def validUtf8 (s : Bytes) : Bool := utf8Run .start s = some .start

/-! ### Strings -/

/-- The lower-case hexadecimal digit of a number below sixteen. -/
def hexDigit (n : ℕ) : UInt8 := if n < 10 then (48 + n).toUInt8 else (87 + n).toUInt8

/-- How one byte of a string is written. -/
def escapeByte (b : UInt8) : Bytes :=
  if b = 0x08 then [ch '\\', ch 'b']
  else if b = 0x09 then [ch '\\', ch 't']
  else if b = 0x0A then [ch '\\', ch 'n']
  else if b = 0x0C then [ch '\\', ch 'f']
  else if b = 0x0D then [ch '\\', ch 'r']
  else if b = ch '"' then [ch '\\', ch '"']
  else if b = ch '\\' then [ch '\\', ch '\\']
  else if b ≤ 0x1F then
    [ch '\\', ch 'u', ch '0', ch '0', hexDigit (b.toNat / 16), hexDigit (b.toNat % 16)]
  else [b]

def escape (s : Bytes) : Bytes := s.flatMap escapeByte

/-- A quoted string, or nothing when it is not UTF-8. -/
def dumpString (s : Bytes) : Option Bytes :=
  if validUtf8 s then some (ch '"' :: (escape s ++ [ch '"'])) else none

/-! ### Values -/

/-- Spaces up to the column `n`, when lines are broken at all. -/
def indentation (step : Option ℕ) (n : ℕ) : Bytes :=
  if step.isSome then ch '\n' :: List.replicate n (ch ' ') else []

/-- The colon of a member, with a space when lines are broken. -/
def colon (step : Option ℕ) : Bytes := ch ':' :: if step.isSome then [ch ' '] else []

variable [Library]

mutual

/-- The text of a value, from the column `cur` on. -/
def dumpAt (step : Option ℕ) (cur : ℕ) : Value → Option Bytes
  | .null => some (str "null")
  | .bool true => some (str "true")
  | .bool false => some (str "false")
  | .int n => some (decimalInt n.toInt)
  | .uint n => some (decimal n.toNat)
  | .float d => some (if d.isFinite then Library.toChars d else str "null")
  | .str s => dumpString s
  | .arr [] => some [ch '[', ch ']']
  | .arr (x :: xs) => do
    let first ← dumpAt step (cur + step.getD 0) x
    let rest ← dumpItems step (cur + step.getD 0) xs
    return ch '[' :: (indentation step (cur + step.getD 0) ++ first ++ rest ++
      (indentation step cur ++ [ch ']']))
  | .obj [] => some [ch '{', ch '}']
  | .obj ((k, v) :: ms) => do
    let name ← dumpString k
    let first ← dumpAt step (cur + step.getD 0) v
    let rest ← dumpMembers step (cur + step.getD 0) ms
    return ch '{' :: (indentation step (cur + step.getD 0) ++ (name ++ colon step ++ first) ++
      rest ++ (indentation step cur ++ [ch '}']))

/-- The elements after the first, each with its comma. -/
def dumpItems (step : Option ℕ) (cur : ℕ) : List Value → Option Bytes
  | [] => some []
  | x :: xs => do
    let first ← dumpAt step cur x
    let rest ← dumpItems step cur xs
    return ch ',' :: (indentation step cur ++ first ++ rest)

/-- The members after the first, each with its comma. -/
def dumpMembers (step : Option ℕ) (cur : ℕ) : List (Bytes × Value) → Option Bytes
  | [] => some []
  | (k, v) :: ms => do
    let name ← dumpString k
    let first ← dumpAt step cur v
    let rest ← dumpMembers step cur ms
    return ch ',' :: (indentation step cur ++ (name ++ colon step ++ first) ++ rest)

end

/-- `dump()`: the text on one line. -/
def dump (v : Value) : Option Bytes := dumpAt none 0 v

/-- `dump(2)`: the text indented by two spaces a level. -/
def dumpPretty (v : Value) : Option Bytes := dumpAt (some 2) 0 v

omit [Library] in
mutual

/-- The value that the text of a value denotes. -/
def canon : Value → Value
  | .int n => if 0 ≤ n.toInt then .uint n.toInt.toNat.toUInt64 else .int n
  | .float d => if d.isFinite then .float d else .null
  | .arr xs => .arr (canonItems xs)
  | .obj ms => .obj (canonMembers ms)
  | v => v

def canonItems : List Value → List Value
  | [] => []
  | x :: xs => canon x :: canonItems xs

def canonMembers : List (Bytes × Value) → List (Bytes × Value)
  | [] => []
  | (k, v) :: ms => (k, canon v) :: canonMembers ms

end

end CcsTrans.Json
