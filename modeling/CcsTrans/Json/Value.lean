import CcsTrans.Text

/-!
JSON values and their text.

A value is what a JSON library keeps after reading a text: numbers are unsigned or signed
64-bit integers or finite doubles, strings are byte strings, and an object is its members.
The same type serves for the tree as it was written, where members stand in the order of
the text and may repeat, and for the document, where they are sorted and distinct.

What is said about floating point is only that the text of a double is a number token
with a fraction or an exponent, and that reading it gives the double back.
-/

namespace CcsTrans.Json

open CcsTrans.Text

/-- A double by its bits. -/
structure Double where
  bits : UInt64
  deriving DecidableEq

/-- Neither infinite nor a NaN: the exponent bits are not all ones. -/
def Double.isFinite (d : Double) : Bool := (d.bits >>> 52) &&& 0x7FF != 0x7FF

/-- A JSON value. -/
inductive Value where
  | null
  | bool (b : Bool)
  | int (n : Int64)
  | uint (n : UInt64)
  | float (d : Double)
  | str (s : Bytes)
  | arr (xs : List Value)
  | obj (ms : List (Bytes × Value))

/-- A property of values holds when every value has it whose parts have it. -/
theorem Value.induction {P : Value → Prop} (null : P .null) (bool : ∀ b, P (.bool b))
    (int : ∀ n, P (.int n)) (uint : ∀ n, P (.uint n)) (float : ∀ d, P (.float d))
    (str : ∀ s, P (.str s)) (arr : ∀ xs, (∀ x ∈ xs, P x) → P (.arr xs))
    (obj : ∀ ms, (∀ m ∈ ms, P m.2) → P (.obj ms)) (v : Value) : P v :=
  @Value.rec P (fun xs => ∀ x ∈ xs, P x) (fun ms => ∀ m ∈ ms, P m.2) (fun m => P m.2)
    null bool int uint float str arr obj
    (by simp) (fun _ _ h t => List.forall_mem_cons.mpr ⟨h, t⟩)
    (by simp) (fun _ _ h t => List.forall_mem_cons.mpr ⟨h, t⟩) (fun _ _ h => h) v

/-- Why a text is refused: it is not JSON, or a number in it overflows a double. -/
inductive JsonError where
  | malformed
  | outOfRange
  deriving DecidableEq

/-! ### Number tokens -/

/-- The longest run of digits at the front. -/
def spanDigits : Bytes → Bytes × Bytes
  | [] => ([], [])
  | b :: t => if isDigit b then let (ds, r) := spanDigits t; (b :: ds, r) else ([], b :: t)

/-- A number as it stands in a text. -/
structure NumberToken where
  negative : Bool
  whole : Bytes
  /-- The fraction and the exponent, as written. -/
  tail : Bytes

def NumberToken.text (t : NumberToken) : Bytes :=
  (if t.negative then [ch '-'] else []) ++ t.whole ++ t.tail

/-- The fraction, when there is one: a dot and at least one digit. -/
def scanFraction : Bytes → Except JsonError (Bytes × Bytes)
  | [] => .ok ([], [])
  | b :: t =>
    if b = ch '.' then
      match spanDigits t with
      | ([], _) => .error .malformed
      | (ds, r) => .ok (b :: ds, r)
    else .ok ([], b :: t)

/-- The exponent, when there is one: a mark, a sign and at least one digit. -/
def scanExponent : Bytes → Except JsonError (Bytes × Bytes)
  | [] => .ok ([], [])
  | b :: t =>
    if b = ch 'e' ∨ b = ch 'E' then
      let (sign, t') := match t with
        | [] => ([], [])
        | s :: r => if s = ch '+' ∨ s = ch '-' then ([s], r) else ([], s :: r)
      match spanDigits t' with
      | ([], _) => .error .malformed
      | (ds, r) => .ok (b :: (sign ++ ds), r)
    else .ok ([], b :: t)

/-- The whole part: a zero, or digits that do not start with one. -/
def scanWhole : Bytes → Except JsonError (Bytes × Bytes)
  | [] => .error .malformed
  | b :: t =>
    if b = ch '0' then .ok ([b], t)
    else if isDigit b then let (ds, r) := spanDigits t; .ok (b :: ds, r)
    else .error .malformed

def scanNumber (s : Bytes) : Except JsonError (NumberToken × Bytes) := do
  let (negative, s₁) := match s with
    | [] => (false, [])
    | b :: t => if b = ch '-' then (true, t) else (false, b :: t)
  let (whole, s₂) ← scanWhole s₁
  let (fraction, s₃) ← scanFraction s₂
  let (exponent, s₄) ← scanExponent s₃
  return (⟨negative, whole, fraction ++ exponent⟩, s₄)

/-- The parts of a JSON library that the development takes as given: how doubles are
converted to and from text, how integers are compared with them, and the wording of its
errors. -/
class Library where
  /-- The double nearest to a number token; nothing when it overflows. -/
  strtod : Bytes → Option Double
  /-- The text of a finite double. -/
  toChars : Double → Bytes
  ofInt : ℤ → Double
  /-- The comparison of doubles, for which the two zeros are equal. -/
  floatEq : Double → Double → Bool
  what : JsonError → Bytes
  /-- The wording when a value cannot be written. -/
  whatDump : Value → Bytes
  floatEq_refl : ∀ d, d.isFinite = true → floatEq d d = true
  strtod_finite : ∀ s d, strtod s = some d → d.isFinite = true
  /-- The text of a finite double is a number token with a fraction or an exponent … -/
  toChars_token : ∀ d, d.isFinite = true → ∃ t : NumberToken, t.text = toChars d ∧ t.tail ≠ [] ∧
    ∀ r, (∀ b ∈ r.head?, isDigit b = false ∧ b ≠ ch '.' ∧ b ≠ ch 'e' ∧ b ≠ ch 'E') →
      scanNumber (toChars d ++ r) = .ok (t, r)
  /-- … and reads back as the same double. -/
  strtod_toChars : ∀ d, d.isFinite = true → strtod (toChars d) = some d

end CcsTrans.Json
