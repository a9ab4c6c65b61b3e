import CcsTrans.Json.Dump

/-!
Reading JSON.

The reader follows the grammar from left to right and gives the tree as it is written:
members in the order of the text, repeated ones included. `toDom` then makes the document
out of it, in which the last member of a name counts and names are sorted. Comments are
skipped when asked for. A zero byte where a token is expected ends the text.

Every call consumes a byte or hands the rest to a callee that does, so that fuel of twice
the length of the text is never used up.
-/

namespace CcsTrans.Json

open CcsTrans.Text

/-! ### Between tokens -/

def isBlank (b : UInt8) : Bool := b == 0x20 || b == 0x09 || b == 0x0A || b == 0x0D

def skipBlanks : Bytes → Bytes
  | [] => []
  | b :: t => if isBlank b then skipBlanks t else b :: t

/-- After `//`: up to and including the end of the line. -/
def skipLine : Bytes → Bytes
  | [] => []
  | b :: t => if b = 0x0A ∨ b = 0x0D ∨ b = 0 then t else skipLine t

/-- After `/*`: up to and including the closing mark. -/
def skipBlock : Bytes → Except JsonError Bytes
  | [] => .error .malformed
  | [_] => .error .malformed
  | a :: b :: t =>
    if a = 0 then .error .malformed
    else if a = ch '*' ∧ b = ch '/' then .ok t
    else skipBlock (b :: t)

/-- Blanks and comments before a token. -/
def skipComments : ℕ → Bytes → Except JsonError Bytes
  | 0, _ => .error .malformed
  | n + 1, s =>
    match skipBlanks s with
    | b :: c :: t =>
      if b = ch '/' then
        if c = ch '/' then skipComments n (skipLine t)
        else if c = ch '*' then do skipComments n (← skipBlock t)
        else .error .malformed
      else .ok (b :: c :: t)
    | s' => .ok s'

/-- The text from the next token on. -/
def skip (comments : Bool) (s : Bytes) : Except JsonError Bytes :=
  if comments then skipComments (s.length + 1) s else .ok (skipBlanks s)

/-! ### Strings -/

def hexValue (b : UInt8) : Option ℕ :=
  if isDigit b then some (b.toNat - 48)
  else if 97 ≤ b && b ≤ 102 then some (b.toNat - 87)
  else if 65 ≤ b && b ≤ 70 then some (b.toNat - 55)
  else none

/-- A code point in UTF-8. -/
def utf8Encode (n : ℕ) : Bytes :=
  if n < 0x80 then [n.toUInt8]
  else if n < 0x800 then [(0xC0 + n / 64).toUInt8, (0x80 + n % 64).toUInt8]
  else if n < 0x10000 then
    [(0xE0 + n / 4096).toUInt8, (0x80 + n / 64 % 64).toUInt8, (0x80 + n % 64).toUInt8]
  else
    [(0xF0 + n / 262144).toUInt8, (0x80 + n / 4096 % 64).toUInt8, (0x80 + n / 64 % 64).toUInt8,
      (0x80 + n % 64).toUInt8]

/-- The byte that a one-letter escape stands for. -/
def unescape (b : UInt8) : Option UInt8 :=
  if b = ch '"' ∨ b = ch '\\' ∨ b = ch '/' then some b
  else if b = ch 'b' then some 0x08
  else if b = ch 'f' then some 0x0C
  else if b = ch 'n' then some 0x0A
  else if b = ch 'r' then some 0x0D
  else if b = ch 't' then some 0x09
  else none

/-- Where the reader of a string stands: in its text, after a backslash, inside `\u` with
`left` digits to come (and the leading surrogate, if one was read), or between the two
halves of a surrogate pair. -/
inductive StringState where
  | text (q : Utf8State)
  | backslash
  | hex (high : Option ℕ) (left : ℕ) (acc : ℕ)
  | pairBackslash (high : ℕ)
  | pairU (high : ℕ)
  deriving DecidableEq

/-- What one byte does: it ends the string, is refused, or adds bytes to it. -/
inductive StringStep where
  | close
  | refuse
  | next (out : Bytes) (q : StringState)

/-- The code unit `n` of a `\u` escape is complete. -/
def unitStep (high : Option ℕ) (n : ℕ) : StringStep :=
  match high with
  | none =>
    if 0xD800 ≤ n ∧ n ≤ 0xDBFF then .next [] (.pairBackslash n)
    else if 0xDC00 ≤ n ∧ n ≤ 0xDFFF then .refuse
    else .next (utf8Encode n) (.text .start)
  | some h =>
    if 0xDC00 ≤ n ∧ n ≤ 0xDFFF then
      .next (utf8Encode (0x10000 + (h - 0xD800) * 1024 + (n - 0xDC00))) (.text .start)
    else .refuse

def stringStep : StringState → UInt8 → StringStep
  | .text .start, b =>
    if b = ch '"' then .close
    else if b = ch '\\' then .next [] .backslash
    else if b ≤ 0x1F then .refuse
    else match utf8Step .start b with
      | none => .refuse
      | some q => .next [b] (.text q)
  | .text (.need low high more), b =>
    match utf8Step (.need low high more) b with
    | none => .refuse
    | some q => .next [b] (.text q)
  | .backslash, b =>
    if b = ch 'u' then .next [] (.hex none 4 0)
    else match unescape b with
      | none => .refuse
      | some c => .next [c] (.text .start)
  | .hex high left acc, b =>
    match hexValue b with
    | none => .refuse
    | some d =>
      if 1 < left then .next [] (.hex high (left - 1) (acc * 16 + d))
      else unitStep high (acc * 16 + d)
  | .pairBackslash h, b => if b = ch '\\' then .next [] (.pairU h) else .refuse
  | .pairU h, b => if b = ch 'u' then .next [] (.hex (some h) 4 0) else .refuse

/-- The rest of a string after its opening quote: its bytes, and the text behind it. -/
def scanString : StringState → Bytes → Except JsonError (Bytes × Bytes)
  | _, [] => .error .malformed
  | q, b :: t =>
    match stringStep q b with
    | .close => .ok ([], t)
    | .refuse => .error .malformed
    | .next out q' => do
      let (s, r) ← scanString q' t
      return (out ++ s, r)

/-! ### Values -/

variable [Library]

/-- The value of a number token. Integers that do not fit become doubles. -/
def numberValue (t : NumberToken) : Except JsonError Value :=
  let n := digitsValue t.whole
  let double : Except JsonError Value :=
    match Library.strtod t.text with
    | some d => .ok (.float d)
    | none => .error .outOfRange
  if t.tail ≠ [] then double
  else if t.negative then
    if n ≤ 2 ^ 63 then .ok (.int (Int64.ofInt (-n))) else double
  else if n < 2 ^ 64 then .ok (.uint n.toUInt64) else double

/-- Read the literal `l` at the front. -/
def literal (l : Bytes) (v : Value) (s : Bytes) : Except JsonError (Value × Bytes) :=
  if startsWith l s then .ok (v, s.drop l.length) else .error .malformed

mutual

/-- One value, from the next token on. -/
def parseValue (comments : Bool) : ℕ → Bytes → Except JsonError (Value × Bytes)
  | 0, _ => .error .malformed
  | n + 1, s => do
    match ← skip comments s with
    | [] => .error .malformed
    | b :: t =>
      if b = ch '[' then parseArray comments n t
      else if b = ch '{' then parseObject comments n t
      else if b = ch '"' then do
        let (v, r) ← scanString (.text .start) t
        return (.str v, r)
      else if b = ch 't' then literal (str "true") (.bool true) (b :: t)
      else if b = ch 'f' then literal (str "false") (.bool false) (b :: t)
      else if b = ch 'n' then literal (str "null") .null (b :: t)
      else if b = ch '-' ∨ isDigit b then do
        let (tok, r) ← scanNumber (b :: t)
        return (← numberValue tok, r)
      else .error .malformed

/-- After `[`. -/
def parseArray (comments : Bool) : ℕ → Bytes → Except JsonError (Value × Bytes)
  | 0, _ => .error .malformed
  | n + 1, s => do
    match ← skip comments s with
    | [] => .error .malformed
    | b :: t =>
      if b = ch ']' then return (.arr [], t)
      else do
        let (x, r) ← parseValue comments n (b :: t)
        let (xs, r') ← parseItems comments n r
        return (.arr (x :: xs), r')

/-- After an element of an array. -/
def parseItems (comments : Bool) : ℕ → Bytes → Except JsonError (List Value × Bytes)
  | 0, _ => .error .malformed
  | n + 1, s => do
    match ← skip comments s with
    | [] => .error .malformed
    | b :: t =>
      if b = ch ']' then return ([], t)
      else if b = ch ',' then do
        let (x, r) ← parseValue comments n t
        let (xs, r') ← parseItems comments n r
        return (x :: xs, r')
      else .error .malformed

/-- After `{`. -/
def parseObject (comments : Bool) : ℕ → Bytes → Except JsonError (Value × Bytes)
  | 0, _ => .error .malformed
  | n + 1, s => do
    match ← skip comments s with
    | [] => .error .malformed
    | b :: t =>
      if b = ch '}' then return (.obj [], t)
      else do
        let (m, r) ← parseMember comments n (b :: t)
        let (ms, r') ← parseMembers comments n r
        return (.obj (m :: ms), r')

/-- A name, a colon and a value. -/
def parseMember (comments : Bool) : ℕ → Bytes → Except JsonError ((Bytes × Value) × Bytes)
  | 0, _ => .error .malformed
  | n + 1, s => do
    match ← skip comments s with
    | [] => .error .malformed
    | b :: t =>
      if b = ch '"' then do
        let (k, r) ← scanString (.text .start) t
        match ← skip comments r with
        | [] => .error .malformed
        | c :: r' =>
          if c = ch ':' then do
            let (v, r'') ← parseValue comments n r'
            return ((k, v), r'')
          else .error .malformed
      else .error .malformed

/-- After a member of an object. -/
def parseMembers (comments : Bool) : ℕ → Bytes → Except JsonError (List (Bytes × Value) × Bytes)
  | 0, _ => .error .malformed
  | n + 1, s => do
    match ← skip comments s with
    | [] => .error .malformed
    | b :: t =>
      if b = ch '}' then return ([], t)
      else if b = ch ',' then do
        let (m, r) ← parseMember comments n t
        let (ms, r') ← parseMembers comments n r
        return (m :: ms, r')
      else .error .malformed

end

/-- The byte order mark: all of it or none. -/
def skipBom : Bytes → Except JsonError Bytes
  | 0xEF :: 0xBB :: 0xBF :: t => .ok t
  | 0xEF :: _ => .error .malformed
  | s => .ok s

/-- The tree of a whole text. -/
def parseTree (comments : Bool) (s : Bytes) : Except JsonError Value := do
  let s ← skipBom s
  let (v, r) ← parseValue comments (2 * s.length + 2) s
  match ← skip comments r with
  | [] => return v
  | b :: _ => if b = 0 then return v else .error .malformed

/-! ### The document -/

/-- Put a member in its place among sorted ones, over an earlier one of its name. -/
def insertMember {α : Type} (k : Bytes) (v : α) : List (Bytes × α) → List (Bytes × α)
  | [] => [(k, v)]
  | (k', v') :: ms =>
    if k < k' then (k, v) :: (k', v') :: ms
    else if k = k' then (k, v) :: ms
    else (k', v') :: insertMember k v ms

omit [Library] in
mutual

/-- The document of a tree. -/
def toDom : Value → Value
  | .arr xs => .arr (toDomItems xs)
  | .obj ms => .obj (toDomMembers [] ms)
  | v => v

def toDomItems : List Value → List Value
  | [] => []
  | x :: xs => toDom x :: toDomItems xs

def toDomMembers (acc : List (Bytes × Value)) : List (Bytes × Value) → List (Bytes × Value)
  | [] => acc
  | (k, v) :: ms => toDomMembers (insertMember k (toDom v) acc) ms

end

omit [Library] in
mutual

/-- The first name that stands twice in one object, in the order of the text. The empty name
passes: the reader keeps the name it found, and takes an empty one for none. -/
def duplicateKey : Value → Option Bytes
  | .arr xs => duplicateInItems xs
  | .obj ms => duplicateInMembers [] ms
  | _ => none

def duplicateInItems : List Value → Option Bytes
  | [] => none
  | x :: xs => (duplicateKey x).or (duplicateInItems xs)

def duplicateInMembers (seen : List Bytes) : List (Bytes × Value) → Option Bytes
  | [] => none
  | (k, v) :: ms =>
    if k ∈ seen ∧ k ≠ [] then some k
    else (duplicateKey v).or (duplicateInMembers (k :: seen) ms)

end

/-- `Json::parse`. -/
def parse (s : Bytes) : Except JsonError Value := toDom <$> parseTree false s

/-- `Json::parse` with comments skipped. -/
def parseWithComments (s : Bytes) : Except JsonError Value := toDom <$> parseTree true s

end CcsTrans.Json
