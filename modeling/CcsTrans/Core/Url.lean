import CcsTrans.Fallible
import CcsTrans.Text

/-!
URLs and HTTP paths.

The canonical form of a path decodes the escapes of unreserved characters, writes the other
escapes in upper case and drops one trailing slash. Paths that could be read in two ways
(dot segments, doubled or encoded separators) have none.
-/

namespace CcsTrans.Core

open CcsTrans.Text

/-! ### Canonical paths -/

def isUnreserved (b : UInt8) : Bool :=
  isAlnum b || b == ch '-' || b == ch '.' || b == ch '_' || b == ch '~'

/-- The value of a hexadecimal digit. -/
def hexDigitValue (b : UInt8) : UInt8 :=
  if isDigit b then b - 48 else if isLower b then b - 87 else b - 55

def upperHex (n : UInt8) : UInt8 := if n < 10 then 48 + n else 55 + n

/-- The two digits after a percent sign, as they stand in the canonical path. -/
def canonicalEscape (high low : UInt8) : Except Bytes Bytes :=
  let decoded := (hexDigitValue high <<< 4) ||| hexDigitValue low
  if isControl decoded then .error (str "path must not encode control characters")
  else if decoded = ch '.' ∨ decoded = ch '/' ∨ decoded = ch '\\' then
    .error (str "path must not encode dot or path separators")
  else if isUnreserved decoded then .ok [decoded]
  else .ok [ch '%', upperHex (decoded >>> 4), upperHex (decoded &&& 0x0F)]

/-- The characters of a path, from left to right. -/
def canonicalBytes : Bytes → Except Bytes Bytes
  | [] => .ok []
  | b :: t =>
    if isControl b || b == ch '?' || b == ch '#' || b == ch '\\' then
      .error (str "path must not contain control characters, query, fragment, or backslash")
    else if b ≠ ch '%' then (b :: ·) <$> canonicalBytes t
    else match t with
      | high :: low :: r =>
        if isHex high && isHex low then do
          let e ← canonicalEscape high low
          return e ++ (← canonicalBytes r)
        else .error (str "path contains an invalid percent escape")
      | _ => .error (str "path contains an invalid percent escape")

/-- `canonicalize_http_path`. -/
def canonicalizeHttpPath (raw : Bytes) : Except Bytes Bytes := do
  if raw.head? ≠ some (ch '/') then throw (str "path must start with /")
  if raw.length > 2048 then throw (str "path exceeds the maximum length of 2048 bytes")
  let candidate ← canonicalBytes raw
  if (cut (str "//") candidate).isSome then
    throw (str "path must not contain duplicate separators")
  if (splitOn (ch '/') (candidate.drop 1)).any fun s => s == str "." || s == str ".." then
    throw (str "path must not contain dot segments")
  if candidate.length > 1 ∧ candidate.getLast? = some (ch '/') then return candidate.dropLast
  return candidate

/-! ### URLs -/

structure ParsedUrl where
  secure : Bool
  host : Bytes
  port : ℕ
  basePath : Bytes

def parsePort (text : Bytes) : Except Bytes ℕ :=
  if text ≠ [] ∧ text.all isDigit ∧ 0 < digitsValue text ∧ digitsValue text ≤ 65535 then
    .ok (digitsValue text)
  else .error (str "invalid upstream port")

/-- The host and the port of an authority; a port that is not given is the scheme's. -/
def parseAuthority (authority : Bytes) (port : ℕ) : Except Bytes (Bytes × ℕ) :=
  if authority.head? = some (ch '[') then
    match cut (str "]") authority with
    | none => .error (str "invalid IPv6 upstream host")
    | some (before, after) =>
      match after with
      | [] => .ok (before.drop 1, port)
      | b :: text =>
        if b = ch ':' then (fun p => (before.drop 1, p)) <$> parsePort text
        else .error (str "invalid upstream authority")
  else
    match splitOn (ch ':') authority with
    | [host] => .ok (host, port)
    | [host, text] => (fun p => (host, p)) <$> parsePort text
    | _ => .error (str "IPv6 upstream hosts must use brackets")

/-- The host in lower case, without dots at its end. -/
def normalHost (host : Bytes) : Bytes :=
  ((host.map toLower).reverse.dropWhile (· == ch '.')).reverse

/-- `parse_http_url`; the error is the text of the exception. -/
def parseHttpUrl (raw : Bytes) : Except Bytes ParsedUrl := do
  match cut (str "://") raw with
  | none => throw (str "upstream URL must start with http:// or https://")
  | some (scheme, rest) =>
    let secure ←
      if scheme.map toLower = str "http" then pure false
      else if scheme.map toLower = str "https" then pure true
      else throw (str "upstream URL must start with http:// or https://")
    let (authority, basePath) := match cut (str "/") rest with
      | none => (rest, str "/")
      | some (a, p) => (a, ch '/' :: p)
    if authority = [] ∨ ch '@' ∈ authority then throw (str "invalid upstream authority")
    let (host, port) ← parseAuthority authority (if secure then 443 else 80)
    if normalHost host = [] then throw (str "upstream host is empty")
    return ⟨secure, normalHost host, port, basePath⟩

end CcsTrans.Core
