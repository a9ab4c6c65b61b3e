import CcsTrans.Text

/-!
File paths.

The lexical operations of `std::filesystem::path` on a POSIX system, where a path is its
bytes and a root is one leading slash.
-/

namespace CcsTrans.Core.Path

open CcsTrans.Text

def isAbsolute (p : Bytes) : Bool := p.head? == some (ch '/')

/-- What stands after the last slash. -/
def filename (p : Bytes) : Bytes := (splitOn (ch '/') p).getLast?.getD []

/-- The parts a path is iterated by: its root, its names, and an empty name for a slash at
the end. -/
def elements (p : Bytes) : List Bytes :=
  let names := (splitOn (ch '/') p).filter (· ≠ [])
  (if isAbsolute p then [str "/"] else []) ++ names ++
    (if names ≠ [] ∧ filename p = [] then [[]] else [])

/-- `operator/`. -/
def append (p q : Bytes) : Bytes :=
  if isAbsolute q then q
  else if filename p ≠ [] then p ++ ch '/' :: q
  else p ++ q

/-- One name of a path that is put in normal form; the names before it stand in reverse. -/
def normalStep (absolute : Bool) (names : List Bytes) (name : Bytes) : List Bytes :=
  if name = [] ∨ name = str "." then names
  else if name = str ".." then
    match names with
    | [] => if absolute then [] else [name]
    | top :: rest => if top = str ".." then name :: names else rest
  else name :: names

/-- Names with slashes between them. -/
def joinNames : List Bytes → Bytes
  | [] => []
  | [n] => n
  | n :: ns => n ++ ch '/' :: joinNames ns

/-- `lexically_normal`. -/
def lexicallyNormal (p : Bytes) : Bytes :=
  if p = [] then []
  else
    let names := (splitOn (ch '/') p).foldl (normalStep (isAbsolute p)) []
    let root := if isAbsolute p then str "/" else []
    match names with
    | [] => if isAbsolute p then root else str "."
    | top :: _ =>
      let slash := filename p = [] ∨ filename p = str "." ∨ filename p = str ".."
      root ++ joinNames names.reverse ++
        (if slash ∧ top ≠ str ".." then [ch '/'] else [])

/-- What two lists of parts do not share at their fronts. -/
def mismatch : List Bytes → List Bytes → List Bytes × List Bytes
  | x :: xs, y :: ys => if x = y then mismatch xs ys else (x :: xs, y :: ys)
  | xs, ys => (xs, ys)

/-- `lexically_relative`; the path from `base` to `p`, empty when there is none. -/
def lexicallyRelative (p base : Bytes) : Bytes :=
  if isAbsolute p ≠ isAbsolute base then []
  else
    let (a, b) := mismatch (elements p) (elements base)
    if a = [] ∧ b = [] then str "."
    else
      let up : ℤ := (b.filter fun e => e ≠ [] ∧ e ≠ str "." ∧ e ≠ str "..").length -
        (b.filter (· = str "..")).length
      if up < 0 then []
      else if up = 0 ∧ (a = [] ∨ a.head? = some []) then str "."
      else a.foldl append ((List.replicate up.toNat (str "..")).foldl append [])

example : lexicallyNormal (str "logs/./old/../ccs-trans.log") = str "logs/ccs-trans.log" := by
  decide
example : lexicallyNormal (str "a/b/..") = str "a/" := by decide
example : lexicallyRelative (str "/opt/app/logs/x") (str "/opt/app/") = str "logs/x" := by decide

end CcsTrans.Core.Path
