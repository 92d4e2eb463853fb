/-!
# Paths of files

- `Path`: the names along a path, without empty ones and without single dots.
- `Path.ofText`, `Path.text`: how a path is read and how it is written.
- `Path.name`, `Path.stem`: the last name, with and without its ending.
-/

namespace SuperChip

/-- A path: what it starts from, and the names along it. -/
structure Path where
  /-- Nothing for a path from the working directory, or one or two slashes. -/
  root : String
  parts : List String
deriving DecidableEq, Repr

namespace Path

/-- The slashes that a text starts with: none, one or two. More than two count as one. -/
def rootOf (text : String) : String :=
  match (text.toList.takeWhile (· == '/')).length with
  | 0 => ""
  | 2 => "//"
  | _ => "/"

/-- The path that a text names. -/
def ofText (text : String) : Path where
  root := rootOf text
  parts := (text.splitOn "/").filter fun part => part != "" && part != "."

/-- A path as it is written. A path without names is a dot. -/
def text (p : Path) : String :=
  let joined := p.root ++ "/".intercalate p.parts
  if joined.isEmpty then "." else joined

/-- The last name of a path. -/
def name (p : Path) : String := p.parts.getLastD ""

/-- A name up to its last dot, unless that is its first or last character. -/
def stemOf (name : List Char) : List Char :=
  let ending := (name.reverse.takeWhile (· != '.')).length
  if ending = 0 ∨ name.length ≤ ending + 1 then name else name.take (name.length - ending - 1)

/-- The last name of a path without its ending. -/
def stem (p : Path) : String := String.ofList (stemOf p.name.toList)

end Path

end SuperChip
