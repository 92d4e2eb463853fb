import SuperChip.Rom.Path
import SuperChip.Text.Quoted

/-!
# Files

The files that can be read lie in a tree of directories. A path is followed through the tree
from the working directory, or from the root if it starts with a slash.

- `Location`: where something is in the tree.
- `Files`: the directories and the files with their contents.
- `Files.find`: what a path leads to.
- `Files.read`, `Files.contains`: the contents of a file, and whether there is one.
- `Files.put`: the files with one of them written or removed.
- `FileError`: why there is nothing to read at the end of a path.
-/

namespace SuperChip

/-- Why there is nothing to read at the end of a path. -/
inductive FileError where
  /-- There is nothing. -/
  | missing
  /-- Something on the way is a file. -/
  | notDirectory
  /-- There is a directory. -/
  | isDirectory
  /-- A name, or the whole path, is too long. -/
  | tooLong
  /-- The path has a character that no name can have. -/
  | nullCharacter
deriving DecidableEq, Repr

/-- The wording of an error at the end of a path. -/
def FileError.message (path : Path) : FileError → String
  | missing => "[Errno 2] No such file or directory: " ++ Text.quoted path.text
  | notDirectory => "[Errno 20] Not a directory: " ++ Text.quoted path.text
  | isDirectory => "[Errno 21] Is a directory: " ++ Text.quoted path.text
  | tooLong => "[Errno 36] File name too long: " ++ Text.quoted path.text
  | nullCharacter => "embedded null byte"

/-- Where something is: the names on the way to it, the last one first. The way starts at the
working directory, at a slash for the root, or at two dots for a directory above. -/
abbrev Location := List String

namespace Location

/-- Where a path starts. -/
def start (path : Path) : Location := if path.root.isEmpty then [] else ["/"]

/-- The directory above. -/
def up : Location → Location
  | [] => [".."]
  | ".." :: above => ".." :: ".." :: above
  | "/" :: _ => ["/"]
  | _ :: above => above

/-- Whether there is a directory whatever files there are. -/
def isFixed (l : Location) : Bool := l == ["/"] || l.all (· == "..")

end Location

/-- Something in the tree. -/
inductive Node where
  | directory
  | file (contents : List UInt8)
deriving DecidableEq, Repr

/-- The directories and files of a tree. -/
structure Files where
  nodes : List (Location × Node)

namespace Files

/-- A tree without files. -/
def empty : Files := ⟨[]⟩

/-- What is at a location. -/
def node? (files : Files) (l : Location) : Option Node :=
  if l.isFixed then some .directory else files.nodes.lookup l

/-- The bytes of the longest name. -/
def nameLimit : Nat := 255

/-- The bytes of the longest path. -/
def pathLimit : Nat := 4095

/-- Where a name leads from a location. -/
def enter (files : Files) (l : Location) (name : String) : Except FileError Location :=
  match files.node? l with
  | none => .error .missing
  | some (.file _) => .error .notDirectory
  | some .directory =>
    if name = ".." then .ok l.up
    else if nameLimit < name.utf8ByteSize then .error .tooLong
    else .ok (name :: l)

/-- Where a path leads. -/
def locate (files : Files) (path : Path) : Except FileError Location :=
  if path.text.toList.contains '\x00' then .error .nullCharacter
  else if pathLimit < path.text.utf8ByteSize then .error .tooLong
  else path.parts.foldlM files.enter (.start path)

/-- What a path leads to. -/
def find (files : Files) (path : Path) : Except FileError Node :=
  match files.locate path with
  | .error e => .error e
  | .ok l =>
    match files.node? l with
    | none => .error .missing
    | some n => .ok n

/-- The contents of a file. -/
def read (files : Files) (path : Path) : Except FileError (List UInt8) :=
  match files.find path with
  | .ok (.file contents) => .ok contents
  | .ok .directory => .error .isDirectory
  | .error e => .error e

/-- Whether a path leads to anything. A path that is too long cannot be asked about. -/
def contains (files : Files) (path : Path) : Except FileError Bool :=
  match files.find path with
  | .ok _ => .ok true
  | .error .tooLong => .error .tooLong
  | .error _ => .ok false

/-- The tree with something at a location. -/
def place (files : Files) (l : Location) (n : Node) : Files :=
  ⟨(l, n) :: files.nodes.filter fun (other, _) => other != l⟩

/-- Follows a name from a location, making a directory if there is nothing. -/
def makeWay (opened : Files × Location) (name : String) : Files × Location :=
  let (files, l) := opened
  if name = ".." then (files, l.up)
  else
    let inner := name :: l
    (if (files.node? inner).isNone then files.place inner .directory else files, inner)

/-- The tree with a file written, with all directories on the way to it. -/
def write (files : Files) (path : Path) (contents : List UInt8) : Files :=
  match path.parts.reverse with
  | [] | ".." :: _ => files
  | name :: above =>
    let (files, l) := above.reverse.foldl makeWay (files, .start path)
    files.place (name :: l) (.file contents)

/-- The tree without a file. -/
def remove (files : Files) (path : Path) : Files :=
  match files.locate path with
  | .error _ => files
  | .ok l => ⟨files.nodes.filter fun (other, n) => other != l || n == .directory⟩

/-- The tree with a file written, or removed if there are no contents. -/
def put (files : Files) (path : Path) : Option (List UInt8) → Files
  | some contents => files.write path contents
  | none => files.remove path

end Files

end SuperChip
