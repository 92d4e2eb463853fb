import SuperChip.Listing
import SuperChip.Memory

/-!
# Program files

A program file holds the bytes of a program and nothing else.

- `ByteStream`: a file that is open for reading.
- `Rom`: a program with the name of its file.
- `Rom.ofStream?`, `Rom.ofBytes?`: the program in a file, which has to fit into memory.
- `Rom.listing`: the program as assembly text.

Models `load_rom` and `load_rom_from_path`.
-/

namespace SuperChip

/-- A file that is open for reading, by the bytes that are still to come. -/
structure ByteStream where
  rest : List UInt8

namespace ByteStream

/-- The next bytes, as many as asked for until the file ends, and the stream after them. -/
def read (s : ByteStream) (count : Nat) : List UInt8 × ByteStream :=
  (s.rest.take count, ⟨s.rest.drop count⟩)

/-- All bytes until the file ends, and the stream after them. -/
def readAll (s : ByteStream) : List UInt8 × ByteStream := (s.rest, ⟨[]⟩)

end ByteStream

/-- A program and the name that it was loaded under. -/
structure Rom where
  data : List UInt8
  name : String
deriving DecidableEq, Repr

namespace Rom

/-- The program that a stream holds. One byte more than fits into memory is asked for: if it comes,
the program is refused and not cut off, and the rest is read to tell its size. -/
def ofStream? (stream : ByteStream) (name : String) : Except Fault Rom :=
  let (data, later) := stream.read (programCapacity + 1)
  if programCapacity < data.length then
    let (unread, _) := later.readAll
    .error (.programTooLarge (data.length + unread.length))
  else .ok ⟨data, name⟩

/-- The program that a file holds. -/
def ofBytes? (bytes : List UInt8) (name : String) : Except Fault Rom := ofStream? ⟨bytes⟩ name

/-- The number of bytes of the program. -/
def size (r : Rom) : Nat := r.data.length

/-- The program as lines of assembly text, with its first byte at `origin`. -/
def listing (r : Rom) (origin : Int) : List String :=
  (Listing.ofBytes origin r.data).map Listing.Line.render

end Rom

end SuperChip
