import SuperChip.Instruction.Decode
import SuperChip.Memory

/-!
# Listings

A listing shows a string of bytes as lines of assembly text, two bytes to a line. A word that
no instruction is written with is listed as data, and so is a last byte without a partner.

- `Listing.Line`: an address, the number found there and its text.
- `Listing.ofBytes`: the lines of a string of bytes.
- `Listing.Line.render`: a line as it is printed.

Models `disassemble` and `RomImage.disassembly`.
-/

namespace SuperChip.Listing

open Text

/-- A line of a listing. -/
structure Line where
  address : Int
  /-- The word at the address, or the byte if it is the last one. -/
  word : Word
  text : String
deriving DecidableEq, Repr

/-- The text of a word: its instruction, or the word itself as data. -/
def wordText (w : Word) : String :=
  match Instruction.ofWord w with
  | .ok i => i.text
  | .error _ => "DW " ++ hexMarked 6 w.toNat

/-- The text of a byte without a partner. -/
def byteText (b : UInt8) : String := "DB " ++ hexMarked 4 b.toNat

/-- The lines for a string of bytes of which the first stands at `origin`. -/
def ofBytes (origin : Int) : List UInt8 → List Line
  | high :: low :: rest =>
    let w := Memory.wordOf high low
    ⟨origin, w, wordText w⟩ :: ofBytes (origin + 2) rest
  | [last] => [⟨origin, last.toUInt16, byteText last⟩]
  | [] => []

/-- A line as it is printed: the address, the number and the text. -/
def Line.render (l : Line) : String :=
  hexUpper 3 l.address ++ ": " ++ hexUpper 4 l.word.toNat ++ "  " ++ l.text

/-- A listing has one line for every two bytes, and one for a last byte without a partner. -/
theorem length_ofBytes (origin : Int) (bytes : List UInt8) :
    (ofBytes origin bytes).length = (bytes.length + 1) / 2 := by
  fun_induction ofBytes origin bytes with
  | case1 origin high low rest w ih => simp [ih]; omega
  | case2 => simp
  | case3 => simp

end SuperChip.Listing
