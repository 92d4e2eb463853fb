import SuperChip.Listing
import Mathlib.Data.List.TakeWhile

/-!
# The first word of a text

An instruction is written as its mnemonic, alone or with a blank behind it. So the mnemonic can be
read off the text, and no instruction is written like data, which starts with a word of its own.

- `Text.firstWord`: what stands in front of the first blank.
- `Instruction.firstWord_text`: the first word of an instruction is its mnemonic.
- `Instruction.text_ne_data`: no instruction is written like data.
- `Listing.firstWord_byteText`, `Listing.firstWord_wordText`: a single byte is told by its first
  word, which no word is written with.
-/

namespace SuperChip

namespace Text

/-- What stands in front of the first blank of a text. -/
def firstWord (text : String) : String := String.ofList (text.toList.takeWhile (· ≠ ' '))

variable {w : String}

theorem ne_blank_of_not_mem (h : ' ' ∉ w.toList) : ∀ c ∈ w.toList, decide (c ≠ ' ') = true := by
  intro c hc
  simpa using ne_of_mem_of_not_mem hc h

/-- Without a blank the first word is everything. -/
theorem firstWord_eq_self (h : ' ' ∉ w.toList) : firstWord w = w := by
  rw [firstWord, List.takeWhile_eq_self_iff.2 (ne_blank_of_not_mem h), String.ofList_toList]

/-- A text that starts with `start`, which is a word and a blank. -/
theorem firstWord_append {start : String} (hstart : start = w ++ " ") (h : ' ' ∉ w.toList)
    (rest : String) : firstWord (start ++ rest) = w := by
  have hblank : (start ++ rest).toList = w.toList ++ ' ' :: rest.toList := by simp [hstart]
  rw [firstWord, hblank, List.takeWhile_append_of_pos (ne_blank_of_not_mem h)]
  simp

theorem firstWord_data (digits : String) : firstWord ("DW " ++ digits) = "DW" :=
  firstWord_append (w := "DW") (by decide) (by decide) digits

end Text

open Text

namespace Instruction

/-- A mnemonic is one word. -/
theorem blank_not_mem_mnemonic (i : Instruction) : ' ' ∉ i.mnemonic.toList := by
  cases i <;> simp only [mnemonic] <;> decide

/-- The first word of an instruction is its mnemonic. -/
theorem firstWord_text (i : Instruction) : firstWord i.text = i.mnemonic := by
  unfold text
  split
  · exact firstWord_eq_self i.blank_not_mem_mnemonic
  · exact firstWord_append rfl i.blank_not_mem_mnemonic _

/-- No instruction is printed like data. -/
theorem mnemonic_ne_data (i : Instruction) : i.mnemonic ≠ "DW" ∧ i.mnemonic ≠ "DB" := by
  cases i <;> simp only [mnemonic] <;> decide

/-- No instruction is written like data. -/
theorem text_ne_data (i : Instruction) (digits : String) : i.text ≠ "DW " ++ digits := by
  intro h
  have hword := firstWord_data digits
  rw [← h, firstWord_text] at hword
  exact i.mnemonic_ne_data.1 hword

end Instruction

namespace Listing

theorem firstWord_byteText (b : UInt8) : firstWord (byteText b) = "DB" :=
  firstWord_append (w := "DB") (by decide) (by decide) _

/-- No word is written like a single byte. -/
theorem firstWord_wordText (w : Word) : firstWord (wordText w) ≠ "DB" := by
  unfold wordText
  split
  next i _ =>
    rw [i.firstWord_text]
    exact i.mnemonic_ne_data.2
  next =>
    rw [firstWord_data]
    decide

end Listing

end SuperChip
