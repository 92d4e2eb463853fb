import SuperChip.Proofs.Instruction.Text
import SuperChip.Proofs.Text.Hex
import SuperChip.Rom

/-!
# Listings are read back

A listing keeps every byte that it was made of. A printed line is told apart into its columns, and
the text column says whether the number is a word or a byte without a partner, which is printed with
as many digits.

- `Listing.Line.read?`: the line that was printed; `read?_render` is that it does its work.
- `Listing.Line.bytes`: the bytes that a line stands for; `flatMap_bytes` is that those of all lines
  are the bytes of the listing.
- `Listing.ofBytes_append`: a listing can be cut between two words.
- `Listing.ofBytes_lossless`: **a listing loses nothing**.

About `disassemble`.
-/

namespace SuperChip.Listing

open Text

/-! ## Words and bytes -/

/-- The two bytes of a word, the higher half first. -/
def wordBytes (w : Word) : List UInt8 := [UInt8.ofNat (w.toNat / 256), UInt8.ofNat (w.toNat % 256)]

theorem wordBytes_wordOf (high low : UInt8) : wordBytes (Memory.wordOf high low) = [high, low] := by
  have hhigh := high.toNat_lt
  have hlow := low.toNat_lt
  have hword : (Memory.wordOf high low).toNat = high.toNat * 256 + low.toNat := by
    rw [Memory.wordOf, UInt16.toNat_ofNat']
    omega
  have hdiv : (high.toNat * 256 + low.toNat) / 256 = high.toNat := by omega
  have hmod : (high.toNat * 256 + low.toNat) % 256 = low.toNat := by omega
  rw [wordBytes, hword, hdiv, hmod, UInt8.ofNat_toNat, UInt8.ofNat_toNat]

namespace Line

/-- The bytes that a line stands for, by its text: a single byte or a word. -/
def bytes (l : Line) : List UInt8 :=
  if firstWord l.text = "DB" then [UInt8.ofNat l.word.toNat] else wordBytes l.word

/-- The line that was printed: the address ends at the colon, and the number has four digits. -/
def read? (printed : String) : Option Line := do
  let address ← readHex? (String.ofList (printed.toList.takeWhile (· ≠ ':')))
  let columns := (printed.toList.dropWhile (· ≠ ':')).drop 2
  let number ← readHex? (String.ofList (columns.take 4))
  some ⟨address, UInt16.ofNat number.toNat, String.ofList (columns.drop 6)⟩

/-- A printed line is read back. -/
theorem read?_render (l : Line) : read? l.render = some l := by
  have hnumber : (hexUpper 4 l.word.toNat).toList.length = 4 := by
    rw [String.length_toList]
    exact length_hexUpper ((Nat.length_toDigits_le_iff (by decide) (by decide)).2 l.word.toNat_lt)
  have hprinted : l.render.toList = (hexUpper 3 l.address).toList ++
      ':' :: ' ' :: ((hexUpper 4 l.word.toNat).toList ++ ' ' :: ' ' :: l.text.toList) := by
    simp [render]
  obtain ⟨haddress, hrest⟩ := takeWhile_hexUpper (c := ':') (by decide) (by decide) 3 l.address
    (' ' :: ((hexUpper 4 l.word.toNat).toList ++ ' ' :: ' ' :: l.text.toList))
  rw [← hprinted] at haddress hrest
  have hcolumns : (l.render.toList.dropWhile (· ≠ ':')).drop 2 =
      (hexUpper 4 l.word.toNat).toList ++ ' ' :: ' ' :: l.text.toList := by
    rw [hrest]
    rfl
  have htext : ((hexUpper 4 l.word.toNat).toList ++ ' ' :: ' ' :: l.text.toList).drop 6 =
      l.text.toList := by
    rw [List.drop_append, hnumber, List.drop_eq_nil_of_le (by omega)]
    rfl
  simp only [read?, haddress, hcolumns, List.take_left' hnumber, htext, String.ofList_toList,
    readHex?_hexUpper, Option.bind_eq_bind, Option.bind_some, Int.toNat_natCast,
    UInt16.ofNat_toNat]

theorem render_injective : Function.Injective render := by
  have hread : read? ∘ render = some := funext read?_render
  refine Function.Injective.of_comp (f := read?) ?_
  rw [hread]
  exact Option.some_injective Line

end Line

/-! ## The bytes of a listing -/

/-- A line of a word gives back its two bytes. -/
theorem bytes_of_word (origin : Int) (high low : UInt8) :
    Line.bytes ⟨origin, Memory.wordOf high low, wordText (Memory.wordOf high low)⟩ =
      [high, low] := by
  rw [Line.bytes, if_neg (firstWord_wordText _), wordBytes_wordOf]

/-- A line of a byte gives back the byte. -/
theorem bytes_of_byte (origin : Int) (b : UInt8) :
    Line.bytes ⟨origin, b.toUInt16, byteText b⟩ = [b] := by
  rw [Line.bytes, if_pos (firstWord_byteText b)]
  simp

/-- The lines of a listing stand for its bytes. -/
theorem flatMap_bytes (origin : Int) (bytes : List UInt8) :
    (ofBytes origin bytes).flatMap Line.bytes = bytes := by
  fun_induction ofBytes origin bytes with
  | case1 origin high low rest w ih => rw [List.flatMap_cons, bytes_of_word, ih]; rfl
  | case2 origin last => rw [List.flatMap_singleton, bytes_of_byte]
  | case3 => rfl

theorem ofBytes_injective (origin : Int) : Function.Injective (ofBytes origin) := by
  intro a b h
  rw [← flatMap_bytes origin a, h, flatMap_bytes]

/-- The numbers of a listing are words, and a single byte at the end if there is one left. -/
theorem exists_words (origin : Int) (bytes : List UInt8) :
    ∃ words last, (ofBytes origin bytes).map Line.word = words ++ last.map UInt8.toUInt16 ∧
      last.length = bytes.length % 2 ∧ words.flatMap wordBytes ++ last = bytes := by
  fun_induction ofBytes origin bytes with
  | case1 origin high low rest w ih =>
    obtain ⟨words, last, hnumbers, hlast, hbytes⟩ := ih
    refine ⟨w :: words, last, ?_, ?_, ?_⟩
    · rw [List.map_cons, hnumbers, List.cons_append]
    · rw [hlast, List.length_cons, List.length_cons]
      omega
    · rw [List.flatMap_cons, List.append_assoc, hbytes, wordBytes_wordOf]
      rfl
  | case2 origin last => exact ⟨[], [last], rfl, rfl, rfl⟩
  | case3 => exact ⟨[], [], rfl, rfl, rfl⟩

/-- There is one line for every two bytes and one for a byte that is left, at every second
address. -/
theorem map_address (origin : Int) (bytes : List UInt8) :
    (ofBytes origin bytes).map Line.address =
      (List.range ((bytes.length + 1) / 2)).map fun k : Nat => origin + 2 * (k : Int) := by
  fun_induction ofBytes origin bytes with
  | case1 origin high low rest w ih =>
    have hcount : ((high :: low :: rest).length + 1) / 2 = (rest.length + 1) / 2 + 1 := by
      rw [List.length_cons, List.length_cons]
      omega
    rw [List.map_cons, ih, hcount, List.range_succ_eq_map, List.map_cons, List.map_map]
    congr 1
    · simp
    · refine List.map_congr_left fun k _ => ?_
      simp only [Function.comp_apply]
      omega
  | case2 => simp
  | case3 => rfl

/-- A listing can be cut between two words. -/
theorem ofBytes_append (origin : Int) {first : List UInt8} (h : first.length % 2 = 0)
    (rest : List UInt8) :
    ofBytes origin (first ++ rest) =
      ofBytes origin first ++ ofBytes (origin + first.length) rest := by
  fun_induction ofBytes origin first with
  | case1 origin high low first w ih =>
    have hlength : origin + 2 + (first.length : Int) =
        origin + ((high :: low :: first).length : Nat) := by
      simp only [List.length_cons]
      omega
    rw [List.length_cons, List.length_cons] at h
    rw [List.cons_append, List.cons_append, ofBytes, ih (by omega), hlength]
    rfl
  | case2 => simp at h
  | case3 => simp

/-- **A listing loses nothing.** It has a line for every two bytes and one for a byte that is left,
at every second address from its origin on. Its numbers are the words of the program, higher half
first, and that byte. It can be cut between two words, and two programs of which the same is printed
are equal. -/
theorem ofBytes_lossless (origin : Int) (bytes : List UInt8) :
    (ofBytes origin bytes).map Line.address =
        (List.range ((bytes.length + 1) / 2)).map (fun k : Nat => origin + 2 * (k : Int)) ∧
      (∃ words last, (ofBytes origin bytes).map Line.word = words ++ last.map UInt8.toUInt16 ∧
        last.length = bytes.length % 2 ∧ words.flatMap wordBytes ++ last = bytes) ∧
      (bytes.length % 2 = 0 → ∀ rest, ofBytes origin (bytes ++ rest) =
        ofBytes origin bytes ++ ofBytes (origin + bytes.length) rest) ∧
      ∀ rom rom' : Rom, rom.listing origin = rom'.listing origin → rom.data = rom'.data := by
  refine ⟨map_address origin bytes, exists_words origin bytes, ofBytes_append origin, ?_⟩
  intro rom rom' hprinted
  have hlines : ofBytes origin rom.data = ofBytes origin rom'.data :=
    (List.map_inj_right fun _ _ h => Line.render_injective h).1 hprinted
  exact ofBytes_injective origin hlines

/-- A program of three bytes: its last byte is listed apart from the words, and what is printed of
it tells its bytes, whatever the name it was loaded under. -/
theorem ofBytes_lossless_of_sample :
    let words : List UInt8 := [0x51, 0x21]
    let rom : Rom := ⟨words ++ [0x12], "sample"⟩
    let copy : Rom := ⟨words ++ [0x12], "copy"⟩
    ofBytes 0x200 rom.data = ofBytes 0x200 words ++ ofBytes 0x202 [0x12] ∧
      rom.data = copy.data := by
  intro words rom copy
  obtain ⟨-, -, hcut, hequal⟩ := ofBytes_lossless 0x200 words
  exact ⟨hcut (by decide) [0x12], hequal rom copy rfl⟩

end SuperChip.Listing
