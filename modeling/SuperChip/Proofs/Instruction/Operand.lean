import SuperChip.Instruction
import SuperChip.Proofs.Text.Hex

/-!
# Operands

The operands of an instruction are written one after the other, with commas between them, behind
the mnemonic. Each of them is a token: it holds no blank and no comma. So the text of an instruction
falls into its tokens again, and each token is read back on its own.

- `Text.IsToken`, `Text.tokens`: tokens and how a text is cut into them.
- `Text.tokens_eq`: a text that is put together from tokens falls into them.
- `Operand`, `Operand.text`: what an instruction names and how it is written.
- `Operand.read?`, `Operand.read?_text`: **an operand that is written is read back**.
-/

namespace SuperChip

/-! ## Tokens -/

namespace Text

/-- A text without blanks and without commas. -/
def IsToken (text : String) : Prop := ' ' ∉ text.toList ∧ ',' ∉ text.toList

instance (text : String) : Decidable (IsToken text) := inferInstanceAs (Decidable (_ ∧ _))

/-- The tokens of a text: what stands between its blanks, without commas. -/
def tokens (text : String) : List String :=
  ((text.toList.filter (· ≠ ',')).splitOn ' ').map String.ofList

/-- Where there is no comma none is left out. -/
theorem filter_of_not_mem {cs : List Char} (h : ',' ∉ cs) : cs.filter (· ≠ ',') = cs := by
  refine List.filter_eq_self.2 fun c hc => ?_
  simpa using ne_of_mem_of_not_mem hc h

/-- Without their commas, tokens in a row have a blank between them. -/
theorem filter_intercalate {ts : List String} (h : ∀ t ∈ ts, IsToken t) :
    (", ".intercalate ts).toList.filter (· ≠ ',') = [' '].intercalate (ts.map String.toList) := by
  induction ts with
  | nil => rfl
  | cons t ts ih =>
    have ht := filter_of_not_mem (h t (.head _)).2
    cases ts with
    | nil => simpa using ht
    | cons u ts =>
      have hrest := ih fun v hv => h v (.tail _ hv)
      rw [String.intercalate_cons_cons, List.map_cons, List.map_cons, List.intercalate_cons_cons,
        ← List.map_cons, ← hrest]
      simp only [String.toList_append, List.filter_append, ht]
      rfl

/-- What is put together from tokens falls into them again. -/
theorem tokens_eq {t : String} {ts : List String} (ht : IsToken t) (hts : ∀ u ∈ ts, IsToken u)
    (hne : ts ≠ []) : tokens (t ++ " " ++ ", ".intercalate ts) = t :: ts := by
  have hblank : ∀ cs ∈ (t :: ts).map String.toList, ' ' ∉ cs := by
    intro cs hcs
    obtain ⟨u, hu, rfl⟩ := List.mem_map.1 hcs
    rcases List.mem_cons.1 hu with rfl | hu
    · exact ht.1
    · exact (hts u hu).1
  have hmap : ts.map String.toList ≠ [] := by simpa using hne
  have hrow : (t ++ " " ++ ", ".intercalate ts).toList.filter (· ≠ ',') =
      [' '].intercalate ((t :: ts).map String.toList) := by
    rw [List.map_cons, List.intercalate_cons_of_ne_nil hmap, ← filter_intercalate hts]
    simp only [String.toList_append, List.filter_append, filter_of_not_mem ht.2]
    rfl
  rw [tokens, hrow, List.splitOn_intercalate ' ' hblank (by simp), List.map_map]
  simp

theorem tokens_singleton {t : String} (ht : IsToken t) : tokens t = [t] := by
  have hblank : ∀ cs ∈ [t.toList], ' ' ∉ cs := by simpa using ht.1
  have hsplit := List.splitOn_intercalate ' ' hblank (by simp)
  rw [List.intercalate_singleton] at hsplit
  rw [tokens, filter_of_not_mem ht.2, hsplit]
  simp

end Text

open Text

/-! ## Operands -/

/-- What an instruction names: a register, a number or a part of the machine. -/
inductive Operand where
  | register (x : Register)
  | address (target : Address)
  | byte (byte : UInt8)
  | rows (count : Fin 16)
  /-- The index register, as `I`. -/
  | index
  /-- The cells from the index register on, as `[I]`. -/
  | indexed
  /-- The delay timer, as `DT`. -/
  | delay
  /-- The sound timer, as `ST`. -/
  | sound
  /-- A key, as `K`. -/
  | key
  /-- A small glyph, as `F`. -/
  | glyph
  /-- A large glyph, as `HF`. -/
  | largeGlyph
  /-- Decimal digits, as `B`. -/
  | decimal
  /-- The flag registers, as `R`. -/
  | flags
deriving DecidableEq, Repr

namespace Operand

/-- How an operand is written. -/
def text : Operand → String
  | register x => Instruction.registerText x
  | address target => Instruction.addressText target
  | byte b => Instruction.byteText b
  | rows count => toString count.val
  | index => "I"
  | indexed => "[I]"
  | delay => "DT"
  | sound => "ST"
  | key => "K"
  | glyph => "F"
  | largeGlyph => "HF"
  | decimal => "B"
  | flags => "R"

/-- The operands that have no number of base sixteen in them. -/
def short : List Operand :=
  (List.finRange 16).map register ++ (List.finRange 16).map rows ++
    [index, indexed, delay, sound, key, glyph, largeGlyph, decimal, flags]

/-- The operand that is written like this. An address is the only operand of five characters, and
a byte the only one of four. -/
def read? (text : String) : Option Operand :=
  match text.length with
  | 5 => (readHex? text).map fun n => address (BitVec.ofInt 12 n)
  | 4 => (readHex? text).map fun n => byte (UInt8.ofNat n.toNat)
  | _ => short.find? fun o => o.text = text

/-- An address is printed in five characters. -/
theorem length_addressText (target : Address) : (Instruction.addressText target).length = 5 :=
  length_hexMarked ((Nat.length_toDigits_le_iff (by decide) (by decide)).2 target.isLt)

/-- A byte is printed in four. -/
theorem length_byteText (b : UInt8) : (Instruction.byteText b).length = 4 :=
  length_hexMarked ((Nat.length_toDigits_le_iff (by decide) (by decide)).2 b.toNat_lt)

/-- Every operand that is no number is read back. -/
theorem read?_short : ∀ o ∈ short, read? o.text = some o := by decide +kernel

/-- **An operand that is written is read back.** -/
theorem read?_text (o : Operand) : read? o.text = some o := by
  cases o with
  | address target =>
    rw [text, read?, length_addressText]
    simp [Instruction.addressText, readHex?_hexMarked]
  | byte b =>
    rw [text, read?, length_byteText]
    simp [Instruction.byteText, readHex?_hexMarked]
  | register x => exact read?_short _ (by simp [short])
  | rows count => exact read?_short _ (by simp [short])
  | _ => exact read?_short _ (by simp [short])

theorem isToken_hexMarked (width : Nat) (n : Int) : IsToken (hexMarked width n) :=
  ⟨not_mem_hexMarked (by decide) (by decide) (by decide) _ _,
    not_mem_hexMarked (by decide) (by decide) (by decide) _ _⟩

/-- An operand holds neither blanks nor commas. -/
theorem isToken_text (o : Operand) : IsToken o.text := by
  have hshort : ∀ o ∈ short, IsToken o.text := by decide +kernel
  cases o with
  | address target => exact isToken_hexMarked _ _
  | byte b => exact isToken_hexMarked _ _
  | _ => exact hshort _ (by simp [short])

end Operand

end SuperChip
