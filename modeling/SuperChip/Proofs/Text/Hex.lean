import SuperChip.Text.Hex
import SuperChip.Text.Numeral
import Mathlib.Data.List.TakeWhile
import Mathlib.Data.Option.Basic

/-!
# Printed numbers are read back

What is printed in base sixteen is what the reader of numerals takes for the same number, whatever
the width and the sign. So two numbers that are printed alike are equal.

- `Text.Spells`: a run of digits that stands for a number.
- `Text.spells_toDigits`: the digits of a number stand for it.
- `Text.readHex?_hexUpper`, `Text.readHex?_hexLower`, `Text.readHex?_hexMarked`: **a printed number
  is read back**; `Text.strip_hexLower`: also behind a blank that is taken off.
- `Text.Foreign`, `Text.readHex?_eq_none`: **a text with a foreign character in it is no numeral**.
- `Text.not_mem_hexUpper`, `Text.not_mem_hexMarked`: what a printed number is made of;
  `Text.head?_hexUpper_append_ne`: what it starts with; `Text.takeWhile_hexUpper`: where it ends.
- `Text.length_hexUpper`, `Text.length_hexMarked`: how long it is.
-/

namespace SuperChip.Text

/-! ## Runs of digits -/

/-- A digit behind others counts once. -/
@[simp] theorem ofDigits_append_singleton (base : Nat) (ds : List Nat) (d : Nat) :
    ofDigits base (ds ++ [d]) = ofDigits base ds * base + d := by
  simp [ofDigits]

@[simp] theorem ofDigits_zero_cons (base : Nat) (ds : List Nat) :
    ofDigits base (0 :: ds) = ofDigits base ds := by
  simp [ofDigits]

/-- A run of digits stands for a number. No blank is among them. -/
structure Spells (cs : List Char) (n : Nat) : Prop where
  solid : ∀ c ∈ cs, isNumeralBlank c = false
  value : ∃ ds, cs.map hexDigit? = ds.map some ∧ ofDigits 16 ds = n

namespace Spells

variable {cs : List Char} {c : Char} {d n : Nat}

theorem singleton (hsolid : isNumeralBlank c = false) (hc : hexDigit? c = some d) :
    Spells [c] d where
  solid := by simpa using hsolid
  value := ⟨[d], by simp [hc], by simp [ofDigits]⟩

/-- One more digit behind a run. -/
theorem snoc (h : Spells cs n) (hsolid : isNumeralBlank c = false) (hc : hexDigit? c = some d) :
    Spells (cs ++ [c]) (n * 16 + d) where
  solid := by simpa [or_imp, forall_and] using ⟨h.solid, hsolid⟩
  value := by
    obtain ⟨ds, hds, hn⟩ := h.value
    exact ⟨ds ++ [d], by simp [hds, hc], by simp [hn]⟩

/-- A zero in front does not count. -/
theorem zero_cons (h : Spells cs n) : Spells ('0' :: cs) n where
  solid := by simpa using ⟨by decide, h.solid⟩
  value := by
    obtain ⟨ds, hds, hn⟩ := h.value
    refine ⟨0 :: ds, ?_, by rw [ofDigits_zero_cons, hn]⟩
    rw [List.map_cons, hds]
    rfl

/-- Leading zeros do not count. -/
theorem leftpad (h : Spells cs n) (width : Nat) : Spells (cs.leftpad width '0') n := by
  rw [List.leftpad]
  induction width - cs.length with
  | zero => exact h
  | succ k ih => exact ih.zero_cons

/-- A character that is no digit is not in a run. -/
theorem not_mem (h : Spells cs n) (hc : hexDigit? c = none) : c ∉ cs := by
  intro hmem
  obtain ⟨ds, hds, -⟩ := h.value
  have hdigit : none ∈ ds.map some := hds ▸ hc ▸ List.mem_map_of_mem hmem
  simp at hdigit

end Spells

/-- The digits of a number stand for it, in either case of the letters. -/
theorem spells_toDigits {letter : Char → Char}
    (hletter : ∀ d < 16, isNumeralBlank (letter d.digitChar) = false ∧
      hexDigit? (letter d.digitChar) = some d) (n : Nat) :
    Spells ((Nat.toDigits 16 n).map letter) n := by
  -- the last digit is taken off each time
  induction n using Nat.strongRecOn with
  | ind n ih =>
    rw [Nat.toDigits_eq_if (by decide)]
    split
    next hn => exact .singleton (hletter n hn).1 (hletter n hn).2
    next hn =>
      have hlast := hletter (n % 16) (Nat.mod_lt _ (by decide))
      have hall := (ih (n / 16) (by omega)).snoc hlast.1 hlast.2
      rw [Nat.div_add_mod' n 16] at hall
      simpa using hall

theorem spells_hexDigits (n : Nat) : Spells (hexDigits n) n := by
  simpa [hexDigits] using @spells_toDigits id (by decide) n

theorem spells_hexDigitsUpper (n : Nat) : Spells (hexDigitsUpper n) n :=
  spells_toDigits (by decide) n

/-! ## The reader -/

/-- A text without blanks is not trimmed. -/
theorem trim_eq_self {p : Char → Bool} {cs : List Char} (h : ∀ c ∈ cs, p c = false) :
    trim p cs = cs := by
  have hdrop : ∀ l : List Char, (∀ c ∈ l, p c = false) → l.dropWhile p = l := by
    intro l hl
    exact List.dropWhile_eq_self_iff.2 fun h0 => by simp [hl l[0] (List.getElem_mem h0)]
  rw [trim, hdrop cs h, hdrop cs.reverse (by simpa using h), List.reverse_reverse]

/-- A run without underscores is read digit by digit. -/
theorem digitValues?_eq {digit? : Char → Option Nat} {cs : List Char} {ds : List Nat}
    (hds : cs.map digit? = ds.map some) (hunderscore : '_' ∉ cs) (hne : cs ≠ []) :
    digitValues? digit? cs = some ds := by
  fun_induction digitValues? digit? cs generalizing ds with
  | case1 => exact absurd rfl hne
  | case2 c =>
    obtain ⟨d, rfl⟩ := List.length_eq_one_iff.1 (by simpa using (congrArg List.length hds).symm)
    simpa using hds
  | case3 c rest ih => simp at hunderscore
  | case4 c rest hrest hnounderscore ih =>
    obtain _ | ⟨d, ds⟩ := ds
    · simp at hds
    · simp only [List.map_cons, List.cons.injEq] at hds
      rw [hds.1, ih hds.2 (fun hmem => hunderscore (.tail _ hmem)) hrest]
      rfl

/-- A run of digits, alone or behind the marker of base sixteen. -/
def Behind (body cs : List Char) : Prop := body = cs ∨ body = '0' :: 'x' :: cs

namespace Spells

variable {body cs : List Char} {n : Int}

/-- The marker is dropped. -/
theorem dropHexMarker_eq {m : Nat} (h : Spells cs m) (hbody : Behind body cs) :
    dropHexMarker body = cs := by
  obtain rfl | rfl := hbody
  · unfold dropHexMarker
    split
    next zero letter rest =>
      have hx : 'x' ∉ zero :: letter :: rest := h.not_mem (by decide)
      have hX : 'X' ∉ zero :: letter :: rest := h.not_mem (by decide)
      refine if_neg ?_
      rintro ⟨-, rfl | rfl⟩
      · exact hx (.tail _ (.head _))
      · exact hX (.tail _ (.head _))
    next => rfl
  · have hunderscore : '_' ∉ cs := h.not_mem (by decide)
    rw [dropHexMarker, if_pos (by decide)]
    rintro digits rfl
    simp at hunderscore

theorem not_mem_body {m : Nat} {c : Char} (h : Spells cs m) (hbody : Behind body cs)
    (hc : hexDigit? c = none) (hx : c ≠ 'x') : c ∉ body := by
  obtain rfl | rfl := hbody
  · exact h.not_mem hc
  · have hzero : c ≠ '0' := by
      rintro rfl
      exact absurd hc (by decide)
    simpa [hzero, hx] using h.not_mem hc

/-- The sign is taken off. -/
theorem takeSign_eq {m : Nat} (h : Spells cs m) (hbody : Behind body cs) :
    takeSign (sign n ++ body) = (decide (n < 0), body) := by
  by_cases hn : n < 0
  · simp [sign, hn, takeSign]
  · have hminus : '-' ∉ body := h.not_mem_body hbody (by decide) (by decide)
    have hplus : '+' ∉ body := h.not_mem_body hbody (by decide) (by decide)
    rw [sign, if_neg hn, List.nil_append, decide_eq_false hn]
    unfold takeSign
    split
    · simp at hminus
    · simp at hplus
    · rfl

theorem solid_body {m : Nat} (h : Spells cs m) (hbody : Behind body cs) :
    ∀ c ∈ sign n ++ body, isNumeralBlank c = false := by
  have hsign : ∀ c ∈ sign n, isNumeralBlank c = false := by
    intro c hc
    unfold sign at hc
    split at hc
    · obtain rfl := List.mem_singleton.1 hc
      decide
    · cases hc
  intro c hc
  obtain hc | hc := List.mem_append.1 hc
  · exact hsign c hc
  · obtain rfl | rfl := hbody
    · exact h.solid c hc
    · obtain rfl | rfl | hc := by simpa using hc
      · decide
      · decide
      · exact h.solid c hc

/-- A run of digits behind the sign of a number is read as the number. -/
theorem readHex?_eq (h : Spells cs n.natAbs) (hne : cs ≠ []) (hbody : Behind body cs) :
    readHex? (String.ofList (sign n ++ body)) = some n := by
  obtain ⟨ds, hds, hvalue⟩ := h.value
  rw [readHex?, String.toList_ofList, trim_eq_self (h.solid_body hbody), h.takeSign_eq hbody]
  simp only [h.dropHexMarker_eq hbody, digitValues?_eq hds (h.not_mem (by decide)) hne, hvalue,
    Option.map_some, signed]
  congr 1
  by_cases hn : n < 0
  · simp only [hn, decide_true, if_true]
    omega
  · simp only [hn, decide_false, Bool.false_eq_true, if_false]
    omega

end Spells

theorem leftpad_ne_nil {cs : List Char} (h : cs ≠ []) (width : Nat) :
    cs.leftpad width '0' ≠ [] := by
  simp [List.leftpad, h]

/-- **A printed number is read back.** -/
theorem readHex?_hexUpper (width : Nat) (n : Int) : readHex? (hexUpper width n) = some n := by
  have hdigits : hexDigitsUpper n.natAbs ≠ [] := by
    simpa [hexDigitsUpper] using hexDigits_ne_nil n.natAbs
  exact ((spells_hexDigitsUpper n.natAbs).leftpad _).readHex?_eq (leftpad_ne_nil hdigits _)
    (.inl rfl)

/-- A number that is printed in lower case is read back. -/
theorem readHex?_hexLower (width : Nat) (n : Int) : readHex? (hexLower width n) = some n :=
  ((spells_hexDigits n.natAbs).leftpad _).readHex?_eq (leftpad_ne_nil (hexDigits_ne_nil _) _)
    (.inl rfl)

/-- **A number that is printed behind the marker is read back.** -/
theorem readHex?_hexMarked (width : Nat) (n : Int) : readHex? (hexMarked width n) = some n := by
  rw [hexMarked, zeroFilled, List.append_assoc]
  exact ((spells_hexDigits n.natAbs).leftpad _).readHex?_eq
    (leftpad_ne_nil (hexDigits_ne_nil _) _) (.inr rfl)

/-! ## Blanks -/

variable {c : Char}

/-- There is no blank in a run of digits, not even one that does not count around numerals. -/
theorem Spells.isBlank_eq_false {cs : List Char} {n : Nat} (h : Spells cs n) (hc : c ∈ cs) :
    isBlank c = false := by
  rw [Bool.eq_false_iff]
  intro hblank
  have hsolid := h.solid c hc
  rw [isNumeralBlank, hblank, Bool.true_and, Bool.not_eq_false'] at hsolid
  have hcode : c.toNat = 0x1C ∨ c.toNat = 0x1D ∨ c.toNat = 0x1E ∨ c.toNat = 0x1F := by
    simp only [Bool.and_eq_true, decide_eq_true_eq] at hsolid
    omega
  -- the separators of files, groups, records and units are no digits
  rw [← Char.ofNat_toNat c] at hc
  obtain hc' | hc' | hc' | hc' := hcode <;> rw [hc'] at hc <;> exact h.not_mem (by decide) hc

theorem trim_cons_of_pos {p : Char → Bool} {cs : List Char} (hc : p c = true) :
    trim p (c :: cs) = trim p cs := by
  rw [trim, List.dropWhile_cons_of_pos hc, trim]

/-- A blank in front of a number is taken off, and nothing else. -/
theorem strip_hexLower (width n : Nat) : strip (" " ++ hexLower width n) = hexLower width n := by
  have hdigits := (spells_hexDigits n).leftpad width
  have htext : (hexLower width n).toList = (hexDigits n).leftpad width '0' := by
    simp [hexLower, zeroFilled]
  have hblank : trim isBlank (" " ++ hexLower width n).toList =
      trim isBlank (hexLower width n).toList := by
    rw [String.toList_append]
    exact trim_cons_of_pos (by decide)
  rw [strip, hblank, htext, trim_eq_self fun c hc => hdigits.isBlank_eq_false hc, ← htext,
    String.ofList_toList]

/-! ## What is no numeral -/

variable {cs : List Char}

theorem mem_dropWhile {p : Char → Bool} (hc : c ∈ cs) (hp : p c = false) : c ∈ cs.dropWhile p := by
  rw [← List.takeWhile_append_dropWhile (p := p) (l := cs)] at hc
  obtain hc | hc := List.mem_append.1 hc
  · rw [List.mem_takeWhile_imp hc] at hp
    cases hp
  · exact hc

/-- Trimming leaves every character that it is not to take away. -/
theorem mem_trim {p : Char → Bool} (hc : c ∈ cs) (hp : p c = false) : c ∈ trim p cs :=
  List.mem_reverse.2 (mem_dropWhile (List.mem_reverse.2 (mem_dropWhile hc hp)) hp)

/-- A character that stands in no numeral of base sixteen. -/
def Foreign (c : Char) : Prop :=
  isNumeralBlank c = false ∧ hexDigit? c = none ∧ c ∉ ['_', '+', '-', 'x', 'X']

instance (c : Char) : Decidable (Foreign c) := inferInstanceAs (Decidable (_ ∧ _))

theorem mem_takeSign (hc : c ∈ cs) (hplus : c ≠ '+') (hminus : c ≠ '-') : c ∈ (takeSign cs).2 := by
  unfold takeSign
  split
  · exact List.mem_of_ne_of_mem hminus hc
  · exact List.mem_of_ne_of_mem hplus hc
  · exact hc

theorem mem_dropHexMarker (hc : c ∈ cs) (h : Foreign c) : c ∈ dropHexMarker cs := by
  obtain ⟨-, hdigit, hother⟩ := h
  simp only [List.mem_cons, List.not_mem_nil, or_false, not_or] at hother
  obtain ⟨hunderscore, -, -, hx, hX⟩ := hother
  unfold dropHexMarker
  split
  next zero letter rest =>
    split
    next hmarker =>
      obtain ⟨hzero, hletter⟩ := hmarker
      have hne : c ≠ zero := by
        rintro rfl
        unfold hexDigit? at hdigit
        split at hdigit
        · cases hdigit
        split at hdigit
        · cases hdigit
        · cases hdigit.symm.trans hzero
      have hne' : c ≠ letter := by
        obtain rfl | rfl := hletter
        · exact hx
        · exact hX
      have hrest : c ∈ rest := List.mem_of_ne_of_mem hne' (List.mem_of_ne_of_mem hne hc)
      split
      · exact List.mem_of_ne_of_mem hunderscore hrest
      · exact hrest
    next => exact hc
  next => exact hc

/-- A run of digits has digits and underscores only. -/
theorem digitValues?_eq_none {digit? : Char → Option Nat} (hc : c ∈ cs) (hdigit : digit? c = none)
    (hunderscore : c ≠ '_') : digitValues? digit? cs = none := by
  fun_induction digitValues? digit? cs with
  | case1 => cases hc
  | case2 d =>
    obtain rfl := List.mem_singleton.1 hc
    rw [hdigit]
    rfl
  | case3 d rest ih =>
    obtain rfl | hc := List.mem_cons.1 hc
    · rw [hdigit]
      rfl
    · rw [ih (List.mem_of_ne_of_mem hunderscore hc)]
      cases digit? d <;> rfl
  | case4 d rest hrest hnounderscore ih =>
    obtain rfl | hc := List.mem_cons.1 hc
    · rw [hdigit]
      rfl
    · rw [ih hc]
      cases digit? d <;> rfl

/-- **A text with a foreign character in it is no numeral.** -/
theorem readHex?_eq_none {text : String} (h : Foreign c) (hc : c ∈ text.toList) :
    readHex? text = none := by
  obtain ⟨hblank, hdigit, hother⟩ := h
  have hplus : c ≠ '+' := fun he => hother (by simp [he])
  have hminus : c ≠ '-' := fun he => hother (by simp [he])
  have hunderscore : c ≠ '_' := fun he => hother (by simp [he])
  have hbody := mem_takeSign (mem_trim hc hblank) hplus hminus
  unfold readHex?
  simp only [digitValues?_eq_none (mem_dropHexMarker hbody ⟨hblank, hdigit, hother⟩) hdigit
    hunderscore, Option.map_none]

/-! ## The characters -/

theorem not_mem_sign (hsign : c ≠ '-') (n : Int) : c ∉ sign n := by
  unfold sign
  split <;> simp [hsign]

/-- Filling up puts nothing but zeros between what leads and the digits. -/
theorem not_mem_zeroFilled {lead digits : List Char} {n : Nat} (hc : hexDigit? c = none)
    (hlead : c ∉ lead) (h : Spells digits n) (width : Nat) :
    c ∉ (zeroFilled width lead digits).toList := by
  rw [zeroFilled, String.toList_ofList, List.mem_append]
  exact not_or.2 ⟨hlead, (h.leftpad _).not_mem hc⟩

/-- A printed number has digits and a sign only. -/
theorem not_mem_hexUpper (hc : hexDigit? c = none) (hsign : c ≠ '-') (width : Nat) (n : Int) :
    c ∉ (hexUpper width n).toList :=
  not_mem_zeroFilled hc (not_mem_sign hsign n) (spells_hexDigitsUpper _) width

/-- A printed number ends where a character follows that is none of its own. -/
theorem takeWhile_hexUpper (hc : hexDigit? c = none) (hsign : c ≠ '-') (width : Nat) (n : Int)
    (rest : List Char) :
    ((hexUpper width n).toList ++ c :: rest).takeWhile (· ≠ c) = (hexUpper width n).toList ∧
      ((hexUpper width n).toList ++ c :: rest).dropWhile (· ≠ c) = c :: rest := by
  have hnumber : ∀ d ∈ (hexUpper width n).toList, decide (d ≠ c) = true := by
    intro d hd
    simpa using ne_of_mem_of_not_mem hd (not_mem_hexUpper hc hsign width n)
  rw [List.takeWhile_append_of_pos hnumber, List.dropWhile_append_of_pos hnumber]
  simp

/-- What starts with a printed number starts with a digit or a sign. -/
theorem head?_hexUpper_append_ne (hc : hexDigit? c = none) (hsign : c ≠ '-') (width : Nat) (n : Int)
    (rest : String) : (hexUpper width n ++ rest).toList.head? ≠ some c := by
  have hnumber := not_mem_hexUpper hc hsign width n
  have hread := readHex?_hexUpper width n
  rw [String.toList_append]
  intro hhead
  generalize hexUpper width n = printed at hnumber hread hhead
  cases htext : printed.toList with
  | nil =>
    rw [String.toList_eq_nil_iff.1 htext] at hread
    cases hread
  | cons d ds =>
    rw [htext] at hhead hnumber
    cases hhead
    exact hnumber (.head _)

/-- A number behind the marker has digits, a sign and the marker only. -/
theorem not_mem_hexMarked (hc : hexDigit? c = none) (hsign : c ≠ '-') (hx : c ≠ 'x') (width : Nat)
    (n : Int) : c ∉ (hexMarked width n).toList := by
  have hzero : c ≠ '0' := by
    rintro rfl
    exact absurd hc (by decide)
  have hlead : c ∉ sign n ++ ['0', 'x'] := by
    simp [not_mem_sign hsign n, hzero, hx]
  exact not_mem_zeroFilled hc hlead (spells_hexDigits _) width

/-- A number that has no more digits than the width takes as many characters as the width. -/
theorem length_hexUpper {width n : Nat} (h : (hexDigits n).length ≤ width) :
    (hexUpper width n).length = width := by
  rw [hexUpper, zeroFilled, String.length_ofList, sign_natCast, List.nil_append,
    List.length_leftpad, Int.natAbs_natCast, hexDigitsUpper, List.length_map]
  exact Nat.max_eq_left h

/-- A number that has no more digits than there is room for behind the marker. -/
theorem length_hexMarked {digits n : Nat} (h : (hexDigits n).length ≤ digits) :
    (hexMarked (digits + 2) n).length = digits + 2 := by
  rw [hexMarked, zeroFilled, String.length_ofList, sign_natCast, List.nil_append,
    List.length_append, List.length_leftpad, Int.natAbs_natCast, List.length_cons,
    List.length_cons, List.length_nil]
  omega

end SuperChip.Text
