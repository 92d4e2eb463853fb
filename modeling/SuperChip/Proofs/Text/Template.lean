import SuperChip.Debug

/-!
# Filled templates

A message is made of a template and of values for its places. The templates of events have plain
places only, for which there is always room, so that no event is kept from being reported.

- `Template.put_text_place`, `put_text`: a template from its front.
- `Place.put_any`, `put_decimal`, `put_hexLower`, `put_hexUpper`: the places that events use.
- `Event.fill_template`: **every event is worded without fail**; `Event.log_eq` is what is printed
  of it.
-/

namespace SuperChip

open Text

namespace Template

variable (room : Room)

/-- Characters in front of a template stand in front of its text. -/
theorem put_literals (cs : List Char) (rest : List Part) (vs : List Value) :
    put room (cs.map .literal ++ rest) vs = (put room rest vs).map (String.ofList cs ++ ·) := by
  induction cs with
  | nil => cases h : put room rest vs <;> simp [Except.map, h]
  | cons c cs ih =>
    rw [List.map_cons, List.cons_append, put, ih]
    cases put room rest vs with
    | error e => rfl
    | ok t =>
      have hcons : c.toString ++ String.ofList cs = String.ofList (c :: cs) := by
        rw [← String.toList_inj, show c.toString = String.singleton c from rfl]
        simp
      simp only [Except.map, ← String.append_assoc, hcons]

variable {room}

/-- A text, a place with a value that goes there, and then the rest. -/
theorem put_text_place (text : String) {p : Place} {v : Value} {s t : String} {rest : List Part}
    {vs : List Value} (hp : p.put room v = .ok s) (hrest : put room rest vs = .ok t) :
    put room (text.toList.map .literal ++ .place p :: rest) (v :: vs) = .ok (text ++ (s ++ t)) := by
  rw [put_literals, put, hp, String.ofList_toList]
  simp only [bind, Except.bind, hrest, Except.map]

theorem put_text (text : String) : put room (text.toList.map .literal) [] = .ok text := by
  have h := put_literals room text.toList [] []
  rw [List.append_nil, String.ofList_toList] at h
  rw [h]
  simp [put, Except.map]

variable (room)

namespace Place

/-- There is room for a place that is not too wide. -/
theorem checkRoom_eq_ok {p : Place} (hp : p.precision = none) (hw : p.width ≤ 0x10000)
    (isNumber : Bool) : p.checkRoom room isNumber = .ok () := by
  have hfits : Extent.check room p.width 1 = .ok () := by
    rw [Extent.check_eq_ok_iff (by decide)]
    have := room.least
    omega
  simp only [checkRoom, hp, hfits, Option.any_none, Bool.and_false]
  rfl

/-- A place that is only a letter takes any value as it stands in running text. -/
theorem put_any (v : Value) : (⟨[], 0, none, .any⟩ : Place).put room v = .ok v.plain := by
  simp [put, checkRoom_eq_ok, Except.map, text, pad, has]

/-- A place without flags, or with zeros in front, shows a number by its sign and its digits. -/
theorem number_eq {p : Place} (hflags : p.flags = [] ∧ p.width = 0 ∨ p.flags = ['0'])
    (hp : p.precision = none) (mark digits : List Char) (n : Int) :
    p.number mark digits n = zeroFilled p.width (sign n) digits := by
  have hlead : p.lead n = sign n := by
    obtain ⟨h, -⟩ | h := hflags <;> simp [lead, has, sign, h]
  have hlength : p.width ≤ (zeroFilled p.width (sign n) digits).length := by
    rw [zeroFilled, String.length_ofList, List.length_append, List.length_leftpad]
    omega
  obtain ⟨h, hwidth⟩ | h := hflags
  · simp [number, hlead, hp, has, h, hwidth, pad]
  · simp [number, hlead, hp, has, h, pad, Nat.sub_eq_zero_of_le hlength]

theorem put_hexLower (width : Nat) (hw : width ≤ 0x10000) (n : Int) :
    (⟨['0'], width, none, .hexLower⟩ : Place).put room (.integer n) =
      .ok (Text.hexLower width n) := by
  let p : Place := ⟨['0'], width, none, .hexLower⟩
  have hroom : p.checkRoom room true = .ok () := checkRoom_eq_ok room rfl hw true
  have hnumber := number_eq (p := p) (.inr rfl) rfl ['0', 'x'] (hexDigits n.natAbs) n
  show (p.checkRoom room true).map _ = _
  rw [hroom, Text.hexLower, ← hnumber]
  rfl

theorem put_hexUpper (k : Nat) :
    (⟨[], 0, none, .hexUpper⟩ : Place).put room (.integer k) = .ok (Text.hexUpper 1 k) := by
  let p : Place := ⟨[], 0, none, .hexUpper⟩
  have hroom : p.checkRoom room true = .ok () := checkRoom_eq_ok room rfl (Nat.zero_le _) true
  have hnumber := number_eq (p := p) (.inl ⟨rfl, rfl⟩) rfl ['0', 'X'] (hexDigitsUpper k) k
  have hne : 1 ≤ (hexDigitsUpper k).length := by
    rw [hexDigitsUpper, List.length_map]
    exact List.length_pos_iff.2 (hexDigits_ne_nil k)
  have hfull : Text.hexUpper 1 k = zeroFilled 0 (sign k) (hexDigitsUpper k) := by
    simp [Text.hexUpper, zeroFilled, List.leftpad, Nat.sub_eq_zero_of_le hne]
  show (p.checkRoom room true).map _ = _
  rw [hroom, hfull, ← hnumber]
  rfl

theorem put_decimal (k : Nat) :
    (⟨[], 0, none, .decimal⟩ : Place).put room (.integer k) = .ok (toString k) := by
  let p : Place := ⟨[], 0, none, .decimal⟩
  have hroom : p.checkRoom room true = .ok () := checkRoom_eq_ok room rfl (Nat.zero_le _) true
  have hnumber := number_eq (p := p) (.inl ⟨rfl, rfl⟩) rfl [] (Nat.toDigits 10 k) k
  have hplain : toString k = zeroFilled 0 (sign k) (Nat.toDigits 10 k) := by
    simp [zeroFilled, List.leftpad]
    rfl
  show (p.checkRoom room true).map _ = _
  rw [hroom, hplain, ← hnumber]
  rfl

end Place

end Template

namespace Event

open Template Place

variable (room : Room)

/-- The values go into the places of the template, and what comes of it is the wording. -/
theorem fill_of_put {e : Event} (template : String) {ps : List Part} {text : String}
    (htemplate : e.template = template) (hparts : parts template = ps) (hvalues : e.values ≠ [])
    (hput : put room ps e.values = .ok text) (htext : text = e.message) :
    fill room e.template e.values = .ok e.message := by
  have hne : e.values.isEmpty = false := by simpa using hvalues
  simp [fill, hne, htemplate, hparts, hput, htext]

/-- **However little room there is, every event is worded without fail.** -/
theorem fill_template (e : Event) : fill room e.template e.values = .ok e.message := by
  cases e with
  | fetched pc d =>
    refine fill_of_put room "pc=%03x %04x %s" rfl (by decide) (List.cons_ne_nil _ _)
      (put_text_place "pc=" (put_hexLower room 3 (by decide) _)
        (put_text_place " " (put_hexLower room 4 (by decide) _)
          (put_text_place " " (put_any room _) (put_text "")))) ?_
    simp only [String.append_empty, ← String.append_assoc]
    rfl
  | counted timer value =>
    refine fill_of_put room "%s=%d" rfl (by decide) (List.cons_ne_nil _ _)
      (put_text_place "" (put_any room _)
        (put_text_place "=" (put_decimal room _) (put_text ""))) ?_
    simp only [String.append_empty, String.empty_append, ← String.append_assoc]
    rfl
  | keyChanged key pressed =>
    refine fill_of_put room "key=%X pressed=%s" rfl (by decide) (List.cons_ne_nil _ _)
      (put_text_place "key=" (put_hexUpper room _)
        (put_text_place " pressed=" (put_any room _) (put_text ""))) ?_
    simp only [String.append_empty, ← String.append_assoc]
    rfl
  | unboundKey name pressed =>
    cases pressed with
    | true =>
      refine fill_of_put room "unmapped_press=%s" rfl (by decide) (List.cons_ne_nil _ _)
        (put_text_place "unmapped_press=" (put_any room _) (put_text "")) ?_
      rw [String.append_empty]
      rfl
    | false =>
      refine fill_of_put room "unmapped_release=%s" rfl (by decide) (List.cons_ne_nil _ _)
        (put_text_place "unmapped_release=" (put_any room _) (put_text "")) ?_
      rw [String.append_empty]
      rfl
  | reset size =>
    refine fill_of_put room "reset program=%d bytes" rfl (by decide) (List.cons_ne_nil _ _)
      (put_text_place "reset program=" (put_decimal room _) (put_text " bytes")) ?_
    rw [← String.append_assoc]
    rfl
  | failed f =>
    refine fill_of_put room "fatal %s: %s" rfl (by decide) (List.cons_ne_nil _ _)
      (put_text_place "fatal " (put_any room _) (put_text_place ": " (put_any room _)
        (put_text ""))) ?_
    show "fatal " ++ (f.name ++ (": " ++ (f.message ++ ""))) =
      "fatal " ++ (f.name ++ ": " ++ f.message)
    simp only [String.append_empty, String.append_assoc]
  | halted reason pc =>
    refine fill_of_put room "halt reason=%s pc=%03x" rfl (by decide) (List.cons_ne_nil _ _)
      (put_text_place "halt reason=" (put_any room _)
        (put_text_place " pc=" (put_hexLower room 3 (by decide) _) (put_text ""))) ?_
    simp only [String.append_empty, ← String.append_assoc]
    cases reason <;> rfl
  | loaded name size =>
    refine fill_of_put room "rom=%s size=%d" rfl (by decide) (List.cons_ne_nil _ _)
      (put_text_place "rom=" (put_any room _)
        (put_text_place " size=" (put_decimal room _) (put_text ""))) ?_
    simp only [String.append_empty, ← String.append_assoc]
    rfl
  | tone on =>
    refine fill_of_put room "tone=%s" rfl (by decide) (List.cons_ne_nil _ _)
      (put_text_place "tone=" (put_any room _) (put_text "")) ?_
    rw [String.append_empty]
    rfl
  | beeperRefused reason =>
    refine fill_of_put room "beeper_init_failed=%s" rfl (by decide) (List.cons_ne_nil _ _)
      (put_text_place "beeper_init_failed=" (put_any room _) (put_text "")) ?_
    rw [String.append_empty]
    rfl
  | traced | mixerMissing => rfl

/-- A message of an event is printed just if its category is switched on. -/
theorem log_eq (s : Debug.Session) (e : Event) :
    s.log room e.category e.template e.values =
      .ok (Debug.line? s.categories e.category e.message) := by
  unfold Debug.Session.log Debug.line?
  rw [fill_template]
  split <;> rfl

end Event

end SuperChip
