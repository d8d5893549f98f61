/-!
# Window — pages cut out of a concatenation of capped sections

A composite list is a concatenation of sections; some are read only up to a window, the others whole.  A page cut at or
inside the window does not see the cut, and the pages of one list, walked until the first empty one, are that list.
-/
namespace Window

variable {α : Type}

/-! ## Slices -/

def slice (o k : Nat) (l : List α) : List α := (l.drop o).take k

theorem slice_eq_drop_take (o k : Nat) (l : List α) : slice o k l = (l.take (o + k)).drop o := by
  rw [slice, List.drop_take, Nat.add_sub_cancel_left]

theorem slice_congr {o k : Nat} {l r : List α} (h : l.take (o + k) = r.take (o + k)) : slice o k l = slice o k r := by
  rw [slice_eq_drop_take, slice_eq_drop_take, h]

theorem getElem?_slice (o k i : Nat) (l : List α) : (slice o k l)[i]? = if i < k then l[o + i]? else none := by
  rw [slice, List.getElem?_take]
  split
  · rw [List.getElem?_drop]
  · rfl

/-- Two consecutive slices are one: nothing between them is repeated or skipped. -/
theorem slice_append (o k k' : Nat) (l : List α) : slice o k l ++ slice (o + k) k' l = slice o (k + k') l := by
  rw [slice, slice, slice, List.take_add, List.drop_drop]

theorem slice_eq_nil_iff {o k : Nat} {l : List α} (hk : 0 < k) : slice o k l = [] ↔ l.length ≤ o := by
  rw [slice, List.take_eq_nil_iff, List.drop_eq_nil_iff]
  omega

theorem slice_sublist (o k : Nat) (l : List α) : (slice o k l).Sublist l :=
  (List.take_sublist k _).trans (List.drop_sublist o l)

/-- With nothing dropped from the offset on, what follows it is found as many places earlier as were dropped before
it. -/
theorem slice_filter {p : α → Bool} {o : Nat} {l : List α} (h : ∀ x ∈ l.drop o, p x = true) (k : Nat) :
    slice ((l.take o).filter p).length k (l.filter p) = slice o k l := by
  have hsplit : l.filter p = (l.take o).filter p ++ l.drop o := by
    rw [← List.filter_eq_self.2 h, ← List.filter_append, List.take_append_drop]
  rw [slice, hsplit, List.drop_left, slice]

/-- Two slices in order, the first ending where the second starts or before. -/
theorem slice_append_sublist {o k o' : Nat} (h : o + k ≤ o') (k' : Nat) (l : List α) :
    (slice o k l ++ slice o' k' l).Sublist l := by
  have hfirst : (slice o k l).Sublist (l.take o') := by
    rw [slice_eq_drop_take, ← Nat.min_eq_left h, ← List.take_take]
    exact (List.drop_sublist o _).trans (List.take_sublist (o + k) _)
  have happend := hfirst.append (List.take_sublist k' (l.drop o'))
  rwa [List.take_append_drop] at happend

/-! ## Walking the pages -/

def pages (k m : Nat) (l : List α) : List α := (List.range m).flatMap (fun i => slice (i * k) k l)

theorem pages_eq_take (k : Nat) (l : List α) : ∀ m, pages k m l = l.take (m * k)
  | 0 => by simp [pages]
  | m + 1 => by
    have ih := pages_eq_take k l m
    rw [pages] at ih
    rw [pages, List.range_succ, List.flatMap_append, ih, List.flatMap_singleton, slice, Nat.succ_mul, List.take_add]

/-- **A walk ends**, and the pages before the first empty one are the list. -/
theorem walk {k : Nat} (hk : 0 < k) (l : List α) :
    ∃ m, (∀ i, i < m → slice (i * k) k l ≠ []) ∧ slice (m * k) k l = [] ∧ pages k m l = l := by
  obtain ⟨m, hm, hlt⟩ : ∃ m, l.length ≤ m * k ∧ ∀ i, i < m → i * k < l.length := by
    refine ⟨(l.length + k - 1) / k, ?_, fun i hi => ?_⟩
    · have hdiv := Nat.div_add_mod (l.length + k - 1) k
      have hmod := Nat.mod_lt (l.length + k - 1) hk
      rw [Nat.mul_comm] at hdiv
      omega
    · have hle := (Nat.le_div_iff_mul_le hk).1 (Nat.succ_le_of_lt hi)
      rw [Nat.succ_mul] at hle
      omega
  refine ⟨m, fun i hi hnil => ?_, (slice_eq_nil_iff hk).2 hm, ?_⟩
  · exact absurd ((slice_eq_nil_iff hk).1 hnil) (Nat.not_le_of_lt (hlt i hi))
  · rw [pages_eq_take, List.take_of_length_le hm]

/-! ## Capped sections -/

/-- A section's items, and whether a read of it stops at the window. -/
structure Section (α : Type) where
  items : List α
  windowed : Bool

def cut (n : Nat) (s : Section α) : List α := if s.windowed then s.items.take n else s.items

/-- The concatenation of the sections, each read up to the window. -/
def cutAll (n : Nat) (secs : List (Section α)) : List α := secs.flatMap (cut n)

def whole (secs : List (Section α)) : List α := secs.flatMap Section.items

theorem cut_append_take (s : Section α) (l r : List α) {m n : Nat} (hmn : m ≤ n)
    (h : ∀ j, j ≤ n → l.take j = r.take j) : (cut n s ++ l).take m = (s.items ++ r).take m := by
  unfold cut
  split
  · rw [List.take_append, List.take_append, List.take_take, Nat.min_eq_left hmn, List.length_take]
    by_cases hs : s.items.length ≤ n
    · rw [Nat.min_eq_right hs, h _ (by omega)]
    · have hz : m - min n s.items.length = 0 := by omega
      have hz' : m - s.items.length = 0 := by omega
      rw [hz, hz']
      rfl
  · rw [List.take_append, List.take_append, h _ (by omega)]

/-- **Nothing before the window is lost**: the cut concatenation starts as the whole one does. -/
theorem cutAll_take : ∀ (secs : List (Section α)) {m n : Nat}, m ≤ n → (cutAll n secs).take m = (whole secs).take m
  | [], _, _, _ => rfl
  | s :: secs, _, n, h => cut_append_take s (cutAll n secs) (whole secs) h (fun _ hj => cutAll_take secs hj)

theorem slice_cutAll {o k n : Nat} (secs : List (Section α)) (h : o + k ≤ n) :
    slice o k (cutAll n secs) = slice o k (whole secs) := slice_congr (cutAll_take secs h)

/-- **A slice read at its own window agrees with the one read at the cap.** -/
theorem slice_cutAll_min (o k cap : Nat) (secs : List (Section α)) :
    slice o k (cutAll (min (o + k) cap) secs) = slice o k (cutAll cap secs) := by
  by_cases h : o + k ≤ cap
  · rw [Nat.min_eq_left h, slice_cutAll secs (Nat.le_refl _), slice_cutAll secs h]
  · rw [Nat.min_eq_right (Nat.le_of_not_le h)]

theorem cutAll_sublist (n : Nat) : ∀ secs : List (Section α), (cutAll n secs).Sublist (whole secs)
  | [] => List.Sublist.slnil
  | s :: secs => by
    have hs : (cut n s).Sublist s.items := by
      unfold cut
      split
      · exact List.take_sublist n _
      · exact List.Sublist.refl _
    exact hs.append (cutAll_sublist n secs)

theorem cutAll_eq_whole {n : Nat} : ∀ {secs : List (Section α)},
    (∀ s ∈ secs, s.windowed = true → s.items.length ≤ n) → cutAll n secs = whole secs
  | [], _ => rfl
  | s :: secs, h => by
    have ih := cutAll_eq_whole (fun x hx => h x (List.mem_cons_of_mem _ hx))
    have hs : cut n s = s.items := by
      unfold cut
      split
      · rename_i hw
        exact List.take_of_length_le (h s List.mem_cons_self hw)
      · rfl
    rw [cutAll, List.flatMap_cons, hs, whole, List.flatMap_cons]
    exact congrArg (s.items ++ ·) ih

end Window
