import DiscoveryApi.Lib.Window
import Mathlib.Data.List.NodupEquivFin
import Mathlib.Order.WellFounded
/-!
# Walk — reading a list page by page while it changes

Each page is read from the list as it then is.  While the list only gains elements, anywhere, an element moves towards
the end, never before a window already read, so a walk without gaps that meets a short page has read everything the list
held when it began.  While the list only loses elements, an element moves towards the front: nothing is read twice, and
what is missed is at most what was lost.
-/
namespace Walk

variable {α : Type}

/-- One read: the list it was made of, and its window. -/
structure Read (α : Type) where
  list : List α
  offset : Nat
  size : Nat

def Read.page (r : Read α) : List α := Window.slice r.offset r.size r.list

/-- Each read's list holds the one before it, and each window starts no later than the one before it ended. -/
def Gapless : List α → Nat → List (Read α) → Prop
  | _, _, [] => True
  | l, n, r :: rs => l.Sublist r.list ∧ r.offset ≤ n ∧ Gapless r.list (r.offset + r.size) rs

/-- Every read is of one list, and each window starts where the one before it ended. -/
def Consecutive : List α → Nat → List (Read α) → Prop
  | _, _, [] => True
  | l, n, r :: rs => r.list = l ∧ r.offset = n ∧ Consecutive l (n + r.size) rs

/-- The last page is short. -/
def Ended (rs : List (Read α)) : Prop := ∃ r, rs.getLast? = some r ∧ r.page.length < r.size

theorem Ended.tail {r r' : Read α} {rs : List (Read α)} (h : Ended (r :: r' :: rs)) : Ended (r' :: rs) := by
  rwa [Ended, List.getLast?_cons_cons] at h

theorem Ended.length_lt {r : Read α} (h : Ended [r]) : r.list.length < r.offset + r.size := by
  obtain ⟨r', hr, hshort⟩ := h
  obtain rfl : r = r' := Option.some.inj hr
  rw [Read.page, Window.slice, List.length_take, List.length_drop] at hshort
  omega

/-- An element of a list stands no earlier in a list that holds it. -/
theorem position_later {l l' : List α} (h : l.Sublist l') {i : Nat} {a : α} (hi : l[i]? = some a) :
    ∃ j, i ≤ j ∧ l'[j]? = some a := by
  obtain ⟨f, hf⟩ := List.sublist_iff_exists_orderEmbedding_getElem?_eq.1 h
  exact ⟨f i, f.strictMono.le_apply, (hf i).symm.trans hi⟩

theorem mem_page {r : Read α} {j : Nat} {a : α} (ha : r.list[j]? = some a) (ho : r.offset ≤ j)
    (hj : j < r.offset + r.size) : a ∈ r.page := by
  refine List.mem_of_getElem? (i := j - r.offset) ?_
  rw [Read.page, Window.getElem?_slice, if_pos (by omega), Nat.add_sub_cancel' ho, ha]

/-- **Nothing is skipped**: what stood at or after the walk's reach is on some page. -/
theorem Gapless.reads {l : List α} {n : Nat} {rs : List (Read α)} (h : Gapless l n rs) (hend : Ended rs) {i : Nat}
    {a : α} (ha : l[i]? = some a) (hi : n ≤ i) : ∃ r ∈ rs, a ∈ r.page := by
  induction rs generalizing l n i with
  | nil =>
    obtain ⟨r, hr, -⟩ := hend
    cases hr
  | cons r rs ih =>
    obtain ⟨hlist, ho, hrest⟩ := h
    obtain ⟨j, hij, hj⟩ := position_later hlist ha
    by_cases hin : j < r.offset + r.size
    · exact ⟨r, List.mem_cons_self, mem_page hj (by omega) hin⟩
    · cases rs with
      | nil =>
        -- a short page leaves nothing after its window
        obtain ⟨hlt, -⟩ := List.getElem?_eq_some_iff.1 hj
        exact absurd hend.length_lt (by omega)
      | cons r' rs =>
        obtain ⟨q, hq, hmem⟩ := ih hrest hend.tail hj (by omega)
        exact ⟨q, List.mem_cons_of_mem _ hq, hmem⟩

/-- **Nothing is repeated**: the pages of a list that stays as it is are what stood at or after the walk's reach. -/
theorem Consecutive.pages {l : List α} {n : Nat} {rs : List (Read α)} (h : Consecutive l n rs) (hend : Ended rs) :
    rs.flatMap Read.page = l.drop n := by
  induction rs generalizing n with
  | nil =>
    obtain ⟨r, hr, -⟩ := hend
    cases hr
  | cons r rs ih =>
    obtain ⟨rfl, rfl, hrest⟩ := h
    cases rs with
    | nil =>
      have hlt := hend.length_lt
      rw [List.flatMap_singleton, Read.page, Window.slice, List.take_of_length_le]
      rw [List.length_drop]
      omega
    | cons r' rs =>
      rw [List.flatMap_cons, ih hrest hend.tail, Read.page, Window.slice, ← List.drop_drop, List.take_append_drop]

/-! ## While the list shrinks -/

/-- Each read's list is a part of the one before it, and each window starts where the one before it ended. -/
def Shrinking : List α → Nat → List (Read α) → Prop
  | _, _, [] => True
  | l, n, r :: rs => r.list.Sublist l ∧ r.offset = n ∧ Shrinking r.list (n + r.size) rs

theorem mem_page_position {r : Read α} {a : α} (ha : a ∈ r.page) :
    ∃ j, r.offset ≤ j ∧ j < r.offset + r.size ∧ r.list[j]? = some a := by
  obtain ⟨i, hi⟩ := List.mem_iff_getElem?.1 ha
  rw [Read.page, Window.getElem?_slice] at hi
  by_cases hsize : i < r.size
  · rw [if_pos hsize] at hi
    exact ⟨r.offset + i, Nat.le_add_right _ _, by omega, hi⟩
  · rw [if_neg hsize] at hi
    cases hi

/-- What is on a page stood at or after the walk's reach. -/
theorem Shrinking.position {l : List α} {n : Nat} {rs : List (Read α)} (h : Shrinking l n rs) {a : α}
    (ha : a ∈ rs.flatMap Read.page) : ∃ i, n ≤ i ∧ l[i]? = some a := by
  induction rs generalizing l n with
  | nil => cases ha
  | cons r rs ih =>
    obtain ⟨hlist, rfl, hrest⟩ := h
    have hread : ∃ j, r.offset ≤ j ∧ r.list[j]? = some a := by
      rw [List.flatMap_cons, List.mem_append] at ha
      rcases ha with ha | ha
      · obtain ⟨j, hj, -, hget⟩ := mem_page_position ha
        exact ⟨j, hj, hget⟩
      · obtain ⟨j, hj, hget⟩ := ih hrest ha
        exact ⟨j, by omega, hget⟩
    obtain ⟨j, hj, hget⟩ := hread
    obtain ⟨i, hij, hi⟩ := position_later hlist hget
    exact ⟨i, hj.trans hij, hi⟩

/-- **Nothing is read twice.** -/
theorem Shrinking.nodup {l : List α} {n : Nat} {rs : List (Read α)} (h : Shrinking l n rs) (hn : l.Nodup) :
    (rs.flatMap Read.page).Nodup := by
  induction rs generalizing l n with
  | nil => exact List.nodup_nil
  | cons r rs ih =>
    obtain ⟨hlist, rfl, hrest⟩ := h
    have hr : r.list.Nodup := hn.sublist hlist
    rw [List.flatMap_cons, List.nodup_append]
    refine ⟨hr.sublist (Window.slice_sublist r.offset r.size r.list), ih hrest hr, ?_⟩
    rintro a ha b hb rfl
    -- it stood within the window and after it
    obtain ⟨i, -, hi, hgeti⟩ := mem_page_position ha
    obtain ⟨j, hj, hgetj⟩ := hrest.position hb
    have hij : i = j := (List.getElem?_inj (List.getElem?_eq_some_iff.1 hgeti).1 hr).1 (hgeti.trans hgetj.symm)
    omega

/-- Taking elements out of a list brings at most as many new ones into its first `n`. -/
theorem countP_take_sublist {s l : List α} (h : s.Sublist l) (p : α → Bool) :
    ∀ n, (s.take n).countP p + s.length ≤ (l.take n).countP p + l.length := by
  induction h with
  | slnil => exact fun n => Nat.le_refl _
  | @cons s l a h ih =>
    intro n
    cases n with
    | zero => simpa using Nat.le_succ_of_le h.length_le
    | succ n =>
      have htake : (s.take (n + 1)).countP p ≤ (s.take n).countP p + 1 := by
        rw [List.take_add_one, List.countP_append]
        have hone : s[n]?.toList.length ≤ 1 := by cases s[n]? <;> simp
        exact Nat.add_le_add_left (List.countP_le_length.trans hone) _
      have hcons : (l.take n).countP p ≤ ((a :: l).take (n + 1)).countP p := by
        rw [List.take_succ_cons, List.countP_cons]
        exact Nat.le_add_right _ _
      have hn := ih n
      rw [List.length_cons]
      omega
  | @cons_cons s l a h ih =>
    intro n
    cases n with
    | zero => simpa using h.length_le
    | succ n =>
      have hn := ih n
      rw [List.take_succ_cons, List.take_succ_cons, List.countP_cons, List.countP_cons, List.length_cons,
        List.length_cons]
      omega

/-- **What is missed is at most what was lost**: at the end of the walk, the elements on no page and those still there
are no more than there were when it began.  The invariant counts the unseen ones before the walk's reach. -/
theorem Shrinking.missed [BEq α] [LawfulBEq α] {l : List α} {n : Nat} {rs : List (Read α)} (h : Shrinking l n rs)
    (hend : Ended rs) (p : α → Bool) : ∃ r, rs.getLast? = some r ∧
      r.list.countP (fun a => p a && !(rs.flatMap Read.page).contains a) + r.list.length ≤
        (l.take n).countP p + l.length := by
  induction rs generalizing l n p with
  | nil =>
    obtain ⟨r, hr, -⟩ := hend
    cases hr
  | cons r rs ih =>
    obtain ⟨hlist, rfl, hrest⟩ := h
    have hlost := countP_take_sublist hlist p r.offset
    have hunseen : (r.list.take (r.offset + r.size)).countP (fun a => p a && !r.page.contains a) ≤
        (r.list.take r.offset).countP p := by
      have hpage : r.page.countP (fun a => p a && !r.page.contains a) = 0 :=
        List.countP_eq_zero.2 (fun a ha => by simp [ha])
      rw [List.take_add, List.countP_append]
      refine (Nat.add_le_add_left (Nat.le_of_eq hpage) _).trans ?_
      exact List.countP_mono_left (fun a _ hp => (Bool.and_eq_true _ _ ▸ hp).1)
    cases rs with
    | nil =>
      refine ⟨r, rfl, ?_⟩
      rw [List.take_of_length_le (Nat.le_of_lt hend.length_lt)] at hunseen
      rw [List.flatMap_singleton]
      omega
    | cons r' rs =>
      obtain ⟨last, hlast, hmissed⟩ := ih hrest hend.tail (fun a => p a && !r.page.contains a)
      refine ⟨last, by rw [List.getLast?_cons_cons, hlast], ?_⟩
      have hsame : last.list.countP (fun a => p a && !((r :: r' :: rs).flatMap Read.page).contains a) =
          last.list.countP (fun a => p a && !r.page.contains a && !((r' :: rs).flatMap Read.page).contains a) := by
        refine congrFun (congrArg _ (funext (fun a => ?_))) _
        rw [List.flatMap_cons, List.contains_append, Bool.not_or, Bool.and_assoc]
      rw [hsame]
      omega

end Walk
