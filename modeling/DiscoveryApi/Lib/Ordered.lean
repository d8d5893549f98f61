import Mathlib.Data.List.Sort
/-!
# Ordered — lists put in an order

A sort by an order that tells the elements of a list apart has one result.  So it commutes with a selection and with a
map that keeps the order, and sorting a part of a list gives that part of the sorted list.
-/
namespace Ordered

variable {α : Type}

/-- The function puts every list in the order. -/
structure SortsBy (sort : List α → List α) (le : α → α → Prop) : Prop where
  perm : ∀ l, (sort l).Perm l
  sorted : ∀ l, (sort l).Pairwise le

/-- The order tells the elements of the list apart. -/
def Separates (le : α → α → Prop) (l : List α) : Prop := ∀ a ∈ l, ∀ b ∈ l, le a b → le b a → a = b

theorem Separates.subset {le : α → α → Prop} {l r : List α} (h : Separates le l) (hr : r ⊆ l) : Separates le r :=
  fun a ha b hb => h a (hr ha) b (hr hb)

/-- A list in order is known by its elements. -/
theorem Separates.eq_of_perm {le : α → α → Prop} {l r : List α} (hs : Separates le r) (hl : l.Pairwise le)
    (hr : r.Pairwise le) (hperm : l.Perm r) : l = r :=
  List.Perm.eq_of_pairwise (fun a b ha hb => hs a (hperm.mem_iff.1 ha) b hb) hl hr hperm

theorem Separates.eq_of_mem {le : α → α → Prop} {l r : List α} (hs : Separates le r) (hl : l.Pairwise le)
    (hr : r.Pairwise le) (hnl : l.Nodup) (hnr : r.Nodup) (hmem : ∀ a, a ∈ l ↔ a ∈ r) : l = r :=
  hs.eq_of_perm hl hr ((List.perm_ext_iff_of_nodup hnl hnr).2 hmem)

variable {sort : List α → List α} {le : α → α → Prop} (h : SortsBy sort le)
include h

/-- Whatever is in order and has the elements of a list is the sorted list. -/
theorem SortsBy.unique {l r : List α} (hs : Separates le l) (hr : r.Pairwise le) (hperm : r.Perm l) : sort l = r :=
  (hs.subset hperm.subset).eq_of_perm (h.sorted l) hr ((h.perm l).trans hperm.symm)

theorem SortsBy.filter {l : List α} (hs : Separates le l) (p : α → Bool) : sort (l.filter p) = (sort l).filter p :=
  h.unique (hs.subset (List.filter_subset_self l)) ((h.sorted l).filter p) ((h.perm l).filter p)

theorem SortsBy.map {l : List α} {f : α → α} (hs : Separates le (l.map f)) (hf : ∀ {a b}, le a b → le (f a) (f b)) :
    sort (l.map f) = (sort l).map f :=
  h.unique hs ((h.sorted l).map f (fun _ _ => hf)) ((h.perm l).map f)

/-- **Sorting a part of a list gives that part of the sorted list.** -/
theorem SortsBy.sublist {l r : List α} (hs : Separates le r) (hlr : l.Sublist r) : (sort l).Sublist (sort r) := by
  obtain ⟨k, hk, hkr⟩ := (h.perm l).subperm_right.2 (hlr.subperm.trans (h.perm r).symm.subperm)
  rw [h.unique (hs.subset hlr.subset) ((h.sorted r).sublist hkr) (hk.trans (h.perm l))]
  exact hkr

end Ordered
