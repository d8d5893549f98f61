import Mathlib.Data.List.Basic
/-!
# Agree — lists that agree on what a query reads

Two lists agree on a predicate when it selects the same sub-list of both.  A query that selects no more then cannot
tell them apart.  Two queries of one list count as many when what they miss of each other balances.
-/
namespace Agree

variable {α β : Type}

theorem filter_narrow {p q : α → Bool} (hqp : ∀ a, q a = true → p a = true) (l : List α) :
    l.filter q = (l.filter p).filter q := by
  rw [List.filter_filter]
  refine List.filter_congr (fun a _ => ?_)
  cases hq : q a with
  | false => rfl
  | true => rw [hqp a hq]; rfl

theorem length_filter_split (p q : α → Bool) (l : List α) : (l.filter p).length =
    (l.filter (fun a => p a && q a)).length + (l.filter (fun a => p a && !q a)).length := by
  rw [List.length_eq_length_filter_add q, List.filter_filter, List.filter_filter]
  simp only [Bool.and_comm]

/-- Two queries count as many exactly when each finds as many that the other misses. -/
theorem length_filter_eq_iff (p q : α → Bool) (l : List α) : (l.filter p).length = (l.filter q).length ↔
    (l.filter (fun a => q a && !p a)).length = (l.filter (fun a => p a && !q a)).length := by
  have hp := length_filter_split p q l
  have hq := length_filter_split q p l
  simp only [Bool.and_comm (q _) (p _)] at hq
  omega

/-- The predicate selects the same elements, in the same order. -/
def On (p : α → Bool) (l r : List α) : Prop := l.filter p = r.filter p

theorem On.narrow {p q : α → Bool} {l r : List α} (h : On p l r) (hqp : ∀ a, q a = true → p a = true) : On q l r := by
  rw [On, filter_narrow hqp l, filter_narrow hqp r, h]

/-- Agreement on what any of several keys select is agreement on each key's. -/
theorem On.key {p : β → α → Bool} {keys : List β} {l r : List α} (h : On (fun a => keys.any (fun b => p b a)) l r)
    {b : β} (hb : b ∈ keys) : On (p b) l r :=
  h.narrow (fun _ ha => List.any_eq_true.2 ⟨b, hb, ha⟩)

end Agree
