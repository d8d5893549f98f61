/-!
# Assoc — dicts as lists of entries

A dict in insertion order is a list of entries with distinct keys.  What `lookup` finds after a filter, after an entry
more, and what holds of all entries, key by key.
-/
namespace Assoc

variable {κ β : Type} [DecidableEq κ]

def keys (l : List (κ × β)) : List κ := l.map Prod.fst

/-- `d[k] = v` -/
def set (l : List (κ × β)) (k : κ) (v : β) : List (κ × β) :=
  if (l.lookup k).isSome then l.map (fun p => if p.1 = k then (k, v) else p) else l ++ [(k, v)]

theorem lookup_eq_none_iff {l : List (κ × β)} {k : κ} : l.lookup k = none ↔ k ∉ keys l := by
  rw [List.lookup_eq_none_iff]
  unfold keys
  constructor
  · intro h hk
    obtain ⟨p, hp, rfl⟩ := List.mem_map.1 hk
    exact absurd (h p hp) (by simp)
  · intro h p hp
    simp only [bne_iff_ne]
    rintro rfl
    exact h (List.mem_map_of_mem hp)

theorem mem_of_lookup {l : List (κ × β)} {k : κ} {v : β} (h : l.lookup k = some v) : (k, v) ∈ l := by
  obtain ⟨a, b, rfl, -⟩ := List.lookup_eq_some_iff.1 h
  simp

theorem lookup_of_mem : ∀ {l : List (κ × β)} {k : κ} {v : β}, (keys l).Nodup → (k, v) ∈ l → l.lookup k = some v
  | [], _, _, _, h => absurd h List.not_mem_nil
  | (k', v') :: l, k, v, hn, h => by
    obtain ⟨hnot, hn⟩ := List.nodup_cons.1 hn
    rw [List.lookup_cons]
    rcases List.mem_cons.1 h with h | h
    · rw [(Prod.mk.inj h).1, (Prod.mk.inj h).2, BEq.rfl]
    · have hne : (k == k') = false := by
        simp only [beq_eq_false_iff_ne]
        intro hkk
        have hmem : k ∈ l.map Prod.fst := List.mem_map_of_mem (f := Prod.fst) h
        rw [hkk] at hmem
        exact hnot hmem
      rw [hne]
      exact lookup_of_mem hn h

theorem lookup_append_new {l : List (κ × β)} {k : κ} (v : β) (k' : κ) :
    (l ++ [(k, v)]).lookup k' = (l.lookup k').or (if k' = k then some v else none) := by
  rw [List.lookup_append]
  congr 1
  rw [List.lookup_cons, List.lookup_nil]
  by_cases h : k' = k
  · rw [if_pos h, h, BEq.rfl]
  · rw [if_neg h, show (k' == k) = false from beq_eq_false_iff_ne.2 h]

theorem nodup_append_new {l : List (κ × β)} (hn : (keys l).Nodup) {k : κ} (hk : l.lookup k = none) (v : β) :
    (keys (l ++ [(k, v)])).Nodup := by
  unfold keys at hn ⊢
  rw [List.map_append, List.nodup_append]
  refine ⟨hn, by simp, fun a ha b hb => ?_⟩
  rw [List.map_singleton, List.mem_singleton] at hb
  intro hab
  rw [hab, hb] at ha
  exact lookup_eq_none_iff.1 hk ha

omit [DecidableEq κ] in
theorem nodup_filter {l : List (κ × β)} (hn : (keys l).Nodup) (p : κ × β → Bool) : (keys (l.filter p)).Nodup :=
  hn.sublist (List.filter_sublist.map _)

theorem lookup_filter {l : List (κ × β)} (hn : (keys l).Nodup) (p : κ × β → Bool) (k : κ) :
    (l.filter p).lookup k = (l.lookup k).filter (fun v => p (k, v)) := by
  cases hl : l.lookup k with
  | none =>
    rw [Option.filter_none, lookup_eq_none_iff]
    intro hk
    obtain ⟨q, hq, rfl⟩ := List.mem_map.1 hk
    exact lookup_eq_none_iff.1 hl (List.mem_map_of_mem (List.mem_filter.1 hq).1)
  | some v =>
    have hmem := mem_of_lookup hl
    cases hp : p (k, v) with
    | true =>
      have hkeep : (some v).filter (fun v => p (k, v)) = some v := Option.filter_some_pos hp
      rw [hkeep]
      exact lookup_of_mem (nodup_filter hn p) (List.mem_filter.2 ⟨hmem, hp⟩)
    | false =>
      have hdrop : (some v).filter (fun v => p (k, v)) = none := Option.filter_some_neg (by simp [hp])
      rw [hdrop, lookup_eq_none_iff]
      intro hk
      obtain ⟨q, hq, rfl⟩ := List.mem_map.1 hk
      obtain ⟨hq, hpq⟩ := List.mem_filter.1 hq
      have hv := lookup_of_mem hn hq
      rw [hl, Option.some.injEq] at hv
      rw [hv] at hp
      exact absurd hpq (by simp [hp])

omit [DecidableEq κ] in
theorem keys_filterMap {γ : Type} (f : κ × β → Option γ) : ∀ l : List (κ × β),
    (keys (l.filterMap (fun p => (f p).map (fun v => (p.1, v))))).Sublist (keys l)
  | [] => List.Sublist.slnil
  | p :: l => by
    have ih := keys_filterMap f l
    rw [List.filterMap_cons]
    cases f p with
    | none => exact ih.cons p.1
    | some v => exact ih.cons_cons p.1

theorem lookup_filterMap {γ : Type} (f : κ × β → Option γ) (k : κ) : ∀ {l : List (κ × β)}, (keys l).Nodup →
    (l.filterMap (fun p => (f p).map (fun v => (p.1, v)))).lookup k = (l.lookup k).bind (fun b => f (k, b))
  | [], _ => rfl
  | (k', b) :: l, hn => by
    obtain ⟨hnot, hn⟩ := List.nodup_cons.1 hn
    have ih := lookup_filterMap f k hn
    rw [List.filterMap_cons, List.lookup_cons]
    by_cases hk : k = k'
    · subst hk
      have hrest : l.lookup k = none := lookup_eq_none_iff.2 hnot
      rw [hrest] at ih
      rw [BEq.rfl]
      cases hf : f (k, b) with
      | none => exact ih.trans hf.symm
      | some v =>
        rw [Option.map_some, List.lookup_cons, BEq.rfl]
        exact hf.symm
    · have hne : (k == k') = false := beq_eq_false_iff_ne.2 hk
      rw [hne, ← ih]
      cases f (k', b) with
      | none => rfl
      | some v => rw [Option.map_some, List.lookup_cons, hne]

/-- **What holds of every entry holds of every key's value**, over any keys that cover the dict. -/
theorem all_eq {l : List (κ × β)} (hn : (keys l).Nodup) {ks : List κ} (hk : ∀ k ∈ keys l, k ∈ ks) (f : κ × β → Bool) :
    l.all f = ks.all (fun k => (l.lookup k).all (fun v => f (k, v))) := by
  rw [Bool.eq_iff_iff, List.all_eq_true, List.all_eq_true]
  constructor
  · intro h k _
    cases hl : l.lookup k with
    | none => rfl
    | some v => exact h _ (mem_of_lookup hl)
  · intro h p hp
    have hp' := h p.1 (hk _ (List.mem_map_of_mem hp))
    rw [lookup_of_mem hn hp] at hp'
    exact hp'

end Assoc
