/-!
# Batch — one lookup for many keys

`collect` gathers what to look up, each key once; `assign` files the answers in a table under a key computed from each
answer.  The answers may come in any order, and a key nothing answers to stays out of the table.
-/
namespace Batch

variable {κ ι α β : Type} [DecidableEq κ]

/-- What to look up: a key met before, and one that does not parse, adds nothing. -/
def collect (parse : κ → Option ι) : List κ → List κ → List ι
  | _, [] => []
  | seen, k :: ks =>
    if k ∈ seen then collect parse seen ks
    else
      match parse k with
      | some i => i :: collect parse (k :: seen) ks
      | none => collect parse (k :: seen) ks

/-- **De-duplication loses nothing**: everything a key asks for is looked up. -/
theorem mem_collect {parse : κ → Option ι} {i : ι} : ∀ {ks seen : List κ},
    i ∈ collect parse seen ks ↔ ∃ k ∈ ks, k ∉ seen ∧ parse k = some i
  | [], seen => by simp [collect]
  | k :: ks, seen => by
    rw [collect]
    split
    · rename_i hs
      rw [mem_collect]
      refine ⟨fun ⟨k', hk', h⟩ => ⟨k', List.mem_cons_of_mem _ hk', h⟩, fun ⟨k', hk', hns, h⟩ => ?_⟩
      rcases List.mem_cons.1 hk' with rfl | hk'
      · exact absurd hs hns
      · exact ⟨k', hk', hns, h⟩
    · rename_i hs
      have hrest : (∃ k' ∈ ks, k' ∉ k :: seen ∧ parse k' = some i) ∨ parse k = some i ↔
          ∃ k' ∈ k :: ks, k' ∉ seen ∧ parse k' = some i := by
        constructor
        · rintro (⟨k', hk', hns, h⟩ | h)
          · exact ⟨k', List.mem_cons_of_mem _ hk', fun hm => hns (List.mem_cons_of_mem _ hm), h⟩
          · exact ⟨k, List.mem_cons_self, hs, h⟩
        · rintro ⟨k', hk', hns, h⟩
          by_cases hkk : k' = k
          · exact Or.inr (hkk ▸ h)
          · have hk'' : k' ∈ ks := (List.mem_cons.1 hk').resolve_left hkk
            exact Or.inl ⟨k', hk'', by simp [hkk, hns], h⟩
      rw [← hrest]
      split
      · rename_i j hj
        rw [List.mem_cons, mem_collect, hj, Option.some.injEq, eq_comm (a := i), or_comm]
      · rename_i hj
        rw [mem_collect, hj]
        simp

/-- The table, an answer filed after the ones before it. -/
def assign (key : α → κ) (value : α → Option β) (answers : List α) : κ → Option β :=
  answers.foldl (fun table a k => if k = key a then (value a).or (table k) else table k) (fun _ => none)

theorem foldl_other {key : α → κ} {value : α → Option β} {k : κ} : ∀ {answers : List α} {table : κ → Option β},
    (∀ a ∈ answers, key a ≠ k) →
    answers.foldl (fun table a k => if k = key a then (value a).or (table k) else table k) table k = table k
  | [], _, _ => rfl
  | a :: answers, table, h => by
    rw [List.foldl_cons, foldl_other (fun b hb => h b (List.mem_cons_of_mem _ hb)),
      if_neg (fun hk => h a List.mem_cons_self hk.symm)]

theorem assign_other {key : α → κ} {value : α → Option β} {k : κ} {answers : List α} (h : ∀ a ∈ answers, key a ≠ k) :
    assign key value answers k = none := foldl_other h

/-- **Each answer is found under its own key**, when no two answers share one. -/
theorem assign_mem {key : α → κ} {value : α → Option β} {answers : List α} (h : (answers.map key).Nodup) {a : α}
    (ha : a ∈ answers) : assign key value answers (key a) = value a := by
  obtain ⟨before, after, rfl⟩ := List.append_of_mem ha
  rw [List.map_append, List.map_cons, List.nodup_append] at h
  obtain ⟨-, hafter, hdisjoint⟩ := h
  have hb : ∀ b ∈ before, key b ≠ key a := fun b hb =>
    hdisjoint _ (List.mem_map_of_mem hb) _ List.mem_cons_self
  have hc : ∀ b ∈ after, key b ≠ key a := fun b hb heq =>
    (List.nodup_cons.1 hafter).1 (heq ▸ List.mem_map_of_mem hb)
  rw [assign, List.foldl_append, List.foldl_cons, foldl_other hc, if_pos rfl, foldl_other hb, Option.or_none]

end Batch
