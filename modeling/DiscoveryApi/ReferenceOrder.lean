import DiscoveryApi.Reference
/-!
# ReferenceOrder — the order of the reference's Notification list

Values compare by rank, then number, then text, so the list's sort is by a total order that reads a document's creation
time and id, and no breadcrumb.
-/
namespace Discovery
namespace Reference

/-- The number a value is ordered by, within its rank. -/
def number : Option Value → Int
  | some (.int x) | some (.date x) => x
  | _ => 0

/-- The text a value is ordered by, within its rank. -/
def text : Option Value → List Nat
  | some (.str x) => x.toList.map Char.toNat
  | some (.oid x) => x.nibbles.map Fin.val
  | _ => []

abbrev compareKey : Option Value → Option Value → Ordering :=
  compareLex (compareOn rank) (compareLex (compareOn number) (compareOn text))

theorem compareValue_eq (a b : Option Value) : compareValue a b = compareKey a b := by
  unfold compareValue compareKey compareLex compareOn
  split
  · simp [rank, number, text]
  · simp [rank, number, text]
  · simp [rank, number, text]
  · simp [rank, number, text]
  · rename_i hint hdate hstr hoid
    by_cases hr : rank a = rank b
    · have hsame : number a = number b ∧ text a = text b := by
        rcases a with _ | a <;> rcases b with _ | b <;> (try cases a) <;> (try cases b) <;>
          first
          | exact ⟨rfl, rfl⟩
          | exact (hint _ _ rfl rfl).elim
          | exact (hdate _ _ rfl rfl).elim
          | exact (hstr _ _ rfl rfl).elim
          | exact (hoid _ _ rfl rfl).elim
          | cases hr
      rw [hr, hsame.1, hsame.2]
      simp
    · have hne : compare (rank a) (rank b) ≠ .eq := fun h => hr (Nat.compare_eq_eq.1 h)
      cases hc : compare (rank a) (rank b) with
      | eq => exact absurd hc hne
      | lt => rfl
      | gt => rfl

instance (k : String) : Std.TransCmp (fun a b => compareKey (valueAt a k) (valueAt b k)) :=
  inferInstanceAs (Std.TransCmp (compareLex (compareOn (fun d => rank (valueAt d k)))
    (compareLex (compareOn (fun d => number (valueAt d k))) (compareOn (fun d => text (valueAt d k))))))

abbrev compareListed : Document → Document → Ordering :=
  compareLex (fun a b => compareKey (valueAt a "created.at_time") (valueAt b "created.at_time"))
    (fun a b => compareKey (valueAt a "_id") (valueAt b "_id"))

/-- Newest first, and by descending id among equals. -/
def newer (a b : Document) : Prop := sortLe notificationSort a b = true

theorem newer_iff {a b : Document} : newer a b ↔ (compareListed a b).isGE = true := by
  rw [newer, notificationSort, sortLe, sortLe, sortLe, compareValue_eq, compareValue_eq]
  unfold compareListed compareLex
  dsimp only
  cases compareKey (valueAt a "created.at_time") (valueAt b "created.at_time") with
  | lt => rfl
  | gt => rfl
  | eq => cases compareKey (valueAt a "_id") (valueAt b "_id") <;> rfl

theorem compareListed_swap (a b : Document) : compareListed b a = (compareListed a b).swap := Std.OrientedCmp.eq_swap

instance : DecidableRel newer := fun a b => inferInstanceAs (Decidable (sortLe notificationSort a b = true))

instance : Std.Total newer where
  total a b := by
    rw [newer_iff, newer_iff, compareListed_swap a b]
    cases compareListed a b <;> simp

instance : IsTrans Document newer where
  trans _ _ _ hab hbc := newer_iff.2 (Std.TransCmp.isGE_trans (newer_iff.1 hab) (newer_iff.1 hbc))

theorem valueAt_created (d : Document) : valueAt d "created.at_time" = d.path "created" "at_time" := by
  have hpath : ("created" ++ "." ++ "at_time" : String) = "created.at_time" := by decide
  rw [← hpath, valueAt_path d (by decide)]

theorem valueAt_id (d : Document) : valueAt d "_id" = some (.oid d.id) := valueAt_field d (by decide)

theorem id_eq_of_newer {a b : Document} (hab : newer a b) (hba : newer b a) : a.id = b.id := by
  rw [newer_iff] at hab hba
  rw [compareListed_swap a b] at hba
  have heq : compareListed a b = .eq := by
    cases hc : compareListed a b <;> simp [hc] at hab hba ⊢
  have hid := (compareLex_eq_eq.1 heq).2
  rw [valueAt_id, valueAt_id] at hid
  have htext : compare (a.id.nibbles.map Fin.val) (b.id.nibbles.map Fin.val) = .eq :=
    (compareLex_eq_eq.1 (compareLex_eq_eq.1 hid).2).2
  have hnibbles := List.map_injective_iff.2 Fin.val_injective (Std.LawfulEqCmp.eq_of_compare htext)
  cases ha : a.id
  cases hb : b.id
  simpa only [ha, hb, ObjectId.mk.injEq] using hnibbles

theorem newer_setControl (a b : Document) (f : ControlField) (v : Value) :
    (newer (a.setControl f v) b ↔ newer a b) ∧ (newer a (b.setControl f v) ↔ newer a b) := by
  have hcreated : ∀ d : Document, valueAt (d.setControl f v) "created.at_time" = valueAt d "created.at_time" := fun d => by
    rw [valueAt_created, valueAt_created, Document.path, Document.path, Document.dict_of_ne _ (by decide),
      Document.dict_of_ne _ (by decide), Document.setControl_of_ne _ _ _ (by cases f <;> decide)]
  have hid : ∀ d : Document, valueAt (d.setControl f v) "_id" = valueAt d "_id" := fun d => by
    rw [valueAt_id, valueAt_id, Document.setControl_id]
  constructor <;> rw [newer_iff, newer_iff, compareListed, compareLex, compareLex] <;> simp only [hcreated, hid]

end Reference

end Discovery
