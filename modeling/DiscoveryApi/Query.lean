import DiscoveryApi.ApiUtils
/-!
# Query — what the clauses the services write select

Each clause is evaluated once, on the schemas `Document.wf` carries: an id clause selects the documents that refer to
that id, and a claim under an id property selects those that refer to the id it denotes, or nothing.
-/
namespace Discovery

namespace Document

def refersTo (d : Document) (k : String) (o : ObjectId) : Bool := decide (d.dict k = some (.oid o))

/-- The document's `k` is the id the spelling denotes. -/
def names (d : Document) (k : String) (s : String) : Bool := (ObjectId.ofHex? s).any (d.refersTo k)

def archived (d : Document) : Bool := decide (d.fields "status" = some (.str archivedStatus))

def atTime (d : Document) : Option Int :=
  match d.path "created" "at_time" with
  | some (.date t) => some t
  | _ => none

theorem refersTo_iff {d : Document} {k : String} {o : ObjectId} :
    d.refersTo k o = true ↔ d.dict k = some (.oid o) := decide_eq_true_iff

theorem names_iff {d : Document} {k s : String} :
    d.names k s = true ↔ ∃ o, ObjectId.ofHex? s = some o ∧ d.dict k = some (.oid o) := by
  unfold names
  cases ObjectId.ofHex? s with
  | none => simp
  | some o => simp [refersTo]

theorem dict_fields (d : Document) {k : String} (hk : k ∈ idFields) : d.dict k = d.fields k :=
  d.dict_of_ne (fun h => by rw [h] at hk; exact absurd hk (by decide))

theorem dict_id_cases (d : Document) {k : String} (hk : k ∈ "_id" :: idFields) :
    d.dict k = none ∨ d.dict k = some .null ∨ ∃ o, d.dict k = some (.oid o) := by
  rcases List.mem_cons.1 hk with rfl | hk
  · exact Or.inr (Or.inr ⟨d.id, d.dict_id⟩)
  · rw [d.dict_fields hk]
    exact d.idField_cases hk

theorem dict_id_ne_list (d : Document) {k : String} (hk : k ∈ "_id" :: idFields) (xs : List Value) :
    d.dict k ≠ some (.list xs) := by
  rcases d.dict_id_cases hk with h | h | ⟨o, h⟩ <;> simp [h]

theorem dict_id_ne_str (d : Document) {k : String} (hk : k ∈ "_id" :: idFields) (s : String) :
    d.dict k ≠ some (.str s) := by
  rcases d.dict_id_cases hk with h | h | ⟨o, h⟩ <;> simp [h]

theorem status_ne_list (d : Document) (xs : List Value) : d.dict "status" ≠ some (.list xs) := by
  intro h
  rw [d.dict_of_ne (by decide)] at h
  exact absurd (d.wf _ _ h) (by simp [entryWf, idFields, Value.strOrNull])

theorem context_ne_list (d : Document) (xs : List Value) : d.dict "context" ≠ some (.list xs) := by
  intro h
  rw [d.dict_of_ne (by decide)] at h
  exact absurd (d.wf _ _ h) (by simp [entryWf, idFields, Value.docOrNull])

theorem created_ne_list (d : Document) (xs : List Value) : d.dict "created" ≠ some (.list xs) := by
  intro h
  rw [d.dict_of_ne (by decide)] at h
  exact absurd (d.wf _ _ h) (by simp [entryWf, idFields, Value.flatOrNull])

theorem created_path_ne_list (d : Document) (sub : String) (xs : List Value) :
    d.path "created" sub ≠ some (.list xs) := by
  intro h
  unfold path at h
  split at h
  · rename_i fs hfs
    rw [d.dict_of_ne (by decide)] at hfs
    obtain ⟨l, r, rfl, -⟩ := List.lookup_eq_some_iff.1 h
    have hw := d.wf _ _ hfs
    simp [entryWf, idFields, Value.flatOrNull, Value.isList] at hw
  · cases h

end Document

/-! ## The id a value names -/

/-- A profile id as a caller holds it: the ObjectId, or its spelling in either letter case. -/
def Value.Denotes (v : Value) (o : ObjectId) : Prop := v = .oid o ∨ ∃ s, v = .str s ∧ ObjectId.ofHex? s = some o

theorem Value.Denotes.truthy {v : Value} {o : ObjectId} (h : v.Denotes o) : v.truthy = true := by
  rcases h with rfl | ⟨s, rfl, hs⟩
  · rfl
  · exact decide_eq_true (ObjectId.ne_empty_of_ofHex? hs)

/-! ## Clauses -/

theorem fieldName_id {k : String} (hk : k ∈ "_id" :: idFields) : ApiUtils.fieldName k = true := by
  have hall : ∀ x ∈ "_id" :: idFields, ApiUtils.fieldName x = true := by decide
  exact hall k hk

section
variable {api : ApiUtils} (h : api.Documented)
include h

theorem sat_append (a b : Match) (d : Document) : api.sat (a ++ b) d = (api.sat a d && api.sat b d) := by
  induction a with
  | nil => rw [List.nil_append, h.sat_nil, Bool.true_and]
  | cons p a ih => rw [List.cons_append, h.sat_cons, ih, h.sat_cons p a, Bool.and_assoc]

theorem sat_oid {k : String} (hk : k ∈ "_id" :: idFields) (o : ObjectId) (d : Document) :
    api.sat [(k, .oid o)] d = d.refersTo k o := by
  rw [Bool.eq_iff_iff, h.sat_eq (fieldName_id hk) rfl (d.dict_id_ne_list hk), Document.refersTo_iff]

/-- **A claim under an id property** selects what the id it denotes selects, and nothing when it denotes none. -/
theorem sat_encoded {k : String} (hk : k ∈ "_id" :: idFields) {s : String} {v : Value}
    (hv : api.encodeId (.str s) = .ok v) (d : Document) : api.sat [(k, v)] d = d.names k s := by
  unfold Document.names
  cases hs : ObjectId.ofHex? s with
  | some o =>
    rw [h.encodeId_hex hs] at hv
    cases hv
    exact sat_oid h hk o d
  | none =>
    rcases h.encodeId_other hs with he | ⟨e, he⟩
    · rw [he] at hv
      cases hv
      have hno := (h.sat_eq (v := .str s) (fieldName_id hk) rfl (d.dict_id_ne_list hk)).not.2 (d.dict_id_ne_str hk s)
      simpa using hno
    · rw [he] at hv
      cases hv

theorem encodeId_denotes {v : Value} {o : ObjectId} (hv : v.Denotes o) : api.encodeId v = .ok (.oid o) := by
  rcases hv with rfl | ⟨s, rfl, hs⟩
  · exact h.encodeId_oid o
  · exact h.encodeId_hex hs

theorem sat_not_archived (d : Document) :
    api.sat [("status", .doc [("$ne", .str archivedStatus)])] d = !d.archived := by
  rw [Bool.eq_iff_iff, h.sat_ne (by decide) rfl d.status_ne_list, d.dict_of_ne (by decide), Document.archived]
  simp

theorem sat_status {s : String} (d : Document) :
    api.sat [("status", .str s)] d = decide (d.fields "status" = some (.str s)) := by
  rw [Bool.eq_iff_iff, h.sat_eq (by decide) rfl d.status_ne_list, d.dict_of_ne (by decide), decide_eq_true_iff]

theorem sat_absent_field {k : String} (hf : ApiUtils.fieldName k = true) (hk : k ≠ "_id") (d : Document) :
    api.sat [(k, .doc [("$exists", .bool false)])] d = (d.fields k).isNone := by
  rw [Bool.eq_iff_iff, h.sat_absent hf, d.dict_of_ne hk, Option.isNone_iff_eq_none]

theorem sat_since (t : Int) (d : Document) :
    api.sat [("created.at_time", .doc [("$gte", .date t)])] d =
      d.atTime.any (fun u => decide (ApiUtils.wholeMillis t ≤ u)) := by
  rw [Bool.eq_iff_iff, show "created.at_time" = "created" ++ "." ++ "at_time" from by decide,
    h.sat_path_gte (by decide) (by decide) d.created_ne_list (d.created_path_ne_list _)]
  unfold Document.atTime
  split
  · rename_i u hu
    simp [hu]
  · rename_i hne
    simpa using fun u hu => absurd hu (hne u)

theorem sat_author (userId : String) (d : Document) :
    api.sat [("created.by_user", .str userId)] d = decide (d.path "created" "by_user" = some (.str userId)) := by
  rw [Bool.eq_iff_iff, show "created.by_user" = "created" ++ "." ++ "by_user" from by decide,
    h.sat_path (by decide) (by decide) rfl d.created_ne_list (d.created_path_ne_list _),
    decide_eq_true_iff]

theorem encode_scope {k : String} {ids dates : List String} (hk : k ∈ ids) (v : Value) :
    api.encodeDocument [(k, v)] ids dates = (api.encodeId v).map (fun v' => [(k, v')]) := h.encode_id hk rfl

end

end Discovery
