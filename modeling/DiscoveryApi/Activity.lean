import DiscoveryApi.Description
import DiscoveryApi.Query
/-!
# Activity — the Journey, Event and Note reads of a card

Three reads that bypass outbound RBAC, each keyed by a Profile `_id`.  Each is proved equal to a filter of its
collection, so a card reads of the three collections only what is about its own Profile.
-/
namespace Discovery

/-! ## Python's operations on a stored value -/

namespace Value

def len : Value → Except HTTPError Nat
  | .list xs => .ok xs.length
  | .doc fs => .ok fs.length
  | .str s => .ok s.length
  | _ => .error (.unhandled "TypeError")

/-- `for x in v` -/
def items : Value → Except HTTPError (List Value)
  | .list xs => .ok xs
  | .doc fs => .ok (fs.map (fun p => .str p.1))
  | .str s => .ok (s.toList.map (fun ch => .str (String.ofList [ch])))
  | _ => .error (.unhandled "TypeError")

def get (k : String) : Value → Except HTTPError (Option Value)
  | .doc fs => .ok (fs.lookup k)
  | _ => .error (.unhandled "AttributeError")

/-- `v or []` -/
def orEmpty : Option Value → Value
  | none => .list []
  | some v => if v.truthy then v else .list []

end Value

/-! ## Journey progress -/

namespace JourneyService

def zeroCounts : ResourceCounts := ⟨0, 0, 0⟩

def journeyCounts (journey : Dict) : Except HTTPError ResourceCounts := do
  let topics ← (Value.orEmpty (journey "next")).items
  let sizes ← topics.mapM (fun topic => do
    let resources ← topic.get "resources"
    (Value.orEmpty resources).len)
  let library ← (Value.orEmpty (journey "library")).len
  let now ← (Value.orEmpty (journey "now")).len
  .ok ⟨library, now, sizes.sum⟩

def resourceCountsForProfile (api : ApiUtils) (c : Collection) (profileId : Option Value) :
    Except HTTPError ResourceCounts :=
  match profileId.filter Value.truthy with
  | none => .ok zeroCounts
  | some profileId => do
    let m ← api.encodeDocument [("profile_id", profileId), ("status", .str "active")] api.journeyIdProperties []
    match api.getDocuments c m with
    | [] => .ok zeroCounts
    | journey :: _ => journeyCounts journey.dict

end JourneyService

/-! ## Recent events -/

namespace EventService

/-- `datetime.now(timezone.utc) - timedelta(days=days)`, in microseconds. -/
def cutoff (now : Int) (days : Nat) : Int := now - days * 86400000000

def recentEventCountForProfile (api : ApiUtils) (c : Collection) (profileId : Option Value) (now : Int)
    (days : Nat) : Except HTTPError Nat :=
  match profileId.filter Value.truthy with
  | none => .ok 0
  | some profileId => do
    let contextClause ← api.encodeDocument [("context", .doc [("profile_id", profileId)])] api.eventIdProperties
      api.eventDateProperties
    let topClause ← api.encodeDocument [("profile_id", profileId)] api.eventIdProperties api.eventDateProperties
    let m := [("$or", .list [.doc contextClause, .doc topClause]),
      ("created.at_time", .doc [("$gte", .date (cutoff now days))])]
    .ok (api.getDocuments c m).length

end EventService

/-! ## The caller's notes -/

namespace NoteService

def noteCardLimit : Int := 3

def notesForProfile (api : ApiUtils) (c : Collection) (profileId : Option Value) (token : Token) :
    Except HTTPError (List Document) :=
  match profileId.filter Value.truthy with
  | none => .ok []
  | some profileId => do
    let m ← api.encodeDocument [("profile_id", profileId), ("status", .doc [("$ne", .str archivedStatus)])]
      api.noteIdProperties []
    let m := match truthyClaim token.userId with
      | some userId => m ++ [("created.by_user", .str userId)]
      | none => m
    let sortBy := api.buildSortBy api.noteListOrder.defaultField api.noteListOrder.defaultOrder api.noteListOrder
    api.executeListQuery c m sortBy 0 noteCardLimit

end NoteService

/-! ## What each read selects -/

namespace Document

def activeJourneyOf (o : ObjectId) (j : Document) : Bool :=
  j.refersTo "profile_id" o && decide (j.fields "status" = some (.str "active"))

/-- The two clauses an event is found by: `context` is the profile alone, or the legacy top-level field. -/
def eventMatchedBy (o : ObjectId) (e : Document) : Bool :=
  decide (e.fields "context" = some (.doc [("profile_id", .oid o)])) || e.refersTo "profile_id" o

def noteAbout (o : ObjectId) (n : Document) : Bool := n.refersTo "profile_id" o && !n.archived

def writtenBy (userId : Option String) (n : Document) : Bool :=
  (truthyClaim userId).all (fun u => decide (n.path "created" "by_user" = some (.str u)))

end Document

section
variable {api : ApiUtils} (h : api.Documented)
include h

open JourneyService EventService NoteService

theorem resourceCounts_eq (c : Collection) (o : ObjectId) :
    resourceCountsForProfile api c (some (.oid o)) =
      match c.docs.filter (Document.activeJourneyOf o) with
      | [] => .ok zeroCounts
      | journey :: _ => journeyCounts journey.dict := by
  have hm : api.encodeDocument [("profile_id", .oid o), ("status", .str "active")] api.journeyIdProperties [] =
      .ok [("profile_id", .oid o), ("status", .str "active")] := by
    rw [h.encode_id h.journeyIds.1 (by simp [ApiUtils.inert, ApiUtils.inertValue, h.journeyIds.2]), h.encodeId_oid]
    rfl
  have hsat : api.sat [("profile_id", .oid o), ("status", .str "active")] = Document.activeJourneyOf o := by
    funext d
    rw [h.sat_cons, sat_oid h (by decide), sat_status h]
    rfl
  unfold resourceCountsForProfile
  simp only [Option.filter_some, Value.truthy, if_true, bind, Except.bind, hm, h.getDocuments_eq, hsat]

theorem recentEventCount_eq (c : Collection) (o : ObjectId) (now : Int) (days : Nat) :
    recentEventCountForProfile api c (some (.oid o)) now days =
      .ok (c.docs.filter (fun e => e.eventMatchedBy o &&
        e.atTime.any (fun t => decide (ApiUtils.wholeMillis (cutoff now days) ≤ t)))).length := by
  have htop : api.encodeDocument [("profile_id", .oid o)] api.eventIdProperties api.eventDateProperties =
      .ok [("profile_id", .oid o)] := by
    rw [encode_scope h h.eventIds.1, h.encodeId_oid]
    rfl
  have hctx : api.encodeDocument [("context", .doc [("profile_id", .oid o)])] api.eventIdProperties
      api.eventDateProperties = .ok [("context", .doc [("profile_id", .oid o)])] := by
    rw [h.encode_nested (fun hk => h.eventIds.2 (List.mem_append_left _ hk))
      (fun hk => h.eventIds.2 (List.mem_append_right _ hk)), htop]
    rfl
  have hsat : api.sat [("$or", .list [.doc [("context", .doc [("profile_id", .oid o)])], .doc [("profile_id", .oid o)]]),
      ("created.at_time", .doc [("$gte", .date (cutoff now days))])] =
      fun e => e.eventMatchedBy o && e.atTime.any (fun t => decide (ApiUtils.wholeMillis (cutoff now days) ≤ t)) := by
    funext d
    have hor := h.sat_or [[("context", .doc [("profile_id", .oid o)])], [("profile_id", .oid o)]] d
    have hcontext : api.sat [("context", .doc [("profile_id", .oid o)])] d =
        decide (d.fields "context" = some (.doc [("profile_id", .oid o)])) := by
      have hlit : (Value.doc [("profile_id", .oid o)]).literal = true := by simp [Value.literal]
      rw [Bool.eq_iff_iff, h.sat_eq (by decide) hlit d.context_ne_list, d.dict_of_ne (by decide),
        decide_eq_true_iff]
    rw [h.sat_cons, sat_since h]
    rw [List.map_cons, List.map_cons, List.map_nil] at hor
    rw [hor, List.any_cons, List.any_cons, List.any_nil, hcontext, sat_oid h (by decide), Bool.or_false]
    rfl
  unfold recentEventCountForProfile
  simp only [Option.filter_some, Value.truthy, if_true, bind, Except.bind, hctx, htop, h.getDocuments_eq, hsat]

theorem notesForProfile_eq (c : Collection) (o : ObjectId) (token : Token) :
    notesForProfile api c (some (.oid o)) token =
      .ok (api.pageOf (api.buildSortBy api.noteListOrder.defaultField api.noteListOrder.defaultOrder api.noteListOrder)
        (fun n => n.noteAbout o && n.writtenBy token.userId) c 0 noteCardLimit) := by
  have hm : api.encodeDocument [("profile_id", .oid o), ("status", .doc [("$ne", .str archivedStatus)])]
      api.noteIdProperties [] = .ok [("profile_id", .oid o), ("status", .doc [("$ne", .str archivedStatus)])] := by
    rw [h.encode_id h.noteIds.1
      (by simp [ApiUtils.inert, ApiUtils.inertValue, h.noteIds.2.1, h.noteIds.2.2]), h.encodeId_oid]
    rfl
  have habout : api.sat [("profile_id", .oid o), ("status", .doc [("$ne", .str archivedStatus)])] =
      Document.noteAbout o := by
    funext d
    rw [h.sat_cons, sat_oid h (by decide), sat_not_archived h]
    rfl
  have hauthor : ∀ u, api.sat ([("profile_id", .oid o), ("status", .doc [("$ne", .str archivedStatus)])] ++
      [("created.by_user", .str u)]) = fun n => n.noteAbout o &&
        decide (n.path "created" "by_user" = some (.str u)) := by
    intro u
    funext d
    rw [sat_append h, habout, sat_author h]
  unfold notesForProfile
  simp only [Option.filter_some, Value.truthy, if_true, bind, Except.bind, hm]
  rw [h.listQuery_eq (by decide) (by decide) (by decide)]
  cases hu : truthyClaim token.userId with
  | none => simp only [habout, Document.writtenBy, hu, Option.all_none, Bool.and_true]
  | some u => simp only [hauthor, Document.writtenBy, hu, Option.all_some]

end

/-! ## A stored journey counts -/

namespace Value

/-- The elements of an array field, none where it is absent or null. -/
def elements : Option Value → List Value
  | some (.list xs) => xs
  | _ => []

def field (k : String) : Value → Option Value
  | .doc fs => fs.lookup k
  | _ => none

theorem len_orEmpty {v : Option Value} (hv : arrayWf v) : (orEmpty v).len = .ok (elements v).length := by
  rcases hv with rfl | rfl | ⟨xs, rfl⟩
  · rfl
  · rfl
  · cases xs <;> rfl

theorem items_orEmpty {v : Option Value} (hv : arrayWf v) : (orEmpty v).items = .ok (elements v) := by
  rcases hv with rfl | rfl | ⟨xs, rfl⟩
  · rfl
  · rfl
  · cases xs <;> rfl

end Value

namespace JourneyService

/-- The resources an item of `next` lists itself. -/
def resourcesOf (item : Value) : List Value := Value.elements (item.field "resources")

def nextItems (j : Document) : List Value := Value.elements (j.fields "next")

theorem sizes_ok : ∀ {topics : List Value}, (∀ x ∈ topics, ∃ fs, x = .doc fs ∧ arrayWf (fs.lookup "resources")) →
    topics.mapM (fun topic => do
      let resources ← topic.get "resources"
      (Value.orEmpty resources).len) =
        (.ok (topics.map (fun topic => (resourcesOf topic).length)) : Except HTTPError (List Nat))
  | [], _ => rfl
  | x :: topics, hx => by
    obtain ⟨fs, rfl, hr⟩ := hx x List.mem_cons_self
    rw [List.mapM_cons, sizes_ok (fun y hy => hx y (List.mem_cons_of_mem _ hy))]
    simp only [Value.get, bind, Except.bind, Value.len_orEmpty hr]
    rfl

theorem nextItems_wf {j : Document} (hj : JourneyWf j) : arrayWf (j.fields "next") ∧
    ∀ x ∈ nextItems j, ∃ fs, x = .doc fs ∧ arrayWf (fs.lookup "resources") := by
  unfold nextItems
  rcases hj.next with hx | hx | ⟨items, hx, hi⟩ <;> rw [hx]
  · exact ⟨Or.inl rfl, fun _ hm => absurd hm List.not_mem_nil⟩
  · exact ⟨Or.inr (Or.inl rfl), fun _ hm => absurd hm List.not_mem_nil⟩
  · exact ⟨Or.inr (Or.inr ⟨items, rfl⟩), hi⟩

/-- What the counts of a stored journey are. -/
def countsOf (j : Document) : ResourceCounts where
  library := (Value.elements (j.fields "library")).length
  now := (Value.elements (j.fields "now")).length
  next := ((nextItems j).map (fun item => (resourcesOf item).length)).sum

/-- **The counts of a stored journey never raise**: its arrays are arrays. -/
theorem journeyCounts_ok {j : Document} (hj : JourneyWf j) : journeyCounts j.dict = .ok (countsOf j) := by
  have hd : ∀ {k}, k ≠ "_id" → j.dict k = j.fields k := fun hk => j.dict_of_ne hk
  obtain ⟨hnext, hi⟩ := nextItems_wf hj
  have hs := sizes_ok hi
  unfold journeyCounts
  rw [hd (by decide), hd (by decide), hd (by decide), Value.items_orEmpty hnext, Value.len_orEmpty hj.library,
    Value.len_orEmpty hj.now]
  simp only [bind, Except.bind] at hs ⊢
  rw [show Value.elements (j.fields "next") = nextItems j from rfl, hs]
  rfl

end JourneyService

end Discovery
