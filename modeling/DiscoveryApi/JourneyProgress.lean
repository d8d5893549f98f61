import DiscoveryApi.Activity
import DiscoveryApi.Reference
/-!
# JourneyProgress — what the Next count adds up

The Next count sums the `resources` of the items of `next` themselves, the arithmetic of the shared progress read.  A
live journey nests one level deeper, modules over topics, and its topics are not looked into.
-/
namespace Discovery
namespace JourneyService

def topicsOf (item : Value) : List Value := Value.elements (item.field "topics")

/-- The live schema: `next` lists modules, a module lists topics, a topic lists resources. -/
structure LiveShape (j : Document) : Prop extends JourneyWf j where
  topics : ∀ m ∈ nextItems j, arrayWf (m.field "topics") ∧
    ∀ t ∈ topicsOf m, ∃ fs, t = .doc fs ∧ arrayWf (fs.lookup "resources")

/-- The resources of all topics of all modules. -/
def topicResources (j : Document) : Nat :=
  ((nextItems j).map (fun m => ((topicsOf m).map (fun t => (resourcesOf t).length)).sum)).sum

/-- The resources the modules list themselves. -/
def ownResources (j : Document) : Nat := ((nextItems j).map (fun m => (resourcesOf m).length)).sum

theorem ownResources_eq_zero_iff {j : Document} : ownResources j = 0 ↔ ∀ m ∈ nextItems j, resourcesOf m = [] := by
  unfold ownResources
  rw [List.sum_eq_zero_iff_forall_eq_nat]
  simp only [List.mem_map, forall_exists_index, and_imp, forall_apply_eq_imp_iff₂, List.length_eq_zero_iff]

section
variable {api : ApiUtils} (h : api.Documented)
include h

/-- A spelled id reads the journeys of its ObjectId. -/
theorem resourceCounts_denotes {v : Value} {o : ObjectId} (hv : v.Denotes o) (c : Collection) :
    resourceCountsForProfile api c (some v) = resourceCountsForProfile api c (some (.oid o)) := by
  have ho : (Value.oid o).Denotes o := Or.inl rfl
  have hm : ∀ {w : Value}, w.Denotes o →
      api.encodeDocument [("profile_id", w), ("status", .str "active")] api.journeyIdProperties [] =
        .ok [("profile_id", .oid o), ("status", .str "active")] := by
    intro w hw
    rw [h.encode_id h.journeyIds.1 (by simp [ApiUtils.inert, ApiUtils.inertValue, h.journeyIds.2]),
      encodeId_denotes h hw]
    rfl
  unfold resourceCountsForProfile
  rw [Option.filter_some_pos hv.truthy, Option.filter_some_pos ho.truthy]
  simp only [hm hv, hm ho]

/-- **Journey progress**: the lengths of `library` and `now`, and for `next` the resources its modules list themselves,
whatever their topics hold; zeros without an active journey. -/
theorem resourceCounts_live {v : Value} {o : ObjectId} (hv : v.Denotes o) (c : Collection) :
    (c.docs.filter (Document.activeJourneyOf o) = [] →
      resourceCountsForProfile api c (some v) = .ok zeroCounts) ∧
    ∀ j, c.docs.filter (Document.activeJourneyOf o) = [j] → LiveShape j →
      resourceCountsForProfile api c (some v) = .ok ⟨(Value.elements (j.fields "library")).length,
        (Value.elements (j.fields "now")).length, ownResources j⟩ ∧
      (ownResources j = 0 ↔ ∀ m ∈ nextItems j, resourcesOf m = []) := by
  rw [resourceCounts_denotes h hv, resourceCounts_eq h]
  refine ⟨fun hnone => by rw [hnone], fun j hj hlive => ⟨?_, ownResources_eq_zero_iff⟩⟩
  rw [hj]
  exact journeyCounts_ok hlive.toJourneyWf

end

/-- A live journey: one module, two topics with three resources between them. -/
def liveJourney : Document :=
  Document.ofList (Reference.idOf 4) [("profile_id", .oid (Reference.idOf 0xa2)), ("status", .str "active"),
    ("library", .list [.str "read"]),
    ("next", .list [.doc [("topics", .list [.doc [("resources", .list [.str "a", .str "b"])],
      .doc [("resources", .list [.str "c"])]])]])] rfl

def liveJourneys : Collection := ⟨[liveJourney], List.nodup_singleton _⟩

theorem liveJourney_shape : LiveShape liveJourney where
  library := Or.inr (Or.inr ⟨_, rfl⟩)
  now := Or.inl rfl
  next := by
    refine Or.inr (Or.inr ⟨_, rfl, fun x hx => ?_⟩)
    rw [List.mem_singleton.1 hx]
    exact ⟨_, rfl, Or.inl rfl⟩
  topics := by
    intro m hm
    rw [List.mem_singleton.1 hm]
    refine ⟨Or.inr (Or.inr ⟨_, rfl⟩), fun t ht => ?_⟩
    rcases List.mem_cons.1 ht with rfl | ht
    · exact ⟨_, rfl, Or.inr (Or.inr ⟨_, rfl⟩)⟩
    · rw [List.mem_singleton.1 ht]
      exact ⟨_, rfl, Or.inr (Or.inr ⟨_, rfl⟩)⟩

theorem active_liveJourney :
    liveJourneys.docs.filter (Document.activeJourneyOf (Reference.idOf 0xa2)) = [liveJourney] := by
  have hactive : Document.activeJourneyOf (Reference.idOf 0xa2) liveJourney = true := by decide
  rw [liveJourneys, List.filter_cons_of_pos hactive, List.filter_nil]

theorem resourceCounts_live_spelled :
    resourceCountsForProfile reference liveJourneys (some (.str "0000000000000000000000A2")) = .ok ⟨1, 0, 0⟩ :=
  ((resourceCounts_live reference_documented (Or.inr ⟨_, rfl, by decide⟩) liveJourneys).2 liveJourney
    active_liveJourney liveJourney_shape).1

/-- **The resources of the topics are not counted.** -/
theorem topics_not_counted :
    resourceCountsForProfile reference liveJourneys (some (.oid (Reference.idOf 0xa2))) ≠
      .ok ⟨1, 0, topicResources liveJourney⟩ := by
  have hcounts : resourceCountsForProfile reference liveJourneys (some (.oid (Reference.idOf 0xa2))) = .ok ⟨1, 0, 0⟩ := by
    rw [resourceCounts_eq reference_documented, active_liveJourney]
    rfl
  rw [hcounts]
  decide

end JourneyService
end Discovery
