import DiscoveryApi.HomeNoninterference
/-!
# ActivityCount — which events the activity count misses

The context clause is a whole sub-document: MongoDB compares it with the stored `context`, so an event whose context
carries anything beside the profile is counted only if its legacy top-level field names the profile too.  The cutoff
reaches the server in whole milliseconds, so an event may be counted that is older than the window by less than one.
-/
namespace Discovery

/-- The event happened in the window. -/
def Document.since (cutoff : Int) (e : Document) : Bool := e.atTime.any (fun t => decide (cutoff ≤ t))

namespace EventService

/-- What the activity count is to be: the profile's events in the window, each once. -/
def recentEventsOf (c : Collection) (o : ObjectId) (now : Int) (days : Nat) : List Document :=
  c.docs.filter (fun e => e.eventOf o && e.since (cutoff now days))

/-- The context holds the profile and nothing else. -/
def bareContext (o : ObjectId) (e : Document) : Bool := decide (e.fields "context" = some (.doc [("profile_id", .oid o)]))

/-- An event of the window that is the profile's by its context alone, and the context holds another field. -/
def missed (o : ObjectId) (cutoff : Int) (e : Document) : Bool :=
  e.since cutoff && decide (e.path "context" "profile_id" = some (.oid o)) &&
    !(bareContext o e || e.refersTo "profile_id" o)

/-- An event the clauses find that is older than the window, by less than a millisecond. -/
def early (o : ObjectId) (cutoff : Int) (e : Document) : Bool :=
  e.since (ApiUtils.wholeMillis cutoff) && !e.since cutoff && (bareContext o e || e.refersTo "profile_id" o)

theorem eventMatchedBy_eq (o : ObjectId) (e : Document) :
    e.eventMatchedBy o = (bareContext o e || e.refersTo "profile_id" o) := rfl

theorem wholeMillis_le (t : Int) : ApiUtils.wholeMillis t ≤ t := by
  unfold ApiUtils.wholeMillis
  omega

theorem since_wholeMillis {cutoff : Int} {e : Document} (hs : e.since cutoff = true) :
    e.since (ApiUtils.wholeMillis cutoff) = true := by
  obtain ⟨t, ht, hle⟩ := (Option.any_eq_true _ _).1 hs
  refine (Option.any_eq_true _ _).2 ⟨t, ht, decide_eq_true ?_⟩
  exact Int.le_trans (wholeMillis_le cutoff) (of_decide_eq_true hle)

/-- What is to be counted and is not. -/
theorem missed_eq (o : ObjectId) (cutoff : Int) (e : Document) : missed o cutoff e = ((e.eventOf o && e.since cutoff) &&
    !(e.eventMatchedBy o && e.since (ApiUtils.wholeMillis cutoff))) := by
  have hlate : e.since cutoff = true → e.since (ApiUtils.wholeMillis cutoff) = true := since_wholeMillis
  rw [Bool.eq_iff_iff]
  simp only [missed, eventMatchedBy_eq, Document.eventOf, Bool.and_eq_true, Bool.or_eq_true, Bool.not_eq_true']
  grind

/-- What is counted and is not to be. -/
theorem early_eq (o : ObjectId) (cutoff : Int) (e : Document) : early o cutoff e =
    ((e.eventMatchedBy o && e.since (ApiUtils.wholeMillis cutoff)) && !(e.eventOf o && e.since cutoff)) := by
  have hnarrow : e.eventMatchedBy o = true → e.eventOf o = true := Document.eventOf_of_matchedBy
  rw [Bool.eq_iff_iff]
  simp only [early, ← eventMatchedBy_eq, Bool.and_eq_true, Bool.not_eq_true']
  grind

section
variable {api : ApiUtils} (h : api.Documented)
include h

/-- A spelled id is counted as its ObjectId. -/
theorem recentEventCount_denotes {v : Value} {o : ObjectId} (hv : v.Denotes o) (c : Collection) (now : Int)
    (days : Nat) : recentEventCountForProfile api c (some v) now days =
      recentEventCountForProfile api c (some (.oid o)) now days := by
  have htop : ∀ {w : Value}, w.Denotes o →
      api.encodeDocument [("profile_id", w)] api.eventIdProperties api.eventDateProperties =
        .ok [("profile_id", .oid o)] := by
    intro w hw
    rw [encode_scope h h.eventIds.1, encodeId_denotes h hw]
    rfl
  have hctx : ∀ {w : Value}, w.Denotes o → api.encodeDocument [("context", .doc [("profile_id", w)])]
      api.eventIdProperties api.eventDateProperties = .ok [("context", .doc [("profile_id", .oid o)])] := by
    intro w hw
    rw [h.encode_nested (fun hk => h.eventIds.2 (List.mem_append_left _ hk))
      (fun hk => h.eventIds.2 (List.mem_append_right _ hk)), htop hw]
    rfl
  have ho : (Value.oid o).Denotes o := Or.inl rfl
  unfold recentEventCountForProfile
  rw [Option.filter_some_pos hv.truthy, Option.filter_some_pos ho.truthy]
  simp only [hctx hv, hctx ho, htop hv, htop ho]

theorem recentEventCount_ok {v : Value} {o : ObjectId} (hv : v.Denotes o) (c : Collection) (now : Int) (days : Nat) :
    recentEventCountForProfile api c (some v) now days =
      .ok (c.docs.filter (fun e => e.eventMatchedBy o && e.since (ApiUtils.wholeMillis (cutoff now days)))).length := by
  rw [recentEventCount_denotes h hv, recentEventCount_eq h]
  rfl

/-- **When the activity count is exact**: the events of the window that are the profile's by a context with further
fields alone are as many as the events counted from the millisecond the window starts in. -/
theorem recentEventCount_exact_iff {v : Value} {o : ObjectId} (hv : v.Denotes o) (c : Collection) (now : Int)
    (days : Nat) :
    recentEventCountForProfile api c (some v) now days = .ok (recentEventsOf c o now days).length ↔
      (c.docs.filter (missed o (cutoff now days))).length = (c.docs.filter (early o (cutoff now days))).length := by
  rw [recentEventCount_ok h hv, Except.ok.injEq, recentEventsOf, Agree.length_filter_eq_iff, funext (missed_eq o _),
    funext (early_eq o _)]

end

def eventProfile : ObjectId := Reference.idOf 0xa00000000000000000000002

/-- An event for each way of naming its profile; the last two, one missed and one counted early, balance. -/
def profileEvents : Collection where
  docs := [Document.ofList (Reference.idOf 1) [("context", .doc [("profile_id", .oid eventProfile)]),
      ("created", .doc [("at_time", .date 5000)])] rfl,
    Document.ofList (Reference.idOf 2) [("profile_id", .oid eventProfile),
      ("context", .doc [("profile_id", .oid eventProfile), ("resource_id", .oid (Reference.idOf 9))]),
      ("created", .doc [("at_time", .date 5000)])] rfl,
    Document.ofList (Reference.idOf 3) [("context", .doc [("profile_id", .oid eventProfile),
      ("resource_id", .oid (Reference.idOf 9))]), ("created", .doc [("at_time", .date 5000)])] rfl,
    Document.ofList (Reference.idOf 4) [("profile_id", .oid eventProfile),
      ("created", .doc [("at_time", .date (cutoff 0 30))])] rfl]
  ids_nodup := by decide

theorem recentEventCount_exact_balanced :
    recentEventCountForProfile reference profileEvents (some (.str "A00000000000000000000002")) 500 30 =
      .ok (recentEventsOf profileEvents eventProfile 500 30).length ∧
    (profileEvents.docs.filter (missed eventProfile (cutoff 500 30))).length = 1 ∧
    (profileEvents.docs.filter (early eventProfile (cutoff 500 30))).length = 1 :=
  ⟨(recentEventCount_exact_iff reference_documented (Or.inr ⟨_, rfl, by decide⟩) profileEvents 500 30).2 (by decide),
    by decide, by decide⟩

/-- An event stored the live way: its context names the profile and the resource it is about. -/
def resourceEvents : Collection :=
  ⟨[Document.ofList (Reference.idOf 1) [("context", .doc [("profile_id", .oid eventProfile),
    ("resource_id", .oid (Reference.idOf 9))]), ("created", .doc [("at_time", .date 5)])] rfl], List.nodup_singleton _⟩

/-- **An event whose context also names a resource is not counted.** -/
theorem resource_event_missed :
    recentEventCountForProfile reference resourceEvents (some (.oid eventProfile)) 0 30 ≠
      .ok (recentEventsOf resourceEvents eventProfile 0 30).length := by
  rw [recentEventCount_ok reference_documented (Or.inl rfl)]
  decide

end EventService
end Discovery
