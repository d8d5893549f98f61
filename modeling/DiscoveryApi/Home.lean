import DiscoveryApi.Activity
import DiscoveryApi.Notification
import DiscoveryApi.Profile
/-!
# Home — the composite Card list

`getHomeCards` assembles eight gated sections, three of them read up to a window that depends on the page, and slices
the result.  `now` is the clock the event counts read.
-/
namespace Discovery
namespace CardService

/-! ## Member and Mentee cards -/

def projectMemberCards (api : ApiUtils) (store : Store) (members : List Document) (token : Token) (now : Int) :
    Except HTTPError (List Card) :=
  members.mapM (fun member => do
    let source := member.dict
    let profileId := source.value "_id"
    let counts ← JourneyService.resourceCountsForProfile api store.journeys profileId
    let eventCount ← EventService.recentEventCountForProfile api store.events profileId now cardActivityWindowDays
    let source := source.set "description" (.str (memberDescription counts eventCount))
    project api cardTypeMembers (some source) (some token))

def projectMenteeCards (api : ApiUtils) (store : Store) (mentees : List Document) (token : Token) (now : Int) :
    Except HTTPError (List Card) :=
  mentees.mapM (fun mentee => do
    let source := mentee.dict
    let profileId := source.value "_id"
    let eventCount ← EventService.recentEventCountForProfile api store.events profileId now cardActivityWindowDays
    let notes ← NoteService.notesForProfile api store.notes profileId token
    let source := source.set "description" (.str (menteeDescription api eventCount (notes.map Document.dict)))
    project api cardTypeMentees (some source) (some token))

/-! ## The Customer card -/

/-- Outbound scope for Customer: the caller's own customer, not archived. -/
def customerMatch (api : ApiUtils) (token : Token) : Except HTTPError Match := do
  let identity ← match truthyClaim token.customerId with
    | some customerId => api.encodeDocument [("_id", .str customerId)] ["_id"] []
    | none => .ok api.emptyScopeMatch
  .ok (api.buildOutboundMatch token [[("status", .doc [("$ne", .str archivedStatus)])], identity])

def customerHomeCard (api : ApiUtils) (store : Store) (token : Token) : Except HTTPError (Option Card) :=
  match truthyClaim token.customerId with
  | none => .ok none
  | some _ => do
    let m ← customerMatch api token
    let customers ← api.executeListQuery store.customers m [("name", 1)] 0 1
    match customers with
    | [] => .ok none
    | customer :: _ => (project api cardTypeCustomer (some customer.dict) (some token)).map some

/-! ## The sections -/

/-- 1. Active Notifications for token profile_id -/
def notificationSection (api : ApiUtils) (store : Store) (token : Token) (sectionSize : Int) :
    Except HTTPError (List Card) :=
  match truthyClaim token.profileId with
  | none => .ok []
  | some profileId => do
    let notifications ← NotificationService.getActiveNotifications api store.notifications token 0 sectionSize
      (some [("profile_id", .str profileId)])
    projectAll api cardTypeNotifications notifications (some token)

/-- 2-4. Admin synthetic cards -/
def adminSection (token : Token) : List Card :=
  if token.has .admin then
    [syntheticCard "Products" "Manage subscription products" "Products" "admin/settings",
     syntheticCard "Discounts" "Manage discount codes" "Discounts" "admin/settings?tab=discounts",
     syntheticCard "Logs" "View system logs" "Logs" "admin/logs"]
  else []

/-- 5. Customer card for token customer_id -/
def customerSection (api : ApiUtils) (store : Store) (token : Token) : Except HTTPError (List Card) :=
  if token.has .customer && (truthyClaim token.customerId).isSome then
    (customerHomeCard api store token).map Option.toList
  else .ok []

def isMemberReader (token : Token) : Bool := token.has .customer || token.has .coordinator

def savedDesc (api : ApiUtils) : SortBy := api.buildSortBy "saved.at_time" "desc" api.profileListOrder

/-- 6. Member cards for Profiles with token customer_id, saved.at_time desc -/
def memberSection (api : ApiUtils) (store : Store) (token : Token) (now sectionSize : Int) :
    Except HTTPError (List Card) :=
  if (truthyClaim token.customerId).isSome && isMemberReader token then do
    let members ← ProfileService.getMemberProfiles api store.profiles token 0 sectionSize none (some (savedDesc api))
    projectMemberCards api store members token now
  else .ok []

/-- 7. Mentee cards for Profiles with mentor_id = token.profile_id -/
def menteeSection (api : ApiUtils) (store : Store) (token : Token) (now sectionSize : Int) :
    Except HTTPError (List Card) :=
  if token.has .mentor && (mentorScopeId token).isSome then do
    let mentees ← ProfileService.getMenteeProfiles api store.profiles token 0 sectionSize none (some (savedDesc api))
    projectMenteeCards api store mentees token now
  else .ok []

/-- 8. Mentee synthetic card (Learning Journey) -/
def journeySection (token : Token) : List Card :=
  if token.has .mentee then
    [syntheticCard "Learning Journey" "Continue your learning journey" "Journey" "mentee/journey"]
  else []

/-- `cards`, the sections in the documented order. -/
def assembleHome (api : ApiUtils) (store : Store) (token : Token) (now sectionSize : Int) :
    Except HTTPError (List Card) := do
  let notifications ← notificationSection api store token sectionSize
  let customer ← customerSection api store token
  let members ← memberSection api store token now sectionSize
  let mentees ← menteeSection api store token now sectionSize
  .ok (notifications ++ adminSection token ++ customer ++ members ++ mentees ++ journeySection token)

def getHomeCards (api : ApiUtils) (store : Store) (token : Token) (now offset size : Int) :
    Except HTTPError (List Card) := do
  api.validatePagination offset size
  let sectionSize := min (offset + size) maxSize
  let cards ← assembleHome api store token now sectionSize
  .ok (Python.sliced cards offset (offset + size))

/-! ## The cards of a Profile, from the store -/

def progressOf (c : Collection) (o : ObjectId) : ResourceCounts :=
  match c.docs.filter (Document.activeJourneyOf o) with
  | [] => JourneyService.zeroCounts
  | journey :: _ => (JourneyService.journeyCounts journey.dict).toOption.getD JourneyService.zeroCounts

def activityOf (c : Collection) (o : ObjectId) (now : Int) : Nat :=
  (c.docs.filter (fun e => e.eventMatchedBy o &&
    e.atTime.any (fun t =>
      decide (ApiUtils.wholeMillis (EventService.cutoff now cardActivityWindowDays) ≤ t)))).length

def notesOf (api : ApiUtils) (c : Collection) (o : ObjectId) (token : Token) : List Document :=
  api.pageOf (api.buildSortBy api.noteListOrder.defaultField api.noteListOrder.defaultOrder api.noteListOrder)
    (fun n => n.noteAbout o && n.writtenBy token.userId) c 0 NoteService.noteCardLimit

def notificationCard (api : ApiUtils) (token : Token) (d : Document) : Card :=
  cardOf api cardTypeNotifications ⟨"Notification", notificationFields⟩ d.dict token.roleList

def memberCard (api : ApiUtils) (store : Store) (token : Token) (now : Int) (d : Document) : Card :=
  cardOf api cardTypeMembers ⟨"Member", profileFields⟩
    (d.dict.set "description" (.str (memberDescription (progressOf store.journeys d.id)
      (activityOf store.events d.id now)))) token.roleList

def menteeCard (api : ApiUtils) (store : Store) (token : Token) (now : Int) (d : Document) : Card :=
  cardOf api cardTypeMentees ⟨"Mentee", profileFields⟩
    (d.dict.set "description" (.str (menteeDescription api (activityOf store.events d.id now)
      ((notesOf api store.notes d.id token).map Document.dict)))) token.roleList

section
variable {api : ApiUtils} (h : api.Documented)
include h

theorem resourceCounts_store (store : Store) (o : ObjectId) :
    JourneyService.resourceCountsForProfile api store.journeys (some (.oid o)) = .ok (progressOf store.journeys o) := by
  rw [resourceCounts_eq h, progressOf]
  cases hf : store.journeys.docs.filter (Document.activeJourneyOf o) with
  | nil => rfl
  | cons j js =>
    have hj : j ∈ store.journeys.docs := List.mem_of_mem_filter (hf ▸ List.mem_cons_self)
    simp only [JourneyService.journeyCounts_ok (store.journeys_wf j hj)]
    rfl

/-- **Projecting members never raises**: each profile becomes its card. -/
theorem projectMemberCards_eq (store : Store) (members : List Document) (token : Token) (now : Int) :
    projectMemberCards api store members token now = .ok (members.map (memberCard api store token now)) := by
  refine Except.mapM_ok (fun d => ?_) members
  have hid : d.dict.value "_id" = some (.oid d.id) := rfl
  simp only [hid, resourceCounts_store h, recentEventCount_eq h, bind, Except.bind]
  exact project_known api rfl _ _

theorem projectMenteeCards_eq (store : Store) (mentees : List Document) (token : Token) (now : Int) :
    projectMenteeCards api store mentees token now = .ok (mentees.map (menteeCard api store token now)) := by
  refine Except.mapM_ok (fun d => ?_) mentees
  have hid : d.dict.value "_id" = some (.oid d.id) := rfl
  simp only [hid, notesForProfile_eq h, recentEventCount_eq h, bind, Except.bind]
  exact project_known api rfl _ _

end

/-! ## The type of a section's cards -/

theorem assembleHome_ok {api : ApiUtils} {store : Store} {token : Token} {now n : Int} {cards : List Card}
    (ha : assembleHome api store token now n = .ok cards) :
    ∃ ns cs ms es, notificationSection api store token n = .ok ns ∧ customerSection api store token = .ok cs ∧
      memberSection api store token now n = .ok ms ∧ menteeSection api store token now n = .ok es ∧
      cards = ns ++ adminSection token ++ cs ++ ms ++ es ++ journeySection token := by
  obtain ⟨ns, hns, ha⟩ := Except.ok_of_bind ha
  obtain ⟨cs, hcs, ha⟩ := Except.ok_of_bind ha
  obtain ⟨ms, hms, ha⟩ := Except.ok_of_bind ha
  obtain ⟨es, hes, ha⟩ := Except.ok_of_bind ha
  cases ha
  exact ⟨ns, cs, ms, es, hns, hcs, hms, hes, rfl⟩

theorem adminSection_type {token : Token} {card : Card} (hc : card ∈ adminSection token) :
    card.type ∈ [some "Products", some "Discounts", some "Logs"] := by
  unfold adminSection at hc
  split at hc
  · simp only [List.mem_cons, List.not_mem_nil, or_false] at hc
    rcases hc with rfl | rfl | rfl <;> decide
  · cases hc

theorem journeySection_type {token : Token} {card : Card} (hc : card ∈ journeySection token) :
    card.type = some "Journey" := by
  unfold journeySection at hc
  split at hc
  · rw [List.mem_singleton.1 hc]
    rfl
  · cases hc

theorem notificationSection_type {api : ApiUtils} {store : Store} {token : Token} {n : Int} {ns : List Card}
    (hns : notificationSection api store token n = .ok ns) {card : Card} (hc : card ∈ ns) :
    card.type = some "Notification" := by
  unfold notificationSection at hns
  split at hns
  · cases hns
    cases hc
  · obtain ⟨ds, -, hns⟩ := Except.ok_of_bind hns
    rw [projectAll_known api rfl] at hns
    cases hns
    obtain ⟨d, -, rfl⟩ := List.mem_map.1 hc
    rfl

theorem customerSection_type {api : ApiUtils} {store : Store} {token : Token} {cs : List Card}
    (hcs : customerSection api store token = .ok cs) {card : Card} (hc : card ∈ cs) : card.type = some "Customer" := by
  unfold customerSection at hcs
  split at hcs
  · obtain ⟨o, ho, rfl⟩ := Except.ok_of_map hcs
    have ho' : o = some card := by simpa using hc
    subst ho'
    unfold customerHomeCard at ho
    split at ho
    · cases ho
    · obtain ⟨m, -, ho⟩ := Except.ok_of_bind ho
      obtain ⟨customers, -, ho⟩ := Except.ok_of_bind ho
      split at ho
      · cases ho
      · rw [project_known api rfl] at ho
        cases ho
        rfl
  · cases hcs
    cases hc

section
variable {api : ApiUtils} (h : api.Documented)
include h

theorem memberSection_type {store : Store} {token : Token} {now n : Int} {ms : List Card}
    (hms : memberSection api store token now n = .ok ms) {card : Card} (hc : card ∈ ms) :
    card.type = some "Member" := by
  unfold memberSection at hms
  split at hms
  · obtain ⟨members, -, hms⟩ := Except.ok_of_bind hms
    rw [projectMemberCards_eq h] at hms
    cases hms
    obtain ⟨d, -, rfl⟩ := List.mem_map.1 hc
    rfl
  · cases hms
    cases hc

theorem menteeSection_type {store : Store} {token : Token} {now n : Int} {es : List Card}
    (hes : menteeSection api store token now n = .ok es) {card : Card} (hc : card ∈ es) :
    card.type = some "Mentee" := by
  unfold menteeSection at hes
  split at hes
  · obtain ⟨mentees, -, hes⟩ := Except.ok_of_bind hes
    rw [projectMenteeCards_eq h] at hes
    cases hes
    obtain ⟨d, -, rfl⟩ := List.mem_map.1 hc
    rfl
  · cases hes
    cases hc

end

end CardService
end Discovery
