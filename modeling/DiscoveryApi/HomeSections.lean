import DiscoveryApi.Home
/-!
# HomeSections — the complete list behind the home pages

`homeSections` reads every section to its end.  A page's windowed reads are cuts of it (`assembleHome_eq`), which puts
the pages under the rules of `Window`.
-/
namespace Discovery
namespace CardService

open NotificationService (sees)

/-- The document carries neither breadcrumb. -/
def isActive (d : Document) : Bool := (d.fields "dismissed").isNone && (d.fields "cancelled").isNone

/-- Every active Notification of the caller's profile, newest first. -/
def allNotifications (api : ApiUtils) (store : Store) (token : Token) : Except HTTPError (List Document) :=
  match truthyClaim token.profileId with
  | none => .ok []
  | some profileId => (api.encodeId (.str profileId)).map (fun _ =>
      api.sort api.notificationSort
        (store.notifications.docs.filter (fun d => sees api token d && (isActive d && d.names "profile_id" profileId))))

def allScoped (api : ApiUtils) (store : Store) (base : Match) (k : String) (value : Option String) :
    Except HTTPError (List Document) :=
  match truthyClaim value with
  | none => .ok []
  | some s => (api.encodeId (.str s)).map (fun _ =>
      api.sort (savedDesc api) (store.profiles.docs.filter (fun d => api.sat base d && d.names k s)))

def allMembers (api : ApiUtils) (store : Store) (token : Token) : Except HTTPError (List Document) :=
  if (truthyClaim token.customerId).isSome && isMemberReader token then
    allScoped api store (api.profileOutbound token) "customer_id" token.customerId
  else .ok []

def allMentees (api : ApiUtils) (store : Store) (token : Token) : Except HTTPError (List Document) :=
  if token.has .mentor && (mentorScopeId token).isSome then
    allScoped api store [("status", .doc [("$ne", .str archivedStatus)])] "mentor_id" (mentorScopeId token)
  else .ok []

def notificationCards (api : ApiUtils) (store : Store) (token : Token) : Except HTTPError (List Card) :=
  (allNotifications api store token).map (fun ds => ds.map (notificationCard api token))

def memberCards (api : ApiUtils) (store : Store) (token : Token) (now : Int) : Except HTTPError (List Card) :=
  (allMembers api store token).map (fun ds => ds.map (memberCard api store token now))

def menteeCards (api : ApiUtils) (store : Store) (token : Token) (now : Int) : Except HTTPError (List Card) :=
  (allMentees api store token).map (fun ds => ds.map (menteeCard api store token now))

/-- The sections in the documented order, each read to its end; the read of a windowed one stops at a page's window. -/
def homeSections (api : ApiUtils) (store : Store) (token : Token) (now : Int) :
    Except HTTPError (List (Window.Section Card)) := do
  let notifications ← notificationCards api store token
  let customer ← customerSection api store token
  let members ← memberCards api store token now
  let mentees ← menteeCards api store token now
  .ok [⟨notifications, true⟩, ⟨adminSection token, false⟩, ⟨customer, false⟩, ⟨members, true⟩, ⟨mentees, true⟩,
       ⟨journeySection token, false⟩]

/-- The complete combined list: no section is capped. -/
def completeHome (api : ApiUtils) (store : Store) (token : Token) (now : Int) : Except HTTPError (List Card) :=
  (homeSections api store token now).map Window.whole

section
variable {api : ApiUtils} (h : api.Documented)
include h

theorem sat_activeMatch (d : Document) : api.sat activeMatch d = isActive d := by
  rw [activeMatch, h.sat_cons, sat_absent_field h (by decide) (by decide), sat_absent_field h (by decide) (by decide)]
  rfl

theorem inert_activeMatch :
    ApiUtils.inert api.notificationIdProperties api.notificationDateProperties activeMatch = true := by
  have hk : ∀ k ∈ ["dismissed", "cancelled", "$exists"],
      k ∉ api.notificationIdProperties ∧ k ∉ api.notificationDateProperties := fun k hk =>
    ⟨fun hm => h.notificationIds.2 k hk (List.mem_append_left _ hm),
      fun hm => h.notificationIds.2 k hk (List.mem_append_right _ hm)⟩
  have hd := hk "dismissed" (by decide)
  have hc := hk "cancelled" (by decide)
  have he := hk "$exists" (by decide)
  simp [ApiUtils.inert, ApiUtils.inertValue, activeMatch, dismissedField, cancelledField, ControlField.name, hd, hc, he]

theorem notificationSection_eq (store : Store) (token : Token) {n : Nat} (h1 : 1 ≤ n) (hn : n ≤ 100) :
    notificationSection api store token n =
      (notificationCards api store token).map (fun cards => cards.take n) := by
  unfold notificationSection notificationCards allNotifications
  cases truthyClaim token.profileId with
  | none => simp [Except.map]
  | some s =>
    have hmatch : api.andMatch activeMatch [("profile_id", .str s)] = activeMatch ++ [("profile_id", .str s)] := by
      refine h.and_disjoint (fun p hp q hq => ?_)
      rw [List.mem_singleton.1 hq]
      exact (show ∀ p ∈ activeMatch, p.1 ≠ "profile_id" by decide) p hp
    simp only [NotificationService.getActiveNotifications, Option.getD_some, hmatch]
    rw [h.getNotifications_eq (by decide) (by omega) (by unfold maxSize; omega),
      h.encode_id_last h.notificationIds.1 (inert_activeMatch h)]
    cases hv : api.encodeId (.str s) with
    | error e => rfl
    | ok v =>
      have hp : (fun d => api.sat (api.notificationOutbound token) d && api.sat (activeMatch ++ [("profile_id", v)]) d) =
          fun d => sees api token d && (isActive d && d.names "profile_id" s) := by
        funext d
        rw [sat_append h, sat_activeMatch h, sat_encoded h (by decide) hv]
        rfl
      simp only [Except.map, bind, Except.bind, hp, ApiUtils.pageOf]
      rw [projectAll_known api rfl, List.map_take]
      rfl

theorem scopedList_window (store : Store) (token : Token) (base : Match) {k : String} (hk : k ∈ "_id" :: idFields)
    (hids : k ∈ api.profileIdProperties) (value : Option String) {n : Nat} (h1 : 1 ≤ n) (hn : n ≤ 100) :
    ProfileService.scopedList api store.profiles token base k value 0 n none (some (savedDesc api)) =
      (allScoped api store base k value).map (fun ds => ds.take n) := by
  unfold allScoped
  cases hs : truthyClaim value with
  | none =>
    rw [ProfileService.scopedList_no_claim h hs]
    simp [Except.map]
  | some s =>
    dsimp only
    rcases ProfileService.scopedList_claim h hk hids hs token base none with ⟨e, hv, he⟩ | ⟨v, m, hv, hm, heq⟩
    · rw [he, hv]
      rfl
    · have hp : api.sat m = fun d => api.sat base d && d.names k s := by
        funext d
        rw [hm, ProfileService.passes, Option.getD_none, h.sat_no_filter, Bool.and_true]
      rw [heq, hv, h.listQuery_eq (by decide) (by omega) (by unfold maxSize; omega), hp]
      rfl

theorem memberSection_eq (store : Store) (token : Token) (now : Int) {n : Nat} (h1 : 1 ≤ n) (hn : n ≤ 100) :
    memberSection api store token now n =
      (memberCards api store token now).map (fun cards => cards.take n) := by
  unfold memberSection memberCards allMembers
  split
  · rw [ProfileService.getMemberProfiles, ProfileService.scopedProfiles,
      scopedList_window h store token _ (by decide) h.profileIds.1 _ h1 hn]
    cases allScoped api store (api.profileOutbound token) "customer_id" token.customerId with
    | error e => rfl
    | ok ds =>
      simp only [Except.map, bind, Except.bind, projectMemberCards_eq h, List.map_take]
  · simp [Except.map]

theorem menteeSection_eq (store : Store) (token : Token) (now : Int) {n : Nat} (h1 : 1 ≤ n) (hn : n ≤ 100) :
    menteeSection api store token now n =
      (menteeCards api store token now).map (fun cards => cards.take n) := by
  unfold menteeSection menteeCards allMentees
  split
  · rw [ProfileService.getMenteeProfiles, scopedList_window h store token _ (by decide) h.profileIds.2 _ h1 hn]
    cases allScoped api store _ "mentor_id" (mentorScopeId token) with
    | error e => rfl
    | ok ds =>
      simp only [Except.map, bind, Except.bind, projectMenteeCards_eq h, List.map_take]
  · simp [Except.map]

/-- **The assembled list is a cut of the complete one**, at whatever window it was read. -/
theorem assembleHome_eq (store : Store) (token : Token) (now : Int) {n : Nat} (h1 : 1 ≤ n) (hn : n ≤ 100) :
    assembleHome api store token now n = (homeSections api store token now).map (Window.cutAll n) := by
  unfold assembleHome homeSections
  rw [notificationSection_eq h store token h1 hn, memberSection_eq h store token now h1 hn,
    menteeSection_eq h store token now h1 hn]
  cases notificationCards api store token with
  | error e => rfl
  | ok ns =>
    cases customerSection api store token with
    | error e => rfl
    | ok cs =>
      cases memberCards api store token now with
      | error e => rfl
      | ok ms =>
        cases menteeCards api store token now with
        | error e => rfl
        | ok es =>
          simp [Except.map, bind, Except.bind, Window.cutAll, Window.cut]

/-- **A page is a slice of the list read at the ceiling**, whatever window the page read. -/
theorem getHomeCards_eq (store : Store) (token : Token) (now : Int) (o : Nat) {k : Nat} (h1 : 1 ≤ k) (hk : k ≤ 100) :
    getHomeCards api store token now o k =
      (homeSections api store token now).map (fun secs => Window.slice o k (Window.cutAll 100 secs)) := by
  have hwin : min ((o : Int) + k) maxSize = (min (o + k) 100 : Nat) := by unfold maxSize; omega
  unfold getHomeCards
  rw [h.validate_ok (Int.natCast_nonneg o) (by omega) (by unfold maxSize; omega)]
  simp only [bind, Except.bind, hwin, assembleHome_eq h store token now (show 1 ≤ min (o + k) 100 by omega)
    (Nat.min_le_right _ _)]
  cases homeSections api store token now with
  | error e => rfl
  | ok secs =>
    have hslice := Python.sliced_eq_slice (Window.cutAll (min (o + k) 100) secs) o k
    rw [Int.natCast_add] at hslice
    simp only [Except.map, hslice, Window.slice_cutAll_min]

end

end CardService
end Discovery
