import DiscoveryApi.HomeCustomer
import DiscoveryApi.Lib.Agree
/-!
# HomeNoninterference — what a caller's home list can depend on

The Journey, Event and Note reads bypass outbound RBAC; they are keyed by Profiles the caller's scope selected, so two
stores that agree on the caller's own data give the same pages.
-/
namespace Discovery

/-- An event of the profile: its context names it, or its legacy top-level field does. -/
def Document.eventOf (o : ObjectId) (e : Document) : Bool :=
  decide (e.path "context" "profile_id" = some (.oid o)) || e.refersTo "profile_id" o

theorem Document.eventOf_of_matchedBy {o : ObjectId} {e : Document} (h : e.eventMatchedBy o = true) :
    e.eventOf o = true := by
  unfold eventMatchedBy at h
  unfold eventOf
  rw [Bool.or_eq_true] at h ⊢
  rcases h with h | h
  · refine Or.inl (decide_eq_true ?_)
    rw [path, e.dict_of_ne (by decide), of_decide_eq_true h]
    rfl
  · exact Or.inr h

namespace CardService

open NotificationService (otherNotifications)

def ownMembers (store : Store) (customerId : String) : List Document :=
  store.profiles.docs.filter (fun d => d.names "customer_id" customerId && !d.archived)

def ownMentees (store : Store) (profileId : String) : List Document :=
  store.profiles.docs.filter (fun d => d.names "mentor_id" profileId && !d.archived)

/-- **The caller's own data**, on which two stores agree.  A role or a claim the token lacks asks nothing. -/
structure SameOwnData (token : Token) (userId : String) (s s' : Store) : Prop where
  notifications : ∀ p, truthyClaim token.profileId = some p →
    Agree.On (fun d => d.names "profile_id" p && !d.archived && isActive d) s.notifications.docs s'.notifications.docs
  customer : token.has .customer = true → ∀ c, truthyClaim token.customerId = some c →
    Agree.On (fun d => d.names "_id" c && !d.archived) s.customers.docs s'.customers.docs
  members : isMemberReader token = true → ∀ c, truthyClaim token.customerId = some c →
    ownMembers s c = ownMembers s' c ∧
    Agree.On (fun j => (ownMembers s c).any (fun p => j.activeJourneyOf p.id)) s.journeys.docs s'.journeys.docs ∧
    Agree.On (fun e => (ownMembers s c).any (fun p => e.eventOf p.id)) s.events.docs s'.events.docs
  mentees : token.has .mentor = true → ∀ p, truthyClaim token.profileId = some p →
    ownMentees s p = ownMentees s' p ∧
    Agree.On (fun e => (ownMentees s p).any (fun q => e.eventOf q.id)) s.events.docs s'.events.docs ∧
    Agree.On (fun n => (ownMentees s p).any (fun q =>
      n.noteAbout q.id && decide (n.path "created" "by_user" = some (.str userId)))) s.notes.docs s'.notes.docs

/-! ## The cards of a Profile -/

theorem progressOf_congr {c c' : Collection} {o : ObjectId} (h : Agree.On (Document.activeJourneyOf o) c.docs c'.docs) :
    progressOf c o = progressOf c' o := by
  unfold progressOf
  rw [show c.docs.filter _ = c'.docs.filter _ from h]

theorem activityOf_congr {c c' : Collection} {o : ObjectId} (h : Agree.On (Document.eventOf o) c.docs c'.docs)
    (now : Int) : activityOf c o now = activityOf c' o now := by
  have hq := h.narrow (q := fun e => e.eventMatchedBy o &&
    e.atTime.any (fun t => decide (ApiUtils.wholeMillis (EventService.cutoff now cardActivityWindowDays) ≤ t)))
    (fun e he => Document.eventOf_of_matchedBy (Bool.and_eq_true _ _ ▸ he : _ ∧ _).1)
  unfold activityOf
  rw [show c.docs.filter _ = c'.docs.filter _ from hq]

theorem notesOf_congr {api : ApiUtils} {c c' : Collection} {o : ObjectId} {token : Token}
    (h : Agree.On (fun n => n.noteAbout o && n.writtenBy token.userId) c.docs c'.docs) :
    notesOf api c o token = notesOf api c' o token := by
  unfold notesOf ApiUtils.pageOf
  rw [show c.docs.filter _ = c'.docs.filter _ from h]

theorem writtenBy_eq {token : Token} {userId : String} (hu : truthyClaim token.userId = some userId) (n : Document) :
    n.writtenBy token.userId = decide (n.path "created" "by_user" = some (.str userId)) := by
  rw [Document.writtenBy, hu]
  rfl

/-! ## The sections -/

/-- The profiles of a scope, when a list selects no more than the two stores agree on. -/
theorem allScoped_congr {api : ApiUtils} {s s' : Store} {base : Match} {k c : String} {value : Option String}
    (hc : truthyClaim value = some c) {p : Document → Bool}
    (hp : Agree.On p s.profiles.docs s'.profiles.docs)
    (hown : ∀ d, (api.sat base d && d.names k c) = true → p d = true) :
    allScoped api s base k value = allScoped api s' base k value := by
  have hq := hp.narrow hown
  unfold allScoped
  rw [hc]
  dsimp only
  rw [show s.profiles.docs.filter _ = s'.profiles.docs.filter _ from hq]

theorem mem_allScoped {api : ApiUtils} (h : api.Documented) {s : Store} {base : Match} {k c : String}
    {value : Option String} (hc : truthyClaim value = some c) {ds : List Document} (hds : allScoped api s base k value = .ok ds) :
    ∀ d ∈ ds, d ∈ s.profiles.docs ∧ (api.sat base d && d.names k c) = true := by
  intro d hd
  unfold allScoped at hds
  rw [hc] at hds
  dsimp only at hds
  obtain ⟨v, -, rfl⟩ := Except.ok_of_map hds
  exact List.mem_filter.1 ((h.sort_perm _ _).mem_iff.1 hd)

/-- The cards of a scope, when they are the same for every profile the two stores agree on. -/
theorem scopedCards_congr {api : ApiUtils} (h : api.Documented) {s s' : Store} {base : Match} {k c : String}
    {value : Option String} (hc : truthyClaim value = some c) {p : Document → Bool}
    (hp : Agree.On p s.profiles.docs s'.profiles.docs)
    (hown : ∀ d, (api.sat base d && d.names k c) = true → p d = true) {f g : Document → Card}
    (hfg : ∀ d ∈ s'.profiles.docs.filter p, f d = g d) :
    (allScoped api s base k value).map (fun ds => ds.map f) =
      (allScoped api s' base k value).map (fun ds => ds.map g) := by
  rw [allScoped_congr hc hp hown]
  cases hds : allScoped api s' base k value with
  | error e => simp only [Except.map]
  | ok ds =>
    simp only [Except.map, Except.ok.injEq]
    refine List.map_congr_left (fun d hd => hfg d ?_)
    obtain ⟨hd1, hd2⟩ := mem_allScoped h hc hds d hd
    exact List.mem_filter.2 ⟨hd1, hown d hd2⟩

section
variable {api : ApiUtils} (h : api.Documented) {token : Token} (ht : token.has .admin = false)
include h ht

theorem notificationCards_congr {s s' : Store} {userId : String} (hs : SameOwnData token userId s s') :
    notificationCards api s token = notificationCards api s' token := by
  unfold notificationCards allNotifications
  cases hp : truthyClaim token.profileId with
  | none => rfl
  | some p =>
    have hq : Agree.On (fun d => NotificationService.sees api token d && (isActive d && d.names "profile_id" p))
        s.notifications.docs s'.notifications.docs := by
      refine (hs.notifications p hp).narrow (fun d hd => ?_)
      simp only [Bool.and_eq_true] at hd ⊢
      obtain ⟨hsees, hact, hn⟩ := hd
      have hna := h.notificationOutbound_active ht d hsees
      exact ⟨⟨hn, by rw [Document.archived, decide_eq_false hna]; rfl⟩, hact⟩
    simp only [show s.notifications.docs.filter _ = s'.notifications.docs.filter _ from hq]

theorem customerSection_congr {s s' : Store} {userId : String} (hs : SameOwnData token userId s s') :
    customerSection api s token = customerSection api s' token := by
  unfold customerSection
  split
  · rename_i hgate
    rw [Bool.and_eq_true] at hgate
    obtain ⟨c, hc⟩ := Option.isSome_iff_exists.1 hgate.2
    rw [customerHomeCard_eq h hc, customerHomeCard_eq h hc]
    cases hv : api.encodeId (.str c) with
    | error e => rfl
    | ok v =>
      have hq : Agree.On (api.sat (api.buildOutboundMatch token
          [[("status", .doc [("$ne", .str archivedStatus)])], [("_id", v)]])) s.customers.docs s'.customers.docs := by
        refine (hs.customer hgate.1 c hc).narrow (fun d hd => ?_)
        rw [h.outbound_all ht, List.all_cons, List.all_cons, List.all_nil, Bool.and_true, sat_not_archived h,
          sat_encoded h (by decide) hv, Bool.and_eq_true] at hd
        rw [Bool.and_eq_true]
        exact hd.symm
      simp only [Except.map, ApiUtils.pageOf, show s.customers.docs.filter _ = s'.customers.docs.filter _ from hq]
  · rfl

theorem memberCards_congr {s s' : Store} {userId : String} (hs : SameOwnData token userId s s') (now : Int) :
    memberCards api s token now = memberCards api s' token now := by
  unfold memberCards allMembers
  split
  · rename_i hgate
    rw [Bool.and_eq_true] at hgate
    obtain ⟨c, hc⟩ := Option.isSome_iff_exists.1 hgate.1
    obtain ⟨hprofiles, hjourneys, hevents⟩ := hs.members hgate.2 c hc
    have hown : ∀ d, (api.sat (api.profileOutbound token) d && d.names "customer_id" c) = true →
        (d.names "customer_id" c && !d.archived) = true := fun d hd => by
      rw [Bool.and_eq_true] at hd ⊢
      have hna := h.profileOutbound_active ht d hd.1
      exact ⟨hd.2, by rw [Document.archived, decide_eq_false hna]; rfl⟩
    refine scopedCards_congr h hc hprofiles hown (fun d hd => ?_)
    have hmem : d ∈ ownMembers s c := by
      rw [hprofiles]
      exact hd
    have hj : Agree.On (Document.activeJourneyOf d.id) s.journeys.docs s'.journeys.docs := hjourneys.key hmem
    have he : Agree.On (Document.eventOf d.id) s.events.docs s'.events.docs := hevents.key hmem
    rw [memberCard, memberCard, progressOf_congr hj, activityOf_congr he]
  · simp only [Except.map, List.map_nil]

end

theorem menteeCards_congr {api : ApiUtils} (h : api.Documented) {token : Token} {s s' : Store} {userId : String}
    (hu : truthyClaim token.userId = some userId) (hs : SameOwnData token userId s s') (now : Int) :
    menteeCards api s token now = menteeCards api s' token now := by
  unfold menteeCards allMentees
  split
  · rename_i hgate
    rw [Bool.and_eq_true] at hgate
    obtain ⟨p, hp⟩ := Option.isSome_iff_exists.1 hgate.2
    obtain ⟨hprofiles, hevents, hnotes⟩ := hs.mentees hgate.1 p hp
    have hscope : truthyClaim (mentorScopeId token) = some p :=
      (ProfileService.truthyClaim_mentorScopeId token).trans hp
    have hown : ∀ d, (api.sat [("status", .doc [("$ne", .str archivedStatus)])] d && d.names "mentor_id" p) = true →
        (d.names "mentor_id" p && !d.archived) = true := fun d hd => by
      rw [sat_not_archived h, Bool.and_comm] at hd
      exact hd
    refine scopedCards_congr h hscope hprofiles hown (fun d hd => ?_)
    have hmem : d ∈ ownMentees s p := by
      rw [hprofiles]
      exact hd
    have he : Agree.On (Document.eventOf d.id) s.events.docs s'.events.docs := hevents.key hmem
    have hn : Agree.On (fun n => n.noteAbout d.id && decide (n.path "created" "by_user" = some (.str userId)))
        s.notes.docs s'.notes.docs := hnotes.key hmem
    have hnotes' : notesOf api s.notes d.id token = notesOf api s'.notes d.id token := by
      refine notesOf_congr (hn.narrow (fun n hw => ?_))
      rw [writtenBy_eq hu] at hw
      exact hw
    rw [menteeCard, menteeCard, activityOf_congr he, hnotes']
  · simp only [Except.map, List.map_nil]

/-! ## Two stores, one home list -/

/-- **Noninterference.**  For a caller who is not admin, two stores that agree on the caller's own data give the same
page, whatever else they hold. -/
theorem getHomeCards_noninterference {api : ApiUtils} (h : api.Documented) {token : Token}
    (ht : token.has .admin = false) {userId : String} (hu : truthyClaim token.userId = some userId) {s s' : Store}
    (hs : SameOwnData token userId s s') (now : Int) {offset size : Int} (hp : ValidPage offset size) :
    getHomeCards api s token now offset size = getHomeCards api s' token now offset size := by
  obtain ⟨o, k, rfl, rfl, h1, hk⟩ := hp.nat
  have hsections : homeSections api s token now = homeSections api s' token now := by
    unfold homeSections
    rw [notificationCards_congr h ht hs, customerSection_congr h ht hs, memberCards_congr h ht hs now,
      menteeCards_congr h hu hs now]
  rw [getHomeCards_eq h s token now o h1 hk, getHomeCards_eq h s' token now o h1 hk, hsections]

def mentorToken : Token := ⟨some "marti", some [.mentor], some "000000000000000000000005", none, none⟩

def oneMentee : Collection :=
  ⟨[Document.ofList (Reference.idOf 6) [("mentor_id", .oid (Reference.idOf 5)), ("display_name", .str "Mentee")] rfl],
    List.nodup_singleton _⟩

def menteeStore (notifications customers : Collection) : Store := storeOf notifications customers oneMentee

theorem getHomeCards_noninterference_mentor :
    getHomeCards reference (menteeStore otherNotifications twoCustomers) mentorToken 0 0 20 =
      getHomeCards reference (menteeStore .empty .empty) mentorToken 0 0 20 := by
  have hs : SameOwnData mentorToken "marti" (menteeStore otherNotifications twoCustomers)
      (menteeStore .empty .empty) := by
    refine ⟨fun p hp => ?_, fun hr => ?_, fun hr => ?_, fun _ p _ => ⟨rfl, rfl, rfl⟩⟩
    · cases hp
      rfl
    · exact absurd hr (by decide)
    · exact absurd hr (by decide)
  exact getHomeCards_noninterference reference_documented rfl rfl hs 0 (by decide)

end CardService
end Discovery
