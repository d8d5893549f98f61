import DiscoveryApi.HomeSections
import DiscoveryApi.ControlAccess
/-!
# HomePaging — what walking the home pages returns

Every page is a slice of one list: the sections in order, the windowed ones cut at the shared page ceiling.  That list
is the complete one unless a windowed section is longer than the ceiling.
-/
namespace Discovery
namespace CardService

open NotificationService (menteeProfile menteeToken ownNotifications sees)

/-- No windowed section is longer than the page ceiling. -/
def WithinCeiling (api : ApiUtils) (store : Store) (token : Token) (now : Int) : Prop :=
  ∀ secs, homeSections api store token now = .ok secs → ∀ s ∈ secs, s.windowed = true → s.items.length ≤ 100

/-- A page request `validate_pagination` accepts. -/
def ValidPage (offset size : Int) : Prop := 0 ≤ offset ∧ 1 ≤ size ∧ size ≤ maxSize

instance (offset size : Int) : Decidable (ValidPage offset size) := inferInstanceAs (Decidable (_ ∧ _))

theorem ValidPage.nat {offset size : Int} (hp : ValidPage offset size) :
    ∃ o k : Nat, offset = o ∧ size = k ∧ 1 ≤ k ∧ k ≤ 100 := by
  obtain ⟨ho, h1, hk⟩ := hp
  obtain ⟨o, rfl⟩ := Int.eq_ofNat_of_zero_le ho
  obtain ⟨k, rfl⟩ := Int.eq_ofNat_of_zero_le (show 0 ≤ size by omega)
  unfold maxSize at hk
  exact ⟨o, k, rfl, rfl, by omega, by omega⟩

section
variable {api : ApiUtils} (h : api.Documented)
include h

theorem assembleHome_ceiling (store : Store) (token : Token) (now : Int) :
    assembleHome api store token now maxSize = (homeSections api store token now).map (Window.cutAll 100) :=
  assembleHome_eq h store token now (n := 100) (by decide) (by decide)

theorem getHomeCards_slice (store : Store) (token : Token) (now : Int) (o : Nat) {k : Nat} (h1 : 1 ≤ k) (hk : k ≤ 100) :
    getHomeCards api store token now o k =
      (assembleHome api store token now maxSize).map (Window.slice o k) := by
  rw [getHomeCards_eq h store token now o h1 hk, assembleHome_ceiling h]
  cases homeSections api store token now <;> rfl

theorem getHomeCards_sliced (store : Store) (token : Token) (now : Int) {offset size : Int}
    (hp : ValidPage offset size) : getHomeCards api store token now offset size =
      (assembleHome api store token now maxSize).map (fun cards => Python.sliced cards offset (offset + size)) := by
  obtain ⟨o, k, rfl, rfl, h1, hk⟩ := hp.nat
  rw [getHomeCards_slice h store token now o h1 hk]
  refine congrArg (fun f => Except.map f _) (funext fun cards => ?_)
  rw [← Python.sliced_eq_slice, Int.natCast_add]

theorem getHomeCards_ok {store : Store} {token : Token} {now : Int} {o k : Nat} (h1 : 1 ≤ k) (hk : k ≤ 100)
    {ps : List Card} (hp : getHomeCards api store token now o k = .ok ps) :
    ∃ cards, assembleHome api store token now maxSize = .ok cards ∧ ps = Window.slice o k cards := by
  rw [getHomeCards_slice h store token now o h1 hk] at hp
  obtain ⟨cards, hc, hslice⟩ := Except.ok_of_map hp
  exact ⟨cards, hc, hslice.symm⟩

theorem getHomeCards_ok_two {store : Store} {token : Token} {now : Int} {o k o' k' : Nat} (h1 : 1 ≤ k) (hk : k ≤ 100)
    (h1' : 1 ≤ k') (hk' : k' ≤ 100) {ps qs : List Card} (hp : getHomeCards api store token now o k = .ok ps)
    (hq : getHomeCards api store token now o' k' = .ok qs) :
    ∃ cards, assembleHome api store token now maxSize = .ok cards ∧ ps = Window.slice o k cards ∧
      qs = Window.slice o' k' cards := by
  obtain ⟨cards, hc, rfl⟩ := getHomeCards_ok h h1 hk hp
  obtain ⟨cards', hc', rfl⟩ := getHomeCards_ok h h1' hk' hq
  rw [hc] at hc'
  cases hc'
  exact ⟨cards, hc, rfl, rfl⟩

end

/-! ## One list behind the pages -/

def storeOf (notifications customers profiles : Collection) : Store :=
  ⟨notifications, customers, profiles, .empty, .empty, .empty, fun _ hj => absurd hj List.not_mem_nil⟩

def notificationsOnly (c : Collection) : Store := storeOf c .empty .empty

/-! ## A hundred and one notifications -/

def ownActive (c : Collection) : List Document :=
  Reference.sort Reference.notificationSort (c.docs.filter (fun d =>
    sees reference menteeToken d && (isActive d && d.names "profile_id" "A00000000000000000000002")))

theorem homeSections_notificationsOnly (c : Collection) : homeSections reference (notificationsOnly c) menteeToken 0 =
    .ok [⟨(ownActive c).map (notificationCard reference menteeToken), true⟩, ⟨[], false⟩, ⟨[], false⟩, ⟨[], true⟩,
      ⟨[], true⟩, ⟨journeySection menteeToken, false⟩] := rfl

def crowdedNotification (i : Nat) : Document :=
  Document.ofList (Reference.idOf i) [("profile_id", .oid menteeProfile)] rfl

def idValue (o : ObjectId) : Nat := o.nibbles.foldl (fun n d => 16 * n + d.val) 0

def crowdedNotifications : Collection where
  docs := (List.range 101).map crowdedNotification
  ids_nodup := by
    have hids : (((List.range 101).map crowdedNotification).map Document.id).map idValue = List.range 101 := by
      decide +kernel
    exact List.Nodup.of_map idValue (hids ▸ List.nodup_range)

theorem length_ownActive_crowded : (ownActive crowdedNotifications).length = 101 := by
  have hall : ∀ d ∈ crowdedNotifications.docs, (sees reference menteeToken d &&
      (isActive d && d.names "profile_id" "A00000000000000000000002")) = true :=
    List.all_eq_true.1 (by decide +kernel)
  rw [ownActive, (Reference.sort_perm _ _).length_eq, List.filter_eq_self.2 hall]
  exact (List.length_map _).trans List.length_range

/-! ## The eight sections -/

/-- A section under its gate. -/
def gated (gate : Prop) [Decidable gate] (cards : Except HTTPError (List Card)) : Except HTTPError (List Card) :=
  if gate then cards else .ok []

/-- What the composite list is documented to be made of, in order: each section under its gate, those read through a
window at offset 0 and size 100. -/
def eightSections (api : ApiUtils) (store : Store) (token : Token) (now : Int) : List (Except HTTPError (List Card)) :=
  let profileId := token.profileId.getD ""
  let customerId := token.customerId.getD ""
  let roles := token.roles.getD []
  let saved := api.buildSortBy "saved.at_time" "desc" api.profileListOrder
  [gated (profileId ≠ "") ((NotificationService.getActiveNotifications api store.notifications token 0 100
     (some [("profile_id", .str profileId)])).map (fun ds => ds.map (notificationCard api token))),
   gated (.admin ∈ roles) (.ok [syntheticCard "Products" "Manage subscription products" "Products" "admin/settings"]),
   gated (.admin ∈ roles)
     (.ok [syntheticCard "Discounts" "Manage discount codes" "Discounts" "admin/settings?tab=discounts"]),
   gated (.admin ∈ roles) (.ok [syntheticCard "Logs" "View system logs" "Logs" "admin/logs"]),
   gated (.customer ∈ roles ∧ customerId ≠ "") ((customerHomeCard api store token).map Option.toList),
   gated ((.customer ∈ roles ∨ .coordinator ∈ roles) ∧ customerId ≠ "") ((ProfileService.getMemberProfiles api
     store.profiles token 0 100 none (some saved)).map (fun ds => ds.map (memberCard api store token now))),
   gated (.mentor ∈ roles ∧ profileId ≠ "") ((ProfileService.getMenteeProfiles api
     store.profiles token 0 100 none (some saved)).map (fun ds => ds.map (menteeCard api store token now))),
   gated (.mentee ∈ roles)
     (.ok [syntheticCard "Learning Journey" "Continue your learning journey" "Journey" "mentee/journey"])]

theorem truthyClaim_eq (c : Option String) :
    truthyClaim c = if c.getD "" ≠ "" then some (c.getD "") else none := by
  cases c with
  | none => rfl
  | some s => simp [truthyClaim, Option.filter]

theorem notificationSection_gated (api : ApiUtils) (store : Store) (token : Token) (n : Int) :
    notificationSection api store token n = gated (token.profileId.getD "" ≠ "")
      ((NotificationService.getActiveNotifications api store.notifications token 0 n
        (some [("profile_id", .str (token.profileId.getD ""))])).map
          (fun ds => ds.map (notificationCard api token))) := by
  unfold notificationSection gated
  rw [truthyClaim_eq]
  split
  · rename_i hnone
    rw [if_neg (fun hc => by simp [hc] at hnone)]
  · rename_i s hsome
    obtain ⟨hc, rfl⟩ : token.profileId.getD "" ≠ "" ∧ token.profileId.getD "" = s := by
      split at hsome
      · exact ⟨‹_›, Option.some.inj hsome⟩
      · cases hsome
    rw [if_pos hc]
    cases NotificationService.getActiveNotifications api store.notifications token 0 n
        (some [("profile_id", .str (token.profileId.getD ""))]) with
    | error e => rfl
    | ok ds => exact projectAll_known api rfl ds token

theorem customerSection_gated (api : ApiUtils) (store : Store) (token : Token) :
    customerSection api store token = gated (.customer ∈ token.roles.getD [] ∧ token.customerId.getD "" ≠ "")
      ((customerHomeCard api store token).map Option.toList) := by
  unfold customerSection gated
  refine if_congr ?_ rfl rfl
  simp [Token.has, Token.roleList, truthyClaim_eq]

theorem gated_ok (gate : Prop) [Decidable gate] (cards : List Card) :
    gated gate (.ok cards) = .ok (if gate then cards else []) := by
  unfold gated
  split <;> rfl

theorem adminSection_gated (token : Token) : adminSection token =
    (if .admin ∈ token.roles.getD [] then
      [syntheticCard "Products" "Manage subscription products" "Products" "admin/settings"] else []) ++
    (if .admin ∈ token.roles.getD [] then
      [syntheticCard "Discounts" "Manage discount codes" "Discounts" "admin/settings?tab=discounts"] else []) ++
    (if .admin ∈ token.roles.getD [] then [syntheticCard "Logs" "View system logs" "Logs" "admin/logs"] else []) := by
  have hhas : token.has .admin = true ↔ .admin ∈ token.roles.getD [] := List.contains_iff_mem
  unfold adminSection
  by_cases hadmin : .admin ∈ token.roles.getD []
  · rw [if_pos (hhas.2 hadmin), if_pos hadmin, if_pos hadmin, if_pos hadmin]
    rfl
  · rw [if_neg (fun hc => hadmin (hhas.1 hc)), if_neg hadmin, if_neg hadmin, if_neg hadmin]
    rfl

theorem journeySection_gated (token : Token) : journeySection token =
    if .mentee ∈ token.roles.getD [] then
      [syntheticCard "Learning Journey" "Continue your learning journey" "Journey" "mentee/journey"] else [] :=
  if_congr List.contains_iff_mem rfl rfl

/-- The sections without a read stand among those with one; which read fails first is all there is to tell apart. -/
theorem sections_join (notifications customer members mentees : Except HTTPError (List Card))
    (products discounts logs journey : List Card) :
    (do
      let ns ← notifications
      let cs ← customer
      let ms ← members
      let es ← mentees
      .ok (ns ++ (products ++ discounts ++ logs) ++ cs ++ ms ++ es ++ journey)) =
    Except.join [notifications, .ok products, .ok discounts, .ok logs, customer, members, mentees, .ok journey] := by
  simp only [Except.join_cons, Except.join_nil]
  cases notifications with
  | error e => rfl
  | ok ns =>
    cases customer with
    | error e => rfl
    | ok cs =>
      cases members with
      | error e => rfl
      | ok ms =>
        cases mentees with
        | error e => rfl
        | ok es => simp [bind, Except.bind, Except.map]

section
variable {api : ApiUtils} (h : api.Documented)
include h

theorem memberSection_gated (store : Store) (token : Token) (now n : Int) :
    memberSection api store token now n =
      gated ((.customer ∈ token.roles.getD [] ∨ .coordinator ∈ token.roles.getD []) ∧ token.customerId.getD "" ≠ "")
        ((ProfileService.getMemberProfiles api store.profiles token 0 n none (some (savedDesc api))).map
          (fun ds => ds.map (memberCard api store token now))) := by
  unfold memberSection gated
  refine if_congr ?_ ?_ rfl
  · simp [isMemberReader, Token.has, Token.roleList, truthyClaim_eq, and_comm]
  · cases ProfileService.getMemberProfiles api store.profiles token 0 n none (some (savedDesc api)) with
    | error e => rfl
    | ok ds => exact projectMemberCards_eq h store ds token now

theorem menteeSection_gated (store : Store) (token : Token) (now n : Int) :
    menteeSection api store token now n =
      gated (.mentor ∈ token.roles.getD [] ∧ token.profileId.getD "" ≠ "")
        ((ProfileService.getMenteeProfiles api store.profiles token 0 n none (some (savedDesc api))).map
          (fun ds => ds.map (menteeCard api store token now))) := by
  unfold menteeSection gated
  refine if_congr ?_ ?_ rfl
  · simp [mentorScopeId, Token.has, Token.roleList, truthyClaim_eq]
  · cases ProfileService.getMenteeProfiles api store.profiles token 0 n none (some (savedDesc api)) with
    | error e => rfl
    | ok ds => exact projectMenteeCards_eq h store ds token now

/-- **The list at the ceiling is the eight sections**, joined in order. -/
theorem assembleHome_eight (store : Store) (token : Token) (now : Int) :
    assembleHome api store token now maxSize = Except.join (eightSections api store token now) := by
  unfold assembleHome eightSections
  rw [notificationSection_gated, adminSection_gated, customerSection_gated, memberSection_gated h,
    menteeSection_gated h, journeySection_gated]
  simp only [gated_ok]
  exact sections_join _ _ _ _ _ _ _ _

end

/-- **The windowed fetch agrees with fetching at the ceiling.**  One list stands behind the pages: the eight sections
under their gates, the windowed ones cut at their hundredth card.  Every page is its slice of that list, two pages agree
on the positions they share, and consecutive pages are one slice. -/
theorem getHomeCards_one_list {api : ApiUtils} (h : api.Documented) (store : Store) (token : Token) (now : Int) :
    (homeSections api store token now).map (Window.cutAll 100) =
      Except.join (eightSections api store token now) ∧
    (∀ offset size, ValidPage offset size → getHomeCards api store token now offset size =
      (homeSections api store token now).map
        (fun secs => Python.sliced (Window.cutAll 100 secs) offset (offset + size))) ∧
    (∀ offset size offset' size' ps qs, ValidPage offset size → ValidPage offset' size' →
      getHomeCards api store token now offset size = .ok ps → getHomeCards api store token now offset' size' = .ok qs →
      ∀ i j : Nat, (i : Int) < size → (j : Int) < size' → offset + i = offset' + j → ps[i]? = qs[j]?) ∧
    (∀ offset size size' ps qs, ValidPage offset size → ValidPage (offset + size) size' →
      getHomeCards api store token now offset size = .ok ps →
      getHomeCards api store token now (offset + size) size' = .ok qs →
      ∃ secs, homeSections api store token now = .ok secs ∧
        ps ++ qs = Python.sliced (Window.cutAll 100 secs) offset (offset + (size + size'))) := by
  refine ⟨?_, fun offset size hp => ?_, ?_, ?_⟩
  · rw [← assembleHome_ceiling h, assembleHome_eight h]
  · rw [getHomeCards_sliced h store token now hp, assembleHome_ceiling h]
    cases homeSections api store token now <;> rfl
  · intro offset size offset' size' ps qs hp hq hps hqs i j hi hj hij
    obtain ⟨o, k, rfl, rfl, h1, hk⟩ := hp.nat
    obtain ⟨o', k', rfl, rfl, h1', hk'⟩ := hq.nat
    obtain ⟨cards, -, rfl, rfl⟩ := getHomeCards_ok_two h h1 hk h1' hk' hps hqs
    rw [Window.getElem?_slice, Window.getElem?_slice, if_pos (by omega), if_pos (by omega),
      show o + i = o' + j by omega]
  · intro offset size size' ps qs hp hq hps hqs
    obtain ⟨o, k, rfl, rfl, h1, hk⟩ := hp.nat
    obtain ⟨o', k', ho', rfl, h1', hk'⟩ := hq.nat
    rw [ho'] at hqs
    obtain ⟨cards, hc, rfl, rfl⟩ := getHomeCards_ok_two h h1 hk h1' hk' hps hqs
    rw [assembleHome_ceiling h] at hc
    obtain ⟨secs, hsecs, rfl⟩ := Except.ok_of_map hc
    refine ⟨secs, hsecs, ?_⟩
    rw [show o' = o + k by omega, Window.slice_append, ← Python.sliced_eq_slice]
    congr 1

/-- A page over the section cut at its hundredth card: the five last of it, and the one of the next. -/
theorem getHomeCards_one_list_crowded :
    getHomeCards reference (notificationsOnly crowdedNotifications) menteeToken 0 95 20 =
      (homeSections reference (notificationsOnly crowdedNotifications) menteeToken 0).map
        (fun secs => Python.sliced (Window.cutAll 100 secs) 95 (95 + 20)) ∧
    ∃ page, getHomeCards reference (notificationsOnly crowdedNotifications) menteeToken 0 95 20 = .ok page ∧
      page.length = 6 := by
  have hpage := (getHomeCards_one_list reference_documented (notificationsOnly crowdedNotifications) menteeToken 0).2.1
    95 20 (by decide)
  rw [homeSections_notificationsOnly] at hpage ⊢
  refine ⟨hpage, _, hpage, ?_⟩
  have hsliced : ∀ xs : List Card, Python.sliced xs 95 (95 + 20) = Window.slice 95 20 xs :=
    fun xs => Python.sliced_eq_slice xs 95 20
  have hjourney : (journeySection menteeToken).length = 1 := rfl
  simp only [hsliced]
  simp [Window.slice, Window.cutAll, Window.cut, length_ownActive_crowded, hjourney]

/-! ## The complete list and the ceiling -/

/-- **What paging returns**: every page is its slice of the list whose Notification, Member and Mentee sections end at
their hundredth card; that slice is the complete list's when the page ends within the first hundred positions or no
section is longer; and a walk returns each card of that list once. -/
theorem getHomeCards_capped {api : ApiUtils} (h : api.Documented) (store : Store) (token : Token) (now : Int) :
    (∀ offset size, ValidPage offset size → getHomeCards api store token now offset size =
      (homeSections api store token now).map
        (fun secs => Python.sliced (Window.cutAll 100 secs) offset (offset + size))) ∧
    (∀ offset size, ValidPage offset size → (offset + size ≤ 100 ∨ WithinCeiling api store token now) →
      getHomeCards api store token now offset size =
        (completeHome api store token now).map (fun cards => Python.sliced cards offset (offset + size))) ∧
    (∀ secs, homeSections api store token now = .ok secs → ∀ k : Nat, 1 ≤ k → k ≤ 100 →
      ∃ pages : List (List Card),
        (∀ (i : Nat) p, pages[i]? = some p → getHomeCards api store token now (i * k : Nat) k = .ok p ∧ p ≠ []) ∧
        getHomeCards api store token now (pages.length * k : Nat) k = .ok [] ∧
        pages.flatten = Window.cutAll 100 secs) := by
  refine ⟨fun offset size hp => ?_, fun offset size hp hcap => ?_, fun secs hsecs k h1 hk => ?_⟩
  · rw [getHomeCards_sliced h store token now hp, assembleHome_ceiling h]
    cases homeSections api store token now <;> rfl
  · rw [getHomeCards_sliced h store token now hp, assembleHome_ceiling h]
    cases hsecs : homeSections api store token now with
    | error e => simp only [completeHome, hsecs, Except.map]
    | ok secs =>
      simp only [completeHome, hsecs, Except.map, Except.ok.injEq]
      rcases hcap with hcap | hcap
      · obtain ⟨o, k, rfl, rfl, -, -⟩ := hp.nat
        rw [← Int.natCast_add, Python.sliced_eq_slice, Python.sliced_eq_slice, Window.slice_cutAll secs (by omega)]
      · rw [Window.cutAll_eq_whole (hcap secs hsecs)]
  · obtain ⟨m, hfull, hempty, hall⟩ := Window.walk h1 (Window.cutAll 100 secs)
    have hpage : ∀ i : Nat, getHomeCards api store token now (i * k : Nat) k =
        .ok (Window.slice (i * k) k (Window.cutAll 100 secs)) := fun i => by
      rw [getHomeCards_eq h store token now (i * k) h1 hk, hsecs]
      rfl
    refine ⟨(List.range m).map (fun i => Window.slice (i * k) k (Window.cutAll 100 secs)), fun i p hi => ?_, ?_, ?_⟩
    · have him : i < m := by
        have hlt := (List.getElem?_eq_some_iff.1 hi).1
        rwa [List.length_map, List.length_range] at hlt
      rw [List.getElem?_map, List.getElem?_range him] at hi
      cases hi
      exact ⟨hpage i, hfull i him⟩
    · rw [List.length_map, List.length_range, hpage, hempty]
    · rw [← List.flatMap_def]
      exact hall

theorem getHomeCards_capped_own : getHomeCards reference (notificationsOnly ownNotifications) menteeToken 0 0 20 =
    (homeSections reference (notificationsOnly ownNotifications) menteeToken 0).map
      (fun secs => Python.sliced (Window.cutAll 100 secs) 0 (0 + 20)) :=
  (getHomeCards_capped reference_documented (notificationsOnly ownNotifications) menteeToken 0).1 0 20 (by decide)

/-! ## A card past the ceiling -/

/-- A section past the ceiling gives its position to the next section. -/
theorem slice_past_ceiling {l : List Card} (hl : l.length = 101) (j : Card) :
    Window.slice 100 1 (l.take 100 ++ [j]) = [j] ∧ Window.slice 100 1 (l ++ [j]) = l.drop 100 := by
  have htake : (l.take 100).length = 100 := by rw [List.length_take]; omega
  have hdrop : (l.drop 100).length = 1 := by rw [List.length_drop]; omega
  constructor
  · rw [Window.slice, List.drop_append_of_le_length (by omega), List.drop_of_length_le (by omega)]
    rfl
  · rw [Window.slice, List.drop_append_of_le_length (by omega), List.take_append_of_le_length (by omega),
      List.take_of_length_le (by omega)]

/-- **A card past the ceiling is on no page**: of 101 notifications, the last is not at position 100. -/
theorem card_past_ceiling_lost :
    getHomeCards reference (notificationsOnly crowdedNotifications) menteeToken 0 100 1 ≠
      (completeHome reference (notificationsOnly crowdedNotifications) menteeToken 0).map
        (fun cards => Python.sliced cards 100 (100 + 1)) := by
  intro heq
  have hlen : ((ownActive crowdedNotifications).map (notificationCard reference menteeToken)).length = 101 := by
    rw [List.length_map, length_ownActive_crowded]
  have hpage : getHomeCards reference (notificationsOnly crowdedNotifications) menteeToken 0 100 1 = _ :=
    getHomeCards_eq reference_documented (notificationsOnly crowdedNotifications) menteeToken 0 100 (k := 1)
      (by decide) (by decide)
  have hsliced : ∀ xs : List Card, Python.sliced xs 100 (100 + 1) = Window.slice 100 1 xs :=
    fun xs => Python.sliced_eq_slice xs 100 1
  rw [heq, completeHome, homeSections_notificationsOnly] at hpage
  simp only [Except.map, hsliced, Except.ok.injEq] at hpage
  obtain ⟨j, hj⟩ : ∃ j, journeySection menteeToken = [j] ∧ j.type = some "Journey" := ⟨_, rfl, rfl⟩
  simp only [Window.whole, Window.cutAll, Window.cut, List.flatMap_cons, List.flatMap_nil, List.nil_append,
    List.append_nil, List.take_nil, if_true, Bool.false_eq_true, if_false, ite_self, hj.1] at hpage
  rw [(slice_past_ceiling hlen j).1, (slice_past_ceiling hlen j).2] at hpage
  have hmem : j ∈ (ownActive crowdedNotifications).map (notificationCard reference menteeToken) :=
    List.mem_of_mem_drop (hpage ▸ List.mem_singleton.2 rfl)
  obtain ⟨d, -, rfl⟩ := List.mem_map.1 hmem
  exact absurd hj.2 (show some "Notification" ≠ some "Journey" by decide)

end CardService
end Discovery
