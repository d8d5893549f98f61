import DiscoveryApi.NotificationPaging
import DiscoveryApi.Ledger
/-!
# HomeChanges — what a run of notification requests does to a home list

A dismiss or a cancel takes its card off the list and a create may put one in; nothing else of the list changes, and no
two cards change places.  So a caller that retired cards it had already walked past goes on that many places earlier.
-/
namespace Discovery
namespace NotificationService

open Journal (journal)
open CardService

/-- The ids a run creates. -/
def createdIds (api : ApiUtils) (c : Collection) (requests : List Request) : List ObjectId :=
  (journal (serve api) c requests).filterMap (fun e => createdId e.1 e.2)

/-- The id a control request that returned wrote to. -/
def retiredId : Request → Outcome → Option ObjectId
  | .control _ id _ _, .ok _ => ObjectId.ofHex? id
  | _, _ => none

/-- The ids a run retires. -/
def retiredIds (api : ApiUtils) (c : Collection) (requests : List Request) : List ObjectId :=
  (journal (serve api) c requests).filterMap (fun e => retiredId e.1 e.2)

/-- The Notification card of one of the ids. -/
def cardAmong (ids : List ObjectId) (card : Card) : Bool :=
  decide (card.type = some "Notification") && ids.any (fun o => decide (card.id = some (.oid o)))

/-- The list but for the Notification cards of the ids. -/
def outside (ids : List ObjectId) (cards : List Card) : List Card := cards.filter (fun card => !cardAmong ids card)

theorem outside_nil (cards : List Card) : outside [] cards = cards := by
  refine List.filter_eq_self.2 (fun card _ => ?_)
  rw [cardAmong, List.any_nil, Bool.and_false]
  rfl

theorem outside_append (ids : List ObjectId) (xs ys : List Card) :
    outside ids (xs ++ ys) = outside ids xs ++ outside ids ys := List.filter_append ..

/-- The store a run of notification requests leaves. -/
def storeAfter (api : ApiUtils) (store : Store) (requests : List Request) : Store :=
  { store with notifications := after api store.notifications requests }

section
variable {api : ApiUtils} (h : api.Documented)
include h

/-! ## What the run leaves alone -/

/-- **A document the run neither created nor retired is as it was.** -/
theorem find_untouched (c : Collection) (requests : List Request) {o : ObjectId}
    (hcreated : o ∉ createdIds api c requests)
    (hretired : o ∉ retiredIds api c requests) : (after api c requests).find o = c.find o := by
  have hreplays := replays_run h c requests
  refine find_of_fields ?_ (fun k => ?_)
  · rw [Bool.eq_iff_iff, find_isSome_iff, find_isSome_iff, hreplays.ids, List.mem_append]
    exact or_iff_left hcreated
  · have hnone : Journal.last (wrote o k) (journal (serve api) c requests) = none := by
      rw [Journal.last_eq_none_iff]
      rintro ⟨r, out⟩ hmem
      cases r with
      | create body token b =>
        match out with
        | .error e => rfl
        | .ok none => rfl
        | .ok (some d) => exact if_neg (fun ho => hcreated (List.mem_filterMap.2 ⟨_, hmem, congrArg some ho⟩))
      | control f id token b =>
        match out with
        | .error e => rfl
        | .ok x => exact if_neg (fun hand => hretired (List.mem_filterMap.2 ⟨_, hmem, hand.1⟩))
    rw [hreplays.fields, hnone, Option.none_or]

/-- The ids a run creates were not taken. -/
theorem not_mem_createdIds {c : Collection} (requests : List Request) {d : Document} (hd : d ∈ c.docs) :
    d.id ∉ createdIds api c requests := by
  have hnodup := (after api c requests).ids_nodup
  rw [(replays_run h c requests).ids, List.nodup_append] at hnodup
  exact fun hmem => hnodup.2.2 _ (List.mem_map_of_mem hd) _ hmem rfl

/-- **The active documents after a run, but for those it created, are the active documents before it, but for those it
retired.** -/
theorem active_after (c : Collection) (requests : List Request) {d : Document} (hactive : isActive d = true) :
    (d ∈ (after api c requests).docs ∧ d.id ∉ createdIds api c requests) ↔
      (d ∈ c.docs ∧ d.id ∉ retiredIds api c requests) := by
  have hfind := fun hcreated hretired => find_untouched h c requests (o := d.id) hcreated hretired
  constructor
  · rintro ⟨hd, hcreated⟩
    have hunretired := (active_iff_unretired h hd).1 hactive
    have hretired : d.id ∉ retiredIds api c requests := by
      rintro hmem
      obtain ⟨⟨r, out⟩, hentry, hr⟩ := List.mem_filterMap.1 hmem
      cases r with
      | create body token b => cases hr
      | control f id token b =>
        match out with
        | .error e => cases hr
        | .ok x => exact hunretired.since f id token b x hentry hr
    have hsame := (Collection.find_eq_some_iff.2 ⟨hd, rfl⟩).symm.trans (hfind hcreated hretired)
    exact ⟨(Collection.find_eq_some_iff.1 hsame.symm).1, hretired⟩
  · rintro ⟨hd, hretired⟩
    have hcreated := not_mem_createdIds h requests hd
    have hsame := (hfind hcreated hretired).trans (Collection.find_eq_some_iff.2 ⟨hd, rfl⟩)
    exact ⟨(Collection.find_eq_some_iff.1 hsame).1, hcreated⟩

/-! ## The Notification section -/

omit h in
theorem cardAmong_document (api : ApiUtils) (token : Token) (ids : List ObjectId) (d : Document) :
    cardAmong ids (notificationCard api token d) = ids.contains d.id := by
  have htype : (notificationCard api token d).type = some "Notification" := rfl
  have hid : (notificationCard api token d).id = some (.oid d.id) := rfl
  rw [cardAmong, htype, hid, decide_eq_true rfl, Bool.true_and, Bool.eq_iff_iff, List.any_eq_true,
    List.contains_iff_mem]
  constructor
  · rintro ⟨o, ho, heq⟩
    cases of_decide_eq_true heq
    exact ho
  · exact fun hmem => ⟨d.id, hmem, decide_eq_true rfl⟩

theorem allNotifications_ordered {le : Document → Document → Prop} (ho : Concurrency.ListOrder api le) {store : Store}
    {token : Token} {ds : List Document} (hds : allNotifications api store token = .ok ds) :
    ds.Pairwise le ∧ (ds.map Document.id).Nodup := by
  rw [Concurrency.allNotifications_listing h ho hds]
  refine ⟨(ho.sorted _).filter _, List.Nodup.sublist (List.filter_sublist.map _) ?_⟩
  exact ((h.sort_perm _ _).map _).nodup_iff.2 (ids_nodup_filter _ _)

/-- **The caller's notifications keep their order**: what the run neither created nor retired is listed as before. -/
theorem allNotifications_after {le : Document → Document → Prop} (ho : Concurrency.ListOrder api le) {store : Store}
    {requests : List Request} {token : Token} {ds ds' : List Document} (hds : allNotifications api store token = .ok ds)
    (hds' : allNotifications api (storeAfter api store requests) token = .ok ds') :
    ds'.filter (fun d => !(createdIds api store.notifications requests).contains d.id) =
      ds.filter (fun d => !(retiredIds api store.notifications requests).contains d.id) := by
  obtain ⟨hle, hn⟩ := allNotifications_ordered h ho hds
  obtain ⟨hle', hn'⟩ := allNotifications_ordered h ho hds'
  have hseparates : Ordered.Separates le ds := fun a ha b hb hab hba =>
    List.inj_on_of_nodup_map hn ha hb (ho.ids hab hba)
  refine (hseparates.subset (List.filter_subset_self _)).eq_of_mem (hle'.filter _) (hle.filter _)
    (hn'.of_map.filter _) (hn.of_map.filter _) (fun d => ?_)
  simp only [List.mem_filter, mem_allNotifications h hds, mem_allNotifications h hds', Bool.not_eq_true',
    ← Bool.not_eq_true, List.contains_iff_mem]
  have hafter := active_after h store.notifications requests (d := d)
  constructor
  · rintro ⟨⟨hd, hsees, hactive, hown⟩, hcreated⟩
    obtain ⟨hd, hretired⟩ := (hafter hactive).1 ⟨hd, hcreated⟩
    exact ⟨⟨hd, hsees, hactive, hown⟩, hretired⟩
  · rintro ⟨⟨hd, hsees, hactive, hown⟩, hretired⟩
    obtain ⟨hd, hcreated⟩ := (hafter hactive).2 ⟨hd, hretired⟩
    exact ⟨⟨hd, hsees, hactive, hown⟩, hcreated⟩

/-! ## The whole list -/

/-- Within the ceiling every page is a slice of the complete list. -/
theorem page_whole {store : Store} {token : Token} {now : Int} {secs : List (Window.Section Card)}
    (hsecs : homeSections api store token now = .ok secs) (hw : WithinCeiling api store token now) (o : Nat) {k : Nat}
    (h1 : 1 ≤ k) (hk : k ≤ 100) :
    getHomeCards api store token now o k = .ok (Window.slice o k (Window.whole secs)) := by
  rw [getHomeCards_slice h store token now o h1 hk, assembleHome_ceiling h, hsecs]
  simp only [Except.map, Window.cutAll_eq_whole (hw secs hsecs)]

omit h in
/-- Whether the notifications can be read is the token's matter, not the store's. -/
theorem allNotifications_reads {store : Store} (store' : Store) {token : Token} {ds : List Document}
    (hds : allNotifications api store token = .ok ds) : ∃ ds', allNotifications api store' token = .ok ds' := by
  unfold allNotifications at hds ⊢
  cases hs : truthyClaim token.profileId with
  | none => exact ⟨[], rfl⟩
  | some s =>
    simp only [hs] at hds ⊢
    obtain ⟨v, hv, -⟩ := Except.ok_of_map hds
    exact ⟨_, by rw [hv]; rfl⟩

omit h in
/-- The sections after the run: the Notification section may be another, the others are the same. -/
theorem homeSections_after {store : Store} (requests : List Request) {token : Token} {now : Int} {ns : List Card}
    {rest : List (Window.Section Card)} (hsecs : homeSections api store token now = .ok (⟨ns, true⟩ :: rest)) :
    ∃ ns', notificationCards api (storeAfter api store requests) token = .ok ns' ∧
      homeSections api (storeAfter api store requests) token now = .ok (⟨ns', true⟩ :: rest) := by
  obtain ⟨ns₀, hns, hrest⟩ := Except.ok_of_bind hsecs
  have hread : ∃ ns', notificationCards api (storeAfter api store requests) token = .ok ns' := by
    obtain ⟨ds, hds, -⟩ := Except.ok_of_map hns
    obtain ⟨ds', hds'⟩ := allNotifications_reads (storeAfter api store requests) hds
    exact ⟨_, congrArg (Except.map _) hds'⟩
  obtain ⟨ns', hns'⟩ := hread
  refine ⟨ns', hns', ?_⟩
  -- no other section reads the Notification collection
  obtain ⟨cs, hcs, hrest⟩ := Except.ok_of_bind hrest
  obtain ⟨ms, hms, hrest⟩ := Except.ok_of_bind hrest
  obtain ⟨es, hes, hrest⟩ := Except.ok_of_bind hrest
  have hcs' : customerSection api (storeAfter api store requests) token = .ok cs := hcs
  have hms' : memberCards api (storeAfter api store requests) token now = .ok ms := hms
  have hes' : menteeCards api (storeAfter api store requests) token now = .ok es := hes
  cases hrest
  rw [homeSections, hns', hcs', hms', hes']
  rfl

omit h in
/-- No card of the later sections stands for a notification. -/
theorem outside_later {token : Token} {cards : List Card} (hband : Band token 1 7 cards) (ids : List ObjectId) :
    outside ids cards = cards := by
  refine List.filter_eq_self.2 (fun card hc => ?_)
  rw [cardAmong, decide_eq_false (hband.later card hc)]
  rfl

/-- The two complete lists. -/
theorem whole_after {le : Document → Document → Prop} (ho : Concurrency.ListOrder api le) {store : Store}
    {requests : List Request} {token : Token} {ns ns' : List Card} {rest : List (Window.Section Card)}
    (hns : notificationCards api store token = .ok ns)
    (hns' : notificationCards api (storeAfter api store requests) token = .ok ns')
    (hrest : Band token 1 7 (Window.whole rest)) :
    outside (createdIds api store.notifications requests) (Window.whole (⟨ns', true⟩ :: rest)) =
      outside (retiredIds api store.notifications requests) (Window.whole (⟨ns, true⟩ :: rest)) := by
  obtain ⟨ds, hds, rfl⟩ := Except.ok_of_map hns
  obtain ⟨ds', hds', rfl⟩ := Except.ok_of_map hns'
  have hwhole : ∀ ns, Window.whole (⟨ns, true⟩ :: rest) = ns ++ Window.whole rest := fun _ => List.flatMap_cons ..
  rw [hwhole, hwhole, outside_append, outside_append, outside_later hrest, outside_later hrest]
  rw [outside, outside, List.filter_map, List.filter_map]
  simp only [Function.comp_def, cardAmong_document]
  rw [allNotifications_after h ho hds hds']

/-- **A run of notification requests only takes retired cards off a home list and puts created ones in.**  With no
section past the ceiling, the pages before and the pages after are slices of two lists: the one after, but for the
notifications the run created, is the one before, but for those it retired, card for card and in the same order.  When
the run created none and retired none from the offset on, the page at that offset is found as many places earlier as
cards were retired before it. -/
theorem home_changes {le : Document → Document → Prop} (ho : Concurrency.ListOrder api le) {store : Store}
    (requests : List Request) {token : Token} {now : Int}
    (hok : ∃ page, getHomeCards api store token now 0 100 = .ok page) (hw : WithinCeiling api store token now)
    (hw' : WithinCeiling api (storeAfter api store requests) token now) :
    ∃ before later : List Card,
      (∀ o k : Nat, 1 ≤ k → k ≤ 100 → getHomeCards api store token now o k = .ok (Window.slice o k before)) ∧
      (∀ o k : Nat, 1 ≤ k → k ≤ 100 →
        getHomeCards api (storeAfter api store requests) token now o k = .ok (Window.slice o k later)) ∧
      outside (createdIds api store.notifications requests) later =
        outside (retiredIds api store.notifications requests) before ∧
      (createdIds api store.notifications requests = [] → ∀ o k : Nat, 1 ≤ k → k ≤ 100 →
        outside (retiredIds api store.notifications requests) (before.drop o) = before.drop o →
        getHomeCards api (storeAfter api store requests) token now
            ((outside (retiredIds api store.notifications requests) (before.take o)).length : Nat) k =
          getHomeCards api store token now o k) := by
  obtain ⟨page, hpage⟩ := hok
  obtain ⟨secs, -, -, hsecs, -, -, -, -, -⟩ := page_of_ok h hpage
  obtain ⟨ns, rest, hns, rfl, -, hrest, -⟩ := homeSections_band h hsecs
  obtain ⟨ns', hns', hsecs'⟩ := homeSections_after requests hsecs
  have hlists := whole_after h ho hns hns' hrest
  refine ⟨_, _, fun o k => page_whole h hsecs hw o, fun o k => page_whole h hsecs' hw' o, hlists, ?_⟩
  intro hnone o k h1 hk hpassed
  rw [hnone, outside_nil] at hlists
  rw [page_whole h hsecs' hw' _ h1 hk, page_whole h hsecs hw _ h1 hk, hlists]
  exact congrArg Except.ok (Window.slice_filter (List.filter_eq_self.1 hpassed) k)

end

theorem length_ownActive_le (c : Collection) : (ownActive c).length ≤ c.docs.length := by
  have hperm := reference_documented.sort_perm Reference.notificationSort (c.docs.filter (fun d =>
    sees reference menteeToken d && (isActive d && d.names "profile_id" "A00000000000000000000002")))
  exact hperm.length_eq.trans_le (List.length_filter_le _ _)

theorem withinCeiling_notificationsOnly {c : Collection} (hc : c.docs.length ≤ 100) :
    WithinCeiling reference (notificationsOnly c) menteeToken 0 := by
  intro secs hsecs s hs hwindowed
  rw [homeSections_notificationsOnly] at hsecs
  cases hsecs
  have hown := length_ownActive_le c
  simp only [List.mem_cons, List.not_mem_nil, or_false] at hs
  obtain rfl | rfl | rfl | rfl | rfl | rfl := hs
  · exact (List.length_map _).trans_le (hown.trans hc)
  all_goals first | exact Nat.zero_le _ | cases hwindowed

theorem home_changes_own :
    ∃ before later : List Card,
      getHomeCards reference (notificationsOnly ownNotifications) menteeToken 0 0 20 =
        .ok (Window.slice 0 20 before) ∧
      getHomeCards reference (storeAfter reference (notificationsOnly ownNotifications) [dismissOwn]) menteeToken 0 0
        20 = .ok (Window.slice 0 20 later) ∧
      outside [] later = outside [Reference.idOf 1] before := by
  have hw : WithinCeiling reference (notificationsOnly ownNotifications) menteeToken 0 :=
    withinCeiling_notificationsOnly (by decide)
  have hlength : (after reference ownNotifications [dismissOwn]).docs.length ≤ 100 := by decide +kernel
  obtain ⟨before, later, hbefore, hlater, hlists, -⟩ := home_changes reference_documented
    Concurrency.reference_listOrder [dismissOwn] ⟨_, rfl⟩ hw (withinCeiling_notificationsOnly hlength)
  exact ⟨before, later, hbefore 0 20 (by decide) (by decide), hlater 0 20 (by decide) (by decide), hlists⟩

end NotificationService
end Discovery
