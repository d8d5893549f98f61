import DiscoveryApi.Lib.Ordered
import DiscoveryApi.Lib.Walk
import DiscoveryApi.HomeShape
import DiscoveryApi.ReferenceOrder
import DiscoveryApi.UnseenCalls
/-!
# NotificationPaging — walking the Notification card list while others write

The pages are cut, one request at a time, out of a list others write to between the requests.  A create puts a card in
somewhere and a control request moves none, so a walk without gaps that meets a short page has shown every notification
the caller saw when it began, and each once when nothing was created.
-/
namespace Discovery
namespace Concurrency

open NotificationService (sees)
open NotificationCardService (notificationCardListFilters adminFilterRequested applicableCardFilters)
open CardRoutes (getNotificationCards cards restoredFilters listCards_unfiltered adminFilterRequested_restored)
open CardService
open Ordered (SortsBy Separates)

/-! ## The whole list -/

/-- The documents of the caller's Notification list, in its order. -/
def listing (api : ApiUtils) (c : Collection) (token : Token) : List Document :=
  api.sort api.notificationSort (c.docs.filter (sees api token))

def listedIds (api : ApiUtils) (c : Collection) (token : Token) : List ObjectId := (listing api c token).map Document.id

/-- **What the list's sort is**: an order of the documents that no breadcrumb changes and that tells two ids apart. -/
structure ListOrder (api : ApiUtils) (le : Document → Document → Prop) : Prop where
  sorted : ∀ l, (api.sort api.notificationSort l).Pairwise le
  ids : ∀ {a b}, le a b → le b a → a.id = b.id
  control : ∀ {a b} f v, (le (a.setControl f v) b ↔ le a b) ∧ (le a (b.setControl f v) ↔ le a b)

theorem separates {le : Document → Document → Prop} (hids : ∀ {a b}, le a b → le b a → a.id = b.id) {ds : List Document}
    (hn : (ds.map Document.id).Nodup) : Separates le ds :=
  fun _ ha _ hb hab hba => List.inj_on_of_nodup_map hn ha hb (hids hab hba)

section
variable {api : ApiUtils} (h : api.Documented) {le : Document → Document → Prop} (ho : ListOrder api le)
include h ho

theorem ListOrder.sortsBy : SortsBy (api.sort api.notificationSort) le := ⟨h.sort_perm api.notificationSort, ho.sorted⟩

omit h in
theorem ListOrder.separates_filter (c : Collection) (p : Document → Bool) : Separates le (c.docs.filter p) :=
  separates ho.ids (c.ids_nodup.sublist (List.filter_sublist.map _))

/-- A breadcrumb moves nothing. -/
theorem listedIds_setControl (c : Collection) (token : Token) (o : ObjectId) (f : ControlField) (b : Value) :
    listedIds api (c.setControl o f b) token = listedIds api c token := by
  have hle : ∀ {x y : Document}, le x y → le (if x.id = o then x.setControl f b else x)
      (if y.id = o then y.setControl f b else y) := by
    intro x y hxy
    split <;> split
    · exact (ho.control f b).1.2 ((ho.control f b).2.2 hxy)
    · exact (ho.control f b).1.2 hxy
    · exact (ho.control f b).2.2 hxy
    · exact hxy
  have hfilter : (c.setControl o f b).docs.filter (sees api token) =
      (c.docs.filter (sees api token)).map (fun d => if d.id = o then d.setControl f b else d) :=
    filter_setControl h c.docs o f b
  have hseparates := ho.separates_filter (c.setControl o f b) (sees api token)
  rw [hfilter] at hseparates
  rw [listedIds, listing, hfilter, (ho.sortsBy h).map hseparates hle, Collection.map_id_setControl]
  rfl

/-- **No request takes anything off a caller's list or puts two of its notifications in another order.** -/
theorem listedIds_serve (c : Collection) (token : Token) (r : NotificationService.Request) :
    (listedIds api c token).Sublist (listedIds api (NotificationService.serve api c r).1 token) := by
  cases r with
  | create body token' b =>
    rcases NotificationService.create_collection h c body token' b with hc | ⟨d, hc⟩
    · rw [NotificationService.serve, hc]
    · have hsub : (c.docs.filter (sees api token)).Sublist
          ((NotificationService.serve api c (.create body token' b)).1.docs.filter (sees api token)) := by
        rw [NotificationService.serve, hc, List.filter_append]
        exact List.sublist_append_left _ _
      exact ((ho.sortsBy h).sublist (ho.separates_filter _ _) hsub).map Document.id
  | control f id token' b =>
    rw [NotificationService.serve]
    rcases NotificationService.control_collection h f c id token' b with hc | ⟨o, -, hc⟩
    · rw [hc]
    · rw [hc, listedIds_setControl h ho]

theorem listedIds_run (lists : ListUtils) (token : Token) (calls : List Call) (s : Store) :
    (listedIds api s.notifications token).Sublist
      (listedIds api (Runs.run (serve api lists) s calls).1.notifications token) := by
  refine Runs.run_rel
    (R := fun s s' : Store => (listedIds api s.notifications token).Sublist (listedIds api s'.notifications token))
    (fun _ => List.Sublist.refl _) (fun hab hbc => hab.trans hbc) (fun s call => ?_) calls s
  cases call with
  | notification r => exact listedIds_serve h ho s.notifications token r
  | home token' now offset size => exact List.Sublist.refl _
  | list token' request => exact List.Sublist.refl _

/-- A call that creates nothing. -/
def Call.noCreate : Call → Bool
  | .notification (.create ..) => false
  | _ => true

theorem listedIds_run_noCreate (lists : ListUtils) (token : Token) : ∀ (calls : List Call) (s : Store),
    calls.all Call.noCreate = true →
    listedIds api (Runs.run (serve api lists) s calls).1.notifications token = listedIds api s.notifications token
  | [], _, _ => rfl
  | call :: calls, s, hall => by
    rw [List.all_cons, Bool.and_eq_true] at hall
    refine (listedIds_run_noCreate lists token calls _ hall.2).trans ?_
    cases call with
    | notification r =>
      cases r with
      | create body token' b => cases hall.1
      | control f id token' b =>
        simp only [serve, NotificationService.serve]
        rcases NotificationService.control_collection h f s.notifications id token' b with hc | ⟨o, -, hc⟩
        · rw [hc]
        · rw [hc, listedIds_setControl h ho]
    | home token' now offset size => rfl
    | list token' request => rfl

end

/-! ## A page without filters -/

/-- The ids a reply shows, in its order. -/
def shownIds : Except HTTPError (List Card) → List ObjectId
  | .ok page => page.filterMap (fun card => match card.id with
      | some (.oid o) => some o
      | _ => none)
  | .error _ => []

theorem shownIds_cards (api : ApiUtils) (token : Token) (ds : List Document) :
    shownIds (.ok (cards api token ds)) = ds.map Document.id := by
  rw [shownIds, cards, List.filterMap_map]
  show ds.filterMap (some ∘ Document.id) = _
  rw [List.filterMap_eq_map]

section
variable {api : ApiUtils} (h : api.Documented) {lists : ListUtils} (hl : lists.Documented)
include h hl

omit h hl in
theorem applicable_of_none {filters : Match} (hn : adminFilterRequested (some filters) = false) :
    applicableCardFilters (some filters) = [] := by
  refine List.filter_eq_nil_iff.2 (fun p hp hc => ?_)
  rw [Bool.and_eq_true, List.contains_iff_mem] at hc
  exact List.any_eq_false.1 hn p.1 hc.1 (List.contains_iff_mem.2 (List.mem_map_of_mem hp))

/-- **A request without filters gets a page of the caller's list**, whoever the caller is. -/
theorem getNotificationCards_unfiltered {request : Discovery.Request} {parsed : ParsedList}
    (hp : lists.parseListRequest request notificationCardListFilters lists.notificationListOrder = .ok parsed)
    (hn : (Assoc.keys notificationCardListFilters).any request.has = false) (c : Collection) (token : Token) :
    (getNotificationCards api lists c token request).result =
      .ok (cards api token (Window.slice parsed.offset.toNat parsed.size.toNat (listing api c token))) := by
  obtain ⟨ho, h1, hsize⟩ := hl.page hp
  have hnone : adminFilterRequested (some (restoredFilters request parsed.filters)) = false :=
    (adminFilterRequested_restored hl hp).trans hn
  rw [getNotificationCards, hp]
  dsimp only
  rw [NotificationCardService.getNotifications, hnone, applicable_of_none hnone, Bool.false_and,
    if_neg Bool.false_ne_true, ite_self]
  dsimp only
  rw [List.isEmpty_nil, if_pos rfl, Option.getD_none, listCards_unfiltered h ho h1 hsize]
  rfl

end

/-! ## A walk -/

/-- One fetch of a walk: the calls served since the fetch before, its request, and what the request asks for. -/
structure Fetch where
  served : List Call
  request : Discovery.Request
  parsed : ParsedList

/-- The request parses to the window and sends no filter. -/
structure Fetch.Unfiltered (lists : ListUtils) (f : Fetch) : Prop where
  parsed : lists.parseListRequest f.request notificationCardListFilters lists.notificationListOrder = .ok f.parsed
  filters : (Assoc.keys notificationCardListFilters).any f.request.has = false

def Fetch.store (api : ApiUtils) (lists : ListUtils) (s : Store) (f : Fetch) : Store :=
  (Runs.run (serve api lists) s f.served).1

/-- The replies to a caller's fetches, one after another. -/
def walk (api : ApiUtils) (lists : ListUtils) (token : Token) : Store → List Fetch → List (Except HTTPError (List Card))
  | _, [] => []
  | s, f :: fs =>
    (getNotificationCards api lists (f.store api lists s).notifications token f.request).result ::
      walk api lists token (f.store api lists s) fs

/-- Each window starts no later than the one before it ended. -/
def GaplessWindows : Int → List Fetch → Prop
  | _, [] => True
  | n, f :: fs => f.parsed.offset ≤ n ∧ GaplessWindows (f.parsed.offset + f.parsed.size) fs

/-- Each window starts where the one before it ended. -/
def ConsecutiveWindows : Int → List Fetch → Prop
  | _, [] => True
  | n, f :: fs => f.parsed.offset = n ∧ ConsecutiveWindows (f.parsed.offset + f.parsed.size) fs

/-- The last reply is a page shorter than its request asked for. -/
def EndsShort (api : ApiUtils) (lists : ListUtils) (token : Token) (s : Store) (fs : List Fetch) : Prop :=
  ∃ f page, fs.getLast? = some f ∧ (walk api lists token s fs).getLast? = some (.ok page) ∧
    (page.length : Int) < f.parsed.size

/-- What the fetches read of the list. -/
def reads (api : ApiUtils) (lists : ListUtils) (token : Token) : Store → List Fetch → List (Walk.Read ObjectId)
  | _, [] => []
  | s, f :: fs =>
    ⟨listedIds api (f.store api lists s).notifications token, f.parsed.offset.toNat, f.parsed.size.toNat⟩ ::
      reads api lists token (f.store api lists s) fs

section
variable {api : ApiUtils} (h : api.Documented) {lists : ListUtils} (hl : lists.Documented)
include h hl

/-- The reply to a fetch, and the read behind it. -/
theorem reply_read {f : Fetch} (hf : f.Unfiltered lists) (c : Collection) (token : Token) :
    ∃ page, (getNotificationCards api lists c token f.request).result = .ok page ∧
      shownIds (.ok page) = Window.slice f.parsed.offset.toNat f.parsed.size.toNat (listedIds api c token) ∧
      page.length = (Window.slice f.parsed.offset.toNat f.parsed.size.toNat (listedIds api c token)).length := by
  have hmap : (Window.slice f.parsed.offset.toNat f.parsed.size.toNat (listing api c token)).map Document.id =
      Window.slice f.parsed.offset.toNat f.parsed.size.toNat (listedIds api c token) := by
    rw [listedIds, Window.slice, Window.slice, List.map_take, List.map_drop]
  refine ⟨_, getNotificationCards_unfiltered h hl hf.parsed hf.filters c token, ?_, ?_⟩
  · rw [shownIds_cards, hmap]
  · rw [← hmap, cards, List.length_map, List.length_map]

theorem shown_reads (token : Token) : ∀ {fs : List Fetch}, (∀ f ∈ fs, f.Unfiltered lists) → ∀ (s : Store),
    (walk api lists token s fs).map shownIds = (reads api lists token s fs).map Walk.Read.page
  | [], _, _ => rfl
  | f :: fs, hf, s => by
    obtain ⟨page, hpage, hids, -⟩ := reply_read h hl (hf f List.mem_cons_self) (f.store api lists s).notifications token
    rw [walk, reads, List.map_cons, List.map_cons, hpage, hids,
      shown_reads token (fun g hg => hf g (List.mem_cons_of_mem f hg))]
    rfl

theorem ended_reads (token : Token) : ∀ {fs : List Fetch}, (∀ f ∈ fs, f.Unfiltered lists) → ∀ {s : Store},
    EndsShort api lists token s fs → Walk.Ended (reads api lists token s fs)
  | [], _, _, hend => by
    obtain ⟨f, page, hlast, -⟩ := hend
    cases hlast
  | [f], hf, s, hend => by
    obtain ⟨page, hpage, -, hlength⟩ := reply_read h hl (hf f List.mem_cons_self) (f.store api lists s).notifications token
    obtain ⟨f', page', hlast, hreply, hshort⟩ := hend
    obtain rfl : f = f' := Option.some.inj hlast
    obtain rfl : page = page' := Except.ok.inj (hpage.symm.trans (Option.some.inj hreply))
    refine ⟨_, rfl, ?_⟩
    show (Window.slice f.parsed.offset.toNat f.parsed.size.toNat
      (listedIds api (f.store api lists s).notifications token)).length < f.parsed.size.toNat
    omega
  | f :: g :: fs, hf, s, hend => by
    obtain ⟨f', page, hlast, hreply, hshort⟩ := hend
    have htail : EndsShort api lists token (f.store api lists s) (g :: fs) := by
      refine ⟨f', page, ?_, ?_, hshort⟩
      · rwa [List.getLast?_cons_cons] at hlast
      · rwa [walk, walk, List.getLast?_cons_cons] at hreply
    obtain ⟨r, hr, hrshort⟩ := ended_reads token (fun x hx => hf x (List.mem_cons_of_mem f hx)) htail
    refine ⟨r, ?_, hrshort⟩
    rw [reads, reads, List.getLast?_cons_cons]
    exact hr

variable {le : Document → Document → Prop} (ho : ListOrder api le)
include ho

theorem gapless_reads (token : Token) : ∀ {fs : List Fetch}, (∀ f ∈ fs, f.Unfiltered lists) → ∀ {n : Nat},
    GaplessWindows n fs → ∀ (s : Store),
    Walk.Gapless (listedIds api s.notifications token) n (reads api lists token s fs)
  | [], _, _, _, _ => trivial
  | f :: fs, hf, n, hw, s => by
    obtain ⟨hoffset, hrest⟩ := hw
    obtain ⟨h0, h1, -⟩ := hl.page (hf f List.mem_cons_self).parsed
    refine ⟨listedIds_run h ho lists token f.served s, ?_, ?_⟩
    · dsimp only
      omega
    · refine gapless_reads token (fun g hg => hf g (List.mem_cons_of_mem f hg)) ?_ (f.store api lists s)
      rwa [Int.natCast_add, Int.toNat_of_nonneg h0, Int.toNat_of_nonneg (by omega)]

theorem consecutive_reads (token : Token) : ∀ {fs : List Fetch}, (∀ f ∈ fs, f.Unfiltered lists) →
    (∀ f ∈ fs, f.served.all Call.noCreate = true) → ∀ {n : Nat}, ConsecutiveWindows n fs → ∀ (s : Store),
    Walk.Consecutive (listedIds api s.notifications token) n (reads api lists token s fs)
  | [], _, _, _, _, _ => trivial
  | f :: fs, hf, hnone, n, hw, s => by
    obtain ⟨hoffset, hrest⟩ := hw
    obtain ⟨h0, h1, -⟩ := hl.page (hf f List.mem_cons_self).parsed
    have hsame : listedIds api (f.store api lists s).notifications token = listedIds api s.notifications token :=
      listedIds_run_noCreate h ho lists token f.served s (hnone f List.mem_cons_self)
    refine ⟨hsame, ?_, ?_⟩
    · dsimp only
      omega
    · rw [← hsame]
      refine consecutive_reads token (fun g hg => hf g (List.mem_cons_of_mem f hg))
        (fun g hg => hnone g (List.mem_cons_of_mem f hg)) ?_ (f.store api lists s)
      rw [Int.natCast_add, Int.toNat_of_nonneg (by omega), ← hoffset]
      exact hrest

/-- **A walk of the list misses nothing and repeats nothing of its own accord**, whatever is served between its
fetches: if no window leaves a gap and the last page is short, every notification the caller saw when it began is on a
page; if nothing was created and the windows meet, the pages are the list, each notification once. -/
theorem walk_shows_list {token : Token} {fs : List Fetch} (hf : ∀ f ∈ fs, f.Unfiltered lists) {s : Store}
    (hend : EndsShort api lists token s fs) :
    (GaplessWindows 0 fs → ∀ d ∈ s.notifications.docs, sees api token d = true →
      ∃ reply ∈ walk api lists token s fs, d.id ∈ shownIds reply) ∧
    (ConsecutiveWindows 0 fs → (∀ f ∈ fs, f.served.all Call.noCreate = true) →
      (walk api lists token s fs).flatMap shownIds = listedIds api s.notifications token ∧
      ((walk api lists token s fs).flatMap shownIds).Nodup) := by
  have hended := ended_reads h hl token hf hend
  have hshown := shown_reads h hl token hf s
  constructor
  · intro hw d hd hsees
    have hmem : d.id ∈ listedIds api s.notifications token :=
      List.mem_map_of_mem ((h.sort_perm _ _).mem_iff.2 (List.mem_filter.2 ⟨hd, hsees⟩))
    obtain ⟨i, hi⟩ := List.mem_iff_getElem?.1 hmem
    obtain ⟨r, hr, hpage⟩ := (gapless_reads h hl ho token hf hw s).reads hended hi (Nat.zero_le i)
    have hshow : r.page ∈ (walk api lists token s fs).map shownIds := by
      rw [hshown]
      exact List.mem_map_of_mem hr
    obtain ⟨reply, hreply, heq⟩ := List.mem_map.1 hshow
    exact ⟨reply, hreply, by rw [heq]; exact hpage⟩
  · intro hw hnone
    have hpages := (consecutive_reads h hl ho token hf hnone hw s).pages hended
    have hflat : (walk api lists token s fs).flatMap shownIds = listedIds api s.notifications token := by
      rw [List.flatMap, hshown, ← List.flatMap, hpages, List.drop_zero]
    refine ⟨hflat, ?_⟩
    rw [hflat]
    exact ((h.sort_perm _ _).map _).nodup_iff.2 (s.notifications.ids_nodup.sublist (List.filter_sublist.map _))

end

theorem reference_listOrder : ListOrder reference Reference.newer where
  sorted l := List.pairwise_insertionSort Reference.newer l
  ids := Reference.id_eq_of_newer
  control {a b} f v := Reference.newer_setControl a b f v

/-- Two active notifications of the mentee, one of another profile, and one the mentee dismissed. -/
def mixedNotifications : Collection where
  docs := [NotificationService.ownNotification, CardService.crowdedNotification 2,
    Document.ofList (Reference.idOf 3) [("profile_id", .oid (Reference.idOf 9)), ("name", .str "Elsewhere")] rfl,
    (CardService.crowdedNotification 4).setControl .dismissed (.doc [("at_time", .date 0)])]
  ids_nodup := by decide

/-- Two fetches of the mentee's list, a notification of the second window dismissed between them. -/
def fetchesAroundDismiss : List Fetch :=
  [⟨[], ⟨[("size", "2")], []⟩, ⟨0, 2, [], [("created.at_time", -1), ("_id", -1)], by decide⟩⟩,
   ⟨[.notification NotificationService.dismissOwn], ⟨[("offset", "2")], []⟩,
    ⟨2, 20, [], [("created.at_time", -1), ("_id", -1)], by decide⟩⟩]

theorem walk_shows_list_mixed :
    (∃ reply ∈ walk reference referenceLists NotificationService.menteeToken (notificationsOnly mixedNotifications)
        fetchesAroundDismiss, Reference.idOf 1 ∈ shownIds reply) ∧
    (walk reference referenceLists NotificationService.menteeToken (notificationsOnly mixedNotifications)
      fetchesAroundDismiss).flatMap shownIds = [Reference.idOf 4, Reference.idOf 2, Reference.idOf 1] := by
  have hf : ∀ f ∈ fetchesAroundDismiss, f.Unfiltered referenceLists := by
    intro f hf
    simp only [fetchesAroundDismiss, List.mem_cons, List.not_mem_nil, or_false] at hf
    rcases hf with rfl | rfl <;> exact ⟨rfl, rfl⟩
  have hend : EndsShort reference referenceLists NotificationService.menteeToken (notificationsOnly mixedNotifications)
      fetchesAroundDismiss := ⟨_, _, rfl, rfl, by decide⟩
  obtain ⟨hseen, hpages⟩ := walk_shows_list reference_documented referenceLists_documented reference_listOrder hf hend
  refine ⟨hseen ⟨by decide, by decide, trivial⟩ NotificationService.ownNotification List.mem_cons_self (by decide), ?_⟩
  rw [(hpages ⟨rfl, rfl, trivial⟩ (by decide)).1]
  rfl

/-! ## The home list's part of it -/

/-- The notifications of the list the home page is about: active, and of the caller's profile. -/
def forHome (token : Token) (d : Document) : Bool :=
  isActive d && (truthyClaim token.profileId).any (fun s => d.names "profile_id" s)

section
variable {api : ApiUtils} (h : api.Documented) {le : Document → Document → Prop} (ho : ListOrder api le)
include h ho

theorem allNotifications_listing {store : Store} {token : Token} {ds : List Document}
    (hds : allNotifications api store token = .ok ds) :
    ds = (listing api store.notifications token).filter (forHome token) := by
  unfold allNotifications at hds
  unfold forHome
  cases hs : truthyClaim token.profileId with
  | none =>
    rw [hs] at hds
    cases hds
    simp
  | some s =>
    rw [hs] at hds
    obtain ⟨-, -, rfl⟩ := Except.ok_of_map hds
    rw [listing, ← (ho.sortsBy h).filter (ho.separates_filter _ _), List.filter_filter]
    simp only [Option.any_some, Bool.and_comm]

/-- **The home list and the Notification list never disagree**: the Notification cards of a home page are cards of the
caller's list, the same and in the same order, of its notifications that are active and of its profile. -/
theorem home_notifications_listed {store : Store} {token : Token} {now offset size : Int} {page : List Card}
    (hp : getHomeCards api store token now offset size = .ok page) :
    (page.filter (fun card => decide (card.type = some "Notification"))).Sublist
      (cards api token ((listing api store.notifications token).filter (forHome token))) := by
  obtain ⟨secs, i, k, hsecs, -, -, -, -, rfl⟩ := page_of_ok h hp
  obtain ⟨ns, rest, hns, rfl, -, hrest, -⟩ := homeSections_band h hsecs
  obtain ⟨ds, hds, rfl⟩ := Except.ok_of_map hns
  have hsub := (Window.slice_sublist i k _).trans
    (Window.cutAll_sublist 100 (⟨ds.map (notificationCard api token), true⟩ :: rest))
  have hnone : (Window.whole rest).filter (fun card => decide (card.type = some "Notification")) = [] :=
    List.filter_eq_nil_iff.2 (fun card hc ht => hrest.later card hc (of_decide_eq_true ht))
  have hfilter := hsub.filter (fun card => decide (card.type = some "Notification"))
  rw [Window.whole, List.flatMap_cons, List.filter_append, ← Window.whole, hnone, List.append_nil] at hfilter
  rw [← allNotifications_listing h ho hds]
  exact hfilter.trans List.filter_sublist

end

/-- Of three notifications on the mentee's list, the two not dismissed are on its home page. -/
theorem home_notifications_listed_mixed :
    ∃ page, getHomeCards reference (notificationsOnly mixedNotifications) NotificationService.menteeToken 0 0 20 =
        .ok page ∧
      (page.filter (fun card => decide (card.type = some "Notification"))).length = 2 ∧
      (listing reference mixedNotifications NotificationService.menteeToken).length = 3 ∧
      (page.filter (fun card => decide (card.type = some "Notification"))).Sublist
        (cards reference NotificationService.menteeToken ((listing reference mixedNotifications
          NotificationService.menteeToken).filter (forHome NotificationService.menteeToken))) := by
  obtain ⟨page, hpage, hlength⟩ : ∃ page, getHomeCards reference (notificationsOnly mixedNotifications)
      NotificationService.menteeToken 0 0 20 = .ok page ∧
        (page.filter (fun card => decide (card.type = some "Notification"))).length = 2 := ⟨_, rfl, rfl⟩
  exact ⟨page, hpage, hlength, rfl, home_notifications_listed reference_documented reference_listOrder hpage⟩

end Concurrency
end Discovery
