import DiscoveryApi.HomeChanges
/-!
# HomeWalk — walking the home list while notifications are retired

A dismissed or cancelled card leaves the list, and what follows it moves up one place, possibly under a window already
fetched.  So a walk by offset shows no card twice, and misses at most as many as left the list meanwhile.
-/
namespace Discovery
namespace Concurrency

open CardService

/-- One fetch of a walk: the calls served since the fetch before, its clock, and its window. -/
structure HomeFetch where
  served : List Call
  now : Int
  offset : Int
  size : Int

def HomeFetch.store (api : ApiUtils) (lists : ListUtils) (s : Store) (f : HomeFetch) : Store :=
  (Runs.run (serve api lists) s f.served).1

/-- The replies to a caller's fetches, one after another. -/
def homeWalk (api : ApiUtils) (lists : ListUtils) (token : Token) :
    Store → List HomeFetch → List (Except HTTPError (List Card))
  | _, [] => []
  | s, f :: fs =>
    getHomeCards api (f.store api lists s) token f.now f.offset f.size ::
      homeWalk api lists token (f.store api lists s) fs

/-- The store the last fetch read. -/
def walkedStore (api : ApiUtils) (lists : ListUtils) : Store → List HomeFetch → Store
  | s, [] => s
  | s, f :: fs => walkedStore api lists (f.store api lists s) fs

/-- Nothing is created during the walk, and the windows are pages, each starting where the one before it ended. -/
def PagesFrom : Int → List HomeFetch → Prop
  | _, [] => True
  | n, f :: fs => f.served.all Call.noCreate = true ∧ f.offset = n ∧ 1 ≤ f.size ∧ f.size ≤ maxSize ∧
      PagesFrom (n + f.size) fs

/-- The links a reply shows, in its order. -/
def shownLinks : Except HTTPError (List Card) → List (Option String)
  | .ok page => page.map Card.link
  | .error _ => []

def linksOf (secs : List (Window.Section Card)) : List (Option String) := (Window.whole secs).map Card.link

/-- No windowed section is past the ceiling. -/
def Capped (secs : List (Window.Section Card)) : Prop := ∀ s ∈ secs, s.windowed = true → s.items.length ≤ 100

/-- What the sections of a later list may be: no longer, and no link new or in another place. -/
structure Shrunk (secs secs' : List (Window.Section Card)) : Prop where
  links : (linksOf secs').Sublist (linksOf secs)
  capped : Capped secs → Capped secs'

theorem Shrunk.trans {a b c : List (Window.Section Card)} (hab : Shrunk a b) (hbc : Shrunk b c) : Shrunk a c :=
  ⟨hbc.links.trans hab.links, fun ha => hbc.capped (hab.capped ha)⟩

/-- The sections after some calls, at any clock. -/
def ShrinksTo (api : ApiUtils) (token : Token) (s s' : Store) : Prop :=
  ∀ now now' secs, homeSections api s token now = .ok secs →
    ∃ secs', homeSections api s' token now' = .ok secs' ∧ Shrunk secs secs'

/-- A description is not what a card links to. -/
theorem link_described (api : ApiUtils) {cardType : String} {spec : CardSpec} (source : Dict) (roles : List Role)
    (v v' : Value) : (cardOf api cardType spec (source.set "description" v) roles).link =
      (cardOf api cardType spec (source.set "description" v') roles).link := by
  have hid : ∀ v : Value, (source.set "description" v).value "_id" = source.value "_id" := fun v => by
    rw [Dict.value, Dict.value, Dict.set_of_ne _ _ _ (by decide)]
  rw [cardOf, cardOf, hid, hid]

/-- The clock is in the descriptions only. -/
theorem shrinksTo_clock (api : ApiUtils) (token : Token) (s : Store) : ShrinksTo api token s s := by
  intro now now' secs hsecs
  obtain ⟨ns, hns, hsecs⟩ := Except.ok_of_bind hsecs
  obtain ⟨cs, hcs, hsecs⟩ := Except.ok_of_bind hsecs
  obtain ⟨ms, hms, hsecs⟩ := Except.ok_of_bind hsecs
  obtain ⟨es, hes, hsecs⟩ := Except.ok_of_bind hsecs
  cases hsecs
  obtain ⟨members, hmembers, rfl⟩ := Except.ok_of_map hms
  obtain ⟨mentees, hmentees, rfl⟩ := Except.ok_of_map hes
  refine ⟨[⟨ns, true⟩, ⟨adminSection token, false⟩, ⟨cs, false⟩, ⟨members.map (memberCard api s token now'), true⟩,
    ⟨mentees.map (menteeCard api s token now'), true⟩, ⟨journeySection token, false⟩], ?_, ?_, ?_⟩
  · rw [homeSections, hns, hcs, memberCards, hmembers, menteeCards, hmentees]
    rfl
  · have hmember : Card.link ∘ memberCard api s token now' = Card.link ∘ memberCard api s token now :=
      funext (fun d => link_described api d.dict token.roleList _ _)
    have hmentee : Card.link ∘ menteeCard api s token now' = Card.link ∘ menteeCard api s token now :=
      funext (fun d => link_described api d.dict token.roleList _ _)
    simp only [linksOf, Window.whole, List.flatMap_cons, List.map_append, List.map_map, hmember, hmentee]
    exact List.Sublist.refl _
  · intro hcapped section' hmem hwindowed
    simp only [Capped, List.forall_mem_cons, List.length_map] at hcapped
    simp only [List.mem_cons, List.not_mem_nil, or_false] at hmem
    obtain rfl | rfl | rfl | rfl | rfl | rfl := hmem
    · exact hcapped.1 trivial
    · cases hwindowed
    · cases hwindowed
    · exact (List.length_map _).trans_le (hcapped.2.2.2.1 trivial)
    · exact (List.length_map _).trans_le (hcapped.2.2.2.2.1 trivial)
    · cases hwindowed

section
variable {api : ApiUtils} (h : api.Documented) {le : Document → Document → Prop} (ho : ListOrder api le)
include h ho

open NotificationService (createdIds retiredIds storeAfter allNotifications_after homeSections_after) in
/-- **A control request takes cards off the list or leaves it**, wherever the clock stands. -/
theorem shrinksTo_control (token : Token) (s : Store) (f : ControlField) (id : String) (token' : Token) (b : Value) :
    ShrinksTo api token s (storeAfter api s [.control f id token' b]) := by
  intro now now' secs hsecs
  obtain ⟨ns, rest, hns, rfl, -, -, -⟩ := homeSections_band h hsecs
  obtain ⟨ns', hns', hsecs'⟩ := homeSections_after [.control f id token' b] hsecs
  have hsub : ns'.Sublist ns := by
    obtain ⟨ds, hds, rfl⟩ := Except.ok_of_map hns
    obtain ⟨ds', hds', rfl⟩ := Except.ok_of_map hns'
    have hnone : ds'.filter (fun d => !(createdIds api s.notifications [.control f id token' b]).contains d.id) = ds' :=
      List.filter_eq_self.2 (fun _ _ => rfl)
    rw [← hnone, allNotifications_after h ho hds hds']
    exact List.filter_sublist.map _
  obtain ⟨secs', hsecs'', hshrunk⟩ := shrinksTo_clock api token _ now now' _ hsecs'
  refine ⟨secs', hsecs'', Shrunk.trans ⟨?_, fun hcapped => ?_⟩ hshrunk⟩
  · simp only [linksOf, Window.whole, List.flatMap_cons, List.map_append]
    exact (hsub.map Card.link).append (List.Sublist.refl _)
  · rw [Capped, List.forall_mem_cons] at hcapped ⊢
    exact ⟨fun hwindowed => hsub.length_le.trans (hcapped.1 hwindowed), hcapped.2⟩

theorem shrinksTo_run (lists : ListUtils) (token : Token) : ∀ (calls : List Call) (s : Store),
    calls.all Call.noCreate = true → ShrinksTo api token s (Runs.run (serve api lists) s calls).1
  | [], s, _ => shrinksTo_clock api token s
  | call :: calls, s, hall => by
    rw [List.all_cons, Bool.and_eq_true] at hall
    have hstep : ShrinksTo api token s (serve api lists s call).1 := by
      cases call with
      | notification r =>
        cases r with
        | create body token' b => cases hall.1
        | control f id token' b => exact shrinksTo_control h ho token s f id token' b
      | home token' now offset size => exact shrinksTo_clock api token s
      | list token' request => exact shrinksTo_clock api token s
    intro now now' secs hsecs
    obtain ⟨secs₁, hsecs₁, hshrunk₁⟩ := hstep now now secs hsecs
    obtain ⟨secs₂, hsecs₂, hshrunk₂⟩ := shrinksTo_run lists token calls _ hall.2 now now' secs₁ hsecs₁
    exact ⟨secs₂, hsecs₂, hshrunk₁.trans hshrunk₂⟩

end

/-! ## The walk -/

/-- The links of the complete list; none when it cannot be read. -/
def homeLinks (api : ApiUtils) (token : Token) (s : Store) (now : Int) : List (Option String) :=
  match homeSections api s token now with
  | .ok secs => linksOf secs
  | .error _ => []

/-- What the fetches read of the list. -/
def homeReads (api : ApiUtils) (lists : ListUtils) (token : Token) :
    Store → List HomeFetch → List (Walk.Read (Option String))
  | _, [] => []
  | s, f :: fs =>
    ⟨homeLinks api token (f.store api lists s) f.now, f.offset.toNat, f.size.toNat⟩ ::
      homeReads api lists token (f.store api lists s) fs

/-- The list can be read, and no section of it is past the ceiling, at one clock as at another. -/
def Readable (api : ApiUtils) (token : Token) (s : Store) : Prop :=
  ∀ now, ∃ secs, homeSections api s token now = .ok secs ∧ Capped secs

section
variable {api : ApiUtils} (h : api.Documented)
include h

theorem readable_of_ok {s : Store} {token : Token} {now : Int}
    (hok : ∃ page, getHomeCards api s token now 0 100 = .ok page) (hceiling : WithinCeiling api s token now) :
    Readable api token s := by
  obtain ⟨page, hpage⟩ := hok
  obtain ⟨secs, -, -, hsecs, -, -, -, -, -⟩ := page_of_ok h hpage
  intro now'
  obtain ⟨secs', hsecs', hshrunk⟩ := shrinksTo_clock api token s now now' secs hsecs
  exact ⟨secs', hsecs', hshrunk.capped (hceiling secs hsecs)⟩

theorem links_nodup {s : Store} (token : Token) (now : Int) : (homeLinks api token s now).Nodup := by
  unfold homeLinks
  split
  · rename_i secs hsecs
    obtain ⟨-, -, -, -, -, -, hband⟩ := homeSections_band h hsecs
    exact List.pairwise_map.2 (hband.apart.imp (fun hxy => hxy.2))
  · exact List.nodup_nil

/-- The reply to a fetch, and the read behind it. -/
theorem reply_links {s : Store} {token : Token} (hr : Readable api token s) (now : Int) {offset size : Int}
    (h0 : 0 ≤ offset) (h1 : 1 ≤ size) (hsize : size ≤ maxSize) :
    ∃ page, getHomeCards api s token now offset size = .ok page ∧
      page.map Card.link = Window.slice offset.toNat size.toNat (homeLinks api token s now) := by
  obtain ⟨o, rfl⟩ := Int.eq_ofNat_of_zero_le h0
  obtain ⟨k, rfl⟩ := Int.eq_ofNat_of_zero_le (by omega : 0 ≤ size)
  obtain ⟨secs, hsecs, hcapped⟩ := hr now
  have hceiling : WithinCeiling api s token now := by
    intro secs' hsecs'
    rw [hsecs] at hsecs'
    cases hsecs'
    exact hcapped
  unfold maxSize at hsize
  refine ⟨_, NotificationService.page_whole h hsecs hceiling o (by omega) (by omega), ?_⟩
  rw [homeLinks, hsecs, Int.toNat_natCast, Int.toNat_natCast]
  simp only [linksOf, Window.slice, List.map_take, List.map_drop]

end

theorem PagesFrom.of_mem : ∀ {fs : List HomeFetch} {n : Int}, PagesFrom n fs → 0 ≤ n → ∀ {f : HomeFetch}, f ∈ fs →
    0 ≤ f.offset ∧ 1 ≤ f.size ∧ f.size ≤ maxSize
  | f :: fs, n, ⟨_, hoffset, h1, hsize, hrest⟩, h0, g, hg => by
    rcases List.mem_cons.1 hg with rfl | hg
    · exact ⟨by omega, h1, hsize⟩
    · exact hrest.of_mem (by omega) hg

theorem last_read (api : ApiUtils) (lists : ListUtils) (token : Token) :
    ∀ {fs : List HomeFetch} {f : HomeFetch} (s : Store), fs.getLast? = some f →
      (homeReads api lists token s fs).getLast? =
        some ⟨homeLinks api token (walkedStore api lists s fs) f.now, f.offset.toNat, f.size.toNat⟩ ∧
      (homeWalk api lists token s fs).getLast? =
        some (getHomeCards api (walkedStore api lists s fs) token f.now f.offset f.size)
  | [g], f, s, hlast => by
    obtain rfl : g = f := Option.some.inj hlast
    exact ⟨rfl, rfl⟩
  | g :: g' :: fs, f, s, hlast => by
    rw [List.getLast?_cons_cons] at hlast
    obtain ⟨hread, hreply⟩ := last_read api lists token (g.store api lists s) hlast
    rw [homeReads, homeReads, List.getLast?_cons_cons, homeWalk, homeWalk, List.getLast?_cons_cons]
    exact ⟨hread, hreply⟩

section
variable {api : ApiUtils} (h : api.Documented) {le : Document → Document → Prop} (ho : ListOrder api le)
variable (lists : ListUtils) {token : Token}
include h ho

theorem Readable.fetch {s : Store} (hr : Readable api token s) {f : HomeFetch}
    (hcalls : f.served.all Call.noCreate = true) : Readable api token (f.store api lists s) := by
  intro now
  obtain ⟨secs, hsecs, hcapped⟩ := hr now
  obtain ⟨secs', hsecs', hshrunk⟩ := shrinksTo_run h ho lists token f.served s hcalls now now secs hsecs
  exact ⟨secs', hsecs', hshrunk.capped hcapped⟩

theorem links_fetch {s : Store} (hr : Readable api token s) {f : HomeFetch}
    (hcalls : f.served.all Call.noCreate = true) (now now' : Int) :
    (homeLinks api token (f.store api lists s) now').Sublist (homeLinks api token s now) := by
  obtain ⟨secs, hsecs, -⟩ := hr now
  obtain ⟨secs', hsecs', hshrunk⟩ := shrinksTo_run h ho lists token f.served s hcalls now now' secs hsecs
  rw [homeLinks, homeLinks, HomeFetch.store, hsecs, hsecs']
  exact hshrunk.links

theorem readable_walked : ∀ {fs : List HomeFetch} {n : Int} {s : Store}, PagesFrom n fs → Readable api token s →
    Readable api token (walkedStore api lists s fs)
  | [], _, _, _, hr => hr
  | f :: fs, _, s, ⟨hcalls, _, _, _, hrest⟩, hr => by
    rw [walkedStore]
    exact readable_walked hrest (hr.fetch h ho lists hcalls)

theorem shrinking_reads : ∀ {fs : List HomeFetch} {n : Nat} {s : Store}, PagesFrom n fs → Readable api token s →
    ∀ now, Walk.Shrinking (homeLinks api token s now) n (homeReads api lists token s fs)
  | [], _, _, _, _, _ => trivial
  | f :: fs, n, s, ⟨hcalls, hoffset, h1, _, hrest⟩, hr, now => by
    refine ⟨links_fetch h ho lists hr hcalls now f.now, ?_, ?_⟩
    · dsimp only
      omega
    · refine shrinking_reads (?_ : PagesFrom ((n + f.size.toNat : Nat) : Int) fs) (hr.fetch h ho lists hcalls) f.now
      rwa [Int.natCast_add, Int.toNat_of_nonneg (by omega)]

theorem replies_reads : ∀ {fs : List HomeFetch} {n : Int} {s : Store}, PagesFrom n fs → 0 ≤ n → Readable api token s →
    (homeWalk api lists token s fs).map shownLinks = (homeReads api lists token s fs).map Walk.Read.page ∧
      ∀ reply ∈ homeWalk api lists token s fs, ∃ page, reply = .ok page
  | [], _, _, _, _, _ => ⟨rfl, fun _ hreply => absurd hreply List.not_mem_nil⟩
  | f :: fs, n, s, ⟨hcalls, hoffset, h1, hsize, hrest⟩, h0, hr => by
    have hr' := hr.fetch h ho lists hcalls
    obtain ⟨page, hpage, hlinks⟩ := reply_links h hr' f.now (by omega : 0 ≤ f.offset) h1 hsize
    obtain ⟨hmap, hok⟩ := replies_reads hrest (by omega) hr'
    constructor
    · rw [homeWalk, homeReads, List.map_cons, List.map_cons, hmap, hpage, shownLinks, hlinks, Walk.Read.page]
    · rw [homeWalk, List.forall_mem_cons]
      exact ⟨⟨page, hpage⟩, hok⟩

/-- **Walking the home list while notifications are retired.**  When the list can be read and no section is past the
ceiling at the start, and only reads, dismisses and cancels are served between the fetches: every fetch gets its page;
no link is shown twice over the whole walk; and when the last page is short, the cards on the list but on no page are no
more than the list lost since the start. -/
theorem home_walk_shrinks {fs : List HomeFetch} (hpages : PagesFrom 0 fs) {s : Store} {now : Int}
    (hok : ∃ page, getHomeCards api s token now 0 100 = .ok page) (hceiling : WithinCeiling api s token now) :
    (∀ reply ∈ homeWalk api lists token s fs, ∃ page, reply = .ok page) ∧
    ((homeWalk api lists token s fs).flatMap shownLinks).Nodup ∧
    ∀ f page, fs.getLast? = some f → (homeWalk api lists token s fs).getLast? = some (.ok page) →
      (page.length : Int) < f.size → ∀ before later, completeHome api s token now = .ok before →
        completeHome api (walkedStore api lists s fs) token f.now = .ok later →
        later.countP (fun card => !((homeWalk api lists token s fs).flatMap shownLinks).contains card.link) +
          later.length ≤ before.length := by
  have hr := readable_of_ok h hok hceiling
  obtain ⟨hmap, hreplies⟩ := replies_reads h ho lists hpages (Int.le_refl 0) hr
  have hflat : (homeWalk api lists token s fs).flatMap shownLinks =
      (homeReads api lists token s fs).flatMap Walk.Read.page := by
    rw [List.flatMap, List.flatMap, hmap]
  have hshrinking := shrinking_reads h ho lists (n := 0) hpages hr now
  refine ⟨hreplies, ?_, fun f page hlast hreply hshort before later hbefore hlater => ?_⟩
  · rw [hflat]
    exact hshrinking.nodup (links_nodup h token now)
  · obtain ⟨hread, hpage⟩ := last_read api lists token s hlast
    rw [hreply] at hpage
    -- the page the last fetch got is its read's
    obtain ⟨h0, h1, hsize⟩ := hpages.of_mem (Int.le_refl 0) (List.mem_of_getLast? hlast)
    obtain ⟨page', hpage', hlinks⟩ := reply_links h (readable_walked h ho lists hpages hr) f.now h0 h1 hsize
    obtain rfl : page = page' := Except.ok.inj ((Option.some.inj hpage).trans hpage')
    have hended : Walk.Ended (homeReads api lists token s fs) := by
      refine ⟨_, hread, ?_⟩
      rw [Walk.Read.page, ← hlinks, List.length_map]
      dsimp only
      omega
    obtain ⟨r, hr', hmissed⟩ := hshrinking.missed hended (fun _ => true)
    obtain rfl := Option.some.inj (hread.symm.trans hr')
    obtain ⟨secs, hsecs, rfl⟩ := Except.ok_of_map hbefore
    obtain ⟨secs', hsecs', rfl⟩ := Except.ok_of_map hlater
    rw [← hflat] at hmissed
    simp only [homeLinks, hsecs, hsecs', linksOf, List.countP_map, Function.comp_def, List.length_map, List.take_zero,
      List.countP_nil, Nat.zero_add, Bool.true_and] at hmissed
    exact hmissed

end

/-- Two pages of the mentee's list, its notification dismissed between them: the Journey card moves up to the first
place and is missed. -/
def pagesAroundDismiss : List HomeFetch :=
  [⟨[], 0, 0, 1⟩, ⟨[.notification NotificationService.dismissOwn], 0, 1, 20⟩]

theorem home_walk_shrinks_own :
    ((homeWalk reference referenceLists NotificationService.menteeToken
      (notificationsOnly NotificationService.ownNotifications) pagesAroundDismiss).flatMap shownLinks).Nodup := by
  have hpages : PagesFrom 0 pagesAroundDismiss :=
    ⟨rfl, rfl, by decide, by decide, rfl, rfl, by decide, by decide, trivial⟩
  exact (home_walk_shrinks reference_documented reference_listOrder referenceLists hpages ⟨_, rfl⟩
    (NotificationService.withinCeiling_notificationsOnly (by decide))).2.1

example : (homeWalk reference referenceLists NotificationService.menteeToken
    (notificationsOnly NotificationService.ownNotifications) pagesAroundDismiss).map
      (fun reply => (shownLinks reply).length) = [1, 0] := by decide +kernel

end Concurrency
end Discovery
