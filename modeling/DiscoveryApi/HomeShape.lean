import DiscoveryApi.CardContract
import DiscoveryApi.HomePaging
/-!
# HomeShape — the order, the gates and the links of the home list

A page shows the card types in the documented order, each type only to the callers it is for, and no two cards with one
link: a link names its card's type and id (`HomeCard.link_inj`), and no section repeats an id.
-/
namespace Discovery
namespace CardService

open NotificationService (menteeToken ownNotifications sees)

/-! ## Types -/

/-- The card types of the home list, in the documented order. -/
def homeTypes : List String :=
  ["Notification", "Products", "Discounts", "Logs", "Customer", "Member", "Mentee", "Journey"]

def homeRank (card : Card) : Nat := (homeTypes.map some).idxOf card.type

/-- The callers a type is for. -/
def gate (token : Token) (type : String) : Bool :=
  if type = "Notification" then (truthyClaim token.profileId).isSome
  else if type ∈ ["Products", "Discounts", "Logs"] then token.has .admin
  else if type = "Customer" then token.has .customer && (truthyClaim token.customerId).isSome
  else if type = "Member" then (truthyClaim token.customerId).isSome && isMemberReader token
  else if type = "Mentee" then token.has .mentor && (mentorScopeId token).isSome
  else if type = "Journey" then token.has .mentee
  else false

def syntheticCards : List Card :=
  [syntheticCard "Products" "Manage subscription products" "Products" "admin/settings",
   syntheticCard "Discounts" "Manage discount codes" "Discounts" "admin/settings?tab=discounts",
   syntheticCard "Logs" "View system logs" "Logs" "admin/logs",
   syntheticCard "Learning Journey" "Continue your learning journey" "Journey" "mentee/journey"]

/-! ## A link names its card -/

/-- A card of the home list: one of the synthetic ones, or a document's with its kind's route and its id. -/
inductive HomeCard (mentor : Bool) (card : Card) : Prop
  | synthetic (hmem : card ∈ syntheticCards)
  | projected (kind route : String) (o : ObjectId) (hkind : kind ∈ kinds) (hroute : linkRoute mentor kind = some route)
      (htype : card.type = some kind) (hid : card.id = some (.oid o)) (hlink : card.link = some (route ++ o.hex))

/-- A document's link is longer than any synthetic one. -/
theorem length_projected {mentor : Bool} {kind route : String} (hk : kind ∈ kinds)
    (hr : linkRoute mentor kind = some route) (o : ObjectId) : 34 < (route ++ o.hex).toList.length := by
  have hall : ∀ m : Bool, ∀ k ∈ kinds, (linkRoute m k).all (fun r => decide (10 < r.toList.length)) = true := by decide
  have hlen := hall mentor kind hk
  rw [hr, Option.all_some, decide_eq_true_eq] at hlen
  rw [String.toList_append, List.length_append, ObjectId.length_hex]
  omega

theorem length_synthetic {card : Card} (hc : card ∈ syntheticCards) :
    ∃ link, card.link = some link ∧ link.toList.length ≤ 34 := by
  have hall : ∀ c ∈ syntheticCards, c.link.any (fun l => decide (l.toList.length ≤ 34)) = true := by decide
  obtain ⟨link, hlink, hlen⟩ := (Option.any_eq_true _ _).1 (hall card hc)
  exact ⟨link, hlink, of_decide_eq_true hlen⟩

theorem HomeCard.link_ne_none {mentor : Bool} {card : Card} (hc : HomeCard mentor card) : card.link ≠ none := by
  cases hc with
  | synthetic hmem =>
    obtain ⟨link, hlink, -⟩ := length_synthetic hmem
    rw [hlink]
    exact Option.some_ne_none link
  | projected kind route o hkind hroute htype hid hlink =>
    rw [hlink]
    exact Option.some_ne_none _

/-- **Two home cards with one link are of one type and one id.** -/
theorem HomeCard.link_inj {mentor : Bool} {card card' : Card} (hc : HomeCard mentor card) (hc' : HomeCard mentor card')
    (heq : card'.link = card.link) : card'.type = card.type ∧ card'.id = card.id := by
  have hlong : ∀ {kind route : String} {o : ObjectId} {x y : Card}, kind ∈ kinds → linkRoute mentor kind = some route →
      x.link = some (route ++ o.hex) → y ∈ syntheticCards → x.link ≠ y.link := by
    intro kind route o x y hk hr hx hy hxy
    obtain ⟨link, hlink, hlen⟩ := length_synthetic hy
    rw [hx, hlink, Option.some.injEq] at hxy
    have hlt := length_projected hk hr o
    rw [hxy] at hlt
    omega
  cases hc with
  | synthetic hmem =>
    cases hc' with
    | synthetic hmem' =>
      have hall : ∀ x ∈ syntheticCards, ∀ y ∈ syntheticCards, y.link = x.link → y.type = x.type ∧ y.id = x.id := by
        decide
      exact hall card hmem card' hmem' heq
    | projected kind route o hkind hroute htype hid hlink => exact absurd heq (hlong hkind hroute hlink hmem)
  | projected kind route o hkind hroute htype hid hlink =>
    cases hc' with
    | synthetic hmem' => exact absurd heq.symm (hlong hkind hroute hlink hmem')
    | projected kind' route' o' hkind' hroute' htype' hid' hlink' =>
      rw [hlink, hlink', Option.some.injEq] at heq
      obtain ⟨rfl, rfl⟩ := ObjectId.append_hex_inj heq
      rw [htype, htype', hid, hid', linkRoute_inj hkind' hkind hroute' hroute]
      exact ⟨rfl, rfl⟩

/-! ## Bands of cards -/

/-- Two cards in the documented order, with different links. -/
def Apart (x y : Card) : Prop := homeRank x ≤ homeRank y ∧ x.link ≠ y.link

instance (x y : Card) : Decidable (Apart x y) := inferInstanceAs (Decidable (_ ∧ _))

/-- A card of the caller's home list, of a type the caller is shown. -/
structure Belongs (token : Token) (card : Card) : Prop where
  home : HomeCard (token.roleList.contains .mentor) card
  type : ∃ t, card.type = some t ∧ t ∈ homeTypes ∧ gate token t = true

/-- A stretch of the home list, between two places of the documented order. -/
structure Band (token : Token) (lo hi : Nat) (cards : List Card) : Prop where
  apart : cards.Pairwise Apart
  belongs : ∀ card ∈ cards, Belongs token card
  rank : ∀ card ∈ cards, lo ≤ homeRank card ∧ homeRank card ≤ hi

theorem apart_of_lt {token : Token} {x y : Card} (hx : Belongs token x) (hy : Belongs token y)
    (hlt : homeRank x < homeRank y) : Apart x y := by
  refine ⟨Nat.le_of_lt hlt, fun heq => ?_⟩
  have htype := (hx.home.link_inj hy.home heq.symm).1
  rw [homeRank, homeRank, htype] at hlt
  exact Nat.lt_irrefl _ hlt

/-- Past the first rank no card stands for a notification. -/
theorem Band.later {token : Token} {hi : Nat} {cards : List Card} (h : Band token 1 hi cards) :
    ∀ card ∈ cards, card.type ≠ some "Notification" := by
  intro card hc ht
  have hrank := (h.rank card hc).1
  rw [homeRank, ht] at hrank
  exact absurd hrank (by decide)

theorem Band.nil (token : Token) (lo hi : Nat) : Band token lo hi [] :=
  ⟨List.Pairwise.nil, fun _ hc => absurd hc List.not_mem_nil, fun _ hc => absurd hc List.not_mem_nil⟩

theorem Band.append {token : Token} {a b c d : Nat} {l r : List Card} (hl : Band token a b l) (hr : Band token c d r)
    (hab : a ≤ b) (hbc : b < c) (hcd : c ≤ d) : Band token a d (l ++ r) where
  apart := List.pairwise_append.2 ⟨hl.apart, hr.apart, fun x hx y hy =>
    apart_of_lt (hl.belongs x hx) (hr.belongs y hy)
      (Nat.lt_of_le_of_lt (hl.rank x hx).2 (Nat.lt_of_lt_of_le hbc (hr.rank y hy).1))⟩
  belongs card hc := (List.mem_append.1 hc).elim (hl.belongs card) (hr.belongs card)
  rank card hc := by
    rcases List.mem_append.1 hc with hc | hc
    · have hrank := hl.rank card hc
      omega
    · have hrank := hr.rank card hc
      omega

/-- The cards of distinct documents of one kind. -/
theorem Band.documents {token : Token} (kind : String) {route : String} {ds : List Document} (card : Document → Card)
    (hkind : kind ∈ kinds) (hroute : linkRoute (token.roleList.contains .mentor) kind = some route)
    (htype : ∀ d, (card d).type = some kind) (hid : ∀ d, (card d).id = some (.oid d.id))
    (hlink : ∀ d, (card d).link = some (route ++ d.id.hex)) (hhome : kind ∈ homeTypes) (hgate : gate token kind = true)
    (hn : (ds.map Document.id).Nodup) {n : Nat} (hrank : (homeTypes.map some).idxOf (some kind) = n) :
    Band token n n (ds.map card) where
  apart := by
    have hpair : ds.Pairwise (fun d e => d.id ≠ e.id) := List.pairwise_map.1 hn
    refine List.pairwise_map.2 (hpair.imp (fun {d e} hne => ⟨?_, fun heq => hne ?_⟩))
    · rw [homeRank, homeRank, htype, htype]
    · rw [hlink, hlink, Option.some.injEq] at heq
      exact (ObjectId.append_hex_inj heq).2
  belongs c hc := by
    obtain ⟨d, -, rfl⟩ := List.mem_map.1 hc
    exact ⟨.projected kind route d.id hkind hroute (htype d) (hid d) (hlink d), kind, htype d, hhome, hgate⟩
  rank c hc := by
    obtain ⟨d, -, rfl⟩ := List.mem_map.1 hc
    rw [homeRank, htype, hrank]
    exact ⟨Nat.le_refl n, Nat.le_refl n⟩

/-! ## The sections -/

theorem ids_nodup_filter (c : Collection) (p : Document → Bool) : ((c.docs.filter p).map Document.id).Nodup :=
  c.ids_nodup.sublist (List.filter_sublist.map _)

theorem adminSection_band (token : Token) : Band token 1 3 (adminSection token) := by
  unfold adminSection
  split
  · rename_i hadmin
    refine ⟨by decide, fun card hc => ⟨.synthetic ?_, ?_⟩, by decide⟩
    · exact List.mem_of_mem_take (i := 3) hc
    · simp only [List.mem_cons, List.not_mem_nil, or_false] at hc
      rcases hc with rfl | rfl | rfl
      · exact ⟨"Products", rfl, by decide, hadmin⟩
      · exact ⟨"Discounts", rfl, by decide, hadmin⟩
      · exact ⟨"Logs", rfl, by decide, hadmin⟩
  · exact Band.nil token 1 3

theorem journeySection_band (token : Token) : Band token 7 7 (journeySection token) := by
  unfold journeySection
  split
  · rename_i hmentee
    refine ⟨List.pairwise_singleton _ _, fun card hc => ?_, by decide⟩
    rw [List.mem_singleton.1 hc]
    exact ⟨.synthetic (by decide), "Journey", rfl, by decide, hmentee⟩
  · exact Band.nil token 7 7

section
variable {api : ApiUtils} (h : api.Documented)
include h

theorem link_document {cardType : String} {spec : CardSpec} (hspec : cardTypeSpecs.lookup cardType = some spec)
    {route : String} (token : Token) (hroute : linkRoute (token.roleList.contains .mentor) spec.type = some route)
    {source : Dict} {o : ObjectId} (ho : source.value "_id" = some (.oid o)) :
    (cardOf api cardType spec source token.roleList).link = some (route ++ o.hex) := by
  rw [cardOf]
  simp only [ho, Option.bind_some, cardLink_eq hspec, hroute, h.str_oid, Option.map_some]

theorem notificationCards_band {store : Store} {token : Token} {ns : List Card}
    (hns : notificationCards api store token = .ok ns) : Band token 0 0 ns := by
  obtain ⟨ds, hds, rfl⟩ := Except.ok_of_map hns
  unfold allNotifications at hds
  split at hds
  · cases hds
    exact Band.nil token 0 0
  · rename_i s hs
    obtain ⟨-, -, rfl⟩ := Except.ok_of_map hds
    refine Band.documents "Notification" _ (by decide) rfl (fun _ => rfl) (fun _ => rfl)
      (fun d => link_document h rfl token rfl (by rfl)) (by decide) ?_ ?_ (by decide)
    · rw [gate, if_pos rfl, hs]
      rfl
    · exact ((h.sort_perm _ _).map _).nodup_iff.2 (ids_nodup_filter _ _)

omit h in
/-- A caller's own customer, behind its gate, or nothing. -/
theorem customerSection_cases {store : Store} {token : Token} {cs : List Card}
    (hcs : customerSection api store token = .ok cs) :
    cs = [] ∨ gate token "Customer" = true ∧ ∃ customer : Document,
      cs = [cardOf api cardTypeCustomer ⟨"Customer", namedFields⟩ customer.dict token.roleList] := by
  unfold customerSection at hcs
  split at hcs
  · rename_i hgate
    obtain ⟨o, ho, rfl⟩ := Except.ok_of_map hcs
    unfold customerHomeCard at ho
    split at ho
    · cases ho
      exact .inl rfl
    · obtain ⟨m, -, ho⟩ := Except.ok_of_bind ho
      obtain ⟨customers, -, ho⟩ := Except.ok_of_bind ho
      split at ho
      · cases ho
        exact .inl rfl
      · rename_i customer _
        rw [project_known api rfl] at ho
        cases ho
        exact .inr ⟨hgate, customer, rfl⟩
  · cases hcs
    exact .inl rfl

theorem customerSection_band {store : Store} {token : Token} {cs : List Card}
    (hcs : customerSection api store token = .ok cs) : Band token 4 4 cs := by
  obtain rfl | ⟨hgate, customer, rfl⟩ := customerSection_cases hcs
  · exact Band.nil token 4 4
  · have hn : ([customer].map Document.id).Nodup := List.nodup_singleton _
    exact Band.documents "Customer"
      (fun d => cardOf api cardTypeCustomer ⟨"Customer", namedFields⟩ d.dict token.roleList)
      (by decide) rfl (fun _ => rfl) (fun _ => rfl) (fun d => link_document h rfl token rfl (by rfl)) (by decide)
      hgate hn (by decide)

omit h in
theorem allScoped_nodup (hperm : ∀ s l, (api.sort s l).Perm l) {store : Store} {base : Match} {k : String}
    {value : Option String} {ds : List Document} (hds : allScoped api store base k value = .ok ds) :
    (ds.map Document.id).Nodup := by
  unfold allScoped at hds
  split at hds
  · cases hds
    exact List.nodup_nil
  · obtain ⟨-, -, rfl⟩ := Except.ok_of_map hds
    exact ((hperm _ _).map _).nodup_iff.2 (ids_nodup_filter _ _)

theorem memberCards_band {store : Store} {token : Token} {now : Int} {ms : List Card}
    (hms : memberCards api store token now = .ok ms) : Band token 5 5 ms := by
  obtain ⟨ds, hds, rfl⟩ := Except.ok_of_map hms
  unfold allMembers at hds
  split at hds
  · rename_i hgate
    exact Band.documents "Member" _ (by decide) rfl (fun _ => rfl) (fun _ => rfl)
      (fun d => link_document h rfl token rfl (by rfl)) (by decide) hgate (allScoped_nodup h.sort_perm hds) (by decide)
  · cases hds
    exact Band.nil token 5 5

theorem menteeCards_band {store : Store} {token : Token} {now : Int} {es : List Card}
    (hes : menteeCards api store token now = .ok es) : Band token 6 6 es := by
  obtain ⟨ds, hds, rfl⟩ := Except.ok_of_map hes
  unfold allMentees at hds
  split at hds
  · rename_i hgate
    exact Band.documents "Mentee" _ (by decide) rfl (fun _ => rfl) (fun _ => rfl)
      (fun d => link_document h rfl token rfl (by rfl)) (by decide) hgate (allScoped_nodup h.sort_perm hds) (by decide)
  · cases hds
    exact Band.nil token 6 6

/-- **The complete list is one band**, its Notification cards first. -/
theorem homeSections_band {store : Store} {token : Token} {now : Int} {secs : List (Window.Section Card)}
    (hsecs : homeSections api store token now = .ok secs) :
    ∃ ns rest, notificationCards api store token = .ok ns ∧ secs = ⟨ns, true⟩ :: rest ∧ Band token 0 0 ns ∧
      Band token 1 7 (Window.whole rest) ∧ Band token 0 7 (Window.whole secs) := by
  obtain ⟨ns, hns, hsecs⟩ := Except.ok_of_bind hsecs
  obtain ⟨cs, hcs, hsecs⟩ := Except.ok_of_bind hsecs
  obtain ⟨ms, hms, hsecs⟩ := Except.ok_of_bind hsecs
  obtain ⟨es, hes, hsecs⟩ := Except.ok_of_bind hsecs
  cases hsecs
  have hn := notificationCards_band h hns
  have htail := (menteeCards_band h hes).append (journeySection_band token) (by decide) (by decide) (by decide)
  have htail := (memberCards_band h hms).append htail (by decide) (by decide) (by decide)
  have htail := (customerSection_band h hcs).append htail (by decide) (by decide) (by decide)
  have hrest := (adminSection_band token).append htail (by decide) (by decide) (by decide)
  have hwhole : Window.whole [⟨adminSection token, false⟩, ⟨cs, false⟩, ⟨ms, true⟩, ⟨es, true⟩,
      ⟨journeySection token, false⟩] = adminSection token ++ (cs ++ (ms ++ (es ++ journeySection token))) := by
    simp [Window.whole]
  rw [← hwhole] at hrest
  exact ⟨ns, _, hns, rfl, hn, hrest, hn.append hrest (by decide) (by decide) (by decide)⟩

theorem validPage_of_ok {store : Store} {token : Token} {now offset size : Int} {cards : List Card}
    (hp : getHomeCards api store token now offset size = .ok cards) : ValidPage offset size := by
  by_contra hbad
  obtain ⟨msg, he⟩ := h.validate_bad hbad
  rw [getHomeCards, he] at hp
  cases hp

/-- **A page that returned is a slice** of the list cut at the ceiling. -/
theorem page_of_ok {store : Store} {token : Token} {now offset size : Int} {cards : List Card}
    (hp : getHomeCards api store token now offset size = .ok cards) :
    ∃ secs, ∃ o k : Nat, homeSections api store token now = .ok secs ∧ offset = o ∧ size = k ∧ 1 ≤ k ∧ k ≤ 100 ∧
      cards = Window.slice o k (Window.cutAll 100 secs) := by
  obtain ⟨o, k, rfl, rfl, h1, hk⟩ := (validPage_of_ok h hp).nat
  rw [getHomeCards_eq h store token now o h1 hk] at hp
  obtain ⟨secs, hsecs, rfl⟩ := Except.ok_of_map hp
  exact ⟨secs, o, k, hsecs, rfl, rfl, h1, hk, rfl⟩

end

/-- **The shape of the home list.**  Over any two pages of it, the second starting where the first ends or later: the
cards stand in the documented order of their types, every card has a link and no two cards the same one, and every type
shown is one the caller is shown. -/
theorem getHomeCards_shape {api : ApiUtils} (h : api.Documented) {store : Store} {token : Token}
    {now offset size offset' size' : Int} {p q : List Card}
    (hp : getHomeCards api store token now offset size = .ok p)
    (hq : getHomeCards api store token now offset' size' = .ok q) (hnext : offset + size ≤ offset') :
    (p ++ q).Pairwise (fun x y => homeRank x ≤ homeRank y ∧ x.link ≠ y.link) ∧
    ∀ card ∈ p ++ q, card.link ≠ none ∧ ∃ t, card.type = some t ∧ t ∈ homeTypes ∧ gate token t = true := by
  obtain ⟨secs, o, k, hsecs, rfl, rfl, -, -, rfl⟩ := page_of_ok h hp
  obtain ⟨secs', o', k', hsecs', rfl, rfl, -, -, rfl⟩ := page_of_ok h hq
  rw [hsecs] at hsecs'
  cases hsecs'
  obtain ⟨-, -, -, -, -, -, hband⟩ := homeSections_band h hsecs
  have hsub := (Window.slice_append_sublist (show o + k ≤ o' by omega) k' (Window.cutAll 100 secs)).trans
    (Window.cutAll_sublist 100 secs)
  refine ⟨hband.apart.sublist hsub, fun card hc => ?_⟩
  have hbelongs := hband.belongs card (hsub.subset hc)
  exact ⟨hbelongs.home.link_ne_none, hbelongs.type⟩

theorem getHomeCards_shape_own :
    ∃ p q, getHomeCards reference (notificationsOnly ownNotifications) menteeToken 0 0 1 = .ok p ∧
      getHomeCards reference (notificationsOnly ownNotifications) menteeToken 0 1 1 = .ok q ∧
      (p ++ q).Pairwise (fun x y => homeRank x ≤ homeRank y ∧ x.link ≠ y.link) := by
  have hp : ∃ p, getHomeCards reference (notificationsOnly ownNotifications) menteeToken 0 0 1 = .ok p := ⟨_, rfl⟩
  have hq : ∃ q, getHomeCards reference (notificationsOnly ownNotifications) menteeToken 0 1 1 = .ok q := ⟨_, rfl⟩
  obtain ⟨p, hp⟩ := hp
  obtain ⟨q, hq⟩ := hq
  exact ⟨p, q, hp, hq, (getHomeCards_shape reference_documented hp hq (by decide)).1⟩

end CardService
end Discovery
