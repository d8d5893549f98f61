import DiscoveryApi.EventCards
import DiscoveryApi.HomeShape
import DiscoveryApi.NotificationCards
/-!
# CardLists — every list of cards meets the published schema

Six lists return cards.  However a card came about (`Published`), it has the properties of the schema and no other, and
whatever lists a caller reads, a link stands for one type and one id.
-/
namespace Discovery

/-! ## The lists -/

/-- The arguments of a consumed collection's list. -/
structure ConsumeQuery where
  token : Token
  offset : Int
  size : Int
  filters : Option Match
  sortBy : Option SortBy

/-- `super().get_…`, projected onto Cards. -/
def consumedCards (api : ApiUtils) (cardType : String) (sharedList : ConsumeQuery → Except HTTPError (List Document))
    (query : ConsumeQuery) : Except HTTPError (List Card) := do
  let documents ← sharedList query
  CardService.projectAll api cardType documents (some query.token)

def ResourceCardService.getResources (api : ApiUtils) :
    (ConsumeQuery → Except HTTPError (List Document)) → ConsumeQuery → Except HTTPError (List Card) :=
  consumedCards api cardTypeResources

def PathCardService.getPaths (api : ApiUtils) :
    (ConsumeQuery → Except HTTPError (List Document)) → ConsumeQuery → Except HTTPError (List Card) :=
  consumedCards api cardTypePaths

def PlanCardService.getPlans (api : ApiUtils) :
    (ConsumeQuery → Except HTTPError (List Document)) → ConsumeQuery → Except HTTPError (List Card) :=
  consumedCards api cardTypePlans

/-- The shared services behind the lists. -/
structure SharedServices where
  getResources : ConsumeQuery → Except HTTPError (List Document)
  getPaths : ConsumeQuery → Except HTTPError (List Document)
  getPlans : ConsumeQuery → Except HTTPError (List Document)
  getEvents : EventQuery → Except HTTPError (List Event)

/-- **What the lists rely on** of the shared Event list: its events are stored documents, with their `_id`. -/
structure SharedServices.Documented (shared : SharedServices) : Prop where
  event_ids : ∀ {query events}, shared.getEvents query = .ok events →
    ∀ event ∈ events, ∃ o, event.dict "_id" = some (.oid o)

/-- A call of one of the lists. -/
inductive CardList where
  | home (token : Token) (now offset size : Int)
  | resources (query : ConsumeQuery)
  | paths (query : ConsumeQuery)
  | plans (query : ConsumeQuery)
  | notifications (token : Token) (request : Request)
  | events (query : EventQuery)

namespace CardList

def token : CardList → Token
  | home token _ _ _ | notifications token _ => token
  | resources query | paths query | plans query => query.token
  | events query => query.token

def cards (api : ApiUtils) (lists : ListUtils) (shared : SharedServices) (store : Store) :
    CardList → Except HTTPError (List Card)
  | home token now offset size => CardService.getHomeCards api store token now offset size
  | resources query => ResourceCardService.getResources api shared.getResources query
  | paths query => PathCardService.getPaths api shared.getPaths query
  | plans query => PlanCardService.getPlans api shared.getPlans query
  | notifications token request => (CardRoutes.getNotificationCards api lists store.notifications token request).result
  | events query => EventCardService.getEvents api shared.getEvents store.profiles query

end CardList

/-! ## The schema -/

/-- The `type` enum of the schema. -/
def cardTypes : List String :=
  ["Customer", "Discounts", "Event", "Journey", "Logs", "Member", "Mentee", "Notification", "Path", "Plan", "Products",
    "Resource"]

/-- The Card schema on the dict a handler returns: five properties, an id of 24 hexadecimal digits, a type of the enum,
a relative link. -/
structure CardSchema (api : ApiUtils) (card : Dict) : Prop where
  properties : ∀ k v, card k = some v → k ∈ cardKeys ∧ v ≠ .null
  id : ∀ v, card "_id" = some v → ∃ o, ObjectId.ofHex? (api.str v) = some o
  type : ∃ t ∈ cardTypes, card "type" = some (.str t)
  link : ∀ v, card "link" = some v → ∃ text, v = .str text ∧ text.toList.head? ≠ some '/'

namespace CardService

open NotificationService (menteeToken ownNotifications)

/-- How a card comes about: one of the synthetic ones, or the projection of a source with an `_id`. -/
inductive Published (api : ApiUtils) (token : Token) (card : Card) : Prop
  | synthetic (hmem : card ∈ syntheticCards)
  | projected (cardType : String) (spec : CardSpec) (source : Dict) (o : ObjectId)
      (hspec : cardTypeSpecs.lookup cardType = some spec) (ho : source.value "_id" = some (.oid o))
      (hcard : card = cardOf api cardType spec source token.roleList)

theorem Published.documents {api : ApiUtils} {token : Token} {cardType : String} {spec : CardSpec}
    (hspec : cardTypeSpecs.lookup cardType = some spec) {documents : List Document} {cards : List Card}
    (hcards : projectAll api cardType documents (some token) = .ok cards) :
    ∀ card ∈ cards, Published api token card := by
  rw [projectAll_known api hspec] at hcards
  cases hcards
  intro card hc
  obtain ⟨d, -, rfl⟩ := List.mem_map.1 hc
  exact .projected cardType spec d.dict d.id hspec rfl rfl

/-! ## What each list publishes -/

theorem adminSection_published {api : ApiUtils} {token : Token} :
    ∀ card ∈ adminSection token, Published api token card := by
  intro card hc
  unfold adminSection at hc
  split at hc
  · exact .synthetic (List.mem_of_mem_take (i := 3) hc)
  · cases hc

theorem journeySection_published {api : ApiUtils} {token : Token} :
    ∀ card ∈ journeySection token, Published api token card := by
  intro card hc
  unfold journeySection at hc
  split at hc
  · rw [List.mem_singleton.1 hc]
    exact .synthetic (by decide)
  · cases hc

theorem notificationSection_published {api : ApiUtils} {store : Store} {token : Token} {n : Int} {ns : List Card}
    (hns : notificationSection api store token n = .ok ns) : ∀ card ∈ ns, Published api token card := by
  unfold notificationSection at hns
  split at hns
  · cases hns
    exact fun _ hc => absurd hc List.not_mem_nil
  · obtain ⟨ds, -, hns⟩ := Except.ok_of_bind hns
    exact Published.documents rfl hns

theorem customerSection_published {api : ApiUtils} {store : Store} {token : Token} {cs : List Card}
    (hcs : customerSection api store token = .ok cs) : ∀ card ∈ cs, Published api token card := by
  intro card hc
  obtain rfl | ⟨-, customer, rfl⟩ := customerSection_cases hcs
  · cases hc
  · rw [List.mem_singleton.1 hc]
    exact .projected cardTypeCustomer ⟨"Customer", namedFields⟩ customer.dict customer.id rfl rfl rfl

section
variable {api : ApiUtils} (h : api.Documented)
include h

theorem memberSection_published {store : Store} {token : Token} {now n : Int} {ms : List Card}
    (hms : memberSection api store token now n = .ok ms) : ∀ card ∈ ms, Published api token card := by
  intro card hc
  unfold memberSection at hms
  split at hms
  · obtain ⟨members, -, hms⟩ := Except.ok_of_bind hms
    rw [projectMemberCards_eq h] at hms
    cases hms
    obtain ⟨d, -, rfl⟩ := List.mem_map.1 hc
    exact .projected cardTypeMembers ⟨"Member", profileFields⟩ _ d.id rfl rfl rfl
  · cases hms
    cases hc

theorem menteeSection_published {store : Store} {token : Token} {now n : Int} {es : List Card}
    (hes : menteeSection api store token now n = .ok es) : ∀ card ∈ es, Published api token card := by
  intro card hc
  unfold menteeSection at hes
  split at hes
  · obtain ⟨mentees, -, hes⟩ := Except.ok_of_bind hes
    rw [projectMenteeCards_eq h] at hes
    cases hes
    obtain ⟨d, -, rfl⟩ := List.mem_map.1 hc
    exact .projected cardTypeMentees ⟨"Mentee", profileFields⟩ _ d.id rfl rfl rfl
  · cases hes
    cases hc

theorem getHomeCards_published {store : Store} {token : Token} {now offset size : Int} {cards : List Card}
    (hcards : getHomeCards api store token now offset size = .ok cards) : ∀ card ∈ cards, Published api token card := by
  obtain ⟨-, -, hcards⟩ := Except.ok_of_bind hcards
  obtain ⟨all, hall, hcards⟩ := Except.ok_of_bind hcards
  cases hcards
  obtain ⟨ns, cs, ms, es, hns, hcs, hms, hes, rfl⟩ := assembleHome_ok hall
  intro card hc
  have hc := Python.mem_of_mem_sliced hc
  simp only [List.mem_append] at hc
  rcases hc with ((((hc | hc) | hc) | hc) | hc) | hc
  · exact notificationSection_published hns card hc
  · exact adminSection_published card hc
  · exact customerSection_published hcs card hc
  · exact memberSection_published h hms card hc
  · exact menteeSection_published h hes card hc
  · exact journeySection_published card hc

end

theorem getNotificationCards_published {api : ApiUtils} {lists : ListUtils} {c : Collection} {token : Token}
    {request : Request} {cards : List Card}
    (hcards : (CardRoutes.getNotificationCards api lists c token request).result = .ok cards) :
    ∀ card ∈ cards, Published api token card := by
  have hlist : ∀ {offset size : Int} {extra : Match} {calls : List NotificationCardService.Call},
      (NotificationCardService.listCards api c token offset size extra calls).result = .ok cards →
        ∀ card ∈ cards, Published api token card := by
    intro offset size extra calls hcards
    obtain ⟨ds, -, hcards⟩ := Except.ok_of_bind hcards
    exact Published.documents rfl hcards
  unfold CardRoutes.getNotificationCards at hcards
  split at hcards
  · cases hcards
  · unfold NotificationCardService.getNotifications at hcards
    split at hcards
    · cases hcards
    · dsimp only at hcards
      -- an admin's filters and no filters: either way one list query or the other
      split at hcards <;> split at hcards <;> exact hlist hcards

theorem describedAs_id (event : Event) (description : Option String) :
    (EventCardService.describedAs event description).value "_id" = event.dict.value "_id" := by
  unfold EventCardService.describedAs
  split
  · rfl
  · rfl

theorem getEvents_published {api : ApiUtils} {shared : SharedServices} (hshared : shared.Documented)
    {profiles : Collection} {query : EventQuery} {cards : List Card}
    (hcards : EventCardService.getEvents api shared.getEvents profiles query = .ok cards) :
    ∀ card ∈ cards, Published api query.token card := by
  obtain ⟨events, hevents, hcards⟩ := Except.ok_of_bind hcards
  rw [Except.mapM_ok (fun source => project_known api rfl source query.token)] at hcards
  cases hcards
  intro card hc
  obtain ⟨source, hsource, rfl⟩ := List.mem_map.1 hc
  obtain ⟨event, hevent, rfl⟩ := List.mem_map.1 hsource
  obtain ⟨o, ho⟩ := hshared.event_ids hevents event hevent
  refine .projected cardTypeEvents ⟨"Event", eventFields⟩ _ o rfl ?_ rfl
  rw [EventCardService.enrichEvent, describedAs_id, Dict.value, ho]

/-- **Every card of every list** is synthetic or the projection of a document. -/
theorem cards_published {api : ApiUtils} (h : api.Documented) {lists : ListUtils} {shared : SharedServices}
    (hshared : shared.Documented) {store : Store} (list : CardList) {cards : List Card}
    (hcards : list.cards api lists shared store = .ok cards) : ∀ card ∈ cards, Published api list.token card := by
  cases list with
  | home token now offset size => exact getHomeCards_published h hcards
  | notifications token request => exact getNotificationCards_published hcards
  | events query => exact getEvents_published hshared hcards
  | resources query | paths query | plans query =>
    obtain ⟨ds, -, hcards⟩ := Except.ok_of_bind hcards
    exact Published.documents rfl hcards

/-! ## What a published card is -/

theorem linkRoute_eq_none_iff {mentor : Bool} {kind : String} (hk : kind ∈ kinds) :
    linkRoute mentor kind = none ↔ kind = "Event" := by
  have hall : ∀ m : Bool, ∀ k ∈ kinds, linkRoute m k = none ↔ k = "Event" := by decide
  exact hall mentor kind hk

theorem syntheticCard_schema (api : ApiUtils) (name description : String) {cardType link : String}
    (htype : cardType ∈ cardTypes) (hlink : link.toList.head? ≠ some '/') :
    CardSchema api (syntheticCard name description cardType link).dict := by
  refine ⟨fun k v hv => ⟨dict_keys hv, ?_⟩, fun v hv => ?_, ⟨cardType, htype, rfl⟩, fun v hv => ?_⟩
  · rintro rfl
    simp only [Card.dict, syntheticCard] at hv
    split_ifs at hv <;> cases hv
  · cases hv
  · exact ⟨link, (Option.some.inj hv).symm, hlink⟩

theorem syntheticCards_schema (api : ApiUtils) {card : Card} (hc : card ∈ syntheticCards) :
    CardSchema api card.dict := by
  simp only [syntheticCards, List.mem_cons, List.not_mem_nil, or_false] at hc
  rcases hc with rfl | rfl | rfl | rfl <;> exact syntheticCard_schema api _ _ (by decide) (by decide)

theorem Published.schema {api : ApiUtils} (h : api.Documented) {token : Token} {card : Card}
    (hc : Published api token card) : CardSchema api card.dict := by
  cases hc with
  | synthetic hmem => exact syntheticCards_schema api hmem
  | projected cardType spec source o hspec ho hcard =>
    subst hcard
    have hid : IdWf source := fun v hv => ⟨o, Option.some.inj (hv.symm.trans ho)⟩
    have hconforms : Conforms cardType spec source (cardOf api cardType spec source token.roleList).dict :=
      cardOf_conforms h hspec hid (some token)
    refine ⟨hconforms.keys, ?_, ⟨spec.type, ?_, hconforms.type⟩, ?_⟩
    · intro v hv
      rw [hconforms.id, ho] at hv
      cases hv
      exact ⟨o, by rw [h.str_oid, ObjectId.ofHex?_hex]⟩
    · have hkinds : ∀ k ∈ kinds, k ∈ cardTypes := by decide
      exact hkinds spec.type (type_mem_kinds hspec)
    · intro v hv
      obtain ⟨-, text, -, rfl, hhead, -⟩ := hconforms.link_text v hv
      exact ⟨text, rfl, hhead⟩

/-- A published card has a link unless it is an Event's, and is then one `HomeCard.link_inj` knows. -/
theorem Published.linked {api : ApiUtils} (h : api.Documented) {token : Token} {card : Card}
    (hc : Published api token card) :
    (card.link = none ∧ card.type = some "Event") ∨
      (card.type ≠ some "Event" ∧ HomeCard (token.roleList.contains .mentor) card) := by
  cases hc with
  | synthetic hmem =>
    have hall : ∀ c ∈ syntheticCards, c.type ≠ some "Event" := by decide
    exact Or.inr ⟨hall card hmem, .synthetic hmem⟩
  | projected cardType spec source o hspec ho hcard =>
    subst hcard
    have hkind := type_mem_kinds hspec
    cases hroute : linkRoute (token.roleList.contains .mentor) spec.type with
    | none =>
      refine Or.inl ⟨?_, congrArg some ((linkRoute_eq_none_iff hkind).1 hroute)⟩
      simp only [cardOf, ho, Option.bind_some, cardLink_eq hspec, hroute, Option.map_none]
    | some route =>
      have hlink := link_document h hspec token hroute ho
      refine Or.inr ⟨fun hevent => ?_, .projected spec.type route o hkind hroute rfl ho hlink⟩
      rw [(linkRoute_eq_none_iff hkind).2 (Option.some.inj hevent)] at hroute
      cases hroute

/-- **The lists agree on what a card is.**  Every card of every list meets the schema and has a link unless it is an
Event's; and over any two lists, read of any two stores by callers of one mentor role, two cards with one link are of
one type and one id. -/
theorem cards_meet_schema {api : ApiUtils} (h : api.Documented) (lists : ListUtils) {shared shared' : SharedServices}
    (hshared : shared.Documented) (hshared' : shared'.Documented) {store store' : Store} {list list' : CardList}
    {cards cards' : List Card} (hcards : list.cards api lists shared store = .ok cards)
    (hcards' : list'.cards api lists shared' store' = .ok cards')
    (hrole : list'.token.has .mentor = list.token.has .mentor) :
    (∀ card ∈ cards, CardSchema api card.dict ∧ (card.link = none ↔ card.type = some "Event")) ∧
    ∀ card ∈ cards, ∀ card' ∈ cards', card.link ≠ none → card'.link = card.link →
      card'.type = card.type ∧ card'.id = card.id := by
  have hpub := cards_published h hshared list hcards
  have hpub' := cards_published h hshared' list' hcards'
  refine ⟨fun card hc => ⟨(hpub card hc).schema h, ?_⟩, fun card hc card' hc' hne heq => ?_⟩
  · rcases (hpub card hc).linked h with ⟨hlink, htype⟩ | ⟨htype, hhome⟩
    · exact iff_of_true hlink htype
    · exact iff_of_false hhome.link_ne_none htype
  · rcases (hpub card hc).linked h with ⟨hlink, -⟩ | ⟨-, hhome⟩
    · exact absurd hlink hne
    rcases (hpub' card' hc').linked h with ⟨hlink', -⟩ | ⟨-, hhome'⟩
    · exact absurd (heq.symm.trans hlink') hne
    have hrole' : list'.token.roleList.contains Role.mentor = list.token.roleList.contains Role.mentor := hrole
    rw [hrole'] at hhome'
    exact hhome.link_inj hhome' heq

/-- A Resource, and no other consumed document. -/
def oneResource : SharedServices where
  getResources _ := .ok [Document.ofList (Reference.idOf 1) [("name", .str "Lean"), ("description", .null)] rfl]
  getPaths _ := .ok []
  getPlans _ := .ok []
  getEvents _ := .ok []

theorem oneResource_documented : oneResource.Documented where
  event_ids hevents _ hevent := by
    cases hevents
    cases hevent

theorem cards_meet_schema_resources :
    ∃ cards home, (CardList.resources ⟨menteeToken, 0, 20, none, none⟩).cards reference referenceLists oneResource
        (notificationsOnly ownNotifications) = .ok cards ∧
      (CardList.home menteeToken 0 0 20).cards reference referenceLists oneResource
        (notificationsOnly ownNotifications) = .ok home ∧
      (∀ card ∈ cards, CardSchema reference card.dict ∧ (card.link = none ↔ card.type = some "Event")) ∧
      ∀ card ∈ cards, ∀ card' ∈ home, card.link ≠ none → card'.link = card.link →
        card'.type = card.type ∧ card'.id = card.id := by
  have hcards : ∃ cards, (CardList.resources ⟨menteeToken, 0, 20, none, none⟩).cards reference referenceLists
      oneResource (notificationsOnly ownNotifications) = .ok cards := ⟨_, rfl⟩
  have hhome : ∃ home, (CardList.home menteeToken 0 0 20).cards reference referenceLists oneResource
      (notificationsOnly ownNotifications) = .ok home := ⟨_, rfl⟩
  obtain ⟨cards, hcards⟩ := hcards
  obtain ⟨home, hhome⟩ := hhome
  exact ⟨cards, home, hcards, hhome, cards_meet_schema reference_documented referenceLists oneResource_documented
    oneResource_documented hcards hhome rfl⟩

end CardService
end Discovery
