import DiscoveryApi.HomeSections
import DiscoveryApi.HomePaging
/-!
# HomeCustomer — whose Customer card the home list shows

The identity clause goes through `build_outbound_match`, which drops every clause for an admin: a caller holding both
roles is shown the first Customer by name.
-/
namespace Discovery
namespace CardService

open ProfileService (customerOfAdmin)

def isCustomerCard (card : Card) : Bool := decide (card.type = some "Customer")

def customerCard (api : ApiUtils) (token : Token) (d : Document) : Card :=
  cardOf api cardTypeCustomer ⟨"Customer", namedFields⟩ d.dict token.roleList

/-- The caller's own customer: the document is not archived and its `_id` is the id the claim denotes. -/
def IsOwnCustomer (token : Token) (d : Document) : Prop :=
  d.archived = false ∧ ∃ s, token.customerId = some s ∧ d.names "_id" s = true

theorem ownCustomer_unique {token : Token} {c : Collection} {d e : Document} (hd : d ∈ c.docs) (he : e ∈ c.docs)
    (hod : IsOwnCustomer token d) (hoe : IsOwnCustomer token e) : d = e := by
  obtain ⟨-, s, hs, hn⟩ := hod
  obtain ⟨-, s', hs', hn'⟩ := hoe
  rw [hs] at hs'
  cases hs'
  obtain ⟨o, ho, hdo⟩ := Document.names_iff.1 hn
  obtain ⟨o', ho', heo⟩ := Document.names_iff.1 hn'
  rw [ho] at ho'
  cases ho'
  rw [Document.dict_id] at hdo heo
  cases hdo
  have hid : e.id = d.id := by simpa using heo
  exact (List.inj_on_of_nodup_map c.ids_nodup he hd hid).symm

/-! ## The cards of the other sections -/

theorem filter_isCustomerCard {cards : List Card} (hc : ∀ card ∈ cards, card.type ≠ some "Customer") :
    cards.filter isCustomerCard = [] :=
  List.filter_eq_nil_iff.2 (fun card hm => by simpa [isCustomerCard] using hc card hm)

section
variable {api : ApiUtils} (h : api.Documented)
include h

/-- The Customer cards of an assembled list are its Customer section. -/
theorem filter_assembleHome {store : Store} {token : Token} {now n : Int} {cards : List Card}
    (hc : assembleHome api store token now n = .ok cards) :
    customerSection api store token = .ok (cards.filter isCustomerCard) := by
  obtain ⟨ns, cs, ms, es, hns, hcs, hms, hes, rfl⟩ := assembleHome_ok hc
  have hcustomer : cs.filter isCustomerCard = cs :=
    List.filter_eq_self.2 (fun card hm => decide_eq_true (customerSection_type hcs hm))
  have hother : ∀ {t : String}, t ≠ "Customer" → ∀ {card : Card}, card.type = some t → card.type ≠ some "Customer" :=
    fun ht _ hct hcc => ht (Option.some.inj (hct.symm.trans hcc))
  rw [List.filter_append, List.filter_append, List.filter_append, List.filter_append, List.filter_append, hcustomer,
    filter_isCustomerCard (fun _ hm => hother (by decide) (notificationSection_type hns hm)),
    filter_isCustomerCard (fun _ hm hcc => absurd (hcc ▸ adminSection_type hm) (by decide)),
    filter_isCustomerCard (fun _ hm => hother (by decide) (memberSection_type h hms hm)),
    filter_isCustomerCard (fun _ hm => hother (by decide) (menteeSection_type h hes hm)),
    filter_isCustomerCard (fun _ hm => hother (by decide) (journeySection_type hm))]
  simpa using hcs

theorem pageOf_unique {s : SortBy} {p : Document → Bool} {c : Collection} {x : Option Document}
    (hx : ∀ d, (d ∈ c.docs ∧ p d = true) ↔ x = some d) : api.pageOf s p c 0 1 = x.toList := by
  have hmem : ∀ d, d ∈ api.sort s (c.docs.filter p) ↔ x = some d := fun d => by
    rw [(h.sort_perm s _).mem_iff, List.mem_filter, hx d]
  have hpage : api.pageOf s p c 0 1 = (api.sort s (c.docs.filter p)).take 1 := rfl
  rw [hpage]
  cases hl : api.sort s (c.docs.filter p) with
  | nil =>
    cases x with
    | none => rfl
    | some d => exact absurd ((hmem d).2 rfl) (by rw [hl]; exact List.not_mem_nil)
  | cons e es =>
    rw [(hmem e).1 (by rw [hl]; exact List.mem_cons_self)]
    rfl

theorem customerHomeCard_eq {store : Store} {token : Token} {s : String} (hs : truthyClaim token.customerId = some s) :
    customerHomeCard api store token = (api.encodeId (.str s)).map (fun v =>
      ((api.pageOf [("name", 1)] (api.sat (api.buildOutboundMatch token
        [[("status", .doc [("$ne", .str archivedStatus)])], [("_id", v)]])) store.customers 0 1).head?).map
          (customerCard api token)) := by
  unfold customerHomeCard customerMatch
  rw [hs]
  simp only [encode_scope h (List.mem_singleton.2 rfl)]
  cases hv : api.encodeId (.str s) with
  | error e => rfl
  | ok v =>
    simp only [Except.map, bind, Except.bind]
    rw [h.listQuery_eq (by decide) (by decide) (by decide)]
    cases api.pageOf [("name", 1)] (api.sat (api.buildOutboundMatch token
      [[("status", .doc [("$ne", .str archivedStatus)])], [("_id", v)]])) store.customers 0 1 with
    | nil => rfl
    | cons d ds =>
      have hp : project api cardTypeCustomer (some d.dict) (some token) = .ok (customerCard api token d) :=
        project_known api rfl d.dict token
      simp only [hp]
      rfl

/-- Without the admin role, the query selects the caller's own customer. -/
theorem customerQuery_scoped {store : Store} {token : Token} (ht : token.has .admin = false) {s : String}
    (hs : truthyClaim token.customerId = some s) {v : Value} (hv : api.encodeId (.str s) = .ok v)
    {x : Option Document} (hx : ∀ d, (d ∈ store.customers.docs ∧ IsOwnCustomer token d) ↔ x = some d) :
    api.pageOf [("name", 1)] (api.sat (api.buildOutboundMatch token
      [[("status", .doc [("$ne", .str archivedStatus)])], [("_id", v)]])) store.customers 0 1 = x.toList := by
  refine pageOf_unique h (fun d => ?_)
  have hclaim := (Option.filter_eq_some_iff.1 hs).1
  rw [← hx d, h.outbound_all ht, List.all_cons, List.all_cons, List.all_nil, Bool.and_true, sat_not_archived h,
    sat_encoded h (by decide) hv, Bool.and_eq_true, Bool.not_eq_true', IsOwnCustomer]
  constructor
  · rintro ⟨hd, ha, hn⟩
    exact ⟨hd, ha, s, hclaim, hn⟩
  · rintro ⟨hd, ha, s', hs', hn⟩
    rw [hclaim] at hs'
    cases hs'
    exact ⟨hd, ha, hn⟩

theorem customerQuery_admin {store : Store} {token : Token} (ht : token.has .admin = true) (cs : List Match) :
    (api.pageOf [("name", 1)] (api.sat (api.buildOutboundMatch token cs)) store.customers 0 1).head? =
      (api.sort [("name", 1)] store.customers.docs).head? := by
  have hall : store.customers.docs.filter (api.sat (api.buildOutboundMatch token cs)) = store.customers.docs := by
    rw [h.outbound_admin ht]
    exact List.filter_eq_self.2 (fun d _ => h.sat_nil d)
  rw [ApiUtils.pageOf, hall]
  cases api.sort [("name", 1)] store.customers.docs <;> rfl

end

/-! ## Whose card it is -/

/-- At most one Customer card; one exactly when the caller has the role, the claim and such a customer; and it is that
customer's. -/
structure CustomerCardOwn (api : ApiUtils) (store : Store) (token : Token) (cards : List Card) : Prop where
  atMostOne : (cards.filter isCustomerCard).length ≤ 1
  shown_iff : (∃ card ∈ cards, isCustomerCard card = true) ↔
    token.has .customer = true ∧ (truthyClaim token.customerId).isSome = true ∧
      ∃ d ∈ store.customers.docs, IsOwnCustomer token d
  projects : ∀ card ∈ cards, isCustomerCard card = true →
    ∃ d ∈ store.customers.docs, IsOwnCustomer token d ∧ card = customerCard api token d

theorem exists_card_iff {cards : List Card} :
    (∃ card ∈ cards, isCustomerCard card = true) ↔ cards.filter isCustomerCard ≠ [] := by
  simp [List.filter_eq_nil_iff]

/-- Behind the gate, the card is the caller's own exactly when the document read is. -/
theorem customerCardOwn_iff_read {api : ApiUtils} {store : Store} {token : Token} {cards : List Card}
    {x : Option Document} (hcards : cards.filter isCustomerCard = x.toList.map (customerCard api token))
    (hmem : ∀ d, x = some d → d ∈ store.customers.docs)
    (hgate : token.has .customer = true ∧ (truthyClaim token.customerId).isSome = true) :
    CustomerCardOwn api store token cards ↔
      ∀ d, (d ∈ store.customers.docs ∧ IsOwnCustomer token d) ↔ x = some d := by
  constructor
  · rintro ⟨-, hshown, hproj⟩ d
    rw [exists_card_iff, hcards] at hshown
    cases x with
    | none =>
      refine ⟨fun hd => ?_, fun hx => by cases hx⟩
      exact absurd rfl (hshown.2 ⟨hgate.1, hgate.2, d, hd.1, hd.2⟩)
    | some e =>
      have hcard : customerCard api token e ∈ cards.filter isCustomerCard := by
        rw [hcards]
        exact List.mem_singleton.2 rfl
      obtain ⟨hc, ht⟩ := List.mem_filter.1 hcard
      obtain ⟨e', he', hown, heq⟩ := hproj _ hc ht
      have hid : e.id = e'.id := by
        have hcid := congrArg Card.id heq
        simpa [customerCard, cardOf_id] using hcid
      have hee : e = e' := List.inj_on_of_nodup_map store.customers.ids_nodup (hmem e rfl) he' hid
      subst hee
      constructor
      · rintro ⟨hd, hod⟩
        rw [ownCustomer_unique he' hd hown hod]
      · rintro hx
        cases hx
        exact ⟨he', hown⟩
  · intro hx
    have hall : ∀ card ∈ cards, isCustomerCard card = true →
        ∃ d ∈ store.customers.docs, IsOwnCustomer token d ∧ card = customerCard api token d := by
      intro card hc ht
      have hf : card ∈ x.toList.map (customerCard api token) := hcards ▸ List.mem_filter.2 ⟨hc, ht⟩
      obtain ⟨d, hd, rfl⟩ := List.mem_map.1 hf
      obtain ⟨hm, ho⟩ := (hx d).2 (by simpa using hd)
      exact ⟨d, hm, ho, rfl⟩
    refine ⟨?_, ⟨?_, ?_⟩, hall⟩
    · rw [hcards, List.length_map]
      cases x <;> simp
    · rintro ⟨card, hc, ht⟩
      obtain ⟨d, hm, ho, -⟩ := hall card hc ht
      exact ⟨hgate.1, hgate.2, d, hm, ho⟩
    · rintro ⟨-, -, d, hm, ho⟩
      rw [exists_card_iff, hcards, (hx d).1 ⟨hm, ho⟩]
      exact List.cons_ne_nil _ _

theorem customerCardOwn_no_gate {api : ApiUtils} {store : Store} {token : Token} {cards : List Card}
    (hcards : cards.filter isCustomerCard = [])
    (hgate : ¬ (token.has .customer = true ∧ (truthyClaim token.customerId).isSome = true)) :
    CustomerCardOwn api store token cards := by
  refine ⟨by rw [hcards]; exact Nat.zero_le 1, ⟨fun hs => ?_, fun hs => absurd ⟨hs.1, hs.2.1⟩ hgate⟩,
    fun card hc ht => ?_⟩
  · exact absurd hcards (exists_card_iff.1 hs)
  · exact absurd hcards (exists_card_iff.1 ⟨card, hc, ht⟩)

/-- A caller with both roles is shown the first customer by name. -/
def FirstByNameIsOwn (api : ApiUtils) (store : Store) (token : Token) : Prop :=
  store.customers.docs = [] ∨
    ∃ d, (api.sort [("name", 1)] store.customers.docs).head? = some d ∧ IsOwnCustomer token d

theorem firstByName_iff {api : ApiUtils} (h : api.Documented) (store : Store) (token : Token) :
    (∀ d, (d ∈ store.customers.docs ∧ IsOwnCustomer token d) ↔
      (api.sort [("name", 1)] store.customers.docs).head? = some d) ↔ FirstByNameIsOwn api store token := by
  have hmem : ∀ d, d ∈ api.sort [("name", 1)] store.customers.docs ↔ d ∈ store.customers.docs :=
    fun d => (h.sort_perm _ _).mem_iff
  constructor
  · intro hx
    cases hl : api.sort [("name", 1)] store.customers.docs with
    | nil =>
      refine Or.inl (List.eq_nil_iff_forall_not_mem.2 (fun d hd => ?_))
      rw [← hmem d, hl] at hd
      cases hd
    | cons e es =>
      rw [hl] at hx
      exact Or.inr ⟨e, by rw [hl]; rfl, ((hx e).2 rfl).2⟩
  · rintro (hnil | ⟨e, he, hown⟩) d
    · have hs : api.sort [("name", 1)] store.customers.docs = [] := List.eq_nil_iff_forall_not_mem.2 (fun d hd => by
        rw [hmem d, hnil] at hd
        cases hd)
      rw [hs, hnil]
      simp
    · have hem : e ∈ store.customers.docs := (hmem e).1 (List.mem_of_head? he)
      rw [he]
      constructor
      · rintro ⟨hd, hod⟩
        rw [ownCustomer_unique hd hem hod hown]
      · rintro hx
        cases hx
        exact ⟨hem, hown⟩

/-- **When the Customer card is the caller's own**: always, except that a caller who is also admin is shown the first
customer by name, which must then be its own and not archived, or there is none at all. -/
theorem customerCardOwn_iff {api : ApiUtils} (h : api.Documented) {store : Store} {token : Token}
    {now sectionSize : Int} {cards : List Card} (hc : assembleHome api store token now sectionSize = .ok cards) :
    CustomerCardOwn api store token cards ↔
      (token.has .admin = true → token.has .customer = true → (truthyClaim token.customerId).isSome = true →
        FirstByNameIsOwn api store token) := by
  have hcust := filter_assembleHome h hc
  unfold customerSection at hcust
  by_cases hgate : token.has .customer = true ∧ (truthyClaim token.customerId).isSome = true
  · obtain ⟨s, hs⟩ := Option.isSome_iff_exists.1 hgate.2
    rw [if_pos (by rw [hgate.1, hgate.2]; rfl), customerHomeCard_eq h hs] at hcust
    cases hv : api.encodeId (.str s) with
    | error e => rw [hv] at hcust; cases hcust
    | ok v =>
      rw [hv] at hcust
      simp only [Except.map, Except.ok.injEq, Option.toList_map] at hcust
      have hcards := hcust.symm
      have hmem : ∀ d, (api.pageOf [("name", 1)] (api.sat (api.buildOutboundMatch token
          [[("status", .doc [("$ne", .str archivedStatus)])], [("_id", v)]])) store.customers 0 1).head? = some d →
          d ∈ store.customers.docs := fun d hd => by
        have hpage := List.mem_of_mem_drop (List.mem_of_mem_take (List.mem_of_head? hd))
        exact (List.mem_filter.1 ((h.sort_perm _ _).mem_iff.1 hpage)).1
      rw [customerCardOwn_iff_read hcards hmem hgate]
      cases ht : token.has .admin with
      | true =>
        rw [customerQuery_admin h ht, firstByName_iff h]
        exact ⟨fun hf _ _ _ => hf, fun hf => hf rfl hgate.1 hgate.2⟩
      | false =>
        refine ⟨fun _ ha => absurd ha Bool.false_ne_true, fun _ => ?_⟩
        obtain ⟨x, hx⟩ : ∃ x : Option Document,
            ∀ d, (d ∈ store.customers.docs ∧ IsOwnCustomer token d) ↔ x = some d := by
          by_cases he : ∃ d, d ∈ store.customers.docs ∧ IsOwnCustomer token d
          · obtain ⟨e, hem, heo⟩ := he
            exact ⟨some e, fun d => ⟨fun hd => by rw [ownCustomer_unique hd.1 hem hd.2 heo],
              fun hd => by cases hd; exact ⟨hem, heo⟩⟩⟩
          · exact ⟨none, fun d => ⟨fun hd => absurd ⟨d, hd⟩ he, fun hd => by cases hd⟩⟩
        intro d
        rw [customerQuery_scoped h ht hs hv hx, hx d]
        cases x <;> simp
  · have hf : (token.has .customer && (truthyClaim token.customerId).isSome) = false := by
      rw [Bool.and_eq_false_iff]
      by_contra hb
      simp only [not_or, Bool.not_eq_false] at hb
      exact hgate hb
    rw [hf] at hcust
    have hcards := (Except.ok.inj hcust).symm
    exact ⟨fun _ _ hcr hcl => absurd ⟨hcr, hcl⟩ hgate, fun _ => customerCardOwn_no_gate hcards hgate⟩

/-! ## A caller with both roles -/

def customerToken : Token := ⟨some "stacey", some [.customer], none, some "D00000000000000000000002", none⟩

def twoCustomers : Collection where
  docs := [Document.ofList customerOfAdmin [("name", .str "Zenith")] rfl,
    Document.ofList (Reference.idOf 1) [("name", .str "Acme")] rfl]
  ids_nodup := by decide

def customersOnly : Store := storeOf .empty twoCustomers .empty

theorem customerCardOwn_customerToken : ∃ cards, assembleHome reference customersOnly customerToken 0 20 = .ok cards ∧
    (CustomerCardOwn reference customersOnly customerToken cards ↔
      (customerToken.has .admin = true → customerToken.has .customer = true →
        (truthyClaim customerToken.customerId).isSome = true →
        FirstByNameIsOwn reference customersOnly customerToken)) :=
  ⟨_, rfl, customerCardOwn_iff reference_documented
    (show assembleHome reference customersOnly customerToken 0 20 = _ from rfl)⟩

/-- **An admin who is also a customer is shown another customer**: the first by name. -/
theorem customerCard_of_another : ∃ cards,
    assembleHome reference customersOnly { customerToken with roles := some [.admin, .customer] } 0 20 = .ok cards ∧
    ¬ CustomerCardOwn reference customersOnly { customerToken with roles := some [.admin, .customer] } cards := by
  refine ⟨_, rfl, fun hown => ?_⟩
  obtain ⟨d, hd, ⟨-, s, hs, hn⟩, heq⟩ := hown.projects (customerCard reference customerToken
    (Document.ofList (Reference.idOf 1) [("name", .str "Acme")] rfl)) (by decide) (by decide)
  have hid := congrArg Card.id heq
  cases hs
  rcases List.mem_cons.1 hd with rfl | hd
  · exact absurd hid (by decide)
  · rw [List.mem_singleton.1 hd] at hn
    exact absurd hn (by decide)

end CardService
end Discovery
