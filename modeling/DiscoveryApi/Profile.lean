import DiscoveryApi.Query
import DiscoveryApi.Reference
/-!
# Profile — the Member and Mentee lists

The two lists AND an identity scope onto a base match: the Member list's base is the shared outbound match, which is
empty for an admin; the Mentee list's states the archival clause itself.
-/
namespace Discovery

/-- The caller's Profile `_id`, by which Mentee Profiles are found. -/
def mentorScopeId (token : Token) : Option String := truthyClaim token.profileId

namespace ProfileService

def profileListFilters : FilterSpec :=
  [("display_name", .contains, "display_name"),
   ("email", .contains, "email"),
   ("description", .contains, "description"),
   ("status", .inList, "status"),
   ("roles", .inList, "roles")]

def profileListOrder : OrderSpec where
  defaultField := "display_name"
  defaultOrder := "asc"
  allowed :=
    [("display_name", ["asc", "desc"]), ("email", ["asc", "desc"]), ("status", ["asc", "desc"]),
     ("created.at_time", ["asc", "desc"]), ("saved.at_time", ["asc", "desc"])]

/-- The body both lists share: a base match, the filters, and a scope AND'd on. -/
def scopedList (api : ApiUtils) (c : Collection) (token : Token) (base : Match) (scopeField : String)
    (scopeValue : Option String) (offset size : Int) (filters : Option Match) (sortBy : Option SortBy) :
    Except HTTPError (List Document) := do
  api.profileCheckPermission token "read"
  match truthyClaim scopeValue with
  | none => .ok []
  | some scopeValue =>
    let scope ← api.encodeDocument [(scopeField, .str scopeValue)] api.profileIdProperties api.profileDateProperties
    let m := api.andMatch (api.buildMatchFilter base (filters.getD []) profileListFilters) scope
    let sortBy := sortBy.getD
      (api.buildSortBy profileListOrder.defaultField profileListOrder.defaultOrder profileListOrder)
    api.executeListQuery c m sortBy offset size

def scopedProfiles (api : ApiUtils) (c : Collection) (token : Token) (scopeField : String)
    (scopeValue : Option String) (offset size : Int) (filters : Option Match) (sortBy : Option SortBy) :
    Except HTTPError (List Document) :=
  scopedList api c token (api.profileOutbound token) scopeField scopeValue offset size filters sortBy

def getMemberProfiles (api : ApiUtils) (c : Collection) (token : Token) (offset size : Int) (filters : Option Match)
    (sortBy : Option SortBy) : Except HTTPError (List Document) :=
  scopedProfiles api c token "customer_id" token.customerId offset size filters sortBy

def getMenteeProfiles (api : ApiUtils) (c : Collection) (token : Token) (offset size : Int) (filters : Option Match)
    (sortBy : Option SortBy) : Except HTTPError (List Document) :=
  scopedList api c token [("status", .doc [("$ne", .str archivedStatus)])] "mentor_id" (mentorScopeId token) offset size
    filters sortBy

def passes (api : ApiUtils) (filters : Option Match) (d : Document) : Bool :=
  api.sat (api.buildMatchFilter [] (filters.getD []) profileListFilters) d

theorem truthyClaim_mentorScopeId (token : Token) : truthyClaim (mentorScopeId token) = truthyClaim token.profileId := by
  simp [mentorScopeId, truthyClaim, Option.filter_filter]

/-! ## What a scoped list holds -/

section
variable {api : ApiUtils} (h : api.Documented)
include h

theorem scopedList_no_claim {value : Option String} (hv : truthyClaim value = none) (c : Collection) (token : Token)
    (base : Match) (k : String) (offset size : Int) (filters : Option Match) (sortBy : Option SortBy) :
    scopedList api c token base k value offset size filters sortBy = .ok [] := by
  unfold scopedList
  rw [h.profileRead, hv]
  rfl

theorem scopedList_claim {k : String} (hk : k ∈ "_id" :: idFields) (hids : k ∈ api.profileIdProperties) {s : String}
    {value : Option String} (hs : truthyClaim value = some s) (token : Token) (base : Match) (filters : Option Match) :
    (∃ e, api.encodeId (.str s) = .error e ∧ ∀ c offset size sortBy,
      scopedList api c token base k value offset size filters sortBy = .error e) ∨
    (∃ v m, api.encodeId (.str s) = .ok v ∧
      (∀ d, api.sat m d = (api.sat base d && passes api filters d && d.names k s)) ∧
      ∀ c offset size sortBy, scopedList api c token base k value offset size filters sortBy =
        api.executeListQuery c m (sortBy.getD
          (api.buildSortBy profileListOrder.defaultField profileListOrder.defaultOrder profileListOrder)) offset size) := by
  cases hv : api.encodeId (.str s) with
  | error e =>
    refine Or.inl ⟨e, rfl, fun c offset size sortBy => ?_⟩
    unfold scopedList
    rw [h.profileRead, hs]
    simp only [bind, Except.bind, encode_scope h hids, hv, Except.map]
  | ok v =>
    refine Or.inr ⟨v, api.andMatch (api.buildMatchFilter base (filters.getD []) profileListFilters) [(k, v)], rfl,
      fun d => ?_, fun c offset size sortBy => ?_⟩
    · rw [h.sat_and, h.sat_filter, sat_encoded h hk hv]
      rfl
    · unfold scopedList
      rw [h.profileRead, hs]
      simp only [bind, Except.bind, encode_scope h hids, hv, Except.map]

/-- Every document a scoped list returns satisfies the base and refers to the id the claim denotes. -/
theorem scopedList_sound {k : String} (hk : k ∈ "_id" :: idFields) (hids : k ∈ api.profileIdProperties)
    {value : Option String} {c : Collection} {token : Token} {base : Match} {offset size : Int}
    {filters : Option Match} {sortBy : Option SortBy} {ds : List Document}
    (hq : scopedList api c token base k value offset size filters sortBy = .ok ds) :
    ∀ d ∈ ds, d ∈ c.docs ∧ api.sat base d = true ∧ passes api filters d = true ∧
      ∃ s, value = some s ∧ d.names k s = true := by
  intro d hd
  cases hs : truthyClaim value with
  | none =>
    rw [scopedList_no_claim h hs] at hq
    cases hq
    cases hd
  | some s =>
    rcases scopedList_claim h hk hids hs token base filters with ⟨e, -, he⟩ | ⟨v, m, -, hm, heq⟩
    · rw [he] at hq
      cases hq
    · rw [heq] at hq
      obtain ⟨hmem, hsat⟩ := h.listQuery_sound hq d hd
      rw [hm, Bool.and_eq_true, Bool.and_eq_true] at hsat
      exact ⟨hmem, hsat.1.1, hsat.1.2, s, (Option.filter_eq_some_iff.1 hs).1, hsat.2⟩

theorem mem_pageOf_single {s : SortBy} {p : Document → Bool} {c : Collection} {d : Document} (hd : d ∈ c.docs)
    (hp : p d = true) : ∃ i : Nat, d ∈ api.pageOf s p c i 1 := by
  have hmem : d ∈ api.sort s (c.docs.filter p) := (h.sort_perm s _).mem_iff.2 (List.mem_filter.2 ⟨hd, hp⟩)
  obtain ⟨i, hi, rfl⟩ := List.getElem_of_mem hmem
  refine ⟨i, ?_⟩
  rw [ApiUtils.pageOf, Int.toNat_natCast, List.drop_eq_getElem_cons hi]
  exact List.mem_cons_self

theorem scopedList_complete {k : String} (hk : k ∈ "_id" :: idFields) (hids : k ∈ api.profileIdProperties) {s : String}
    {c : Collection} {token : Token} {base : Match} {filters : Option Match} {d : Document} (hd : d ∈ c.docs)
    (hb : api.sat base d = true) (hp : passes api filters d = true) (hn : d.names k s = true) :
    ∃ (i : Nat) (ds : List Document), scopedList api c token base k (some s) i 1 filters none = .ok ds ∧ d ∈ ds := by
  obtain ⟨o, ho, -⟩ := Document.names_iff.1 hn
  have hs : truthyClaim (some s) = some s := Option.filter_some_pos (decide_eq_true (ObjectId.ne_empty_of_ofHex? ho))
  rcases scopedList_claim h hk hids hs token base filters with ⟨e, he, -⟩ | ⟨v, m, -, hm, heq⟩
  · rw [h.encodeId_hex ho] at he
    cases he
  · obtain ⟨i, hi⟩ := mem_pageOf_single h (s := (none : Option SortBy).getD
      (api.buildSortBy profileListOrder.defaultField profileListOrder.defaultOrder profileListOrder))
      (p := api.sat m) hd (by rw [hm, hb, hp, hn]; rfl)
    refine ⟨i, _, ?_, hi⟩
    rw [heq, h.listQuery_eq (Int.natCast_nonneg i) (by decide) (by decide)]

end

/-! ## Whom the lists expose -/

/-- A profile its list may show: not archived, and referring to the id the claim denotes. -/
def InScope (d : Document) (k : String) (claim : Option String) : Prop :=
  d.archived = false ∧ ∃ s, claim = some s ∧ d.names k s = true

/-- On every page and in every order, both lists show profiles in scope only, and none without a claim. -/
structure ListsSafe (api : ApiUtils) (c : Collection) (token : Token) (filters : Option Match) : Prop where
  members : ∀ offset size sortBy ds, getMemberProfiles api c token offset size filters sortBy = .ok ds →
    ∀ d ∈ ds, InScope d "customer_id" token.customerId
  mentees : ∀ offset size sortBy ds, getMenteeProfiles api c token offset size filters sortBy = .ok ds →
    ∀ d ∈ ds, InScope d "mentor_id" token.profileId
  noCustomer : truthyClaim token.customerId = none → ∀ offset size sortBy,
    getMemberProfiles api c token offset size filters sortBy = .ok []
  noProfile : truthyClaim token.profileId = none → ∀ offset size sortBy,
    getMenteeProfiles api c token offset size filters sortBy = .ok []

theorem menteeProfiles_inScope {api : ApiUtils} (h : api.Documented) {c : Collection} {token : Token}
    {offset size : Int} {filters : Option Match} {sortBy : Option SortBy} {ds : List Document}
    (hq : getMenteeProfiles api c token offset size filters sortBy = .ok ds) :
    ∀ d ∈ ds, InScope d "mentor_id" token.profileId := by
  intro d hd
  obtain ⟨-, hb, -, s, hs, hn⟩ := scopedList_sound h (by decide) h.profileIds.2 hq d hd
  rw [sat_not_archived h] at hb
  exact ⟨by simpa using hb, s, (Option.filter_eq_some_iff.1 hs).1, hn⟩

theorem memberProfiles_inScope {api : ApiUtils} (h : api.Documented) {c : Collection} {token : Token}
    {offset size : Int} {filters : Option Match} {sortBy : Option SortBy} {ds : List Document}
    (hq : getMemberProfiles api c token offset size filters sortBy = .ok ds)
    (hadmin : token.has .admin = true → ∀ d ∈ c.docs, passes api filters d = true →
      (∃ s, token.customerId = some s ∧ d.names "customer_id" s = true) → d.archived = false) :
    ∀ d ∈ ds, InScope d "customer_id" token.customerId := by
  intro d hd
  obtain ⟨hmem, hb, hp, hs⟩ := scopedList_sound h (by decide) h.profileIds.1 hq d hd
  refine ⟨?_, hs⟩
  cases ht : token.has .admin with
  | true => exact hadmin ht d hmem hp hs
  | false =>
    have hne := h.profileOutbound_active ht d hb
    exact decide_eq_false hne

/-- **When the lists are safe**: always for a caller who is not admin; for an admin, exactly when no archived profile of
its customer claim passes the filters. -/
theorem listsSafe_iff {api : ApiUtils} (h : api.Documented) (c : Collection) (token : Token) (filters : Option Match) :
    ListsSafe api c token filters ↔
      (token.has .admin = true → ∀ d ∈ c.docs, passes api filters d = true →
        (∃ s, token.customerId = some s ∧ d.names "customer_id" s = true) → d.archived = false) := by
  constructor
  · rintro hsafe ht d hd hp ⟨s, hs, hn⟩
    have hb : api.sat (api.profileOutbound token) d = true := by rw [h.profileOutbound_admin ht, h.sat_nil]
    obtain ⟨i, ds, hq, hds⟩ : ∃ (i : Nat) (ds : List Document), scopedList api c token (api.profileOutbound token)
        "customer_id" (some s) i 1 filters none = .ok ds ∧ d ∈ ds :=
      scopedList_complete h (by decide) h.profileIds.1 hd hb hp hn
    refine (hsafe.members i 1 none ds ?_ d hds).1
    rw [getMemberProfiles, scopedProfiles, hs]
    exact hq
  · intro hadmin
    refine ⟨fun _ _ _ _ hq => memberProfiles_inScope h hq hadmin, fun _ _ _ _ hq => menteeProfiles_inScope h hq,
      fun hn _ _ _ => scopedList_no_claim h hn _ _ _ _ _ _ _ _, fun hn _ _ _ => ?_⟩
    exact scopedList_no_claim h ((truthyClaim_mentorScopeId token).trans hn) _ _ _ _ _ _ _ _

/-! ## An admin with a customer -/

def adminToken : Token :=
  ⟨some "mike", some [.admin], some "a00000000000000000000001", some "d00000000000000000000002", none⟩

def customerOfAdmin : ObjectId := Reference.idOf 0xd00000000000000000000002

def archivedMembers : Collection :=
  ⟨[Document.ofList (Reference.idOf 7) [("customer_id", .oid customerOfAdmin), ("status", .str archivedStatus)] rfl],
    List.nodup_singleton _⟩

theorem listsSafe_archivedMembers :
    ListsSafe reference archivedMembers { adminToken with roles := some [.coordinator] } none ↔
    (({ adminToken with roles := some [.coordinator] } : Token).has .admin = true → ∀ d ∈ archivedMembers.docs,
      passes reference none d = true →
      (∃ s, adminToken.customerId = some s ∧ d.names "customer_id" s = true) → d.archived = false) :=
  listsSafe_iff reference_documented archivedMembers _ none

/-- **An admin's member list shows an archived profile.** -/
theorem archived_member_exposed : ¬ ListsSafe reference archivedMembers adminToken none := by
  intro hsafe
  have hq : getMemberProfiles reference archivedMembers adminToken 0 20 none none = .ok archivedMembers.docs := rfl
  have hd := (hsafe.members 0 20 none _ hq _ (List.mem_singleton.2 rfl)).1
  exact absurd hd (by decide)

end ProfileService
end Discovery
