import DiscoveryApi.Lib.Assoc
import DiscoveryApi.Card
import DiscoveryApi.Reference
/-!
# CardContract — every projection is a Card

`projectDict` builds the card as the dict the handler returns, one assignment at a time, and is the dict of `project`'s
record.  The link is a route of the card's kind followed by the id, so it names both.
-/
namespace Discovery

/-- The dict a card is: a property without a value is no key of it. -/
def Card.dict (card : Card) : Dict := fun k =>
  if k = "_id" then card.id
  else if k = "name" then card.name
  else if k = "description" then card.description
  else if k = "type" then card.type.map .str
  else if k = "link" then card.link.map .str
  else none

def cardKeys : List String := ["_id", "name", "description", "type", "link"]

namespace Dict

def empty : Dict := fun _ => none

/-- `if v is not None: d[k] = v` -/
def setPresent (d : Dict) (k : String) (v : Option Value) : Dict :=
  match v with
  | some v => d.set k v
  | none => d

theorem setPresent_apply (d : Dict) (k : String) (v : Option Value) (k' : String) :
    d.setPresent k v k' = if k' = k then v.or (d k') else d k' := by
  cases v with
  | none => simp [setPresent]
  | some v => rfl

theorem value_ne_null (d : Dict) (k : String) : d.value k ≠ some .null := by
  unfold value
  split
  · exact Option.some_ne_none _ |>.symm
  · rename_i hne
    exact hne

end Dict

/-- `spec["fields"].items()` -/
def CardFields.items (fields : CardFields) : List (String × List String) :=
  [("name", fields.name), ("description", fields.description)]

namespace CardService

/-- `project`, on the dict it builds. -/
def projectDict (api : ApiUtils) (cardType : String) (document : Option Dict) (token : Option Token) :
    Except HTTPError Dict :=
  match cardTypeSpecs.lookup cardType with
  | none => .error (.badRequest ("Unsupported card type: " ++ cardType))
  | some spec =>
    let source := document.getD Dict.empty
    let card := Dict.empty.setPresent "_id" (source.value "_id")
    let card := spec.fields.items.foldl (fun card p => card.setPresent p.1 (firstPresent source p.2)) card
    let card := card.set "type" (.str spec.type)
    let roles := (token.map Token.roleList).getD []
    let idStr := (source.value "_id").map api.str
    .ok (card.setPresent "link" ((idStr.bind (cardLink cardType roles)).map .str))

theorem projectDict_eq (api : ApiUtils) (cardType : String) (document : Option Dict) (token : Option Token) :
    projectDict api cardType document token = (project api cardType document token).map Card.dict := by
  unfold projectDict project
  cases cardTypeSpecs.lookup cardType with
  | none => rfl
  | some spec =>
    simp only [Except.map, Except.ok.injEq]
    funext k
    have hempty : (fun _ => none : Dict) = Dict.empty := rfl
    simp only [CardFields.items, List.foldl_cons, List.foldl_nil, Dict.setPresent_apply, Dict.set, Card.dict, cardOf,
      hempty, Option.bind_map, Function.comp_def]
    have hnone : ∀ k, Dict.empty k = none := fun _ => rfl
    by_cases hid : k = "_id"
    · subst hid; simp [hnone]
    by_cases hname : k = "name"
    · subst hname; simp [hnone]
    by_cases hdesc : k = "description"
    · subst hdesc; simp [hnone]
    by_cases htype : k = "type"
    · subst htype; simp
    by_cases hlink : k = "link"
    · subst hlink; simp [hnone]
    · simp [hid, hname, hdesc, htype, hlink, hnone]

/-! ## The link -/

/-- The route of a kind of card: what its link has before the id, none for a kind without a link. -/
def linkRoute (mentor : Bool) (kind : String) : Option String :=
  if kind = "Notification" then some "discovery/notification/"
  else if kind = "Member" then some "customer/profile/"
  else if kind = "Mentee" then some "mentor/mentee/"
  else if kind = "Customer" then some "customer/customer/"
  else if kind = "Resource" then some (if mentor then "mentor/resource/" else "mentee/resource/")
  else if kind = "Path" then some (if mentor then "mentor/path/" else "mentee/path/")
  else if kind = "Plan" then some "mentor/plan/"
  else none

def kinds : List String := cardTypeSpecs.map (fun p => p.2.type)

theorem type_mem_kinds {cardType : String} {spec : CardSpec} (h : cardTypeSpecs.lookup cardType = some spec) :
    spec.type ∈ kinds := List.mem_map_of_mem (f := fun p : String × CardSpec => p.2.type) (Assoc.mem_of_lookup h)

/-- **A link is its kind's route and the id.** -/
theorem cardLink_eq {cardType : String} {spec : CardSpec} (h : cardTypeSpecs.lookup cardType = some spec)
    (roles : List Role) (idStr : String) :
    cardLink cardType roles idStr = (linkRoute (roles.contains .mentor) spec.type).map (· ++ idStr) := by
  have hmem := Assoc.mem_of_lookup h
  simp only [cardTypeSpecs, List.mem_cons, Prod.mk.injEq, List.not_mem_nil, or_false] at hmem
  rcases hmem with ⟨rfl, rfl⟩ | ⟨rfl, rfl⟩ | ⟨rfl, rfl⟩ | ⟨rfl, rfl⟩ | ⟨rfl, rfl⟩ | ⟨rfl, rfl⟩ | ⟨rfl, rfl⟩ |
    ⟨rfl, rfl⟩ | ⟨rfl, rfl⟩ | ⟨rfl, rfl⟩ | ⟨rfl, rfl⟩ | ⟨rfl, rfl⟩ <;>
    by_cases hm : Role.mentor ∈ roles <;>
    simp [cardLink, linkRoute, hm, cardTypeCustomer, cardTypeEvent, cardTypeEvents, cardTypeMember, cardTypeMembers,
      cardTypeMentee, cardTypeMentees, cardTypeNotification, cardTypeNotifications, cardTypePaths, cardTypePlans,
      cardTypeResources]

/-- Two kinds never share a route. -/
theorem linkRoute_inj {mentor : Bool} {k l r : String} (hk : k ∈ kinds) (hl : l ∈ kinds)
    (h : linkRoute mentor k = some r) (h' : linkRoute mentor l = some r) : k = l := by
  have hall : ∀ m : Bool, ∀ a ∈ kinds, ∀ b ∈ kinds,
      (linkRoute m a).isSome = true → linkRoute m a = linkRoute m b → a = b := by decide
  exact hall mentor k hk l hl (by rw [h]; rfl) (h.trans h'.symm)

/-- No link starts at the root. -/
theorem linkRoute_head {mentor : Bool} {k r : String} (hk : k ∈ kinds) (h : linkRoute mentor k = some r)
    (idStr : String) : (r ++ idStr).toList.head? ≠ some '/' := by
  have hall : ∀ m : Bool, ∀ a ∈ kinds, (linkRoute m a).all (fun r => r.toList.head?.any (fun c => decide (c ≠ '/'))) =
      true := by decide
  have hr := hall mentor k hk
  rw [h, Option.all_some] at hr
  rw [String.toList_append]
  cases hl : r.toList with
  | nil => rw [hl] at hr; cases hr
  | cons c cs =>
    rw [hl] at hr
    simpa using hr

/-! ## The contract -/

/-- The `_id`, where there is one, is an ObjectId. -/
def IdWf (source : Dict) : Prop := ∀ v, source.value "_id" = some v → ∃ o, v = .oid o

/-- The Card schema and the tables: what a card has of its source and of its type. -/
structure Conforms (cardType : String) (spec : CardSpec) (source card : Dict) : Prop where
  keys : ∀ k v, card k = some v → k ∈ cardKeys ∧ v ≠ .null
  id : card "_id" = source.value "_id"
  type : card "type" = some (.str spec.type)
  name : ∃ field, spec.fields.name = [field] ∧ card "name" = source.value field
  description : ∃ field, spec.fields.description = [field] ∧ card "description" = source.value field
  link : card "link" ≠ none ↔ card "_id" ≠ none ∧ cardType ≠ cardTypeEvent ∧ cardType ≠ cardTypeEvents
  link_text : ∀ v, card "link" = some v → ∃ o text, source.value "_id" = some (.oid o) ∧ v = .str text ∧
    text.toList.head? ≠ some '/' ∧ o.hex.toList <:+ text.toList

def rolesOf (token : Option Token) : List Role := (token.map Token.roleList).getD []

def isMentor (token : Option Token) : Bool := (rolesOf token).contains .mentor

def rolePrefix (token : Option Token) : String := if isMentor token then "mentor" else "mentee"

theorem projectDict_known (api : ApiUtils) {cardType : String} {spec : CardSpec}
    (h : cardTypeSpecs.lookup cardType = some spec) (source : Dict) (token : Option Token) :
    projectDict api cardType (some source) token = .ok (cardOf api cardType spec source (rolesOf token)).dict := by
  rw [projectDict_eq, project, h]
  rfl

theorem fields_single {cardType : String} {spec : CardSpec} (h : cardTypeSpecs.lookup cardType = some spec) :
    (∃ field, spec.fields.name = [field]) ∧ ∃ field, spec.fields.description = [field] := by
  have hall : ∀ p ∈ cardTypeSpecs, p.2.fields.name.length = 1 ∧ p.2.fields.description.length = 1 := by decide
  obtain ⟨hn, hd⟩ := hall _ (Assoc.mem_of_lookup h)
  exact ⟨List.length_eq_one_iff.1 hn, List.length_eq_one_iff.1 hd⟩

theorem firstPresent_single (source : Dict) (field : String) : firstPresent source [field] = source.value field := by
  unfold firstPresent
  rw [List.findSome?_cons, List.findSome?_nil]
  cases source.value field <;> rfl

theorem link_cardOf (api : ApiUtils) {cardType : String} {spec : CardSpec}
    (h : cardTypeSpecs.lookup cardType = some spec) (source : Dict) (token : Option Token) :
    (cardOf api cardType spec source (rolesOf token)).dict "link" =
      ((source.value "_id").bind (fun docId =>
        (linkRoute (isMentor token) spec.type).map (· ++ api.str docId))).map .str := by
  have hlink : ∀ s, cardLink cardType (rolesOf token) s = (linkRoute (isMentor token) spec.type).map (· ++ s) :=
    cardLink_eq h (rolesOf token)
  rw [show (cardOf api cardType spec source (rolesOf token)).dict "link" =
    ((source.value "_id").bind (fun docId => cardLink cardType (rolesOf token) (api.str docId))).map .str from rfl]
  simp only [hlink]

theorem linkRoute_isSome_iff {cardType : String} {spec : CardSpec} (h : cardTypeSpecs.lookup cardType = some spec)
    (mentor : Bool) :
    (linkRoute mentor spec.type).isSome = true ↔ cardType ≠ cardTypeEvent ∧ cardType ≠ cardTypeEvents := by
  have hall : ∀ m : Bool, ∀ p ∈ cardTypeSpecs,
      (linkRoute m p.2.type).isSome = true ↔ p.1 ≠ cardTypeEvent ∧ p.1 ≠ cardTypeEvents := by decide
  exact hall mentor _ (Assoc.mem_of_lookup h)

theorem dict_keys {card : Card} {k : String} {v : Value} (h : card.dict k = some v) : k ∈ cardKeys := by
  unfold Card.dict at h
  split at h
  · rename_i hk; subst hk; decide
  split at h
  · rename_i hk; subst hk; decide
  split at h
  · rename_i hk; subst hk; decide
  split at h
  · rename_i hk; subst hk; decide
  split at h
  · rename_i hk; subst hk; decide
  · cases h

theorem dict_ne_null {api : ApiUtils} {cardType : String} {spec : CardSpec} {source : Dict} {roles : List Role}
    (h : cardTypeSpecs.lookup cardType = some spec) {k : String} :
    (cardOf api cardType spec source roles).dict k ≠ some .null := by
  obtain ⟨⟨n, hn⟩, d, hd⟩ := fields_single h
  have hstr : ∀ o : Option String, o.map Value.str ≠ some .null := fun o => by cases o <;> simp
  unfold Card.dict cardOf
  simp only [hn, hd, firstPresent_single]
  split
  · exact source.value_ne_null _
  split
  · exact source.value_ne_null _
  split
  · exact source.value_ne_null _
  split
  · exact hstr _
  split
  · exact hstr _
  · exact Option.some_ne_none _ |>.symm

section
variable {api : ApiUtils} (h : api.Documented)
include h

theorem link_of_id {cardType : String} {spec : CardSpec} (hspec : cardTypeSpecs.lookup cardType = some spec)
    {source : Dict} {o : ObjectId} (ho : source.value "_id" = some (.oid o)) (token : Option Token) :
    (cardOf api cardType spec source (rolesOf token)).dict "link" =
      (linkRoute (isMentor token) spec.type).map (fun route => .str (route ++ o.hex)) := by
  rw [link_cardOf api hspec, ho, Option.bind_some, h.str_oid, Option.map_map]
  rfl

theorem cardOf_conforms {cardType : String} {spec : CardSpec} (hspec : cardTypeSpecs.lookup cardType = some spec)
    {source : Dict} (hid : IdWf source) (token : Option Token) :
    Conforms cardType spec source (cardOf api cardType spec source (rolesOf token)).dict := by
  obtain ⟨⟨n, hn⟩, d, hd⟩ := fields_single hspec
  refine ⟨fun k v hv => ⟨dict_keys hv, ?_⟩, rfl, rfl, ⟨n, hn, ?_⟩, ⟨d, hd, ?_⟩, ?_, ?_⟩
  · rintro rfl
    exact dict_ne_null hspec hv
  · exact (congrArg (firstPresent source) hn).trans (firstPresent_single source n)
  · exact (congrArg (firstPresent source) hd).trans (firstPresent_single source d)
  · have hcard : (cardOf api cardType spec source (rolesOf token)).dict "_id" = source.value "_id" := rfl
    rw [hcard, ← linkRoute_isSome_iff hspec (isMentor token)]
    cases hv : source.value "_id" with
    | none => simp [link_cardOf api hspec, hv]
    | some v =>
      obtain ⟨o, rfl⟩ := hid v hv
      rw [link_of_id h hspec hv]
      cases linkRoute (isMentor token) spec.type <;> simp
  · intro v hv
    cases hs : source.value "_id" with
    | none => rw [link_cardOf api hspec, hs] at hv; cases hv
    | some w =>
      obtain ⟨o, rfl⟩ := hid w hs
      rw [link_of_id h hspec hs] at hv
      obtain ⟨route, hroute, rfl⟩ := Option.map_eq_some_iff.1 hv
      refine ⟨o, route ++ o.hex, rfl, rfl, linkRoute_head (type_mem_kinds hspec) hroute o.hex, ?_⟩
      rw [String.toList_append]
      exact List.suffix_append _ _

/-- **A link names its kind and its id**: two cards of one caller with the same link are of one kind and one id. -/
theorem link_inj {cardType cardType' : String} {spec spec' : CardSpec}
    (hspec : cardTypeSpecs.lookup cardType = some spec) (hspec' : cardTypeSpecs.lookup cardType' = some spec')
    {source source' : Dict} (hid : IdWf source) (hid' : IdWf source') (token : Option Token)
    (hne : (cardOf api cardType spec source (rolesOf token)).dict "link" ≠ none)
    (heq : (cardOf api cardType' spec' source' (rolesOf token)).dict "link" =
      (cardOf api cardType spec source (rolesOf token)).dict "link") :
    spec'.type = spec.type ∧ source'.value "_id" = source.value "_id" := by
  cases hs : source.value "_id" with
  | none => exact absurd (by rw [link_cardOf api hspec, hs]; rfl) hne
  | some v =>
    obtain ⟨o, rfl⟩ := hid v hs
    cases hs' : source'.value "_id" with
    | none => exact absurd (heq.symm.trans (by rw [link_cardOf api hspec', hs']; rfl)) hne
    | some v' =>
      obtain ⟨o', rfl⟩ := hid' v' hs'
      rw [link_of_id h hspec hs] at hne heq
      rw [link_of_id h hspec' hs'] at heq
      cases hr : linkRoute (isMentor token) spec.type with
      | none => exact absurd (by rw [hr]; rfl) hne
      | some r =>
        rw [hr, Option.map_some] at heq
        obtain ⟨r', hr', htext⟩ := Option.map_eq_some_iff.1 heq
        obtain ⟨hroute, hhex⟩ := ObjectId.append_hex_inj (Value.str.inj htext)
        rw [hroute] at hr'
        rw [hhex]
        exact ⟨linkRoute_inj (type_mem_kinds hspec') (type_mem_kinds hspec) hr' hr, rfl⟩

end

/-- What another token may change: the prefix of a resource's or a path's link, by its mentor role alone. -/
structure TokenChanges (spec : CardSpec) (source : Dict) (token token' : Option Token) (card card' : Dict) : Prop where
  other_keys : ∀ k, k ≠ "link" → card' k = card k
  same_role : isMentor token' = isMentor token → card' = card
  other_kinds : spec.type ≠ "Resource" → spec.type ≠ "Path" → card' = card
  link : spec.type = "Resource" ∨ spec.type = "Path" → source.value "_id" ≠ none →
    ∃ tail, card "link" = some (.str (rolePrefix token ++ tail)) ∧
      card' "link" = some (.str (rolePrefix token' ++ tail))

theorem linkRoute_other {k : String} (hr : k ≠ "Resource") (hp : k ≠ "Path") (m m' : Bool) :
    linkRoute m k = linkRoute m' k := by
  unfold linkRoute
  simp only [if_neg hr, if_neg hp]

theorem linkRoute_role {k : String} (h : k = "Resource" ∨ k = "Path") :
    ∃ tail, ∀ m, linkRoute m k = some ((if m then "mentor" else "mentee") ++ tail) := by
  rcases h with rfl | rfl
  · exact ⟨"/resource/", by decide⟩
  · exact ⟨"/path/", by decide⟩

theorem dict_roles (api : ApiUtils) (cardType : String) (spec : CardSpec) (source : Dict) (roles roles' : List Role)
    {k : String} (hk : k ≠ "link") :
    (cardOf api cardType spec source roles').dict k = (cardOf api cardType spec source roles).dict k := by
  unfold Card.dict cardOf
  simp only [if_neg hk]

theorem cardOf_token (api : ApiUtils) {cardType : String} {spec : CardSpec}
    (hspec : cardTypeSpecs.lookup cardType = some spec) (source : Dict) (token token' : Option Token) :
    TokenChanges spec source token token' (cardOf api cardType spec source (rolesOf token)).dict
      (cardOf api cardType spec source (rolesOf token')).dict := by
  have hother : ∀ k, k ≠ "link" → (cardOf api cardType spec source (rolesOf token')).dict k =
      (cardOf api cardType spec source (rolesOf token)).dict k :=
    fun k hk => dict_roles api cardType spec source (rolesOf token) (rolesOf token') hk
  have hsame : linkRoute (isMentor token') spec.type = linkRoute (isMentor token) spec.type →
      (cardOf api cardType spec source (rolesOf token')).dict = (cardOf api cardType spec source (rolesOf token)).dict := by
    intro hroute
    funext k
    by_cases hk : k = "link"
    · rw [hk, link_cardOf api hspec, link_cardOf api hspec, hroute]
    · exact hother k hk
  refine ⟨hother, fun hm => hsame (by rw [hm]), fun hr hp => hsame (linkRoute_other hr hp _ _), fun hkind hid => ?_⟩
  obtain ⟨tail, htail⟩ := linkRoute_role hkind
  obtain ⟨docId, hdoc⟩ := Option.ne_none_iff_exists'.1 hid
  refine ⟨tail ++ api.str docId, ?_, ?_⟩
  · rw [link_cardOf api hspec, hdoc, htail, Option.bind_some, Option.map_some, Option.map_some, String.append_assoc]
    rfl
  · rw [link_cardOf api hspec, hdoc, htail, Option.bind_some, Option.map_some, Option.map_some, String.append_assoc]
    rfl

/-- **The Card contract of `project`**, for every kind, source and token: the card has the Card schema's shape and its
source's values, its link tells it from every card of another kind or id, and a token reaches no more of it than the
prefix of a role-dependent link. -/
theorem project_contract {api : ApiUtils} (h : api.Documented) {cardType : String} {spec : CardSpec}
    (hspec : cardTypeSpecs.lookup cardType = some spec) {source : Dict} (hid : IdWf source) (token : Option Token) :
    ∃ card, projectDict api cardType (some source) token = .ok card ∧
      Conforms cardType spec source card ∧
      (∀ cardType' spec' source' card', cardTypeSpecs.lookup cardType' = some spec' → IdWf source' →
        projectDict api cardType' (some source') token = .ok card' → card "link" ≠ none →
        card' "link" = card "link" → spec'.type = spec.type ∧ source'.value "_id" = source.value "_id") ∧
      ∀ token', ∃ card', projectDict api cardType (some source) token' = .ok card' ∧
        TokenChanges spec source token token' card card' := by
  refine ⟨_, projectDict_known api hspec source token, cardOf_conforms h hspec hid token, ?_, ?_⟩
  · intro cardType' spec' source' card' hspec' hid' hcard' hne heq
    rw [projectDict_known api hspec'] at hcard'
    cases hcard'
    exact link_inj h hspec hspec' hid hid' token hne heq
  · exact fun token' => ⟨_, projectDict_known api hspec source token', cardOf_token api hspec source token token'⟩

/-- A stored resource: a null description, and a `type`, a `link` and a `url` of its own. -/
def resourceSource : Dict := fun k =>
  [("_id", .oid (Reference.idOf 3)), ("name", .str "Lean"), ("description", .null), ("type", .str "video"),
    ("link", .str "/elsewhere"), ("url", .str "lean")].lookup k

theorem resourceSource_contract :
    ∃ card, projectDict reference cardTypeResources (some resourceSource) none = .ok card ∧
      Conforms cardTypeResources ⟨"Resource", namedFields⟩ resourceSource card := by
  have hid : IdWf resourceSource := fun v hv => ⟨Reference.idOf 3, (Option.some.inj hv).symm⟩
  have hspec : cardTypeSpecs.lookup cardTypeResources = some ⟨"Resource", namedFields⟩ := rfl
  obtain ⟨card, hcard, hconforms, -, -⟩ := project_contract reference_documented hspec hid none
  exact ⟨card, hcard, hconforms⟩

end CardService
end Discovery
