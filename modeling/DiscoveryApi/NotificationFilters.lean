import DiscoveryApi.NotificationCards
/-!
# NotificationFilters — what an admin's filters select

The route restores every parameter the parser skipped with its raw value, and the service drops only the values that
equal `None`, `""` or `[]`.  A parameter of blanks or commas is none of these and reaches the match; every other
query selects what its visible text asks for.
-/
namespace Discovery

/-- A filter value as `parse_filter_params` makes them. -/
def Value.isText : Value → Bool
  | .str _ => true
  | .list xs => xs.all (fun x => match x with | .str _ => true | _ => false)
  | _ => false

open NotificationCardService (notificationCardListFilters) in
/-- **What the filters rely on** of `parse_filter_params`, `build_match_filter` and `encode_document`. -/
structure ListUtils.DocumentedFilters (lists : ListUtils) (api : ApiUtils) : Prop extends lists.Documented where
  -- parse_filter_params: a `contains` text that shows something is a filter, a blank one is skipped or kept as sent
  parse_contains : ∀ {request spec order parsed key field raw},
    lists.parseListRequest request spec order = .ok parsed → spec.lookup key = some (.contains, field) →
    request.get key = some raw → Python.visible raw.toList = true →
      parsed.filters.lookup key = some (.str (lists.containsText raw))
  parse_blank : ∀ {request spec order parsed key field raw},
    lists.parseListRequest request spec order = .ok parsed → spec.lookup key = some (.contains, field) →
    request.get key = some raw → Python.visible raw.toList = false →
      parsed.filters.lookup key = none ∨ parsed.filters.lookup key = some (.str raw)
  visible_containsText : ∀ {raw}, Python.visible raw.toList = true → Python.visible (lists.containsText raw).toList = true
  -- an `in_list` value is split on commas, its items trimmed, the empty ones dropped, and the key with the last of them
  parse_inList : ∀ {request spec order parsed key field raw},
    lists.parseListRequest request spec order = .ok parsed → spec.lookup key = some (.inList, field) →
    request.get key = some raw →
      parsed.filters.lookup key = if Python.items ',' raw.toList = [] then none
        else some (.list ((Python.items ',' raw.toList).map (fun item => .str (String.ofList item))))
  -- build_match_filter: one clause a filter, and all of them hold
  build_all : ∀ {fs spec}, (Assoc.keys fs).Nodup → (spec.map (fun p => p.2.2)).Nodup → ∀ d,
    api.sat (api.buildMatchFilter [] fs spec) d = fs.all (fun p => api.sat (api.buildMatchFilter [] [p] spec) d)
  build_contains : ∀ {spec key field}, spec.lookup key = some (.contains, field) → ApiUtils.fieldName field = true →
    ∀ text d, api.sat (api.buildMatchFilter [] [(key, .str text)] spec) d = lists.contains text (d.dict field)
  build_inList : ∀ {spec key field d}, spec.lookup key = some (.inList, field) → ApiUtils.fieldName field = true →
    (∀ xs, d.dict field ≠ some (.list xs)) → ∀ items : List String,
      api.sat (api.buildMatchFilter [] [(key, .list (items.map .str))] spec) d =
        items.any (fun item => decide (d.dict field = some (.str item)))
  -- encode_document: `name` and `status` are no ids and no dates
  encode_filters : ∀ {fs : Match}, fs.all (fun p => p.2.isText) = true →
    api.encodeDocument (api.buildMatchFilter [] fs notificationCardListFilters)
      api.notificationIdProperties api.notificationDateProperties =
        .ok (api.buildMatchFilter [] fs notificationCardListFilters)

namespace CardRoutes
open NotificationCardService

/-! ## What the parameters ask for -/

/-- The text of the `name` parameter, when it shows something. -/
def nameText (lists : ListUtils) (request : Request) : Option String :=
  ((request.get "name").filter (fun raw => Python.visible raw.toList)).map lists.containsText

/-- The items of the `status` parameter. -/
def statusItems (request : Request) : List String :=
  match request.get "status" with
  | none => []
  | some raw => (Python.items ',' raw.toList).map String.ofList

/-- `name contains` when the name shows something, and `status in list` when the list has an item. -/
def listed (lists : ListUtils) (request : Request) (d : Document) : Bool :=
  (nameText lists request).all (fun text => lists.contains text (d.dict "name")) &&
    ((statusItems request).isEmpty || (statusItems request).any (fun item => decide (d.dict "status" = some (.str item))))

/-- A filter fit for a match. -/
def FilterWf (p : String × Value) : Prop :=
  (p.1 = "name" ∧ ∃ text, p.2 = .str text ∧ Python.visible text.toList = true) ∨
  (p.1 = "status" ∧ ∃ items : List String, items ≠ [] ∧ p.2 = .list (items.map .str) ∧
    ∀ item ∈ items, Python.visible item.toList = true)

/-- A parameter without content is the empty string. -/
structure BlankIsEmpty (request : Request) : Prop where
  name : ∀ raw, request.get "name" = some raw → Python.visible raw.toList = false → raw = ""
  status : ∀ raw, request.get "status" = some raw → Python.items ',' raw.toList = [] → raw = ""

/-- Every filter that reaches `build_match_filter` is fit for a match, and the page is that of the documents asked
for. -/
structure FiltersRight (api : ApiUtils) (lists : ListUtils) (token : Token) (request : Request) (parsed : ParsedList) :
    Prop where
  wellFormed : ∀ c filters, .buildMatchFilter filters ∈ (getNotificationCards api lists c token request).calls →
    ∀ p ∈ filters, FilterWf p
  page : ∀ c, (getNotificationCards api lists c token request).result =
    .ok (cards api token (api.pageOf api.notificationSort (listed lists request) c parsed.offset parsed.size))

/-! ## The filters that reach the match -/

def reaching (request : Request) (parsed : ParsedList) : Match :=
  applicableCardFilters (some (restoredFilters request parsed.filters))

theorem nodup_reaching (request : Request) (parsed : ParsedList) : (Assoc.keys (reaching request parsed)).Nodup :=
  Assoc.nodup_filter (nodup_restored request parsed.keys_nodup) _

theorem key_of_mem_reaching {request : Request} {parsed : ParsedList} {p : String × Value}
    (h : p ∈ reaching request parsed) : p.1 = "name" ∨ p.1 = "status" := by
  have hc := (List.mem_filter.1 h).2
  rw [Bool.and_eq_true, List.contains_iff_mem] at hc
  simpa [Assoc.keys, notificationCardListFilters] using hc.1

theorem lookup_reaching (request : Request) (parsed : ParsedList) {key : String}
    (hk : key ∈ Assoc.keys notificationCardListFilters) :
    (reaching request parsed).lookup key =
      ((parsed.filters.lookup key).or ((request.get key).map .str)).filter
        (fun v => !([.null, .str "", .list []] : List Value).contains v) := by
  unfold reaching applicableCardFilters
  rw [Option.getD_some, Assoc.lookup_filter (nodup_restored request parsed.keys_nodup), lookup_restored request _ hk]
  simp only [List.contains_iff_mem.2 hk, Bool.true_and]

theorem mem_reaching {request : Request} {parsed : ParsedList} {key : String} {v : Value}
    (hk : key ∈ Assoc.keys notificationCardListFilters)
    (hv : (parsed.filters.lookup key).or ((request.get key).map .str) = some v)
    (hc : ([.null, .str "", .list []] : List Value).contains v = false) : (key, v) ∈ reaching request parsed := by
  apply Assoc.mem_of_lookup
  rw [lookup_reaching request parsed hk, hv]
  exact Option.filter_some_pos (by rw [hc]; rfl)

theorem text_kept {text : String} (h : Python.visible text.toList = true) :
    ([.null, .str "", .list []] : List Value).contains (.str text) = false := by
  have hne : text ≠ "" := by
    rintro rfl
    cases h
  simpa using hne

theorem statusItems_none {request : Request} (hr : request.get "status" = none) : statusItems request = [] := by
  rw [statusItems, hr]

theorem statusItems_some {request : Request} {raw : String} (hr : request.get "status" = some raw) :
    statusItems request = (Python.items ',' raw.toList).map String.ofList := by
  rw [statusItems, hr]

theorem visible_of_mem_statusItems {request : Request} {item : String} (h : item ∈ statusItems request) :
    Python.visible item.toList = true := by
  unfold statusItems at h
  split at h
  · cases h
  · obtain ⟨part, hpart, rfl⟩ := List.mem_map.1 h
    rw [String.toList_ofList]
    exact Python.visible_of_mem_items hpart

section
variable {lists : ListUtils} {api : ApiUtils} (hl : lists.DocumentedFilters api) {request : Request} {order : OrderSpec}
  {parsed : ParsedList} (hp : lists.parseListRequest request notificationCardListFilters order = .ok parsed)
include hl hp

theorem restored_blank_name {raw : String} (hr : request.get "name" = some raw)
    (hv : Python.visible raw.toList = false) :
    (parsed.filters.lookup "name").or (some (.str raw)) = some (.str raw) := by
  rcases hl.parse_blank hp rfl hr hv with hl | hl <;> rw [hl] <;> rfl

theorem restored_empty_status {raw : String} (hr : request.get "status" = some raw)
    (hi : Python.items ',' raw.toList = []) :
    (parsed.filters.lookup "status").or (some (.str raw)) = some (.str raw) := by
  rw [hl.parse_inList hp rfl hr, if_pos hi]
  rfl

theorem lookup_name (hb : BlankIsEmpty request) :
    (reaching request parsed).lookup "name" = (nameText lists request).map .str := by
  rw [lookup_reaching request parsed (by decide), nameText]
  cases hr : request.get "name" with
  | none =>
    rw [hl.lookup_absent hp hr]
    rfl
  | some raw =>
    cases hv : Python.visible raw.toList with
    | true =>
      have hshown : (some raw).filter (fun raw => Python.visible raw.toList) = some raw := Option.filter_some_pos hv
      rw [hl.parse_contains hp rfl hr hv, hshown]
      exact Option.filter_some_pos (by rw [text_kept (hl.visible_containsText hv)]; rfl)
    | false =>
      have hhidden : (some raw).filter (fun raw => Python.visible raw.toList) = none :=
        Option.filter_some_neg (by simp [hv])
      rw [Option.map_some, restored_blank_name hl hp hr hv, hhidden, hb.name raw hr hv]
      rfl

theorem lookup_status (hb : BlankIsEmpty request) :
    (reaching request parsed).lookup "status" =
      if statusItems request = [] then none else some (.list ((statusItems request).map .str)) := by
  rw [lookup_reaching request parsed (by decide)]
  cases hr : request.get "status" with
  | none =>
    rw [hl.lookup_absent hp hr, if_pos (statusItems_none hr)]
    rfl
  | some raw =>
    have hitems := statusItems_some hr
    by_cases hi : Python.items ',' raw.toList = []
    · rw [hi, List.map_nil] at hitems
      rw [if_pos hitems, Option.map_some, restored_empty_status hl hp hr hi, hb.status raw hr hi]
      rfl
    · have hne : statusItems request ≠ [] := fun hn => hi (List.map_eq_nil_iff.1 (hitems.symm.trans hn))
      rw [if_neg hne, hitems, hl.parse_inList hp rfl hr, if_neg hi, List.map_map]
      exact Option.filter_some_pos (by simpa using hi)

theorem reaching_wf (hb : BlankIsEmpty request) {p : String × Value} (h : p ∈ reaching request parsed) : FilterWf p := by
  obtain ⟨key, v⟩ := p
  have hlookup := Assoc.lookup_of_mem (nodup_reaching request parsed) h
  rcases key_of_mem_reaching h with rfl | rfl
  · rw [lookup_name hl hp hb, Option.map_eq_some_iff] at hlookup
    obtain ⟨text, htext, rfl⟩ := hlookup
    obtain ⟨raw, hraw, rfl⟩ := Option.map_eq_some_iff.1 htext
    exact Or.inl ⟨rfl, _, rfl, hl.visible_containsText (Option.filter_eq_some_iff.1 hraw).2⟩
  · rw [lookup_status hl hp hb] at hlookup
    split at hlookup
    · cases hlookup
    · rename_i hne
      exact Or.inr ⟨rfl, statusItems request, hne, (Option.some.inj hlookup).symm,
        fun item hitem => visible_of_mem_statusItems hitem⟩

end

/-! ## The page -/

section
variable {api : ApiUtils} (h : api.Documented) {lists : ListUtils} (hl : lists.DocumentedFilters api) {token : Token}
  (ht : token.has .admin = true) {request : Request} {parsed : ParsedList}
  (hp : lists.parseListRequest request notificationCardListFilters lists.notificationListOrder = .ok parsed)
include h hl hp

omit h in
theorem all_reaching (hb : BlankIsEmpty request) (d : Document) :
    (reaching request parsed).all (fun p => api.sat (api.buildMatchFilter [] [p] notificationCardListFilters) d) =
      listed lists request d := by
  have hkeys : ∀ key ∈ Assoc.keys (reaching request parsed), key ∈ ["name", "status"] := fun key hk => by
    obtain ⟨p, hp, rfl⟩ := List.mem_map.1 hk
    simpa using key_of_mem_reaching hp
  rw [Assoc.all_eq (nodup_reaching request parsed) hkeys, List.all_cons, List.all_cons, List.all_nil, Bool.and_true,
    lookup_name hl hp hb, lookup_status hl hp hb, listed]
  congr 1
  · rw [Option.all_map]
    exact congrArg (fun f => (nameText lists request).all f) (funext fun text => hl.build_contains rfl (by decide) text d)
  · cases hs : statusItems request with
    | nil => rfl
    | cons item items =>
      rw [if_neg (List.cons_ne_nil item items), Option.all_some, hl.build_inList rfl (by decide) d.status_ne_list]
      rfl

omit hl in
include ht in
theorem getNotificationCards_admin (c : Collection) :
    getNotificationCards api lists c token request =
      if (reaching request parsed).isEmpty then listCards api c token parsed.offset parsed.size [] []
      else listCards api c token parsed.offset parsed.size
        (api.buildMatchFilter [] (reaching request parsed) notificationCardListFilters)
        [.buildMatchFilter (reaching request parsed)] := by
  have hadmin : api.isAdmin token = true := (h.isAdmin_eq token).trans ht
  rw [getNotificationCards, hp]
  dsimp only
  rw [getNotifications, hadmin, Bool.not_true, Bool.and_false, if_neg Bool.false_ne_true]
  dsimp only
  rw [if_pos rfl, Option.getD_none, h.and_disjoint (fun p hp => absurd hp List.not_mem_nil)]
  rfl

omit hl in
include ht in
/-- The filters `build_match_filter` is called with: those reaching the match, unless none does. -/
theorem mem_calls_iff (c : Collection) (filters : Match) :
    .buildMatchFilter filters ∈ (getNotificationCards api lists c token request).calls ↔
      filters = reaching request parsed ∧ reaching request parsed ≠ [] := by
  rw [getNotificationCards_admin h ht hp]
  cases hr : reaching request parsed with
  | nil => simp [listCards]
  | cons p ps => simp [listCards]

omit hl hp in
include ht in
theorem sees_admin (d : Document) : NotificationService.sees api token d = true := by
  rw [NotificationService.sees, h.notificationOutbound_admin ht, h.sat_nil]

omit h in
theorem text_reaching (hb : BlankIsEmpty request) : (reaching request parsed).all (fun p => p.2.isText) = true := by
  refine List.all_eq_true.2 (fun p hmem => ?_)
  rcases reaching_wf hl hp hb hmem with ⟨-, text, hv, -⟩ | ⟨-, items, -, hv, -⟩
  · rw [hv]
    rfl
  · rw [hv, Value.isText, List.all_map]
    exact List.all_eq_true.2 (fun item _ => rfl)

include ht

theorem page_right (hb : BlankIsEmpty request) (c : Collection) :
    (getNotificationCards api lists c token request).result =
      .ok (cards api token (api.pageOf api.notificationSort (listed lists request) c parsed.offset parsed.size)) := by
  obtain ⟨ho, h1, hn⟩ := hl.page hp
  have hall : ∀ d, (reaching request parsed).all (fun p =>
      api.sat (api.buildMatchFilter [] [p] notificationCardListFilters) d) = listed lists request d :=
    all_reaching hl hp hb
  rw [getNotificationCards_admin h ht hp]
  split
  · rename_i hempty
    rw [List.isEmpty_iff] at hempty
    rw [listCards_unfiltered h ho h1 hn]
    have hsees : NotificationService.sees api token = listed lists request := funext fun d => by
      rw [sees_admin h ht, ← hall d, hempty]
      rfl
    rw [hsees]
  · rw [listCards_eq h ho h1 hn (hl.encode_filters (text_reaching hl hp hb))]
    have hsat : (fun d => NotificationService.sees api token d &&
        api.sat (api.buildMatchFilter [] (reaching request parsed) notificationCardListFilters) d) =
          listed lists request := funext fun d => by
      rw [sees_admin h ht, Bool.true_and, hl.build_all (nodup_reaching request parsed) (by decide), hall]
    rw [hsat]

omit hl in
/-- A filter that reaches the match is fit for it, if the filters are right. -/
theorem FiltersRight.wf_of_mem (hr : FiltersRight api lists token request parsed) {p : String × Value}
    (hmem : p ∈ reaching request parsed) : FilterWf p :=
  hr.wellFormed Collection.empty _ ((mem_calls_iff h ht hp Collection.empty _).2 ⟨rfl, List.ne_nil_of_mem hmem⟩) p hmem

/-- **When the admin filters are right**, for every admin token and every query: a parameter without visible content
must be empty, for one of blanks, or a status of commas, reaches the match as it was sent. -/
theorem filters_right_iff : FiltersRight api lists token request parsed ↔ BlankIsEmpty request := by
  constructor
  · intro hr
    refine ⟨fun raw hraw hv => ?_, fun raw hraw hi => ?_⟩
    · by_contra hne
      have hmem : ("name", .str raw) ∈ reaching request parsed :=
        mem_reaching (by decide) (by rw [hraw]; exact restored_blank_name hl hp hraw hv) (by simpa using hne)
      rcases hr.wf_of_mem h ht hp hmem with ⟨-, text, htext, hvis⟩ | ⟨hkey, -⟩
      · rw [← Value.str.inj htext, hv] at hvis
        cases hvis
      · exact absurd hkey (show "name" ≠ "status" by decide)
    · by_contra hne
      have hmem : ("status", .str raw) ∈ reaching request parsed :=
        mem_reaching (by decide) (by rw [hraw]; exact restored_empty_status hl hp hraw hi) (by simpa using hne)
      rcases hr.wf_of_mem h ht hp hmem with ⟨hkey, -⟩ | ⟨-, items, -, hlist, -⟩
      · exact absurd hkey (show "status" ≠ "name" by decide)
      · cases hlist
  · intro hb
    refine ⟨fun c filters hf p hmem => ?_, page_right h hl ht hp hb⟩
    rw [((mem_calls_iff h ht hp c filters).1 hf).1] at hmem
    exact reaching_wf hl hp hb hmem

end

end CardRoutes

/-! ## On concrete requests -/

namespace Reference

theorem lookup_parsed {request : Request} {spec : FilterSpec} {order : OrderSpec} {parsed : ParsedList} {key : String}
    {kind : FilterKind} {field raw : String} (h : parseListRequest request spec order = .ok parsed)
    (hs : spec.lookup key = some (kind, field)) (hr : request.get key = some raw) :
    parsed.filters.lookup key = parseFilter raw kind := by
  obtain ⟨-, hfilters, hn⟩ := parseListRequest_ok h
  rw [hfilters, parseFilters, Assoc.lookup_filterMap _ key hn, hs, Option.bind_some, hr, Option.bind_some]

theorem sat_filterClauses (spec : FilterSpec) (d : Document) : ∀ fs : Match,
    sat (filterClauses fs spec) d = fs.all (fun p => sat (filterClauses [p] spec) d)
  | [] => rfl
  | p :: fs => by
    have hsplit : filterClauses (p :: fs) spec = filterClauses [p] spec ++ filterClauses fs spec :=
      List.filterMap_append (l := [p])
    rw [hsplit, sat_append, sat_filterClauses spec d fs, List.all_cons]

theorem filterClauses_contains {spec : FilterSpec} {key field : String} (h : spec.lookup key = some (.contains, field))
    (v : Value) : filterClauses [(key, v)] spec = [(field, .doc [("$regex", v), ("$options", .str "i")])] := by
  simp [filterClauses, h]

theorem filterClauses_inList {spec : FilterSpec} {key field : String} (h : spec.lookup key = some (.inList, field))
    (v : Value) : filterClauses [(key, v)] spec = [(field, .doc [("$in", v)])] := by
  simp [filterClauses, h]

theorem encodeValue_text {v : Value} (h : v.isText = true) : encodeValue notificationIds v = .ok v := by
  cases v <;> first | rfl | cases h

theorem encode_filterClauses {fs : Match} (h : fs.all (fun p => p.2.isText) = true) :
    encodeFields notificationIds (filterClauses fs NotificationCardService.notificationCardListFilters) =
      .ok (filterClauses fs NotificationCardService.notificationCardListFilters) := by
  refine encodeFields_flat notificationIds (fun p hp => ?_)
  obtain ⟨q, hq, hp⟩ := List.mem_filterMap.1 hp
  obtain ⟨⟨kind, field⟩, hs, rfl⟩ := Option.map_eq_some_iff.1 hp
  have hv := encodeValue_text (List.all_eq_true.1 h q hq)
  have hmem := Assoc.mem_of_lookup hs
  simp only [NotificationCardService.notificationCardListFilters, List.mem_cons, Prod.mk.injEq, List.not_mem_nil,
    or_false] at hmem
  rcases hmem with ⟨-, rfl, rfl⟩ | ⟨-, rfl, rfl⟩
  · refine ⟨show "name" ∉ notificationIds by decide, ?_⟩
    refine encodeValue_flat notificationIds (fun p hp => ?_)
    simp only [List.mem_cons, List.not_mem_nil, or_false] at hp
    rcases hp with rfl | rfl
    · exact ⟨show "$regex" ∉ notificationIds by decide, hv⟩
    · exact ⟨show "$options" ∉ notificationIds by decide, rfl⟩
  · refine ⟨show "status" ∉ notificationIds by decide, ?_⟩
    refine encodeValue_flat notificationIds (fun p hp => ?_)
    rw [List.mem_singleton.1 hp]
    exact ⟨show "$in" ∉ notificationIds by decide, hv⟩

end Reference

open Reference in
theorem referenceLists_documentedFilters : referenceLists.DocumentedFilters reference where
  toDocumented := referenceLists_documented
  parse_contains hp hs hr hv := by
    rw [lookup_parsed hp hs hr, parseFilter, if_pos hv]
    rfl
  parse_blank hp hs hr hv := by
    rw [lookup_parsed hp hs hr, parseFilter, if_neg (by simp [hv])]
    exact Or.inl rfl
  visible_containsText h := h
  parse_inList {request spec order parsed key field raw} hp hs hr := by
    rw [lookup_parsed hp hs hr, parseFilter]
    cases Python.items ',' raw.toList with
    | nil => rfl
    | cons item items => rfl
  build_all {fs spec} _ _ d := sat_filterClauses spec d fs
  build_contains {spec key field} hs hf text d := by
    rw [show reference.buildMatchFilter [] [(key, .str text)] spec = filterClauses [(key, .str text)] spec from rfl,
      filterClauses_contains hs, show reference.sat = sat from rfl, sat_single]
    simp only [satValue, if_pos, regexText, valueAt_field d hf]
    cases d.dict field with
    | none => rfl
    | some v => cases v <;> rfl
  build_inList {spec key field d} hs hf _ items := by
    have hop : operator d field "$in" (.list (items.map .str)) =
        some ((items.map Value.str).any (fun w => decide (valueAt d field = some w))) := rfl
    rw [show reference.buildMatchFilter [] [(key, .list (items.map .str))] spec =
      filterClauses [(key, .list (items.map .str))] spec from rfl, filterClauses_inList hs,
      show reference.sat = sat from rfl, sat_operator hop, valueAt_field d hf, List.any_map]
    rfl
  encode_filters h := encode_filterClauses h

namespace CardRoutes
open NotificationCardService (notificationCardListFilters)

def adminToken : Token := ⟨some "mike", some [.admin], none, none, none⟩

def listSort : SortBy := [("created.at_time", -1), ("_id", -1)]

theorem admin_filters_right :
    FiltersRight reference referenceLists adminToken ⟨[], [("name", "Invite"), ("status", "active, archived")]⟩
      ⟨0, 20, [("name", .str "Invite"), ("status", .list [.str "active", .str "archived"])], listSort, by decide⟩ := by
  refine (filters_right_iff reference_documented referenceLists_documentedFilters rfl rfl).2
    ⟨fun raw hraw hv => ?_, fun raw hraw hi => ?_⟩
  · have hname : "Invite" = raw := Option.some.inj hraw
    subst hname
    exact absurd hv (by decide)
  · have hstatus : "active, archived" = raw := Option.some.inj hraw
    subst hstatus
    exact absurd hi (by decide)

/-- **A status of nothing but a comma reaches the match as the string it is.** -/
theorem comma_reaches_match :
    referenceLists.parseListRequest ⟨[], [("status", ",")]⟩ notificationCardListFilters
        referenceLists.notificationListOrder = .ok ⟨0, 20, [], listSort, List.nodup_nil⟩ ∧
      ¬ FiltersRight reference referenceLists adminToken ⟨[], [("status", ",")]⟩
        ⟨0, 20, [], listSort, List.nodup_nil⟩ := by
  refine ⟨rfl, fun hr => ?_⟩
  have hmem : ("status", .str ",") ∈ reaching ⟨[], [("status", ",")]⟩ ⟨0, 20, [], listSort, List.nodup_nil⟩ := by decide
  rcases hr.wf_of_mem reference_documented rfl rfl hmem with ⟨hkey, -⟩ | ⟨-, items, -, hlist, -⟩
  · exact absurd hkey (by decide)
  · cases hlist

end CardRoutes
end Discovery
