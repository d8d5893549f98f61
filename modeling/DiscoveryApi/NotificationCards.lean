import DiscoveryApi.Lib.Assoc
import DiscoveryApi.Lib.Python
import DiscoveryApi.Card
import DiscoveryApi.ControlAccess
/-!
# NotificationCards — the admin-only filters of the Notification card list

`GET /api/cards/notifications` parses its query string outside this repository, restores the filter keys the parser
skipped, and hands both to the service, which refuses a filter key of a caller who is no admin.  A reply carries what
the service called beside what it returned, so that "no query ran" is a fact about the reply.
-/
namespace Discovery

/-! ## The request, and what parses it -/

/-- A Flask request: its headers, and its query parameters in order, a repeated one repeated. -/
structure Request where
  headers : List (String × String)
  args : List (String × String)

namespace Request

/-- `request.args.get(key)`: the first of a repeated parameter. -/
def get (request : Request) (key : String) : Option String := request.args.lookup key

/-- `key in request.args` -/
def has (request : Request) (key : String) : Bool := (request.get key).isSome

theorem has_iff {request : Request} {key : String} : request.has key = true ↔ key ∈ Assoc.keys request.args := by
  rw [has, get, Option.isSome_iff_ne_none, ne_eq, Assoc.lookup_eq_none_iff, not_not]

end Request

/-- What `parse_list_request` returns; the filters are a dict. -/
structure ParsedList where
  offset : Int
  size : Int
  filters : Match
  sortBy : SortBy
  keys_nodup : (Assoc.keys filters).Nodup

/-- The part of `api_utils.flask_utils.list_request` the route uses, and the filters `build_match_filter` writes. -/
structure ListUtils where
  parseListRequest : Request → FilterSpec → OrderSpec → Except HTTPError ParsedList
  notificationListOrder : OrderSpec
  /-- The text of a `contains` filter, from the parameter as sent. -/
  containsText : String → String
  /-- MongoDB: does the field's value contain the text? -/
  contains : String → Option Value → Bool

/-- **What the route relies on** of `parse_list_request`: a valid page, and filters the request asked for. -/
structure ListUtils.Documented (lists : ListUtils) : Prop where
  page : ∀ {request spec order parsed}, lists.parseListRequest request spec order = .ok parsed →
    0 ≤ parsed.offset ∧ 1 ≤ parsed.size ∧ parsed.size ≤ maxSize
  keys : ∀ {request spec order parsed}, lists.parseListRequest request spec order = .ok parsed →
    ∀ key ∈ Assoc.keys parsed.filters, key ∈ Assoc.keys spec ∧ request.has key = true

theorem ListUtils.Documented.lookup_absent {lists : ListUtils} (hl : lists.Documented) {request : Request}
    {spec : FilterSpec} {order : OrderSpec} {parsed : ParsedList}
    (hp : lists.parseListRequest request spec order = .ok parsed) {key : String} (hr : request.get key = none) :
    parsed.filters.lookup key = none := by
  rw [Assoc.lookup_eq_none_iff]
  intro hmem
  have hhas := (hl.keys hp key hmem).2
  rw [Request.has, hr] at hhas
  cases hhas

/-! ## The service -/

namespace NotificationCardService

def notificationCardListFilters : FilterSpec :=
  [("name", .contains, "name"), ("status", .inList, "status")]

/-- A filter key the caller sent, even empty. -/
def adminFilterRequested (filters : Option Match) : Bool :=
  (Assoc.keys notificationCardListFilters).any (fun key => (Assoc.keys (filters.getD [])).contains key)

/-- Drop blank values so presence-only keys do not become Mongo clauses. -/
def applicableCardFilters (filters : Option Match) : Match :=
  (filters.getD []).filter (fun p => (Assoc.keys notificationCardListFilters).contains p.1 &&
    !([.null, .str "", .list []] : List Value).contains p.2)

/-- What a request has called outside this repository on the way to its result. -/
inductive Call where
  | buildMatchFilter (filters : Match)
  | listQuery (offset size : Int) (extra : Match)
deriving DecidableEq

structure Reply where
  calls : List Call
  result : Except HTTPError (List Card)

def notPermitted : HTTPError := .forbidden "Not permitted to filter notifications"

/-- `super().get_notifications`, projected onto Cards. -/
def listCards (api : ApiUtils) (c : Collection) (token : Token) (offset size : Int) (extra : Match)
    (calls : List Call) : Reply where
  calls := calls ++ [.listQuery offset size extra]
  result := do
    let notifications ← api.getNotifications c token offset size extra
    CardService.projectAll api cardTypeNotifications notifications (some token)

def getNotifications (api : ApiUtils) (c : Collection) (token : Token) (offset size : Int)
    (given filters : Option Match) : Reply :=
  if adminFilterRequested filters && !api.isAdmin token then ⟨[], .error notPermitted⟩
  else
    let extra := given.getD []
    let applicable := if api.isAdmin token then applicableCardFilters filters else []
    if applicable.isEmpty then listCards api c token offset size extra []
    else listCards api c token offset size
      (api.andMatch extra (api.buildMatchFilter [] applicable notificationCardListFilters)) [.buildMatchFilter applicable]

end NotificationCardService

/-! ## The route -/

namespace CardRoutes
open NotificationCardService

/-- A key of the query the parser skipped comes back with its raw value. -/
def restoreKey (request : Request) (filters : Match) (key : String) : Match :=
  match request.get key, filters.lookup key with
  | some raw, none => filters ++ [(key, .str raw)]
  | _, _ => filters

def restoredFilters (request : Request) (filters : Match) : Match :=
  (Assoc.keys notificationCardListFilters).foldl (restoreKey request) filters

def getNotificationCards (api : ApiUtils) (lists : ListUtils) (c : Collection) (token : Token) (request : Request) :
    Reply :=
  match lists.parseListRequest request notificationCardListFilters lists.notificationListOrder with
  | .error e => ⟨[], .error e⟩
  | .ok parsed => getNotifications api c token parsed.offset parsed.size none
      (some (restoredFilters request parsed.filters))

/-! ## The restored filters -/

theorem lookup_restoreKey (request : Request) (filters : Match) (key k : String) :
    (restoreKey request filters key).lookup k =
      (filters.lookup k).or (if k = key then (request.get k).map .str else none) := by
  unfold restoreKey
  split
  · rename_i raw hraw hl
    rw [Assoc.lookup_append_new]
    by_cases hk : k = key
    · rw [if_pos hk, if_pos hk, hk, hraw]
      rfl
    · rw [if_neg hk, if_neg hk]
  · rename_i hother
    by_cases hk : k = key
    · subst hk
      rw [if_pos rfl]
      cases hl : filters.lookup k with
      | some v => rfl
      | none =>
        cases hr : request.get k with
        | some raw => exact absurd hl (hother raw hr)
        | none => rfl
    · rw [if_neg hk, Option.or_none]

theorem nodup_restoreKey (request : Request) {filters : Match} (hn : (Assoc.keys filters).Nodup) (key : String) :
    (Assoc.keys (restoreKey request filters key)).Nodup := by
  unfold restoreKey
  split
  · rename_i raw _ hl
    exact Assoc.nodup_append_new hn hl _
  · exact hn

theorem lookup_restored (request : Request) (filters : Match) {key : String}
    (hk : key ∈ Assoc.keys notificationCardListFilters) :
    (restoredFilters request filters).lookup key = (filters.lookup key).or ((request.get key).map .str) := by
  have hfold : restoredFilters request filters = restoreKey request (restoreKey request filters "name") "status" := rfl
  have hkeys : key = "name" ∨ key = "status" := by
    simpa [Assoc.keys, notificationCardListFilters] using hk
  rw [hfold, lookup_restoreKey, lookup_restoreKey]
  rcases hkeys with rfl | rfl <;> simp

theorem nodup_restored (request : Request) {filters : Match} (hn : (Assoc.keys filters).Nodup) :
    (Assoc.keys (restoredFilters request filters)).Nodup :=
  nodup_restoreKey request (nodup_restoreKey request hn "name") "status"

/-- **Every filter parameter of the query reaches the service**, blank or not, and no other does. -/
theorem adminFilterRequested_restored {lists : ListUtils} (hl : lists.Documented) {request : Request}
    {order : OrderSpec} {parsed : ParsedList}
    (hp : lists.parseListRequest request notificationCardListFilters order = .ok parsed) :
    adminFilterRequested (some (restoredFilters request parsed.filters)) =
      (Assoc.keys notificationCardListFilters).any request.has := by
  have hkey : ∀ key ∈ Assoc.keys notificationCardListFilters,
      (key ∈ Assoc.keys (restoredFilters request parsed.filters) ↔ request.has key = true) := by
    intro key hk
    rw [← not_iff_not, ← Assoc.lookup_eq_none_iff, lookup_restored request parsed.filters hk, Option.or_eq_none_iff,
      Option.map_eq_none_iff, Request.has, Option.not_isSome_iff_eq_none]
    exact ⟨fun h => h.2, fun h => ⟨hl.lookup_absent hp h, h⟩⟩
  rw [Bool.eq_iff_iff, adminFilterRequested, List.any_eq_true, List.any_eq_true]
  constructor
  · rintro ⟨key, hk, hc⟩
    exact ⟨key, hk, (hkey key hk).1 (List.contains_iff_mem.1 hc)⟩
  · rintro ⟨key, hk, hh⟩
    exact ⟨key, hk, List.contains_iff_mem.2 ((hkey key hk).2 hh)⟩

/-! ## What a caller who is no admin gets -/

def cardSpec : CardSpec := ⟨"Notification", notificationFields⟩

theorem cardSpec_known : cardTypeSpecs.lookup cardTypeNotifications = some cardSpec := rfl

/-- The Notification cards of a page of documents. -/
def cards (api : ApiUtils) (token : Token) (documents : List Document) : List Card :=
  documents.map (fun d => CardService.cardOf api cardTypeNotifications cardSpec d.dict token.roleList)

/-- The query of a request without the filter parameters. -/
def otherArgs (request : Request) : List (String × String) :=
  request.args.filter (fun p => !(Assoc.keys notificationCardListFilters).contains p.1)

/-- Two requests that differ in values of the filter parameters alone, repeated or not. -/
structure SameButValues (request request' : Request) : Prop where
  headers : request'.headers = request.headers
  has : ∀ key ∈ Assoc.keys notificationCardListFilters, request'.has key = request.has key
  args : otherArgs request' = otherArgs request

theorem otherArgs_of_none {request : Request}
    (hn : (Assoc.keys notificationCardListFilters).any request.has = false) : otherArgs request = request.args := by
  refine List.filter_eq_self.2 (fun p hp => ?_)
  rw [Bool.not_eq_true', Bool.eq_false_iff]
  intro hc
  have hhas : request.has p.1 = true := Request.has_iff.2 (List.mem_map_of_mem hp)
  exact List.any_eq_false.1 hn p.1 (List.contains_iff_mem.1 hc) hhas

theorem SameButValues.any_has {request request' : Request} (hs : SameButValues request request') :
    (Assoc.keys notificationCardListFilters).any request'.has =
      (Assoc.keys notificationCardListFilters).any request.has := by
  rw [Bool.eq_iff_iff, List.any_eq_true, List.any_eq_true]
  exact exists_congr (fun key => and_congr_right (fun hk => by rw [hs.has key hk]))

theorem SameButValues.eq_of_none {request request' : Request} (hs : SameButValues request request')
    (hn : (Assoc.keys notificationCardListFilters).any request.has = false) : request' = request := by
  have hargs := hs.args
  rw [otherArgs_of_none hn, otherArgs_of_none (hs.any_has.trans hn)] at hargs
  exact congrArg₂ Request.mk hs.headers hargs

section
variable {api : ApiUtils} (h : api.Documented)
include h

/-- The list query of a match that stays as it is when encoded. -/
theorem listCards_eq {token : Token} {offset size : Int} (ho : 0 ≤ offset) (h1 : 1 ≤ size) (hn : size ≤ maxSize)
    {extra : Match} (he : api.encodeDocument extra api.notificationIdProperties api.notificationDateProperties = .ok extra)
    (c : Collection) (calls : List Call) :
    listCards api c token offset size extra calls =
      ⟨calls ++ [.listQuery offset size extra],
        .ok (cards api token (api.pageOf api.notificationSort
          (fun d => NotificationService.sees api token d && api.sat extra d) c offset size))⟩ := by
  unfold listCards
  rw [h.getNotifications_eq ho h1 hn, he]
  exact congrArg (Reply.mk _) (CardService.projectAll_known api cardSpec_known _ token)

theorem listCards_unfiltered {token : Token} {offset size : Int} (ho : 0 ≤ offset) (h1 : 1 ≤ size)
    (hn : size ≤ maxSize) (c : Collection) (calls : List Call) :
    listCards api c token offset size [] calls =
      ⟨calls ++ [.listQuery offset size []],
        .ok (cards api token (api.pageOf api.notificationSort (NotificationService.sees api token) c offset size))⟩ := by
  rw [listCards_eq h ho h1 hn (h.encode_inert rfl)]
  simp only [h.sat_nil, Bool.and_true]

/-- The reply to a caller who is no admin: a refusal without a query, or the visible page. -/
theorem getNotificationCards_other {lists : ListUtils} (hl : lists.Documented) {token : Token}
    (ht : token.has .admin = false) {request : Request} {parsed : ParsedList}
    (hp : lists.parseListRequest request notificationCardListFilters lists.notificationListOrder = .ok parsed)
    (c : Collection) :
    getNotificationCards api lists c token request =
      if (Assoc.keys notificationCardListFilters).any request.has then ⟨[], .error notPermitted⟩
      else ⟨[.listQuery parsed.offset parsed.size []],
        .ok (cards api token (api.pageOf api.notificationSort (NotificationService.sees api token) c
          parsed.offset parsed.size))⟩ := by
  obtain ⟨ho, h1, hn⟩ := hl.page hp
  rw [getNotificationCards, hp]
  dsimp only
  rw [getNotifications, adminFilterRequested_restored hl hp, h.isAdmin_eq, ht]
  cases (Assoc.keys notificationCardListFilters).any request.has with
  | true => rfl
  | false => exact listCards_unfiltered h ho h1 hn c []

/-- **No query string lets a caller filter who is no admin**: a filter parameter, whatever its value, is refused before
any query; without one the caller gets the visible page; and two queries that differ in filter values alone get the
same reply over any collection. -/
theorem getNotificationCards_nonadmin {lists : ListUtils} (hl : lists.Documented) {token : Token}
    (ht : token.has .admin = false) {request : Request} {parsed : ParsedList}
    (hp : lists.parseListRequest request notificationCardListFilters lists.notificationListOrder = .ok parsed) :
    (request.has "name" = true ∨ request.has "status" = true → ∀ c,
      getNotificationCards api lists c token request =
        ⟨[], .error (.forbidden "Not permitted to filter notifications")⟩) ∧
    (request.has "name" = false ∧ request.has "status" = false → ∀ c,
      getNotificationCards api lists c token request =
        ⟨[.listQuery parsed.offset parsed.size []],
          .ok (cards api token (api.pageOf api.notificationSort (NotificationService.sees api token) c
            parsed.offset parsed.size))⟩) ∧
    ∀ request' parsed', SameButValues request request' →
      lists.parseListRequest request' notificationCardListFilters lists.notificationListOrder = .ok parsed' →
      ∀ c, getNotificationCards api lists c token request' = getNotificationCards api lists c token request := by
  have hany : (Assoc.keys notificationCardListFilters).any request.has =
      (request.has "name" || (request.has "status" || false)) := rfl
  rw [Bool.or_false] at hany
  refine ⟨fun hhas c => ?_, fun hhas c => ?_, fun request' parsed' hs hp' c => ?_⟩
  · rw [getNotificationCards_other h hl ht hp, hany, if_pos (Bool.or_eq_true_iff.2 hhas)]
    rfl
  · rw [getNotificationCards_other h hl ht hp, hany, hhas.1, hhas.2]
    rfl
  · cases hreq : (Assoc.keys notificationCardListFilters).any request.has with
    | true =>
      rw [getNotificationCards_other h hl ht hp', getNotificationCards_other h hl ht hp, hs.any_has, hreq]
      rfl
    | false => rw [hs.eq_of_none hreq]

end

end CardRoutes

/-! ## On concrete requests -/

namespace Reference

def headerInt (request : Request) (name : String) (default : Int) : Except HTTPError Int :=
  match (request.headers.lookup name).map String.toList with
  | none => .ok default
  | some digits =>
    if digits.isEmpty || !digits.all Char.isDigit then .error (.badRequest (name ++ " must be an integer"))
    else .ok (digits.foldl (fun n c => 10 * n + (c.toNat - 48)) 0)

def sortByOf (request : Request) (order : OrderSpec) : Except HTTPError SortBy :=
  let field := (request.get "sort_by").getD order.defaultField
  let direction := (request.get "order").getD order.defaultOrder
  if ((order.allowed.lookup field).getD []).contains direction then .ok (reference.buildSortBy field direction order)
  else .error (.badRequest "Unsupported sort")

def parseFilter (raw : String) : FilterKind → Option Value
  | .contains => if Python.visible raw.toList then some (.str raw) else none
  | .inList =>
    match Python.items ',' raw.toList with
    | [] => none
    | items => some (.list (items.map (fun item => .str (String.ofList item))))

def parseFilters (request : Request) (spec : FilterSpec) : Match :=
  spec.filterMap (fun p => ((request.get p.1).bind (parseFilter · p.2.1)).map (fun v => (p.1, v)))

def parseListRequest (request : Request) (spec : FilterSpec) (order : OrderSpec) : Except HTTPError ParsedList := do
  let offset ← headerInt request "offset" 0
  let size ← headerInt request "size" 20
  validatePagination offset size
  let sortBy ← sortByOf request order
  if hn : (Assoc.keys spec).Nodup then
    .ok ⟨offset, size, parseFilters request spec, sortBy, hn.sublist (Assoc.keys_filterMap _ spec)⟩
  else .error (.unhandled "duplicate filter key")

end Reference

/-- `list_request`, computed. -/
def referenceLists : ListUtils where
  parseListRequest := Reference.parseListRequest
  notificationListOrder := ⟨"created.at_time", "desc", [("created.at_time", ["asc", "desc"])]⟩
  containsText raw := raw
  contains needle v :=
    match v with
    | some (.str t) => Reference.containsText (needle.toList.map Char.toLower) (t.toList.map Char.toLower)
    | _ => false

namespace Reference

theorem parseListRequest_ok {request : Request} {spec : FilterSpec} {order : OrderSpec} {parsed : ParsedList}
    (h : parseListRequest request spec order = .ok parsed) :
    validatePagination parsed.offset parsed.size = .ok () ∧ parsed.filters = parseFilters request spec ∧
      (Assoc.keys spec).Nodup := by
  obtain ⟨offset, -, h⟩ := Except.ok_of_bind h
  obtain ⟨size, -, h⟩ := Except.ok_of_bind h
  obtain ⟨_, hv, h⟩ := Except.ok_of_bind h
  obtain ⟨sortBy, -, h⟩ := Except.ok_of_bind h
  split at h
  · rename_i hn
    cases h
    exact ⟨hv, rfl, hn⟩
  · cases h

theorem of_mem_parseFilters {request : Request} {spec : FilterSpec} {p : String × Value}
    (h : p ∈ parseFilters request spec) :
    ∃ q ∈ spec, q.1 = p.1 ∧ ∃ raw, request.get q.1 = some raw ∧ parseFilter raw q.2.1 = some p.2 := by
  obtain ⟨q, hq, hp⟩ := List.mem_filterMap.1 h
  obtain ⟨v, hv, rfl⟩ := Option.map_eq_some_iff.1 hp
  obtain ⟨raw, hraw, hv⟩ := Option.bind_eq_some_iff.1 hv
  exact ⟨q, hq, rfl, raw, hraw, hv⟩

end Reference

theorem referenceLists_documented : referenceLists.Documented where
  page h := by
    obtain ⟨hv, -⟩ := Reference.parseListRequest_ok h
    unfold Reference.validatePagination at hv
    split at hv
    · assumption
    · cases hv
  keys {request spec order parsed} h key hk := by
    rw [(Reference.parseListRequest_ok h).2.1] at hk
    obtain ⟨p, hp, rfl⟩ := List.mem_map.1 hk
    obtain ⟨q, hq, hqp, raw, hraw, -⟩ := Reference.of_mem_parseFilters hp
    rw [← hqp, Request.has, hraw]
    exact ⟨List.mem_map_of_mem hq, rfl⟩

namespace CardRoutes
open NotificationService (menteeToken ownNotifications)

theorem blank_name_refused :
    getNotificationCards reference referenceLists ownNotifications menteeToken ⟨[], [("name", " ")]⟩ =
      ⟨[], .error (.forbidden "Not permitted to filter notifications")⟩ :=
  (getNotificationCards_nonadmin reference_documented referenceLists_documented rfl rfl).1 (Or.inl rfl)
    ownNotifications

end CardRoutes

end Discovery
