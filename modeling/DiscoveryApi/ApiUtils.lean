import DiscoveryApi.Document
/-!
# ApiUtils — what the services call outside this repository

`ApiUtils` is the part of api_utils, bson and MongoDB the services use, as parameters; `ApiUtils.Documented` is what
they rely on of it, one named field a documented behaviour.  Nothing here is read off a definition: every theorem
about a service takes `api.Documented` and no more.
-/
namespace Discovery

/-- A query or `$set` dict, its entries in insertion order. -/
abbrev Match := List (String × Value)

abbrev SortBy := List (String × Int)

structure OrderSpec where
  defaultField : String
  defaultOrder : String
  allowed : List (String × List String)

inductive FilterKind where
  | contains
  | inList
deriving DecidableEq

/-- A `*_LIST_FILTERS` table: query parameter, kind, document field. -/
abbrev FilterSpec := List (String × FilterKind × String)

def maxSize : Int := 100
def archivedStatus : String := "archived"

structure ApiUtils where
  /-- Python's `str` of a field value. -/
  str : Value → String
  /-- What `encode_document` writes for a value under an id property. -/
  encodeId : Value → Except HTTPError Value
  encodeDocument : Match → List String → List String → Except HTTPError Match
  /-- MongoDB: does the stored document satisfy the match? -/
  sat : Match → Document → Bool
  /-- MongoDB: the documents in the sort's order. -/
  sort : SortBy → List Document → List Document
  getDocument : Collection → String → Except HTTPError (Option Document)
  getDocuments : Collection → Match → List Document
  updateDocument : Collection → String → Match → Collection × Option Document
  executeListQuery : Collection → Match → SortBy → Int → Int → Except HTTPError (List Document)
  validatePagination : Int → Int → Except HTTPError Unit
  buildSortBy : String → String → OrderSpec → SortBy
  andMatch : Match → Match → Match
  buildMatchFilter : Match → Match → FilterSpec → Match
  isAdmin : Token → Bool
  emptyScopeMatch : Match
  buildOutboundMatch : Token → List Match → Match
  requireOutbound : Option Document → Match → String → Except HTTPError Unit
  /-- The shared Profile service's `_check_permission` and `_outbound_match`. -/
  profileCheckPermission : Token → String → Except HTTPError Unit
  profileOutbound : Token → Match
  /-- The shared Notification service's `_outbound_match`, `get_notifications` and `create_notification`. -/
  notificationOutbound : Token → Match
  getNotifications : Collection → Token → Int → Int → Match → Except HTTPError (List Document)
  createNotification : Collection → Match → Token → Value → Except HTTPError (Collection × Document)
  profileIdProperties : List String
  profileDateProperties : List String
  notificationIdProperties : List String
  notificationDateProperties : List String
  journeyIdProperties : List String
  noteIdProperties : List String
  eventIdProperties : List String
  eventDateProperties : List String
  /-- The shared `PROFILE_LIST_ORDER` `card_service` imports, `NOTE_LIST_ORDER`, and the Notification list's order. -/
  profileListOrder : OrderSpec
  noteListOrder : OrderSpec
  notificationSort : SortBy

namespace ApiUtils

/-! ## Vocabulary of the documented behaviour -/

/-- A key that names one field: no dotted path, no operator. -/
def fieldName (k : String) : Bool := k.toList.all (fun c => decide (c ≠ '.') && decide (c ≠ '$'))

/-- A date in a query reaches the server as BSON has it: the microseconds of the clock cut to the millisecond. -/
def wholeMillis (t : Int) : Int := t / 1000 * 1000

/-- A value `encode_document` leaves as it is: nothing inside stands under an id or date property. -/
def inertValue (ids dates : List String) : Value → Bool
  | .list _ => false
  | .doc fs => fs.all (fun p => !ids.contains p.1 && !dates.contains p.1 &&
      (match p.2 with | .list _ | .doc _ => false | _ => true))
  | _ => true

def inert (ids dates : List String) (m : Match) : Bool :=
  m.all (fun p => !ids.contains p.1 && !dates.contains p.1 && inertValue ids dates p.2)

def pageOf (api : ApiUtils) (s : SortBy) (p : Document → Bool) (c : Collection) (offset size : Int) : List Document :=
  ((api.sort s (c.docs.filter p)).drop offset.toNat).take size.toNat

/-- **What the services rely on** of api_utils, bson and MongoDB. -/
structure Documented (api : ApiUtils) : Prop where
  -- bson
  str_str : ∀ s, api.str (.str s) = s
  str_oid : ∀ o, api.str (.oid o) = o.hex
  -- encode_document: an id string becomes its ObjectId; a string that is no id raises or stays; the rest is kept
  encodeId_hex : ∀ {s o}, ObjectId.ofHex? s = some o → api.encodeId (.str s) = .ok (.oid o)
  encodeId_other : ∀ {s}, ObjectId.ofHex? s = none →
    api.encodeId (.str s) = .ok (.str s) ∨ ∃ e, api.encodeId (.str s) = .error e
  encodeId_oid : ∀ o, api.encodeId (.oid o) = .ok (.oid o)
  encode_inert : ∀ {m ids dates}, inert ids dates m = true → api.encodeDocument m ids dates = .ok m
  encode_id : ∀ {k v m ids dates}, k ∈ ids → inert ids dates m = true →
    api.encodeDocument ((k, v) :: m) ids dates = (api.encodeId v).map (fun v' => (k, v') :: m)
  encode_id_last : ∀ {k v m ids dates}, k ∈ ids → inert ids dates m = true →
    api.encodeDocument (m ++ [(k, v)]) ids dates = (api.encodeId v).map (fun v' => m ++ [(k, v')])
  encode_nested : ∀ {k m ids dates}, k ∉ ids → k ∉ dates →
    api.encodeDocument [(k, .doc m)] ids dates = (api.encodeDocument m ids dates).map (fun m' => [(k, .doc m')])
  encode_and : ∀ {a b m ids dates d}, inert ids dates a = true →
    api.encodeDocument (api.andMatch a b) ids dates = .ok m → api.sat m d = true → api.sat a d = true
  -- MongoDB's query language
  sat_nil : ∀ d, api.sat [] d = true
  sat_cons : ∀ p m d, api.sat (p :: m) d = (api.sat [p] d && api.sat m d)
  sat_eq : ∀ {k v d}, fieldName k = true → v.literal = true → (∀ xs, d.dict k ≠ some (.list xs)) →
    (api.sat [(k, v)] d = true ↔ d.dict k = some v)
  sat_ne : ∀ {k v d}, fieldName k = true → v.literal = true → (∀ xs, d.dict k ≠ some (.list xs)) →
    (api.sat [(k, .doc [("$ne", v)])] d = true ↔ d.dict k ≠ some v)
  sat_absent : ∀ {k d}, fieldName k = true →
    (api.sat [(k, .doc [("$exists", .bool false)])] d = true ↔ d.dict k = none)
  sat_path : ∀ {k sub v d}, fieldName k = true → fieldName sub = true → v.literal = true →
    (∀ xs, d.dict k ≠ some (.list xs)) → (∀ xs, d.path k sub ≠ some (.list xs)) →
    (api.sat [(k ++ "." ++ sub, v)] d = true ↔ d.path k sub = some v)
  sat_path_gte : ∀ {k sub t d}, fieldName k = true → fieldName sub = true →
    (∀ xs, d.dict k ≠ some (.list xs)) → (∀ xs, d.path k sub ≠ some (.list xs)) →
    (api.sat [(k ++ "." ++ sub, .doc [("$gte", .date t)])] d = true ↔
      ∃ u, d.path k sub = some (.date u) ∧ wholeMillis t ≤ u)
  sat_or : ∀ (ms : List Match) d, api.sat [("$or", .list (ms.map Value.doc))] d = ms.any (fun m => api.sat m d)
  sort_perm : ∀ s l, (api.sort s l).Perm l
  -- MongoIO; a value to be written is taken as BSON stores it
  getDocument_hex : ∀ {id o}, ObjectId.ofHex? id = some o → ∀ c, api.getDocument c id = .ok (c.find o)
  getDocument_other : ∀ {id}, ObjectId.ofHex? id = none → (∀ c, api.getDocument c id = .ok none) ∨
    ∃ e, (∀ msg, e ≠ .forbidden msg) ∧ ∀ c, api.getDocument c id = .error e
  getDocuments_eq : ∀ c m, api.getDocuments c m = c.docs.filter (api.sat m)
  updateDocument_eq : ∀ {id o}, ObjectId.ofHex? id = some o → ∀ c (f : ControlField) b,
    api.updateDocument c id [(f.name, b)] = (c.setControl o f b, (c.find o).map (·.setControl f b))
  -- list_query
  validate_ok : ∀ {o n}, 0 ≤ o → 1 ≤ n → n ≤ maxSize → api.validatePagination o n = .ok ()
  validate_bad : ∀ {o n}, ¬ (0 ≤ o ∧ 1 ≤ n ∧ n ≤ maxSize) → ∃ msg, api.validatePagination o n = .error (.badRequest msg)
  listQuery_eq : ∀ {c m s o n}, 0 ≤ o → 1 ≤ n → n ≤ maxSize →
    api.executeListQuery c m s o n = .ok (api.pageOf s (api.sat m) c o n)
  listQuery_sound : ∀ {c m s o n ds}, api.executeListQuery c m s o n = .ok ds →
    ∀ d ∈ ds, d ∈ c.docs ∧ api.sat m d = true
  sat_and : ∀ a b d, api.sat (api.andMatch a b) d = (api.sat a d && api.sat b d)
  and_disjoint : ∀ {a b : Match}, (∀ p ∈ a, ∀ q ∈ b, p.1 ≠ q.1) → api.andMatch a b = a ++ b
  sat_filter : ∀ base fs spec d,
    api.sat (api.buildMatchFilter base fs spec) d = (api.sat base d && api.sat (api.buildMatchFilter [] fs spec) d)
  sat_no_filter : ∀ spec d, api.sat (api.buildMatchFilter [] [] spec) d = true
  -- rbac
  isAdmin_eq : ∀ t, api.isAdmin t = t.has .admin
  outbound_admin : ∀ {t}, t.has .admin = true → ∀ cs, api.buildOutboundMatch t cs = []
  outbound_all : ∀ {t}, t.has .admin = false → ∀ cs d,
    api.sat (api.buildOutboundMatch t cs) d = cs.all (fun m => api.sat m d)
  requireOutbound_eq : ∀ doc m msg,
    api.requireOutbound doc m msg = if doc.any (api.sat m) then .ok () else .error (.notFound msg)
  -- the shared Profile service
  profileRead : ∀ t, api.profileCheckPermission t "read" = .ok ()
  profileOutbound_admin : ∀ {t}, t.has .admin = true → api.profileOutbound t = []
  profileOutbound_active : ∀ {t}, t.has .admin = false → ∀ d,
    api.sat (api.profileOutbound t) d = true → d.fields "status" ≠ some (.str archivedStatus)
  profileIds : "customer_id" ∈ api.profileIdProperties ∧ "mentor_id" ∈ api.profileIdProperties
  -- the shared Notification service
  notificationOutbound_admin : ∀ {t}, t.has .admin = true → api.notificationOutbound t = []
  notificationOutbound_active : ∀ {t}, t.has .admin = false → ∀ d,
    api.sat (api.notificationOutbound t) d = true → d.fields "status" ≠ some (.str archivedStatus)
  notificationOutbound_control : ∀ t d (f : ControlField) b,
    api.sat (api.notificationOutbound t) (d.setControl f b) = api.sat (api.notificationOutbound t) d
  getNotifications_eq : ∀ {c t o n m}, 0 ≤ o → 1 ≤ n → n ≤ maxSize →
    api.getNotifications c t o n m =
      (api.encodeDocument m api.notificationIdProperties api.notificationDateProperties).map (fun m' =>
        api.pageOf api.notificationSort (fun d => api.sat (api.notificationOutbound t) d && api.sat m' d) c o n)
  getNotifications_sound : ∀ {c t o n m ds}, api.getNotifications c t o n m = .ok ds →
    ∃ m', api.encodeDocument m api.notificationIdProperties api.notificationDateProperties = .ok m' ∧
      ∀ d ∈ ds, d ∈ c.docs ∧ api.sat (api.notificationOutbound t) d = true ∧ api.sat m' d = true
  createNotification_ok : ∀ {c body t b c' d}, api.createNotification c body t b = .ok (c', d) →
    c'.docs = c.docs ++ [d] ∧ d.fields "created" = some b ∧
      ∀ k ∈ ["dismissed", "cancelled", "saved"], d.fields k = none
  notificationIds : "profile_id" ∈ api.notificationIdProperties ∧
    ∀ k ∈ ["dismissed", "cancelled", "$exists"], k ∉ api.notificationIdProperties ++ api.notificationDateProperties
  -- the id and date properties of the collections read without a shared service
  journeyIds : "profile_id" ∈ api.journeyIdProperties ∧ "status" ∉ api.journeyIdProperties
  noteIds : "profile_id" ∈ api.noteIdProperties ∧ "status" ∉ api.noteIdProperties ∧ "$ne" ∉ api.noteIdProperties
  eventIds : "profile_id" ∈ api.eventIdProperties ∧ "context" ∉ api.eventIdProperties ++ api.eventDateProperties

end ApiUtils
end Discovery
