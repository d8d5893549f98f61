import Mathlib.Algebra.GroupWithZero.Nat
import Mathlib.Data.List.Nodup
import DiscoveryApi.Lib.Except
import DiscoveryApi.Lib.Hex
/-!
# Document — the values, documents, collections and tokens the services pass around

A stored document is its `_id` and its other fields; a collection holds each `_id` once (`Collection.ids_nodup`), as
MongoDB's unique index does.  `Document.wf` carries what the collection schemas fix about the fields the services
match on: target ids are ObjectIds, `status` is a string, `context` and `created` are sub-documents.
-/
namespace Discovery

/-! ## Ids -/

/-- bson's twelve bytes, as their 24 nibbles. -/
structure ObjectId where
  nibbles : List (Fin 16)
  size : nibbles.length = 24
deriving DecidableEq

namespace ObjectId

/-- `str(oid)`: the lower-case spelling. -/
def hex (o : ObjectId) : String := String.ofList (Hex.encode o.nibbles)

/-- The id a 24-digit hexadecimal string denotes, in either letter case. -/
def ofHex? (s : String) : Option ObjectId :=
  match Hex.decode s.toList with
  | none => none
  | some ns => if h : ns.length = 24 then some ⟨ns, h⟩ else none

theorem ofHex?_eq_some {s : String} {o : ObjectId} :
    ofHex? s = some o ↔ Hex.decode s.toList = some o.nibbles := by
  unfold ofHex?
  constructor
  · intro h
    split at h
    · cases h
    · rename_i ns hns
      split at h
      · cases h; exact hns
      · cases h
  · intro h
    rw [h]
    simp [o.size]

theorem ofHex?_hex (o : ObjectId) : ofHex? o.hex = some o := by
  rw [ofHex?_eq_some, hex, String.toList_ofList, Hex.decode_encode]

/-- **The spellings of an id**: `str` gives the one without an upper-case digit. -/
theorem eq_hex_iff {s : String} {o : ObjectId} (h : ofHex? s = some o) :
    s = o.hex ↔ ∀ c ∈ s.toList, Hex.isUpper c = false := by
  rw [← Hex.eq_encode_iff (ofHex?_eq_some.1 h), hex]
  exact ⟨fun hs => by rw [hs, String.toList_ofList], fun hs => by rw [← hs, String.ofList_toList]⟩

theorem ne_empty_of_ofHex? {s : String} {o : ObjectId} (h : ofHex? s = some o) : s ≠ "" := by
  rintro rfl
  have hl := Hex.length_decode (ofHex?_eq_some.1 h)
  rw [o.size] at hl
  cases hl

theorem hex_inj {o o' : ObjectId} (h : o.hex = o'.hex) : o = o' := by
  have heq := (ofHex?_hex o).symm.trans ((congrArg ofHex? h).trans (ofHex?_hex o'))
  exact Option.some.inj heq

theorem length_hex (o : ObjectId) : o.hex.toList.length = 24 := by
  rw [hex, String.toList_ofList, Hex.encode, List.length_map, o.size]

/-- Text that ends in an id splits at the id in one way. -/
theorem append_hex_inj {s s' : String} {o o' : ObjectId} (h : s ++ o.hex = s' ++ o'.hex) : s = s' ∧ o = o' := by
  have hl : s.toList ++ o.hex.toList = s'.toList ++ o'.hex.toList := by
    rw [← String.toList_append, ← String.toList_append, h]
  obtain ⟨hs, ho⟩ := List.append_inj' hl (by rw [length_hex, length_hex])
  exact ⟨String.toList_inj.1 hs, hex_inj (String.toList_inj.1 ho)⟩

end ObjectId

/-! ## Values -/

inductive Value where
  | null
  | bool (b : Bool)
  | int (i : Int)
  | str (s : String)
  | oid (o : ObjectId)
  | date (t : Int)
  | list (xs : List Value)
  | doc (fs : List (String × Value))

namespace Value

mutual
def beq : Value → Value → Bool
  | .null, .null => true
  | .bool a, .bool b => a == b
  | .int a, .int b => a == b
  | .str a, .str b => a == b
  | .oid a, .oid b => a == b
  | .date a, .date b => a == b
  | .list a, .list b => beqList a b
  | .doc a, .doc b => beqFields a b
  | _, _ => false

def beqList : List Value → List Value → Bool
  | [], [] => true
  | a :: as, b :: bs => beq a b && beqList as bs
  | _, _ => false

def beqFields : List (String × Value) → List (String × Value) → Bool
  | [], [] => true
  | (k, a) :: as, (l, b) :: bs => k == l && (beq a b && beqFields as bs)
  | _, _ => false
end

mutual
theorem beq_iff : ∀ a b : Value, beq a b = true ↔ a = b
  | .null, b => by cases b <;> simp [beq]
  | .bool _, b => by cases b <;> simp [beq]
  | .int _, b => by cases b <;> simp [beq]
  | .str _, b => by cases b <;> simp [beq]
  | .oid _, b => by cases b <;> simp [beq]
  | .date _, b => by cases b <;> simp [beq]
  | .list xs, b => by cases b <;> simp [beq, beqList_iff xs]
  | .doc fs, b => by cases b <;> simp [beq, beqFields_iff fs]

theorem beqList_iff : ∀ as bs : List Value, beqList as bs = true ↔ as = bs
  | [], bs => by cases bs <;> simp [beqList]
  | a :: as, bs => by cases bs <;> simp [beqList, beq_iff a, beqList_iff as]

theorem beqFields_iff : ∀ as bs : List (String × Value), beqFields as bs = true ↔ as = bs
  | [], bs => by cases bs <;> simp [beqFields]
  | (k, a) :: as, bs => by
    cases bs with
    | nil => simp [beqFields]
    | cons p bs => simp [beqFields, beq_iff a, beqFields_iff as, Prod.ext_iff, and_assoc]
end

instance : DecidableEq Value := fun a b => decidable_of_iff _ (beq_iff a b)

/-- Python's truth value. -/
def truthy : Value → Bool
  | .null => false
  | .bool b => b
  | .int i => decide (i ≠ 0)
  | .str s => decide (s ≠ "")
  | .list xs => !xs.isEmpty
  | .doc fs => !fs.isEmpty
  | .oid _ | .date _ => true

/-- A clause value MongoDB compares for equality: no operator, no null, no array. -/
def literal : Value → Bool
  | .null | .list _ => false
  | .doc fs => fs.all (fun p => decide (p.1.toList.head? ≠ some '$'))
  | _ => true

def isList : Value → Bool
  | .list _ => true
  | _ => false

def idOrNull : Value → Bool
  | .null | .oid _ => true
  | _ => false

def strOrNull : Value → Bool
  | .null | .str _ => true
  | _ => false

def docOrNull : Value → Bool
  | .null | .doc _ => true
  | _ => false

def flatOrNull : Value → Bool
  | .null => true
  | .doc fs => fs.all (fun p => !p.2.isList)
  | _ => false

end Value

/-! ## Dicts and documents -/

/-- A Python dict, as what it holds under each key. -/
abbrev Dict := String → Option Value

namespace Dict

/-- `d.get(k)`, a stored `null` being `None`. -/
def value (d : Dict) (k : String) : Option Value :=
  match d k with
  | some .null => none
  | v => v

def set (d : Dict) (k : String) (v : Value) : Dict := fun k' => if k' = k then some v else d k'

@[simp] theorem set_self (d : Dict) (k : String) (v : Value) : d.set k v k = some v := by simp [set]

@[simp] theorem set_of_ne (d : Dict) (k : String) (v : Value) {k' : String} (h : k' ≠ k) : d.set k v k' = d k' := by
  simp [set, h]

end Dict

def idFields : List String := ["profile_id", "customer_id", "mentor_id"]

/-- What the collection schemas fix about one field. -/
def entryWf (k : String) (v : Value) : Bool :=
  if k ∈ idFields then v.idOrNull
  else if k = "status" then v.strOrNull
  else if k = "context" then v.docOrNull
  else if k = "created" then v.flatOrNull
  else true

/-- A stored document: its `_id`, and its other fields within the schemas.  A collection holds no other, so what is said
of every store is said of every store of the collection schemas. -/
@[ext] structure Document where
  id : ObjectId
  fields : Dict
  wf : ∀ k v, fields k = some v → entryWf k v = true

namespace Document

/-- The document as the dict MongoIO returns. -/
def dict (d : Document) : Dict := fun k => if k = "_id" then some (.oid d.id) else d.fields k

@[simp] theorem dict_id (d : Document) : d.dict "_id" = some (.oid d.id) := rfl

theorem dict_of_ne (d : Document) {k : String} (h : k ≠ "_id") : d.dict k = d.fields k := by simp [dict, h]

/-- `d["k"]["sub"]`, as the dotted path `k.sub` reaches it. -/
def path (d : Document) (k sub : String) : Option Value :=
  match d.dict k with
  | some (.doc fs) => fs.lookup sub
  | _ => none

theorem idField_cases (d : Document) {k : String} (hk : k ∈ idFields) :
    d.fields k = none ∨ d.fields k = some .null ∨ ∃ o, d.fields k = some (.oid o) := by
  cases hv : d.fields k with
  | none => exact Or.inl rfl
  | some v =>
    have hw := d.wf k v hv
    rw [entryWf, if_pos hk] at hw
    cases v with
    | null => exact Or.inr (Or.inl rfl)
    | oid o => exact Or.inr (Or.inr ⟨o, rfl⟩)
    | _ => cases hw

def ofList (id : ObjectId) (fs : List (String × Value)) (h : fs.all (fun p => entryWf p.1 p.2) = true) : Document where
  id := id
  fields := fun k => fs.lookup k
  wf := fun k v hv => by
    obtain ⟨l, r, rfl, -⟩ := List.lookup_eq_some_iff.1 hv
    exact List.all_eq_true.1 h (k, v) (by simp)

end Document

/-- The two breadcrumbs a control request sets: `DISMISSED_FIELD`, `CANCELLED_FIELD`. -/
inductive ControlField where
  | dismissed
  | cancelled
deriving DecidableEq

def ControlField.name : ControlField → String
  | .dismissed => "dismissed"
  | .cancelled => "cancelled"

theorem ControlField.name_inj {f g : ControlField} (h : f.name = g.name) : f = g := by
  cases f <;> cases g <;> first | rfl | exact absurd h (by decide)

namespace Document

def setControl (d : Document) (f : ControlField) (b : Value) : Document where
  id := d.id
  fields := d.fields.set f.name b
  wf := fun k v hv => by
    by_cases hk : k = f.name
    · subst hk; cases f <;> rfl
    · rw [Dict.set_of_ne _ _ _ hk] at hv; exact d.wf k v hv

@[simp] theorem setControl_id (d : Document) (f : ControlField) (b : Value) : (d.setControl f b).id = d.id := rfl

@[simp] theorem setControl_self (d : Document) (f : ControlField) (b : Value) :
    (d.setControl f b).fields f.name = some b := Dict.set_self _ _ _

theorem setControl_of_ne (d : Document) (f : ControlField) (b : Value) {k : String} (h : k ≠ f.name) :
    (d.setControl f b).fields k = d.fields k := Dict.set_of_ne _ _ _ h

theorem setControl_comm (d : Document) {f g : ControlField} (h : f ≠ g) (a b : Value) :
    (d.setControl f a).setControl g b = (d.setControl g b).setControl f a := by
  refine Document.ext rfl (funext fun k => ?_)
  have hn : f.name ≠ g.name := fun hn => h (ControlField.name_inj hn)
  simp only [setControl, Dict.set]
  by_cases hf : k = f.name
  · subst hf; simp [hn]
  · simp [hf]

end Document

/-! ## Collections and the store -/

/-- A collection: its documents in natural order, each `_id` once. -/
@[ext] structure Collection where
  docs : List Document
  ids_nodup : (docs.map Document.id).Nodup

namespace Collection

def empty : Collection := ⟨[], List.nodup_nil⟩

def find (c : Collection) (o : ObjectId) : Option Document := c.docs.find? (fun d => decide (d.id = o))

theorem find_eq_some_iff {c : Collection} {o : ObjectId} {d : Document} :
    c.find o = some d ↔ d ∈ c.docs ∧ d.id = o := by
  constructor
  · intro h
    exact ⟨List.mem_of_find?_eq_some h, by simpa using List.find?_some h⟩
  · rintro ⟨hd, rfl⟩
    cases hf : c.find d.id with
    | none =>
      have hne := List.find?_eq_none.1 hf d hd
      exact absurd (decide_eq_true rfl) hne
    | some e =>
      have he : e.id = d.id := by simpa using List.find?_some hf
      rw [List.inj_on_of_nodup_map c.ids_nodup (List.mem_of_find?_eq_some hf) hd he]

theorem map_id_setControl (ds : List Document) (o : ObjectId) (f : ControlField) (b : Value) :
    (ds.map (fun d => if d.id = o then d.setControl f b else d)).map Document.id = ds.map Document.id := by
  rw [List.map_map]
  refine List.map_congr_left (fun d _ => ?_)
  simp only [Function.comp_apply]
  split <;> rfl

def setControl (c : Collection) (o : ObjectId) (f : ControlField) (b : Value) : Collection where
  docs := c.docs.map (fun d => if d.id = o then d.setControl f b else d)
  ids_nodup := by
    rw [map_id_setControl]
    exact c.ids_nodup

theorem find_setControl (c : Collection) (o o' : ObjectId) (f : ControlField) (b : Value) :
    (c.setControl o f b).find o' = if o' = o then (c.find o).map (·.setControl f b) else c.find o' := by
  simp only [find, setControl, List.find?_map, Function.comp_def]
  have hid : ∀ d : Document, (if d.id = o then d.setControl f b else d).id = d.id := fun d => by split <;> rfl
  simp only [hid]
  have hfound : ∀ d, c.docs.find? (fun d => decide (d.id = o')) = some d → d.id = o' :=
    fun d hd => by simpa using List.find?_some hd
  split
  · rename_i h
    subst h
    exact Option.map_congr (fun d hd => if_pos (hfound d hd))
  · rename_i h
    have hkeep : ∀ d, c.docs.find? (fun d => decide (d.id = o')) = some d →
        (if d.id = o then d.setControl f b else d) = d := fun d hd => if_neg (by rw [hfound d hd]; exact h)
    exact (Option.map_congr hkeep).trans Option.map_id'

theorem setControl_comm (c : Collection) {o o' : ObjectId} {f g : ControlField} (h : f ≠ g ∨ o ≠ o') (a b : Value) :
    (c.setControl o f a).setControl o' g b = (c.setControl o' g b).setControl o f a := by
  refine Collection.ext ?_
  simp only [setControl, List.map_map]
  refine List.map_congr_left (fun d _ => ?_)
  simp only [Function.comp_apply]
  by_cases ho : d.id = o
  · by_cases ho' : d.id = o'
    · have hfg : f ≠ g := h.resolve_right (fun hne => hne (ho.symm.trans ho'))
      rw [if_pos ho, if_pos ho', Document.setControl_id, Document.setControl_id, if_pos ho, if_pos ho']
      exact Document.setControl_comm d hfg a b
    · rw [if_pos ho, if_neg ho', Document.setControl_id, if_pos ho, if_neg ho']
  · by_cases ho' : d.id = o'
    · rw [if_neg ho, if_pos ho', Document.setControl_id, if_neg ho]
    · rw [if_neg ho, if_neg ho', if_neg ho]

end Collection

/-- A journey's arrays: `library`, `now` and each `next` item's `resources` absent, null or an array. -/
def arrayWf (v : Option Value) : Prop := v = none ∨ v = some .null ∨ ∃ xs, v = some (.list xs)

structure JourneyWf (j : Document) : Prop where
  library : arrayWf (j.fields "library")
  now : arrayWf (j.fields "now")
  next : j.fields "next" = none ∨ j.fields "next" = some .null ∨ ∃ items, j.fields "next" = some (.list items) ∧
    ∀ x ∈ items, ∃ fs, x = .doc fs ∧ arrayWf (fs.lookup "resources")

/-- The collections, of documents within the schemas; the arrays of a journey are arrays. -/
structure Store where
  notifications : Collection
  customers : Collection
  profiles : Collection
  journeys : Collection
  events : Collection
  notes : Collection
  journeys_wf : ∀ j ∈ journeys.docs, JourneyWf j

/-! ## Tokens and errors -/

/-- `Config`'s role names, and any other name a JWT may carry. -/
inductive Role where
  | admin
  | customer
  | coordinator
  | mentor
  | mentee
  | other (name : String)
deriving DecidableEq

/-- `TARGET_FIELDS`: the claims that may name a notification's target. -/
inductive TargetField where
  | profileId
  | customerId
  | mentorId
deriving DecidableEq

def TargetField.name : TargetField → String
  | .profileId => "profile_id"
  | .customerId => "customer_id"
  | .mentorId => "mentor_id"

def TargetField.all : List TargetField := [.profileId, .customerId, .mentorId]

theorem TargetField.mem_all (f : TargetField) : f ∈ TargetField.all := by cases f <;> simp [TargetField.all]

theorem TargetField.name_mem (f : TargetField) : f.name ∈ idFields := by cases f <;> decide

/-- The claims of a decoded JWT, as spelled there. -/
structure Token where
  userId : Option String
  roles : Option (List Role)
  profileId : Option String
  customerId : Option String
  mentorId : Option String

namespace Token

/-- `token.get("roles") or []` -/
def roleList (t : Token) : List Role := t.roles.getD []

def has (t : Token) (r : Role) : Bool := t.roleList.contains r

def claim (t : Token) : TargetField → Option String
  | .profileId => t.profileId
  | .customerId => t.customerId
  | .mentorId => t.mentorId

end Token

def truthyClaim (c : Option String) : Option String := c.filter (fun s => decide (s ≠ ""))

/-- The exceptions a handler turns into a status: api_utils' three, and any other (500). -/
inductive HTTPError where
  | badRequest (message : String)
  | forbidden (message : String)
  | notFound (message : String)
  | unhandled (message : String)
deriving DecidableEq

end Discovery
