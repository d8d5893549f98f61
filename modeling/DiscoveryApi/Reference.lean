import DiscoveryApi.ApiUtils
import DiscoveryApi.Lib.Assoc
import DiscoveryApi.Lib.Calendar
import Mathlib.Data.List.Sort
/-!
# Reference — one `ApiUtils` that behaves as documented

`reference` computes every parameter of `ApiUtils` on concrete inputs, and `reference_documented` proves it keeps every
documented behaviour: the hypotheses the service theorems share are jointly satisfiable, and each theorem can be run.
-/
namespace Discovery
namespace Reference

/-! ## `str` -/

mutual
/-- Python's `repr`, strings without escapes. -/
def reprOf : Value → String
  | .null => "None"
  | .bool true => "True"
  | .bool false => "False"
  | .int i => toString i
  | .str s => "'" ++ s ++ "'"
  | .oid o => "ObjectId('" ++ o.hex ++ "')"
  | .date t => "datetime(" ++ Calendar.isoformat " " t ++ ")"
  | .list xs => "[" ++ reprItems xs ++ "]"
  | .doc fs => "\x7b" ++ reprFields fs ++ "\x7d"

def reprItems : List Value → String
  | [] => ""
  | [x] => reprOf x
  | x :: xs => reprOf x ++ ", " ++ reprItems xs

def reprFields : List (String × Value) → String
  | [] => ""
  | [(k, x)] => "'" ++ k ++ "': " ++ reprOf x
  | (k, x) :: fs => "'" ++ k ++ "': " ++ reprOf x ++ ", " ++ reprFields fs
end

def str : Value → String
  | .str s => s
  | .oid o => o.hex
  | .date t => Calendar.isoformat " " t
  | v => reprOf v

/-! ## Evaluating a match -/

/-- A dotted key as its two parts, a plain key as one. -/
def splitDot : List Char → List Char × Option (List Char)
  | [] => ([], none)
  | c :: cs => if c = '.' then ([], some cs) else (c :: (splitDot cs).1, (splitDot cs).2)

def valueAt (d : Document) (k : String) : Option Value :=
  match splitDot k.toList with
  | (_, none) => d.dict k
  | (a, some b) => d.path (String.ofList a) (String.ofList b)

def containsText (needle hay : List Char) : Bool := hay.tails.any (fun t => needle.isPrefixOf t)

def operator (d : Document) (k op : String) (v : Value) : Option Bool :=
  if op = "$ne" then some (decide (valueAt d k ≠ some v))
  else if op = "$exists" then some (decide (.bool (valueAt d k).isSome = v))
  else if op = "$gte" then
    match v, valueAt d k with
    | .date t, some (.date u) => some (decide (ApiUtils.wholeMillis t ≤ u))
    | _, _ => some false
  else if op = "$in" then
    match v with
    | .list vs => some (vs.any (fun w => decide (valueAt d k = some w)))
    | _ => some false
  else none

def regexText (d : Document) (k : String) (v : Value) : Bool :=
  match v, valueAt d k with
  | .str s, some (.str t) => containsText (s.toList.map Char.toLower) (t.toList.map Char.toLower)
  | _, _ => false

mutual
def satValue (d : Document) (k : String) : Value → Bool
  | .list ms =>
    if k = "$or" then satAny d ms
    else if k = "$and" then satEvery d ms
    else decide (valueAt d k = some (.list ms))
  | .doc [(op, v)] => (operator d k op v).getD (decide (valueAt d k = some (.doc [(op, v)])))
  | .doc [(op, v), (opts, w)] =>
    if op = "$regex" then regexText d k v else decide (valueAt d k = some (.doc [(op, v), (opts, w)]))
  | v => decide (valueAt d k = some v)

def satAny (d : Document) : List Value → Bool
  | [] => false
  | .doc m :: ms => satAll d m || satAny d ms
  | _ :: ms => satAny d ms

def satEvery (d : Document) : List Value → Bool
  | [] => true
  | .doc m :: ms => satAll d m && satEvery d ms
  | _ :: ms => satEvery d ms

def satAll (d : Document) : List (String × Value) → Bool
  | [] => true
  | (k, v) :: m => satValue d k v && satAll d m
end

def sat (m : Match) (d : Document) : Bool := satAll d m

/-! ## Sorting -/

def rank : Option Value → Nat
  | none | some .null => 0
  | some (.int _) => 1
  | some (.str _) => 2
  | some (.doc _) => 3
  | some (.list _) => 4
  | some (.oid _) => 5
  | some (.bool _) => 6
  | some (.date _) => 7

def compareValue (a b : Option Value) : Ordering :=
  match a, b with
  | some (.int x), some (.int y) => compare x y
  | some (.date x), some (.date y) => compare x y
  | some (.str x), some (.str y) => compare (x.toList.map Char.toNat) (y.toList.map Char.toNat)
  | some (.oid x), some (.oid y) => compare (x.nibbles.map Fin.val) (y.nibbles.map Fin.val)
  | _, _ => compare (rank a) (rank b)

def sortLe : SortBy → Document → Document → Bool
  | [], _, _ => true
  | (k, dir) :: s, a, b =>
    match compareValue (valueAt a k) (valueAt b k) with
    | .lt => decide (0 < dir)
    | .gt => decide (dir < 0)
    | .eq => sortLe s a b

def sort (s : SortBy) (l : List Document) : List Document := l.insertionSort (fun a b => sortLe s a b = true)

/-! ## Encoding -/

def encodeId : Value → Except HTTPError Value
  | .str s =>
    match ObjectId.ofHex? s with
    | some o => .ok (.oid o)
    | none => .error (.unhandled "InvalidId")
  | v => .ok v

mutual
def encodeFields (ids : List String) : List (String × Value) → Except HTTPError (List (String × Value))
  | [] => .ok []
  | (k, v) :: m =>
    (if k ∈ ids then encodeId v else encodeValue ids v).bind (fun v' =>
      (encodeFields ids m).map (fun m' => (k, v') :: m'))

def encodeValue (ids : List String) : Value → Except HTTPError Value
  | .doc fs => (encodeFields ids fs).map .doc
  | v => .ok v
end

/-! ## Building matches -/

def andMatch (a b : Match) : Match :=
  if a.all (fun p => b.all (fun q => decide (p.1 ≠ q.1))) then a ++ b
  else [("$and", .list [.doc a, .doc b])]

def filterClauses (fs : Match) (spec : FilterSpec) : Match :=
  fs.filterMap (fun p =>
    (spec.lookup p.1).map (fun f =>
      (f.2, .doc (match f.1 with
        | .contains => [("$regex", p.2), ("$options", .str "i")]
        | .inList => [("$in", p.2)]))))

def buildMatchFilter (base fs : Match) (spec : FilterSpec) : Match := andMatch base (filterClauses fs spec)

def activeClause : String × Value := ("status", .doc [("$ne", .str archivedStatus)])

def claimClause (k : String) (c : Option String) : List Value :=
  match (truthyClaim c).bind ObjectId.ofHex? with
  | some o => [.doc [(k, .oid o)]]
  | none => []

def notificationOutbound (t : Token) : Match :=
  if t.has .admin then []
  else [activeClause, ("$or", .list (claimClause "profile_id" t.profileId ++ claimClause "customer_id" t.customerId ++
    claimClause "mentor_id" t.mentorId ++ [.doc [("global", .doc [("$exists", .bool true)])]]))]

def profileOutbound (t : Token) : Match :=
  if t.has .admin then []
  else [activeClause, ("$or", .list (claimClause "_id" t.profileId ++ claimClause "customer_id" t.customerId ++
    claimClause "mentor_id" t.mentorId ++ claimClause "mentor_id" t.profileId))]

/-! ## Pages and writes -/

def validatePagination (offset size : Int) : Except HTTPError Unit :=
  if 0 ≤ offset ∧ 1 ≤ size ∧ size ≤ maxSize then .ok ()
  else .error (.badRequest "offset must be >= 0 and size between 1 and 100")

def page (s : SortBy) (p : Document → Bool) (c : Collection) (offset size : Int) : Except HTTPError (List Document) := do
  validatePagination offset size
  .ok (((sort s (c.docs.filter p)).drop offset.toNat).take size.toNat)

def notificationIds : List String := ["_id", "profile_id", "customer_id", "mentor_id"]

def notificationSort : SortBy := [("created.at_time", -1), ("_id", -1)]

def getNotifications (c : Collection) (t : Token) (offset size : Int) (m : Match) :
    Except HTTPError (List Document) := do
  let m' ← encodeFields notificationIds m
  page notificationSort (fun d => sat (notificationOutbound t) d && sat m' d) c offset size

def idOf (n : Nat) : ObjectId :=
  ⟨(List.range 24).map (fun i => ⟨n / 16 ^ (23 - i) % 16, Nat.mod_lt _ (Nat.succ_pos 15)⟩), by simp⟩

def freshId (c : Collection) : Option ObjectId :=
  ((List.range (c.docs.length + 1)).map idOf).find? (fun o => !(c.docs.map Document.id).contains o)

theorem freshId_not_mem {c : Collection} {o : ObjectId} (h : freshId c = some o) : o ∉ c.docs.map Document.id := by
  have := List.find?_some h
  simpa using this

def systemManaged : List String := ["_id", "created", "dismissed", "cancelled", "saved"]

/-- The stored fields of a create body: its own without the system-managed ones, ids encoded, and `created`. -/
def createdFields (body : Match) (b : Value) : Except HTTPError Match :=
  (encodeFields notificationIds (body.filter (fun p => !systemManaged.contains p.1))).map (fun m => ("created", b) :: m)

def insert (c : Collection) (d : Document) (h : d.id ∉ c.docs.map Document.id) : Collection where
  docs := c.docs ++ [d]
  ids_nodup := by
    rw [List.map_append, List.nodup_append]
    refine ⟨c.ids_nodup, List.nodup_singleton _, fun a ha b hb => ?_⟩
    rw [List.map_singleton, List.mem_singleton] at hb
    rintro rfl
    exact h (hb ▸ ha)

def createNotification (c : Collection) (body : Match) (_t : Token) (b : Value) :
    Except HTTPError (Collection × Document) :=
  match createdFields body b with
  | .error e => .error e
  | .ok m =>
    match ho : freshId c with
    | none => .error (.unhandled "no fresh id")
    | some o =>
      if h : m.all (fun p => entryWf p.1 p.2) = true then
        let d := Document.ofList o m h
        .ok (insert c d (freshId_not_mem ho), d)
      else .error (.badRequest "Document failed validation")

def getDocument (c : Collection) (id : String) : Except HTTPError (Option Document) :=
  match ObjectId.ofHex? id with
  | some o => .ok (c.find o)
  | none => .error (.unhandled "InvalidId")

def updateDocument (c : Collection) (id : String) (set : Match) : Collection × Option Document :=
  match ObjectId.ofHex? id, set with
  | some o, [("dismissed", b)] => (c.setControl o .dismissed b, (c.find o).map (·.setControl .dismissed b))
  | some o, [("cancelled", b)] => (c.setControl o .cancelled b, (c.find o).map (·.setControl .cancelled b))
  | _, _ => (c, none)

end Reference

open Reference in
/-- api_utils, bson and MongoDB, computed. -/
def reference : ApiUtils where
  str := str
  encodeId := encodeId
  encodeDocument m ids _ := encodeFields ids m
  sat := sat
  sort := sort
  getDocument := getDocument
  getDocuments c m := c.docs.filter (sat m)
  updateDocument := updateDocument
  executeListQuery c m s offset size := page s (sat m) c offset size
  validatePagination := validatePagination
  buildSortBy field order _ := if order = "desc" then [(field, -1), ("_id", -1)] else [(field, 1), ("_id", 1)]
  andMatch := andMatch
  buildMatchFilter := buildMatchFilter
  isAdmin t := t.has .admin
  emptyScopeMatch := [("_id", .doc [("$in", .list [])])]
  buildOutboundMatch t cs := if t.has .admin then [] else [("$and", .list (cs.map .doc))]
  requireOutbound doc m msg := if doc.any (sat m) then .ok () else .error (.notFound msg)
  profileCheckPermission _ _ := .ok ()
  profileOutbound := profileOutbound
  notificationOutbound := notificationOutbound
  getNotifications := getNotifications
  createNotification := createNotification
  profileIdProperties := ["_id", "customer_id", "mentor_id"]
  profileDateProperties := ["created.at_time", "saved.at_time"]
  notificationIdProperties := notificationIds
  notificationDateProperties := []
  journeyIdProperties := ["_id", "profile_id"]
  noteIdProperties := ["_id", "profile_id", "resource_id"]
  eventIdProperties := ["_id", "profile_id"]
  eventDateProperties := ["created.at_time"]
  profileListOrder := ⟨"display_name", "asc", [("display_name", ["asc", "desc"]), ("saved.at_time", ["asc", "desc"])]⟩
  noteListOrder := ⟨"created.at_time", "desc", [("created.at_time", ["asc", "desc"])]⟩
  notificationSort := notificationSort

namespace Reference
open ApiUtils

/-! ## A match, clause by clause -/

theorem splitDot_of_no_dot : ∀ {cs : List Char}, (∀ c ∈ cs, c ≠ '.') → splitDot cs = (cs, none)
  | [], _ => rfl
  | c :: cs, h => by
    have ih := splitDot_of_no_dot (fun x hx => h x (List.mem_cons_of_mem _ hx))
    rw [splitDot, if_neg (h c List.mem_cons_self), ih]

theorem splitDot_append : ∀ {a b : List Char}, (∀ c ∈ a, c ≠ '.') → splitDot (a ++ '.' :: b) = (a, some b)
  | [], _, _ => rfl
  | c :: a, b, h => by
    have ih := splitDot_append (b := b) (fun x hx => h x (List.mem_cons_of_mem _ hx))
    rw [List.cons_append, splitDot, if_neg (h c List.mem_cons_self), ih]

theorem fieldName_iff {k : String} : fieldName k = true ↔ ∀ c ∈ k.toList, c ≠ '.' ∧ c ≠ '$' := by
  simp [fieldName]

theorem valueAt_field (d : Document) {k : String} (h : fieldName k = true) : valueAt d k = d.dict k := by
  rw [valueAt, splitDot_of_no_dot (fun c hc => (fieldName_iff.1 h c hc).1)]

theorem valueAt_path (d : Document) {k sub : String} (h : fieldName k = true) :
    valueAt d (k ++ "." ++ sub) = d.path k sub := by
  have hs : (k ++ "." ++ sub).toList = k.toList ++ '.' :: sub.toList := by simp
  rw [valueAt, hs, splitDot_append (fun c hc => (fieldName_iff.1 h c hc).1)]
  simp only [String.ofList_toList]

theorem sat_append (a b : Match) (d : Document) : sat (a ++ b) d = (sat a d && sat b d) := by
  induction a with
  | nil => simp [sat, satAll]
  | cons p a ih =>
    obtain ⟨k, v⟩ := p
    simp only [sat] at ih
    simp [sat, satAll, ih, Bool.and_assoc]

theorem sat_single (k : String) (v : Value) (d : Document) : sat [(k, v)] d = satValue d k v := by
  simp [sat, satAll]

theorem satValue_literal {d : Document} {k : String} {v : Value} (h : v.literal = true) :
    satValue d k v = decide (valueAt d k = some v) := by
  have hop : ∀ (op : String), op.toList.head? ≠ some '$' → ∀ v, operator d k op v = none := by
    intro op hne v
    unfold operator
    rw [if_neg, if_neg, if_neg, if_neg] <;> rintro rfl <;> exact hne (by decide)
  unfold satValue
  split
  · cases h
  · rename_i op v
    have : op.toList.head? ≠ some '$' := by simpa [Value.literal] using h
    rw [hop op this]; rfl
  · rename_i op v opts w
    have : op.toList.head? ≠ some '$' := by
      simp only [Value.literal, List.all_cons, Bool.and_eq_true, decide_eq_true_eq] at h
      exact h.1
    rw [if_neg]
    rintro rfl; exact this (by decide)
  · rfl

theorem sat_or (ms : List Match) (d : Document) :
    sat [("$or", .list (ms.map Value.doc))] d = ms.any (fun m => sat m d) := by
  rw [sat_single, satValue, if_pos rfl]
  induction ms with
  | nil => rfl
  | cons m ms ih => rw [List.map_cons, satAny, ih, List.any_cons]; rfl

theorem sat_every (ms : List Match) (d : Document) :
    sat [("$and", .list (ms.map Value.doc))] d = ms.all (fun m => sat m d) := by
  rw [sat_single, satValue, if_neg (by decide), if_pos rfl]
  induction ms with
  | nil => rfl
  | cons m ms ih => rw [List.map_cons, satEvery, ih, List.all_cons]; rfl

theorem sat_andMatch (a b : Match) (d : Document) : sat (andMatch a b) d = (sat a d && sat b d) := by
  unfold andMatch
  split
  · exact sat_append a b d
  · rw [show ([.doc a, .doc b] : List Value) = [a, b].map Value.doc from rfl, sat_every]
    simp

/-! ## Encoding, clause by clause -/

theorem encodeFields_append (ids : List String) : ∀ (a b : Match),
    encodeFields ids (a ++ b) = (encodeFields ids a).bind (fun a' => (encodeFields ids b).map (fun b' => a' ++ b'))
  | [], b => by
    cases h : encodeFields ids b <;> simp [encodeFields, Except.bind, Except.map, h]
  | (k, v) :: a, b => by
    rw [List.cons_append, encodeFields, encodeFields, encodeFields_append ids a b]
    cases (if k ∈ ids then encodeId v else encodeValue ids v) with
    | error e => rfl
    | ok v' =>
      cases encodeFields ids a with
      | error e => rfl
      | ok a' => cases encodeFields ids b <;> rfl

theorem encodeFields_keys {ids : List String} : ∀ {m m' : Match}, encodeFields ids m = .ok m' →
    m'.map Prod.fst = m.map Prod.fst
  | [], m', h => by cases h; rfl
  | (k, v) :: m, m', h => by
    rw [encodeFields] at h
    obtain ⟨v', -, h⟩ := Except.ok_of_bind h
    obtain ⟨m₁, hm, rfl⟩ := Except.ok_of_map h
    simp only [List.map_cons, encodeFields_keys hm]

theorem encodeFields_flat (ids : List String) : ∀ {m : Match}, (∀ p ∈ m, p.1 ∉ ids ∧ encodeValue ids p.2 = .ok p.2) →
    encodeFields ids m = .ok m
  | [], _ => rfl
  | (k, v) :: m, h => by
    obtain ⟨hk, hv⟩ := h (k, v) List.mem_cons_self
    have ih := encodeFields_flat ids (fun p hp => h p (List.mem_cons_of_mem _ hp))
    rw [encodeFields, if_neg hk, hv, ih]; rfl

theorem encodeValue_flat (ids : List String) {fs : List (String × Value)}
    (h : ∀ p ∈ fs, p.1 ∉ ids ∧ encodeValue ids p.2 = .ok p.2) : encodeValue ids (.doc fs) = .ok (.doc fs) := by
  rw [encodeValue, encodeFields_flat ids h]
  rfl

theorem encodeValue_inert {ids dates : List String} {v : Value} (h : inertValue ids dates v = true) :
    encodeValue ids v = .ok v := by
  cases v with
  | doc fs =>
    refine encodeValue_flat ids (fun p hp => ?_)
    have hi := List.all_eq_true.1 h p hp
    simp only [Bool.and_eq_true] at hi
    refine ⟨by simpa using hi.1.1, ?_⟩
    rcases p with ⟨k, v⟩
    cases v with
    | list xs => simp at hi
    | doc gs => simp at hi
    | _ => rfl
  | _ => rfl

theorem encodeFields_inert {m : Match} {ids dates : List String} (h : inert ids dates m = true) :
    encodeFields ids m = .ok m :=
  encodeFields_flat ids (fun p hp => by
    have hi := List.all_eq_true.1 h p hp
    simp only [Bool.and_eq_true] at hi
    exact ⟨by simpa using hi.1.1, encodeValue_inert hi.2⟩)

theorem encodeFields_id {k : String} {v : Value} {ids : List String} (hk : k ∈ ids) :
    encodeFields ids [(k, v)] = (encodeId v).map (fun v' => [(k, v')]) := by
  rw [encodeFields, if_pos hk]
  cases encodeId v <;> rfl

theorem sat_encoded_and {a b m : Match} {ids dates : List String} {d : Document} (ha : inert ids dates a = true)
    (hm : encodeFields ids (andMatch a b) = .ok m) (hs : sat m d = true) : sat a d = true := by
  unfold andMatch at hm
  split at hm
  · rw [encodeFields_append, encodeFields_inert ha] at hm
    obtain ⟨b', -, rfl⟩ := Except.ok_of_map hm
    rw [sat_append, Bool.and_eq_true] at hs
    exact hs.1
  · have hand : encodeFields ids [("$and", .list [.doc a, .doc b])] = .ok [("$and", .list [.doc a, .doc b])] := by
      rw [encodeFields]
      split <;> rfl
    rw [hand] at hm
    cases hm
    rw [show ([.doc a, .doc b] : List Value) = [a, b].map Value.doc from rfl, sat_every] at hs
    exact (Bool.and_eq_true _ _ ▸ hs : sat a d = true ∧ _).1

/-! ## Operators -/

theorem sat_operator {k op : String} {v : Value} {d : Document} {b : Bool} (h : operator d k op v = some b) :
    sat [(k, .doc [(op, v)])] d = b := by
  rw [sat_single, satValue, h]; rfl

theorem sat_status {m : Match} {d : Document} (h : sat (activeClause :: m) d = true) :
    d.fields "status" ≠ some (.str archivedStatus) := by
  rw [show activeClause :: m = [activeClause] ++ m from rfl, sat_append, Bool.and_eq_true] at h
  have hs := h.1
  rw [activeClause, sat_operator (b := decide (valueAt d "status" ≠ some (.str archivedStatus))) rfl] at hs
  rw [valueAt_field d (by decide), Document.dict_of_ne d (by decide)] at hs
  exact of_decide_eq_true hs

theorem valueAt_setControl (d : Document) (f : ControlField) (b : Value) {k : String} (hf : fieldName k = true)
    (hk : k ≠ f.name) : valueAt (d.setControl f b) k = valueAt d k := by
  rw [valueAt_field _ hf, valueAt_field _ hf]
  by_cases hid : k = "_id"
  · subst hid; rfl
  · rw [Document.dict_of_ne _ hid, Document.dict_of_ne _ hid, Document.setControl_of_ne _ _ _ hk]

theorem sat_or_control (d : Document) (f : ControlField) (b : Value) : ∀ {ms : List Value},
    (∀ v ∈ ms, ∃ k w, v = .doc [(k, w)] ∧ satValue (d.setControl f b) k w = satValue d k w) →
    satAny (d.setControl f b) ms = satAny d ms
  | [], _ => rfl
  | v :: ms, h => by
    obtain ⟨k, w, rfl, hw⟩ := h v List.mem_cons_self
    have ih := sat_or_control d f b (fun x hx => h x (List.mem_cons_of_mem _ hx))
    simp only [satAny, satAll, hw, ih]

theorem claimClause_eq {k : String} {c : Option String} {v : Value} (h : v ∈ claimClause k c) :
    ∃ o, v = .doc [(k, .oid o)] := by
  unfold claimClause at h
  split at h
  · rename_i o ho
    exact ⟨o, List.mem_singleton.1 h⟩
  · cases h

theorem notificationOutbound_control (t : Token) (d : Document) (f : ControlField) (b : Value) :
    sat (notificationOutbound t) (d.setControl f b) = sat (notificationOutbound t) d := by
  have hclaim : ∀ {k c v}, fieldName k = true → k ≠ f.name → v ∈ claimClause k c →
      ∃ k w, v = .doc [(k, w)] ∧ satValue (d.setControl f b) k w = satValue d k w := by
    intro k c v hk hf hv
    obtain ⟨o, rfl⟩ := claimClause_eq hv
    refine ⟨k, .oid o, rfl, ?_⟩
    rw [satValue_literal rfl, satValue_literal rfl, valueAt_setControl _ _ _ hk hf]
  have hstatus : valueAt (d.setControl f b) "status" = valueAt d "status" :=
    valueAt_setControl _ _ _ (by decide) (by cases f <;> decide)
  have hglobal : valueAt (d.setControl f b) "global" = valueAt d "global" :=
    valueAt_setControl _ _ _ (by decide) (by cases f <;> decide)
  unfold notificationOutbound
  split
  · rfl
  · simp only [sat, satAll, activeClause, satValue, operator, hstatus, if_true]
    rw [sat_or_control]
    intro v hv
    simp only [List.mem_append, List.mem_singleton] at hv
    rcases hv with ((hv | hv) | hv) | rfl
    · exact hclaim (by decide) (by cases f <;> decide) hv
    · exact hclaim (by decide) (by cases f <;> decide) hv
    · exact hclaim (by decide) (by cases f <;> decide) hv
    · refine ⟨"global", _, rfl, ?_⟩
      simp [satValue, operator, hglobal]

/-! ## Pages and writes -/

theorem validate_ok {o n : Int} (ho : 0 ≤ o) (h1 : 1 ≤ n) (hn : n ≤ maxSize) : validatePagination o n = .ok () :=
  if_pos ⟨ho, h1, hn⟩

theorem page_sound {s : SortBy} {p : Document → Bool} {c : Collection} {o n : Int} {ds : List Document}
    (h : page s p c o n = .ok ds) : ∀ d ∈ ds, d ∈ c.docs ∧ p d = true := by
  intro d hd
  obtain ⟨-, -, h⟩ := Except.ok_of_bind h
  cases h
  have hm := List.mem_of_mem_drop (List.mem_of_mem_take hd)
  exact List.mem_filter.1 ((List.perm_insertionSort _ _).mem_iff.1 hm)

theorem sort_perm (s : SortBy) (l : List Document) : (sort s l).Perm l := List.perm_insertionSort _ _

theorem getNotifications_sound {c : Collection} {t : Token} {o n : Int} {m : Match} {ds : List Document}
    (h : getNotifications c t o n m = .ok ds) : ∃ m', encodeFields notificationIds m = .ok m' ∧
      ∀ d ∈ ds, d ∈ c.docs ∧ sat (notificationOutbound t) d = true ∧ sat m' d = true := by
  obtain ⟨m', he, h⟩ := Except.ok_of_bind h
  refine ⟨m', he, fun d hd => ?_⟩
  have hs := page_sound h d hd
  rw [Bool.and_eq_true] at hs
  exact hs

theorem createdFields_lookup {body m : Match} {b : Value} (h : createdFields body b = .ok m) :
    m.lookup "created" = some b ∧ ∀ k ∈ ["dismissed", "cancelled", "saved"], m.lookup k = none := by
  obtain ⟨m', he, rfl⟩ := Except.ok_of_map h
  refine ⟨by simp, fun k hk => ?_⟩
  have hkeys : m'.map Prod.fst = (body.filter (fun p => !systemManaged.contains p.1)).map Prod.fst :=
    encodeFields_keys he
  have hne : k ≠ "created" := by rintro rfl; revert hk; decide
  have hs : k ∈ systemManaged := by
    simp only [List.mem_cons, List.not_mem_nil, or_false] at hk
    rcases hk with rfl | rfl | rfl <;> decide
  rw [List.lookup_cons, show (k == "created") = false from by simpa using hne, Assoc.lookup_eq_none_iff, Assoc.keys,
    hkeys]
  intro hmem
  obtain ⟨q, hq, rfl⟩ := List.mem_map.1 hmem
  have hq' := (List.mem_filter.1 hq).2
  simp [hs] at hq'

theorem createNotification_ok {c c' : Collection} {body : Match} {t : Token} {b : Value} {d : Document}
    (h : createNotification c body t b = .ok (c', d)) :
    c'.docs = c.docs ++ [d] ∧ d.fields "created" = some b ∧
      ∀ k ∈ ["dismissed", "cancelled", "saved"], d.fields k = none := by
  unfold createNotification at h
  split at h
  · cases h
  · rename_i m hm
    split at h
    · cases h
    · split at h
      · cases h
        exact ⟨rfl, createdFields_lookup hm⟩
      · cases h

theorem updateDocument_eq {id : String} {o : ObjectId} (h : ObjectId.ofHex? id = some o) (c : Collection)
    (f : ControlField) (b : Value) :
    updateDocument c id [(f.name, b)] = (c.setControl o f b, (c.find o).map (·.setControl f b)) := by
  unfold updateDocument
  rw [h]
  cases f <;> rfl

end Reference

open Reference in
theorem reference_documented : reference.Documented where
  str_str _ := rfl
  str_oid _ := rfl
  encodeId_hex h := by simp only [reference, encodeId, h]
  encodeId_other h := Or.inr ⟨.unhandled "InvalidId", by simp only [reference, encodeId, h]⟩
  encodeId_oid _ := rfl
  encode_inert h := encodeFields_inert h
  encode_id {k v m ids dates} hk hm := by
    simp only [reference, encodeFields, if_pos hk, encodeFields_inert hm]
    cases encodeId v <;> rfl
  encode_id_last {k v m ids dates} hk hm := by
    simp only [reference, encodeFields_append, encodeFields_inert hm, encodeFields_id hk]
    cases encodeId v <;> rfl
  encode_nested {k m ids dates} hk _ := by
    simp only [reference, encodeFields, if_neg hk, encodeValue]
    cases encodeFields ids m <;> rfl
  encode_and ha hm hs := sat_encoded_and ha hm hs
  sat_nil _ := rfl
  sat_cons p m d := Reference.sat_append [p] m d
  sat_eq hk hv _ := by
    rw [show reference.sat = sat from rfl, sat_single, satValue_literal hv, valueAt_field _ hk, decide_eq_true_eq]
  sat_ne {k v d} hk _ _ := by
    rw [show reference.sat = sat from rfl, sat_operator (b := decide (valueAt d k ≠ some v)) rfl, valueAt_field _ hk,
      decide_eq_true_eq]
  sat_absent {k d} hk := by
    rw [show reference.sat = sat from rfl, sat_operator (b := decide (.bool (valueAt d k).isSome = Value.bool false)) rfl,
      valueAt_field _ hk, decide_eq_true_eq]
    cases d.dict k <;> simp
  sat_path hk _ hv _ _ := by
    rw [show reference.sat = sat from rfl, sat_single, satValue_literal hv, valueAt_path _ hk, decide_eq_true_eq]
  sat_path_gte {k sub t d} hk _ _ _ := by
    rw [show reference.sat = sat from rfl, sat_single, satValue]
    simp only [operator, valueAt_path _ hk]
    cases d.path k sub with
    | none => simp
    | some v => cases v <;> simp
  sat_or := sat_or
  sort_perm := sort_perm
  getDocument_hex h _ := by simp only [reference, getDocument, h]
  getDocument_other h :=
    Or.inr ⟨.unhandled "InvalidId", fun _ => by simp, fun _ => by simp only [reference, getDocument, h]⟩
  getDocuments_eq _ _ := rfl
  updateDocument_eq h := updateDocument_eq h
  validate_ok := validate_ok
  validate_bad h := ⟨_, if_neg h⟩
  listQuery_eq ho h1 hn := by simp only [reference, page, validate_ok ho h1 hn]; rfl
  listQuery_sound h := page_sound h
  sat_and := sat_andMatch
  and_disjoint h := if_pos (by simpa [List.all_eq_true] using h)
  sat_filter base fs spec d := by
    simp only [reference, buildMatchFilter, sat_andMatch, show sat [] d = true from rfl, Bool.true_and]
  sat_no_filter _ _ := rfl
  isAdmin_eq _ := rfl
  outbound_admin h _ := if_pos h
  outbound_all {t} h cs d := by
    simp only [reference, h, Bool.false_eq_true, if_false]
    exact sat_every cs d
  requireOutbound_eq _ _ _ := rfl
  profileRead _ := rfl
  profileOutbound_admin h := if_pos h
  profileOutbound_active h d hs := by
    simp only [reference, profileOutbound, h, Bool.false_eq_true, if_false] at hs
    exact Reference.sat_status hs
  profileIds := by decide
  notificationOutbound_admin h := if_pos h
  notificationOutbound_active h d hs := by
    simp only [reference, notificationOutbound, h, Bool.false_eq_true, if_false] at hs
    exact Reference.sat_status hs
  notificationOutbound_control := notificationOutbound_control
  getNotifications_eq {c t o n m} ho h1 hn := by
    simp only [reference, getNotifications, page, validate_ok ho h1 hn]
    cases encodeFields notificationIds m <;> rfl
  getNotifications_sound h := getNotifications_sound h
  createNotification_ok {_ _ t _ _ _} h := createNotification_ok (t := t) h
  notificationIds := by decide
  journeyIds := by decide
  noteIds := by decide
  eventIds := by decide

end Discovery
