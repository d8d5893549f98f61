import DiscoveryApi.Query
/-!
# Notification — dismissing, cancelling, and the active read

A control request reads the document, checks that the caller sees it and may retire it, and sets one breadcrumb.  The
state is the Notification collection; a request that raises returns the collection it was given.
`setControlBreadcrumb_spec` says all a request can do: what it does depends on the visible document alone.
-/
namespace Discovery

def dismissedField : ControlField := .dismissed
def cancelledField : ControlField := .cancelled

def targetFields : List TargetField := TargetField.all

/-- Match for notifications that carry neither breadcrumb. -/
def activeMatch : Match :=
  [(dismissedField.name, .doc [("$exists", .bool false)]), (cancelledField.name, .doc [("$exists", .bool false)])]

namespace NotificationService

/-- The claim and the target of one field, compared as strings. -/
def claimNamesTarget (api : ApiUtils) (token : Token) (notification : Document) (field : TargetField) : Bool :=
  match notification.dict.value field.name, truthyClaim (token.claim field) with
  | some target, some claim => decide (api.str target = api.str (.str claim))
  | _, _ => false

def checkPermission (api : ApiUtils) (token : Token) (operation : String) (notification : Option Document) :
    Except HTTPError Unit :=
  match notification with
  | none => .ok ()
  | some n =>
    if api.isAdmin token then .ok ()
    else if targetFields.any (claimNamesTarget api token n) then .ok ()
    else .error (.forbidden ("Not permitted to " ++ operation ++ " this notification"))

/-- The read and the checks of a control request. -/
def readForControl (api : ApiUtils) (c : Collection) (notificationId : String) (token : Token) (operation : String) :
    Except HTTPError Unit := do
  let notification ← api.getDocument c notificationId
  api.requireOutbound notification (api.notificationOutbound token) ("Notification " ++ notificationId ++ " not found")
  checkPermission api token operation notification

def setControlBreadcrumb (api : ApiUtils) (c : Collection) (notificationId : String) (token : Token)
    (breadcrumb : Value) (field : ControlField) (operation : String) :
    Collection × Except HTTPError (Option Document) :=
  match readForControl api c notificationId token operation with
  | .error e => (c, .error e)
  | .ok () =>
    let updated := api.updateDocument c notificationId [(field.name, breadcrumb)]
    (updated.1, .ok updated.2)

def dismissNotification (api : ApiUtils) (c : Collection) (notificationId : String) (token : Token)
    (breadcrumb : Value) : Collection × Except HTTPError (Option Document) :=
  setControlBreadcrumb api c notificationId token breadcrumb dismissedField "dismiss"

def cancelNotification (api : ApiUtils) (c : Collection) (notificationId : String) (token : Token)
    (breadcrumb : Value) : Collection × Except HTTPError (Option Document) :=
  setControlBreadcrumb api c notificationId token breadcrumb cancelledField "cancel"

def getActiveNotifications (api : ApiUtils) (c : Collection) (token : Token) (offset size : Int)
    (extra : Option Match) : Except HTTPError (List Document) :=
  api.getNotifications c token offset size (api.andMatch activeMatch (extra.getD []))

/-! ## Either control operation -/

def operationOf : ControlField → String
  | .dismissed => "dismiss"
  | .cancelled => "cancel"

def control (api : ApiUtils) : ControlField → Collection → String → Token → Value →
    Collection × Except HTTPError (Option Document)
  | .dismissed => dismissNotification api
  | .cancelled => cancelNotification api

theorem control_eq (api : ApiUtils) (f : ControlField) (c : Collection) (id : String) (token : Token) (b : Value) :
    control api f c id token b = setControlBreadcrumb api c id token b f (operationOf f) := by
  cases f <;> rfl

/-! ## What a request can do -/

def sees (api : ApiUtils) (token : Token) (d : Document) : Bool := api.sat (api.notificationOutbound token) d

def mayControl (api : ApiUtils) (token : Token) (d : Document) : Bool :=
  api.isAdmin token || targetFields.any (claimNamesTarget api token d)

/-- The document of an id, if the caller sees it. -/
def visible (api : ApiUtils) (token : Token) (c : Collection) (o : ObjectId) : Option Document :=
  (c.find o).filter (sees api token)

def notFoundMessage (id : String) : String := "Notification " ++ id ++ " not found"
def forbiddenMessage (operation : String) : String := "Not permitted to " ++ operation ++ " this notification"

/-- **A request that raises changes nothing**, whoever the caller is. -/
theorem setControlBreadcrumb_error {api : ApiUtils} {c : Collection} {id : String} {token : Token} {b : Value}
    {f : ControlField} {operation : String} {e : HTTPError}
    (he : (setControlBreadcrumb api c id token b f operation).2 = .error e) :
    (setControlBreadcrumb api c id token b f operation).1 = c := by
  unfold setControlBreadcrumb at he ⊢
  split at he
  · rfl
  · cases he

theorem checkPermission_some (api : ApiUtils) (token : Token) (operation : String) (d : Document) :
    checkPermission api token operation (some d) =
      if mayControl api token d then .ok () else .error (.forbidden (forbiddenMessage operation)) := by
  unfold mayControl checkPermission
  cases api.isAdmin token <;> rfl

section
variable {api : ApiUtils} (h : api.Documented)
include h

theorem readForControl_hex {id : String} {o : ObjectId} (hid : ObjectId.ofHex? id = some o) (c : Collection)
    (token : Token) (operation : String) :
    readForControl api c id token operation =
      match visible api token c o with
      | none => .error (.notFound (notFoundMessage id))
      | some d => if mayControl api token d then .ok () else .error (.forbidden (forbiddenMessage operation)) := by
  unfold readForControl visible
  rw [h.getDocument_hex hid c]
  simp only [bind, Except.bind, h.requireOutbound_eq]
  cases c.find o with
  | none => rfl
  | some d =>
    have hsees : api.sat (api.notificationOutbound token) d = sees api token d := rfl
    rw [Option.any_some, hsees]
    cases hs : sees api token d with
    | false => rw [Option.filter_some_neg hs]; rfl
    | true => rw [Option.filter_some_pos hs]; exact checkPermission_some api token operation d

/-- **All a control request can do**, when its id is one: nothing unless the caller sees the document and may retire
it. -/
theorem setControlBreadcrumb_spec {id : String} {o : ObjectId} (hid : ObjectId.ofHex? id = some o) (c : Collection)
    (token : Token) (b : Value) (f : ControlField) (operation : String) :
    setControlBreadcrumb api c id token b f operation =
      match visible api token c o with
      | none => (c, .error (.notFound (notFoundMessage id)))
      | some d =>
        if mayControl api token d then (c.setControl o f b, .ok (some (d.setControl f b)))
        else (c, .error (.forbidden (forbiddenMessage operation))) := by
  unfold setControlBreadcrumb
  rw [readForControl_hex h hid]
  cases hv : visible api token c o with
  | none => rfl
  | some d =>
    have hfind : c.find o = some d := (Option.filter_eq_some_iff.1 hv).1
    cases hm : mayControl api token d with
    | false => simp [hm]
    | true => simp [hm, h.updateDocument_eq hid, hfind]

/-- A string that is no id makes a request that fails the same way on every collection. -/
theorem setControlBreadcrumb_other {id : String} (hid : ObjectId.ofHex? id = none) (token : Token) (operation : String) :
    ∃ e, (∀ msg, e ≠ .forbidden msg) ∧ ∀ c b f, setControlBreadcrumb api c id token b f operation = (c, .error e) := by
  rcases h.getDocument_other hid with hn | ⟨e, hne, he⟩
  · refine ⟨.notFound (notFoundMessage id), fun _ => by simp, fun c b f => ?_⟩
    unfold setControlBreadcrumb readForControl
    rw [hn c]
    simp only [bind, Except.bind, h.requireOutbound_eq]
    rfl
  · refine ⟨e, hne, fun c b f => ?_⟩
    unfold setControlBreadcrumb readForControl
    rw [he c]
    rfl

theorem setControlBreadcrumb_collection (c : Collection) (id : String) (token : Token) (b : Value) (f : ControlField)
    (operation : String) : (setControlBreadcrumb api c id token b f operation).1 = c ∨
      ∃ o, ObjectId.ofHex? id = some o ∧ (setControlBreadcrumb api c id token b f operation).1 = c.setControl o f b := by
  cases hid : ObjectId.ofHex? id with
  | none =>
    obtain ⟨e, -, he⟩ := setControlBreadcrumb_other h hid token operation
    rw [he]
    exact Or.inl rfl
  | some o =>
    rw [setControlBreadcrumb_spec h hid]
    split
    · exact Or.inl rfl
    · split
      · exact Or.inr ⟨o, rfl, rfl⟩
      · exact Or.inl rfl

theorem sees_setControl (token : Token) (d : Document) (f : ControlField) (b : Value) :
    sees api token (d.setControl f b) = sees api token d := h.notificationOutbound_control token d f b

end

theorem dict_setControl_target (d : Document) (f : ControlField) (b : Value) (k : TargetField) :
    (d.setControl f b).dict k.name = d.dict k.name := by
  rw [Document.dict_fields _ k.name_mem, Document.dict_fields _ k.name_mem,
    Document.setControl_of_ne _ _ _ (by cases k <;> cases f <;> decide)]

/-- The check reads only fields no request writes. -/
theorem mayControl_setControl (api : ApiUtils) (token : Token) (d : Document) (f : ControlField) (b : Value) :
    mayControl api token (d.setControl f b) = mayControl api token d := by
  have hk : ∀ k, claimNamesTarget api token (d.setControl f b) k = claimNamesTarget api token d k := fun k => by
    unfold claimNamesTarget Dict.value
    rw [dict_setControl_target]
  rw [mayControl, mayControl, funext hk]

end NotificationService
end Discovery
