import DiscoveryApi.Lib.Unwinding
import DiscoveryApi.Concurrency
import DiscoveryApi.HomeNoninterference
/-!
# UnseenCalls — what other callers do out of a caller's sight

A read of another caller, and its control request on a notification the viewer does not see, leave no trace in anything
the viewer is ever answered: the viewer's transcript of a run is that of the run without them.
-/
namespace Discovery

deriving instance DecidableEq for Token

/-- A create reads no stored document, only which ids are taken. -/
def ApiUtils.CreatesByIds (api : ApiUtils) : Prop :=
  ∀ {c c' : Collection}, c.docs.map Document.id = c'.docs.map Document.id → ∀ body token b,
    (api.createNotification c body token b).map Prod.snd = (api.createNotification c' body token b).map Prod.snd

namespace Concurrency

open NotificationService (sees visible SameVisible visible_eq_some_iff)
open CardService
open Unwinding (Purge Conditions transcript)

/-! ## What a viewer cannot see -/

def Call.token : Call → Token
  | .notification (.create _ token _) => token
  | .notification (.control _ _ token _) => token
  | .home token _ _ _ => token
  | .list token _ => token

/-- A call that touches nothing the viewer sees: a read, or a control request of a notification hidden from it. -/
def TouchesUnseen (api : ApiUtils) (viewer : Token) (s : Store) : Call → Prop
  | .notification (.create ..) => False
  | .notification (.control _ id _ _) =>
    ∀ o, ObjectId.ofHex? id = some o → visible api viewer s.notifications o = none
  | .home .. => True
  | .list .. => True

/-- A call of another caller that touches nothing the viewer sees. -/
def Unseen (api : ApiUtils) (viewer : Token) (s : Store) (call : Call) : Prop :=
  call.token ≠ viewer ∧ TouchesUnseen api viewer s call

/-- Two collections with the same ids that hold the same documents the viewer sees, in the same order. -/
structure SameView (api : ApiUtils) (viewer : Token) (c c' : Collection) : Prop where
  ids : c.docs.map Document.id = c'.docs.map Document.id
  view : Agree.On (sees api viewer) c.docs c'.docs

/-- Two stores that look alike to the viewer. -/
structure LookAlike (api : ApiUtils) (viewer : Token) (s s' : Store) : Prop where
  notifications : SameView api viewer s.notifications s'.notifications
  unwritten : Unwritten s s'

theorem SameView.refl (api : ApiUtils) (viewer : Token) (c : Collection) : SameView api viewer c c := ⟨rfl, rfl⟩

theorem SameView.trans {api : ApiUtils} {viewer : Token} {a b c : Collection} (hab : SameView api viewer a b)
    (hbc : SameView api viewer b c) : SameView api viewer a c := ⟨hab.ids.trans hbc.ids, hab.view.trans hbc.view⟩

theorem SameView.symm {api : ApiUtils} {viewer : Token} {c c' : Collection} (hs : SameView api viewer c c') :
    SameView api viewer c' c := ⟨hs.ids.symm, hs.view.symm⟩

theorem SameView.sameVisible {api : ApiUtils} {viewer : Token} {c c' : Collection} (hs : SameView api viewer c c') :
    SameVisible api viewer c c' := by
  intro d hd
  have hmem : d ∈ c.docs.filter (sees api viewer) ↔ d ∈ c'.docs.filter (sees api viewer) := by rw [hs.view]
  simpa only [List.mem_filter, hd, and_true] using hmem

theorem LookAlike.refl (api : ApiUtils) (viewer : Token) (s : Store) : LookAlike api viewer s s :=
  ⟨SameView.refl api viewer _, Unwritten.refl s⟩

theorem LookAlike.trans {api : ApiUtils} {viewer : Token} {a b c : Store} (hab : LookAlike api viewer a b)
    (hbc : LookAlike api viewer b c) : LookAlike api viewer a c :=
  ⟨hab.notifications.trans hbc.notifications, hab.unwritten.trans hbc.unwritten⟩

/-! ## A breadcrumb and a create, by the view -/

section
variable {api : ApiUtils} (h : api.Documented) {viewer : Token}
include h

theorem filter_setControl (ds : List Document) (o : ObjectId) (f : ControlField) (b : Value) :
    (ds.map (fun d => if d.id = o then d.setControl f b else d)).filter (sees api viewer) =
      (ds.filter (sees api viewer)).map (fun d => if d.id = o then d.setControl f b else d) := by
  rw [List.filter_map]
  refine congrArg _ (List.filter_congr (fun d _ => ?_))
  simp only [Function.comp_apply]
  split
  · exact NotificationService.sees_setControl h viewer d f b
  · rfl

theorem SameView.setControl {c c' : Collection} (hs : SameView api viewer c c') (o : ObjectId) (f : ControlField)
    (b : Value) : SameView api viewer (c.setControl o f b) (c'.setControl o f b) where
  ids := by
    rw [Collection.setControl, Collection.setControl, Collection.map_id_setControl, Collection.map_id_setControl, hs.ids]
  view := by
    rw [Agree.On, Collection.setControl, Collection.setControl, filter_setControl h, filter_setControl h, hs.view]

/-- A breadcrumb on a document the viewer does not see is not seen. -/
theorem sameView_setControl_unseen {c : Collection} {o : ObjectId} (ho : visible api viewer c o = none)
    (f : ControlField) (b : Value) : SameView api viewer (c.setControl o f b) c where
  ids := Collection.map_id_setControl c.docs o f b
  view := by
    rw [Agree.On, Collection.setControl, filter_setControl h]
    refine (List.map_congr_left (fun d hd => if_neg (fun hid => ?_))).trans (List.map_id _)
    obtain ⟨hmem, hsees⟩ := List.mem_filter.1 hd
    rw [visible_eq_some_iff.2 ⟨⟨hmem, hid⟩, hsees⟩] at ho
    cases ho

/-- A control request, by anyone, on what the viewer does not see. -/
theorem sameView_control_unseen {c : Collection} {id : String}
    (hid : ∀ o, ObjectId.ofHex? id = some o → visible api viewer c o = none) (f : ControlField) (token : Token)
    (b : Value) : SameView api viewer (NotificationService.control api f c id token b).1 c := by
  rcases NotificationService.control_collection h f c id token b with hc | ⟨o, ho, hc⟩
  · rw [hc]
    exact SameView.refl api viewer c
  · rw [hc]
    exact sameView_setControl_unseen h (hid o ho) f b

/-- **A control request, by anyone, keeps two collections alike to the viewer**: on a document the viewer sees it does
the same to both, and elsewhere nothing the viewer sees. -/
theorem SameView.control {c c' : Collection} (hs : SameView api viewer c c') (f : ControlField) (id : String)
    (token : Token) (b : Value) : SameView api viewer (NotificationService.control api f c id token b).1
      (NotificationService.control api f c' id token b).1 := by
  have hvisible : ∀ o, visible api viewer c o = visible api viewer c' o :=
    NotificationService.visible_congr hs.sameVisible
  by_cases hall : ∀ o, ObjectId.ofHex? id = some o → visible api viewer c o = none
  · have hall' : ∀ o, ObjectId.ofHex? id = some o → visible api viewer c' o = none := fun o ho =>
      (hvisible o).symm.trans (hall o ho)
    exact ((sameView_control_unseen h hall f token b).trans hs).trans (sameView_control_unseen h hall' f token b).symm
  · simp only [not_forall] at hall
    obtain ⟨o, ho, hseen⟩ := hall
    obtain ⟨d, hd⟩ := Option.ne_none_iff_exists'.1 hseen
    have hfind : c.find o = some d := (Option.filter_eq_some_iff.1 hd).1
    have hfind' : c'.find o = some d := (Option.filter_eq_some_iff.1 ((hvisible o).symm.trans hd)).1
    have hcaller : visible api token c o = visible api token c' o := by rw [visible, visible, hfind, hfind']
    rw [NotificationService.control_eq, NotificationService.control_eq,
      NotificationService.setControlBreadcrumb_spec h ho, NotificationService.setControlBreadcrumb_spec h ho, hcaller]
    split
    · exact hs
    · split
      · exact hs.setControl h o f b
      · exact hs

/-- **A create answers alike and keeps two collections alike to the viewer.** -/
theorem SameView.create (hcreate : api.CreatesByIds) {c c' : Collection} (hs : SameView api viewer c c') (body : Match)
    (token : Token) (b : Value) :
    (NotificationService.create api c body token b).2 = (NotificationService.create api c' body token b).2 ∧
      SameView api viewer (NotificationService.create api c body token b).1
        (NotificationService.create api c' body token b).1 := by
  have hsame := hcreate hs.ids body token b
  unfold NotificationService.create
  cases hc : api.createNotification c body token b with
  | error e =>
    cases hc' : api.createNotification c' body token b with
    | error e' =>
      rw [hc, hc'] at hsame
      cases hsame
      exact ⟨rfl, hs⟩
    | ok p => rw [hc, hc'] at hsame; cases hsame
  | ok p =>
    obtain ⟨c₁, d⟩ := p
    cases hc' : api.createNotification c' body token b with
    | error e' => rw [hc, hc'] at hsame; cases hsame
    | ok p' =>
      obtain ⟨c₁', d'⟩ := p'
      rw [hc, hc'] at hsame
      cases hsame
      have hdocs := (h.createNotification_ok hc).1
      have hdocs' := (h.createNotification_ok hc').1
      refine ⟨rfl, ?_, ?_⟩
      · simp only [hdocs, hdocs', List.map_append, hs.ids]
      · have hview := hs.view
        simp only [Agree.On, hdocs, hdocs', List.filter_append] at hview ⊢
        rw [hview]

end

/-! ## The viewer's answers -/

section
variable {api : ApiUtils} (h : api.Documented) {viewer : Token}
include h

omit h in
/-- The page of a query the viewer's outbound match is part of. -/
theorem SameView.pageOf {c c' : Collection} (hs : SameView api viewer c c') (sort : SortBy) (p : Document → Bool)
    (offset size : Int) : api.pageOf sort (fun d => sees api viewer d && p d) c offset size =
      api.pageOf sort (fun d => sees api viewer d && p d) c' offset size := by
  have hq : Agree.On (fun d => sees api viewer d && p d) c.docs c'.docs :=
    hs.view.narrow (fun d hd => (Bool.and_eq_true _ _ ▸ hd : _ ∧ _).1)
  rw [ApiUtils.pageOf, ApiUtils.pageOf, show c.docs.filter _ = c'.docs.filter _ from hq]

theorem SameView.listCards {c c' : Collection} (hs : SameView api viewer c c') {offset size : Int} (ho : 0 ≤ offset)
    (h1 : 1 ≤ size) (hn : size ≤ maxSize) (extra : Match) (calls : List NotificationCardService.Call) :
    NotificationCardService.listCards api c viewer offset size extra calls =
      NotificationCardService.listCards api c' viewer offset size extra calls := by
  unfold NotificationCardService.listCards
  rw [h.getNotifications_eq ho h1 hn, h.getNotifications_eq ho h1 hn]
  have hpage := fun m => hs.pageOf api.notificationSort (api.sat m) offset size
  unfold sees at hpage
  simp only [hpage]

theorem SameView.list {c c' : Collection} (hs : SameView api viewer c c') {lists : ListUtils} (hl : lists.Documented)
    (request : Discovery.Request) : CardRoutes.getNotificationCards api lists c viewer request =
      CardRoutes.getNotificationCards api lists c' viewer request := by
  unfold CardRoutes.getNotificationCards
  split
  · rfl
  · rename_i parsed hp
    obtain ⟨ho, h1, hn⟩ := hl.page hp
    unfold NotificationCardService.getNotifications
    simp only [hs.listCards h ho h1 hn]

omit h in
theorem LookAlike.homeSections {s s' : Store} (hs : LookAlike api viewer s s') (now : Int) :
    homeSections api s viewer now = homeSections api s' viewer now := by
  have hnotifications : notificationCards api s viewer = notificationCards api s' viewer := by
    unfold notificationCards allNotifications
    cases truthyClaim viewer.profileId with
    | none => rfl
    | some p =>
      have hq : Agree.On (fun d => sees api viewer d && (isActive d && d.names "profile_id" p))
          s.notifications.docs s'.notifications.docs :=
        hs.notifications.view.narrow (fun d hd => (Bool.and_eq_true _ _ ▸ hd : _ ∧ _).1)
      simp only [show s.notifications.docs.filter _ = s'.notifications.docs.filter _ from hq]
  obtain ⟨_, customers, profiles, journeys, events, notes, _⟩ := s
  obtain ⟨_, _, _, _, _, _, _⟩ := s'
  obtain ⟨rfl, rfl, rfl, rfl, rfl⟩ := hs.unwritten
  unfold CardService.homeSections
  rw [hnotifications]
  rfl

theorem LookAlike.home {s s' : Store} (hs : LookAlike api viewer s s') (now offset size : Int) :
    getHomeCards api s viewer now offset size = getHomeCards api s' viewer now offset size := by
  by_cases hp : ValidPage offset size
  · obtain ⟨o, k, rfl, rfl, h1, hk⟩ := hp.nat
    rw [getHomeCards_eq h s viewer now o h1 hk, getHomeCards_eq h s' viewer now o h1 hk, hs.homeSections now]
  · obtain ⟨msg, hv⟩ := h.validate_bad hp
    unfold getHomeCards
    rw [hv]
    rfl

/-- **Every answer to the viewer is the same in two stores that look alike to it.** -/
theorem LookAlike.answer (hcreate : api.CreatesByIds) {lists : ListUtils} (hl : lists.Documented) {s s' : Store}
    (hs : LookAlike api viewer s s') (call : Call) (hc : call.token = viewer) :
    (serve api lists s call).2 = (serve api lists s' call).2 := by
  subst hc
  cases call with
  | notification r =>
    cases r with
    | create body token b =>
      exact congrArg (Except.map Answer.document) (hs.notifications.create h hcreate body token b).1
    | control f id token b =>
      exact congrArg (Except.map Answer.document)
        (NotificationService.control_same h token f id b hs.notifications.sameVisible).1
  | home token now offset size => exact congrArg (Except.map Answer.cards) (hs.home h now offset size)
  | list token request =>
    exact congrArg (fun reply => Except.map Answer.cards reply.result) (hs.notifications.list h hl request)

/-- Any call, whoever makes it, keeps two stores alike to the viewer. -/
theorem LookAlike.serve (hcreate : api.CreatesByIds) (lists : ListUtils) {s s' : Store}
    (hs : LookAlike api viewer s s') (call : Call) :
    LookAlike api viewer (serve api lists s call).1 (serve api lists s' call).1 := by
  cases call with
  | notification r =>
    refine ⟨?_, ⟨hs.unwritten.customers, hs.unwritten.profiles, hs.unwritten.journeys, hs.unwritten.events,
      hs.unwritten.notes⟩⟩
    cases r with
    | create body token b => exact (hs.notifications.create h hcreate body token b).2
    | control f id token b => exact hs.notifications.control h f id token b
  | home token now offset size => exact hs
  | list token request => exact hs

theorem lookAlike_unseen (lists : ListUtils) {s : Store} {call : Call} (hc : TouchesUnseen api viewer s call) :
    LookAlike api viewer (serve api lists s call).1 s := by
  cases call with
  | notification r =>
    cases r with
    | create body token b => exact hc.elim
    | control f id token b => exact ⟨sameView_control_unseen h hc f token b, ⟨rfl, rfl, rfl, rfl, rfl⟩⟩
  | home token now offset size => exact LookAlike.refl api viewer s
  | list token request => exact LookAlike.refl api viewer s

theorem unseen_conditions (hcreate : api.CreatesByIds) {lists : ListUtils} (hl : lists.Documented) :
    Conditions (serve api lists) (LookAlike api viewer) (Unseen api viewer) (fun call => decide (call.token = viewer))
    where
  trans := LookAlike.trans
  step hs call := hs.serve h hcreate lists call
  answer hs call hc := hs.answer h hcreate hl call (of_decide_eq_true hc)
  dropped hc := ⟨lookAlike_unseen h lists hc.2, decide_eq_false hc.1⟩

/-- **No trace of what a caller cannot see.**  Leave out of a run any reads of other callers and any control requests
of theirs on notifications the viewer did not see when they were served: the viewer's requests get the same answers,
all along the run, and the stores at the end look alike to it. -/
theorem unseen_calls_traceless (hcreate : api.CreatesByIds) {lists : ListUtils} (hl : lists.Documented) {s : Store}
    {calls kept : List Call} (hp : Purge (serve api lists) (Unseen api viewer) s calls kept) :
    transcript (serve api lists) (fun call => decide (call.token = viewer)) s calls =
      transcript (serve api lists) (fun call => decide (call.token = viewer)) s kept ∧
    LookAlike api viewer (Runs.run (serve api lists) s calls).1 (Runs.run (serve api lists) s kept).1 :=
  hp.alike (unseen_conditions h hcreate hl) (LookAlike.refl api viewer s)

end

/-! ## On concrete calls -/

theorem reference_createsByIds : reference.CreatesByIds := by
  intro c c' hids body token b
  have hlength : c.docs.length = c'.docs.length := by
    rw [← List.length_map (f := Document.id), hids, List.length_map]
  have hfresh : Reference.freshId c = Reference.freshId c' := by rw [Reference.freshId, Reference.freshId, hlength, hids]
  have hsnd : ∀ c : Collection, (Reference.createNotification c body token b).map Prod.snd =
      (Reference.createdFields body b).bind (fun m =>
        match Reference.freshId c with
        | none => .error (.unhandled "no fresh id")
        | some o => if h : m.all (fun p => entryWf p.1 p.2) = true then .ok (Document.ofList o m h)
          else .error (.badRequest "Document failed validation")) := fun c => by
    unfold Reference.createNotification
    cases Reference.createdFields body b with
    | error e => rfl
    | ok m =>
      simp only [Except.bind]
      split
      · rename_i ho
        simp only [ho]
        rfl
      · rename_i o ho
        simp only [ho]
        split <;> rfl
  have hc := hsnd c
  rw [hfresh] at hc
  exact hc.trans (hsnd c').symm

/-- The admin cancels a notification of another profile between two home reads of the mentee. -/
def cancelBetween : List Call :=
  [.home NotificationService.menteeToken 0 0 20,
   .notification (.control .cancelled "000000000000000000000002" ⟨some "mike", some [.admin], none, none, none⟩ .null),
   .home NotificationService.menteeToken 0 0 20]

theorem unseen_calls_traceless_cancel :
    transcript (serve reference referenceLists) (fun call => decide (call.token = NotificationService.menteeToken))
        (notificationsOnly NotificationService.otherNotifications) cancelBetween =
      transcript (serve reference referenceLists) (fun call => decide (call.token = NotificationService.menteeToken))
        (notificationsOnly NotificationService.otherNotifications)
        [.home NotificationService.menteeToken 0 0 20, .home NotificationService.menteeToken 0 0 20] := by
  have hunseen : Unseen reference NotificationService.menteeToken
      (notificationsOnly NotificationService.otherNotifications) cancelBetween[1] := by
    refine ⟨by decide, fun o ho => ?_⟩
    have ho' : o = Reference.idOf 2 := Option.some.inj (ho.symm.trans (by decide))
    rw [ho']
    decide
  exact (unseen_calls_traceless reference_documented reference_createsByIds referenceLists_documented
    (.keep _ (.drop hunseen (.keep _ (.nil _))))).1

end Concurrency
end Discovery
