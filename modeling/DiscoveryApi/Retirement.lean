import DiscoveryApi.HomePaging
import DiscoveryApi.Lib.Runs
/-!
# Retirement — what any run of create, dismiss and cancel keeps

No request removes a document, takes a breadcrumb away or writes another field, so a retired notification stays retired
through every run, and both reads of active notifications leave it out.
-/
namespace Discovery
namespace NotificationService

open CardService (isActive)

/-! ## Requests -/

/-- A call of the control surface: the create, or either control operation. -/
inductive Request where
  | create (body : Match) (token : Token) (breadcrumb : Value)
  | control (field : ControlField) (notificationId : String) (token : Token) (breadcrumb : Value)

abbrev Outcome := Except HTTPError (Option Document)

def create (api : ApiUtils) (c : Collection) (body : Match) (token : Token) (b : Value) : Collection × Outcome :=
  match api.createNotification c body token b with
  | .error e => (c, .error e)
  | .ok (c', d) => (c', .ok (some d))

def serve (api : ApiUtils) (c : Collection) : Request → Collection × Outcome
  | .create body token b => create api c body token b
  | .control f id token b => control api f c id token b

def after (api : ApiUtils) (c : Collection) (requests : List Request) : Collection :=
  (Runs.run (serve api) c requests).1

/-! ## What one request keeps -/

/-- A control call changes nothing, or sets its breadcrumb on the one document its id denotes. -/
theorem control_collection {api : ApiUtils} (h : api.Documented) (f : ControlField) (c : Collection) (id : String)
    (token : Token) (b : Value) : (control api f c id token b).1 = c ∨
      ∃ o, ObjectId.ofHex? id = some o ∧ (control api f c id token b).1 = c.setControl o f b := by
  rw [control_eq]
  exact setControlBreadcrumb_collection h c id token b f (operationOf f)

theorem create_collection {api : ApiUtils} (h : api.Documented) (c : Collection) (body : Match) (token : Token)
    (b : Value) : (create api c body token b).1 = c ∨ ∃ d, (create api c body token b).1.docs = c.docs ++ [d] := by
  unfold create
  cases hc : api.createNotification c body token b with
  | error e => exact Or.inl rfl
  | ok x =>
    obtain ⟨c', d⟩ := x
    exact Or.inr ⟨d, (h.createNotification_ok hc).1⟩

/-- The document in a later state: the same id, no breadcrumb lost, every other field as it was. -/
def LaterOf (d d' : Document) : Prop :=
  d'.id = d.id ∧ (∀ f : ControlField, d.fields f.name ≠ none → d'.fields f.name ≠ none) ∧
    ∀ k, (∀ f : ControlField, k ≠ f.name) → d'.fields k = d.fields k

theorem LaterOf.refl (d : Document) : LaterOf d d := ⟨rfl, fun _ hf => hf, fun _ _ => rfl⟩

theorem LaterOf.trans {a b c : Document} (hab : LaterOf a b) (hbc : LaterOf b c) : LaterOf a c :=
  ⟨hbc.1.trans hab.1, fun f hf => hbc.2.1 f (hab.2.1 f hf), fun k hk => (hbc.2.2 k hk).trans (hab.2.2 k hk)⟩

theorem laterOf_setControl (d : Document) (f : ControlField) (b : Value) : LaterOf d (d.setControl f b) := by
  refine ⟨rfl, fun g hg => ?_, fun k hk => d.setControl_of_ne f b (hk f)⟩
  by_cases hfg : g.name = f.name
  · rw [hfg, Document.setControl_self]
    exact Option.some_ne_none b
  · rw [Document.setControl_of_ne _ _ _ hfg]
    exact hg

def Keeps (c c' : Collection) : Prop := ∀ d ∈ c.docs, ∃ d' ∈ c'.docs, LaterOf d d'

theorem Keeps.refl (c : Collection) : Keeps c c := fun d hd => ⟨d, hd, LaterOf.refl d⟩

theorem Keeps.trans {a b c : Collection} (hab : Keeps a b) (hbc : Keeps b c) : Keeps a c := by
  intro d hd
  obtain ⟨d', hd', hl⟩ := hab d hd
  obtain ⟨d'', hd'', hl'⟩ := hbc d' hd'
  exact ⟨d'', hd'', hl.trans hl'⟩

theorem keeps_setControl (c : Collection) (o : ObjectId) (f : ControlField) (b : Value) :
    Keeps c (c.setControl o f b) := by
  intro d hd
  by_cases ho : d.id = o
  · exact ⟨_, mem_setControl_iff.2 (Or.inr ⟨d, hd, ho, rfl⟩), laterOf_setControl d f b⟩
  · exact ⟨d, mem_setControl_iff.2 (Or.inl ⟨hd, ho⟩), LaterOf.refl d⟩

/-- **One request keeps every document.** -/
theorem keeps_serve {api : ApiUtils} (h : api.Documented) (c : Collection) (r : Request) :
    Keeps c (serve api c r).1 := by
  cases r with
  | create body token b =>
    rcases create_collection h c body token b with hc | ⟨d, hc⟩
    · rw [serve, hc]
      exact Keeps.refl c
    · intro e he
      refine ⟨e, ?_, LaterOf.refl e⟩
      rw [serve, hc]
      exact List.mem_append_left _ he
  | control f id token b =>
    rcases control_collection h f c id token b with hc | ⟨o, -, hc⟩
    · rw [serve, hc]
      exact Keeps.refl c
    · rw [serve, hc]
      exact keeps_setControl c o f b

theorem keeps_after {api : ApiUtils} (h : api.Documented) (c : Collection) (requests : List Request) :
    Keeps c (after api c requests) :=
  Runs.run_rel Keeps.refl Keeps.trans (keeps_serve h) requests c

/-! ## One control call, one field -/

def fieldAt (c : Collection) (o : ObjectId) (k : String) : Option Value := (c.find o).bind (fun d => d.fields k)

/-- The same ids in the same order, and no two places where the fields differ. -/
def ChangesOneField (c c' : Collection) : Prop :=
  c'.docs.map Document.id = c.docs.map Document.id ∧
  ∀ o k o' k', fieldAt c' o k ≠ fieldAt c o k → fieldAt c' o' k' ≠ fieldAt c o' k' → o = o' ∧ k = k'

theorem fieldAt_setControl (c : Collection) {o o' : ObjectId} {f : ControlField} (b : Value) {k : String}
    (hne : fieldAt (c.setControl o f b) o' k ≠ fieldAt c o' k) : o' = o ∧ k = f.name := by
  unfold fieldAt at hne
  rw [Collection.find_setControl] at hne
  split at hne
  · rename_i ho
    refine ⟨ho, by_contra fun hk => hne ?_⟩
    subst ho
    cases c.find o' with
    | none => rfl
    | some d => exact d.setControl_of_ne f b hk
  · exact absurd rfl hne

theorem control_changesOneField {api : ApiUtils} (h : api.Documented) (f : ControlField) (c : Collection) (id : String)
    (token : Token) (b : Value) : ChangesOneField c (control api f c id token b).1 := by
  rcases control_collection h f c id token b with hc | ⟨o, -, hc⟩
  · rw [hc]
    exact ⟨rfl, fun _ _ _ _ hne => absurd rfl hne⟩
  · rw [hc]
    refine ⟨Collection.map_id_setControl c.docs o f b, fun o₁ k₁ o₂ k₂ h₁ h₂ => ?_⟩
    obtain ⟨rfl, rfl⟩ := fieldAt_setControl c b h₁
    obtain ⟨rfl, rfl⟩ := fieldAt_setControl c b h₂
    exact ⟨rfl, rfl⟩

/-! ## The reads leave retired notifications out -/

def Retired (d : Document) : Prop := ∃ f : ControlField, d.fields f.name ≠ none

theorem not_active_of_retired {d : Document} (hd : Retired d) : isActive d = false := by
  obtain ⟨f, hf⟩ := hd
  have hs : (d.fields f.name).isNone = false := by
    cases hv : d.fields f.name with
    | none => exact absurd hv hf
    | some v => rfl
  unfold isActive
  cases f with
  | dismissed => rw [show d.fields "dismissed" = d.fields (ControlField.name .dismissed) from rfl, hs, Bool.false_and]
  | cancelled => rw [show d.fields "cancelled" = d.fields (ControlField.name .cancelled) from rfl, hs, Bool.and_false]

/-- **An active read returns active documents**, whatever match is AND'd on, for any caller and page. -/
theorem getActiveNotifications_active {api : ApiUtils} (h : api.Documented) {c : Collection} {token : Token}
    {offset size : Int} {extra : Option Match} {ds : List Document}
    (hq : getActiveNotifications api c token offset size extra = .ok ds) : ∀ d ∈ ds, d ∈ c.docs ∧ isActive d = true := by
  intro d hd
  obtain ⟨m, hm, hall⟩ := h.getNotifications_sound hq
  obtain ⟨hmem, -, hsat⟩ := hall d hd
  have hact := h.encode_and (CardService.inert_activeMatch h) hm hsat
  rw [CardService.sat_activeMatch h] at hact
  exact ⟨hmem, hact⟩

theorem id_ne_of_active {c : Collection} {d e : Document} (hd : d ∈ c.docs) (hr : Retired d) (he : e ∈ c.docs)
    (ha : isActive e = true) : e.id ≠ d.id := by
  intro hid
  rw [List.inj_on_of_nodup_map c.ids_nodup he hd hid, not_active_of_retired hr] at ha
  cases ha

end NotificationService

/-! ## The Notification section of the home list -/

namespace CardService

open NotificationService (getActiveNotifications_active)

section
variable {api : ApiUtils} (h : api.Documented)
include h

theorem notificationSection_active {store : Store} {token : Token} {n : Int} {ns : List Card}
    (hns : notificationSection api store token n = .ok ns) {card : Card} (hc : card ∈ ns) :
    ∃ d ∈ store.notifications.docs, isActive d = true ∧ card.id = some (.oid d.id) := by
  unfold notificationSection at hns
  split at hns
  · cases hns
    cases hc
  · obtain ⟨ds, hds, hns⟩ := Except.ok_of_bind hns
    rw [projectAll_known api rfl] at hns
    cases hns
    obtain ⟨d, hd, rfl⟩ := List.mem_map.1 hc
    obtain ⟨hmem, hact⟩ := getActiveNotifications_active h hds d hd
    exact ⟨d, hmem, hact, cardOf_id api _ _ d _⟩

/-- **A Notification card of a home page is an active notification's**, for any caller and page. -/
theorem getHomeCards_active {store : Store} {token : Token} {now offset size : Int} {cards : List Card}
    (hpage : getHomeCards api store token now offset size = .ok cards) {card : Card} (hc : card ∈ cards)
    (ht : card.type = some "Notification") :
    ∃ d ∈ store.notifications.docs, isActive d = true ∧ card.id = some (.oid d.id) := by
  obtain ⟨-, -, hpage⟩ := Except.ok_of_bind hpage
  obtain ⟨all, hall, hpage⟩ := Except.ok_of_bind hpage
  cases hpage
  obtain ⟨ns, cs, ms, es, hns, hcs, hms, hes, rfl⟩ := assembleHome_ok hall
  have hm := Python.mem_of_mem_sliced hc
  simp only [List.mem_append] at hm
  rcases hm with ((((hm | hm) | hm) | hm) | hm) | hm
  · exact notificationSection_active h hns hm
  · have ha := adminSection_type hm
    rw [ht] at ha
    exact absurd ha (by decide)
  · rw [customerSection_type hcs hm] at ht
    exact absurd ht (by decide)
  · rw [memberSection_type h hms hm] at ht
    exact absurd ht (by decide)
  · rw [menteeSection_type h hes hm] at ht
    exact absurd ht (by decide)
  · rw [journeySection_type hm] at ht
    exact absurd ht (by decide)

end

end CardService

/-! ## Every run -/

namespace NotificationService

open CardService (getHomeCards)

/-- No active read and no home page shows the notification, whoever asks and for whatever page. -/
def Unread (api : ApiUtils) (c : Collection) (o : ObjectId) : Prop :=
  (∀ token offset size extra ds, getActiveNotifications api c token offset size extra = .ok ds → ∀ d ∈ ds, d.id ≠ o) ∧
  (∀ store token now offset size cards, store.notifications = c →
    getHomeCards api store token now offset size = .ok cards →
    ∀ card ∈ cards, card.type = some "Notification" → card.id ≠ some (.oid o))

theorem unread_of_retired {api : ApiUtils} (h : api.Documented) {c : Collection} {d : Document} (hd : d ∈ c.docs)
    (hr : Retired d) : Unread api c d.id := by
  constructor
  · intro token offset size extra ds hq e he
    obtain ⟨hmem, hact⟩ := getActiveNotifications_active h hq e he
    exact id_ne_of_active hd hr hmem hact
  · rintro store token now offset size cards rfl hpage card hc ht hid
    obtain ⟨e, hmem, hact, he⟩ := CardService.getHomeCards_active h hpage hc ht
    rw [he] at hid
    exact id_ne_of_active hd hr hmem hact (Value.oid.inj (Option.some.inj hid))

theorem after_append (api : ApiUtils) (c : Collection) (past later : List Request) :
    after api c (past ++ later) = after api (after api c past) later := by
  unfold after
  rw [Runs.run_append]

/-- **Retirement is permanent and touches nothing else.**  At any point of any run: every document is there in every
later state, with each breadcrumb it carried and every other field as it was; once it carries a breadcrumb no later
read shows it; and one control call changes at most one field of one document. -/
theorem retirement_permanent {api : ApiUtils} (h : api.Documented) (c : Collection) (past later : List Request) :
    (∀ d ∈ (after api c past).docs, ∃ d' ∈ (after api c (past ++ later)).docs, LaterOf d d') ∧
    (∀ d ∈ (after api c past).docs, Retired d → Unread api (after api c (past ++ later)) d.id) ∧
    (∀ f id token b, ChangesOneField (after api c past) (control api f (after api c past) id token b).1) := by
  rw [after_append]
  have hkeeps := keeps_after h (after api c past) later
  refine ⟨hkeeps, fun d hd ⟨f, hf⟩ => ?_, fun f id token b => control_changesOneField h f _ id token b⟩
  obtain ⟨d', hd', hid, hcarries, -⟩ := hkeeps d hd
  rw [← hid]
  exact unread_of_retired h hd' ⟨f, hcarries f hf⟩

def dismissOwn : Request :=
  .control .dismissed "000000000000000000000001" { menteeToken with profileId := some "a00000000000000000000002" }
    (.doc [("at_time", .date 0)])

theorem retirement_permanent_own :
    Unread reference (after reference ownNotifications ([dismissOwn] ++ [.create [] menteeToken .null]))
      (Reference.idOf 1) :=
  (retirement_permanent reference_documented ownNotifications [dismissOwn] [.create [] menteeToken .null]).2.1
    (ownNotification.setControl .dismissed (.doc [("at_time", .date 0)])) (List.mem_singleton.2 rfl)
    ⟨.dismissed, fun hn => by simp at hn⟩

end NotificationService
end Discovery
