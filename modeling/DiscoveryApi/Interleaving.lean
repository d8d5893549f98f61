import DiscoveryApi.Retirement
import DiscoveryApi.Lib.CheckAct
/-!
# Interleaving — control requests served at the same time

A control request reads and checks the document in one step and writes its breadcrumb in the next, with no lock between.
The checks read only what no request writes, so a check that passed still passes at the write, and every interleaving
is a serial run.
-/
namespace Discovery
namespace NotificationService

/-! ## The two steps of a request -/

/-- A create is one insert.  A control request reads the document and is refused there, or goes on to write. -/
def protocol (api : ApiUtils) : CheckAct.Protocol Collection Request Outcome where
  check c
    | .create body token b => some (create api c body token b)
    | .control f id token _ =>
      match readForControl api c id token (operationOf f) with
      | .error e => some (c, .error e)
      | .ok () => none
  act c
    | .create body token b => create api c body token b
    | .control f id _ b =>
      let updated := api.updateDocument c id [(f.name, b)]
      (updated.1, .ok updated.2)

theorem protocol_serve (api : ApiUtils) : (protocol api).serve = serve api := by
  funext c r
  cases r with
  | create body token b => rfl
  | control f id token b =>
    rw [serve, control_eq, setControlBreadcrumb, CheckAct.Protocol.serve]
    simp only [protocol]
    cases readForControl api c id token (operationOf f) <;> rfl

/-! ## What the checks read -/

/-- Whether the caller may retire the document of an id; none when it does not see one. -/
def admits (api : ApiUtils) (token : Token) (c : Collection) (o : ObjectId) : Option Bool :=
  (visible api token c o).map (mayControl api token)

section
variable {api : ApiUtils} (h : api.Documented)
include h

theorem visible_setControl (token : Token) (c : Collection) (o o' : ObjectId) (f : ControlField) (b : Value) :
    visible api token (c.setControl o' f b) o =
      if o = o' then (visible api token c o').map (·.setControl f b) else visible api token c o := by
  unfold visible
  rw [Collection.find_setControl]
  split
  · cases c.find o' with
    | none => rfl
    | some d =>
      simp only [Option.map_some, Option.filter_some, sees_setControl h]
      split <;> rfl
  · rfl

theorem admits_setControl (token : Token) (c : Collection) (o o' : ObjectId) (f : ControlField) (b : Value) :
    admits api token (c.setControl o' f b) o = admits api token c o := by
  rw [admits, admits, visible_setControl h]
  split
  · rename_i ho
    subst ho
    cases visible api token c o with
    | none => rfl
    | some d => simp only [Option.map_some, mayControl_setControl]
  · rfl

/-- **No control request changes whom the checks admit.** -/
theorem admits_control (token token' : Token) (c : Collection) (o : ObjectId) (f : ControlField) (id : String)
    (b : Value) :
    admits api token (control api f c id token' b).1 o = admits api token c o := by
  rcases control_collection h f c id token' b with hc | ⟨o', -, hc⟩
  · rw [hc]
  · rw [hc, admits_setControl h]

theorem admits_create {token : Token} {c : Collection} {o : ObjectId} {x : Bool} (hx : admits api token c o = some x)
    (body : Match) (token' : Token) (b : Value) : admits api token (create api c body token' b).1 o = some x := by
  obtain ⟨d, hv, rfl⟩ := Option.map_eq_some_iff.1 hx
  obtain ⟨⟨hd, ho⟩, hs⟩ := visible_eq_some_iff.1 hv
  rw [admits, show visible api token (create api c body token' b).1 o = some d from visible_eq_some_iff.2 ⟨⟨?_, ho⟩, hs⟩]
  · rfl
  · rcases create_collection h c body token' b with hc | ⟨e, hc⟩
    · rw [hc]
      exact hd
    · rw [hc]
      exact List.mem_append_left _ hd

theorem admits_serve {token : Token} {c : Collection} {o : ObjectId} {x : Bool} (hx : admits api token c o = some x)
    (r : Request) : admits api token (serve api c r).1 o = some x := by
  cases r with
  | create body token' b => exact admits_create h hx body token' b
  | control f id token' b => exact (admits_control h token token' c o f id b).trans hx

theorem readForControl_ok_iff {c : Collection} {id : String} {token : Token} {operation : String} :
    readForControl api c id token operation = .ok () ↔
      ∃ o, ObjectId.ofHex? id = some o ∧ admits api token c o = some true := by
  cases hid : ObjectId.ofHex? id with
  | none =>
    obtain ⟨e, -, he⟩ := setControlBreadcrumb_other h hid token operation
    have hc := congrArg Prod.snd (he c .null .dismissed)
    unfold setControlBreadcrumb at hc
    constructor
    · intro hok
      rw [hok] at hc
      cases hc
    · rintro ⟨o, ho, -⟩
      cases ho
  | some o =>
    rw [readForControl_hex h hid]
    simp only [Option.some.injEq, exists_eq_left', admits]
    cases visible api token c o with
    | none => simp
    | some d => cases hm : mayControl api token d <;> simp [hm]

/-- **A check that passed still passes after any other request.** -/
theorem protocol_stable : CheckAct.Stable (protocol api) := by
  intro c r q hr
  rw [protocol_serve]
  cases r with
  | create body token b => cases hr
  | control f id token b =>
    have hok : readForControl api c id token (operationOf f) = .ok () := by
      simp only [protocol] at hr
      split at hr
      · cases hr
      · assumption
    obtain ⟨o, ho, hadmits⟩ := (readForControl_ok_iff h).1 hok
    have hstill : readForControl api (serve api c q).1 id token (operationOf f) = .ok () :=
      (readForControl_ok_iff h).2 ⟨o, ho, admits_serve h hadmits q⟩
    simp only [protocol, hstill]

end

/-! ## Exchanging two control requests -/

inductive Verdict where
  | succeeded
  | notFound
  | forbidden
  | failed

def verdict : Outcome → Verdict
  | .ok _ => .succeeded
  | .error (.notFound _) => .notFound
  | .error (.forbidden _) => .forbidden
  | .error _ => .failed

def verdictOf : Option Bool → Verdict
  | none => .notFound
  | some true => .succeeded
  | some false => .forbidden

/-- The requests set different fields, or their ids denote different notifications. -/
def Independent (f : ControlField) (id : String) (g : ControlField) (id' : String) : Prop :=
  f ≠ g ∨ ∀ o, ObjectId.ofHex? id = some o → ObjectId.ofHex? id' ≠ some o

section
variable {api : ApiUtils} (h : api.Documented)
include h

theorem control_other {id : String} (hid : ObjectId.ofHex? id = none) (f : ControlField) (token : Token) :
    ∃ e, ∀ c b, control api f c id token b = (c, .error e) := by
  obtain ⟨e, -, he⟩ := setControlBreadcrumb_other h hid token (operationOf f)
  exact ⟨e, fun c b => by rw [control_eq, he]⟩

theorem control_hex {id : String} {o : ObjectId} (hid : ObjectId.ofHex? id = some o) (f : ControlField) (c : Collection)
    (token : Token) (b : Value) :
    (control api f c id token b).1 = (if admits api token c o = some true then c.setControl o f b else c) ∧
    verdict (control api f c id token b).2 = verdictOf (admits api token c o) := by
  rw [control_eq, setControlBreadcrumb_spec h hid, admits]
  cases visible api token c o with
  | none => exact ⟨rfl, rfl⟩
  | some d => cases hm : mayControl api token d <;> simp [hm, verdict, verdictOf]

/-- **No control request changes how another ends.** -/
theorem verdict_control (f g : ControlField) (c : Collection) (id id' : String) (token token' : Token) (b b' : Value) :
    verdict (control api f (control api g c id' token' b').1 id token b).2 = verdict (control api f c id token b).2 := by
  cases hid : ObjectId.ofHex? id with
  | none =>
    obtain ⟨e, he⟩ := control_other h hid f token
    rw [he, he]
  | some o => rw [(control_hex h hid f _ token b).2, (control_hex h hid f c token b).2, admits_control h]

theorem control_comm {f g : ControlField} {id id' : String} (hfg : Independent f id g id') (c : Collection)
    (token token' : Token) (b b' : Value) :
    (control api g (control api f c id token b).1 id' token' b').1 =
      (control api f (control api g c id' token' b').1 id token b).1 := by
  cases hid : ObjectId.ofHex? id with
  | none =>
    obtain ⟨e, he⟩ := control_other h hid f token
    rw [he, he]
  | some o =>
    cases hid' : ObjectId.ofHex? id' with
    | none =>
      obtain ⟨e, he⟩ := control_other h hid' g token'
      rw [he, he]
    | some o' =>
      have hne : f ≠ g ∨ o ≠ o' := hfg.imp_right (fun hne ho => hne o hid (ho ▸ hid'))
      rw [(control_hex h hid' g (control api f c id token b).1 token' b').1,
        (control_hex h hid f (control api g c id' token' b').1 token b).1, admits_control h, admits_control h,
        (control_hex h hid f c token b).1, (control_hex h hid' g c token' b').1]
      split
      · split
        · exact Collection.setControl_comm c hne b b'
        · rfl
      · rfl

end

/-! ## Every interleaving -/

/-- What a configuration of concurrent requests owes to serving them one at a time. -/
structure Serialized {ι : Type} (api : ApiUtils) (req : ι → Request) (c : Collection)
    (cfg : CheckAct.Config Collection Outcome ι) : Prop where
  /-- The requests that ended, in the order of their last steps, run serially to this store and these outcomes. -/
  serial : Runs.run (serve api) c (cfg.log.map (fun p => req p.1)) = (cfg.store, cfg.log.map Prod.snd)
  once : (cfg.log.map Prod.fst).Nodup
  ended : ∀ i o, cfg.status i = .done o ↔ (i, o) ∈ cfg.log
  /-- A request whose next step is the write would pass its checks now. -/
  current : ∀ i f id token b, req i = .control f id token b → cfg.status i = .checked →
    readForControl api cfg.store id token (operationOf f) = .ok ()
  /-- A dismiss and a cancel of one notification that both succeed leave both breadcrumbs. -/
  both : ∀ i j id id' token token' b b' x y, req i = .control .dismissed id token b →
    req j = .control .cancelled id' token' b' → ObjectId.ofHex? id = ObjectId.ofHex? id' →
    cfg.status i = .done (.ok x) → cfg.status j = .done (.ok y) →
    ∃ d ∈ cfg.store.docs, ObjectId.ofHex? id = some d.id ∧
      d.fields dismissedField.name ≠ none ∧ d.fields cancelledField.name ≠ none

def Carries (id : String) (f : ControlField) (c : Collection) : Prop :=
  ∃ d ∈ c.docs, ObjectId.ofHex? id = some d.id ∧ d.fields f.name ≠ none

section
variable {api : ApiUtils} (h : api.Documented)
include h

theorem carries_serve {id : String} {f : ControlField} (c : Collection) (r : Request) (hc : Carries id f c) :
    Carries id f (serve api c r).1 := by
  obtain ⟨d, hd, hid, hf⟩ := hc
  obtain ⟨d', hd', hid', hcarries, -⟩ := keeps_serve h c r d hd
  exact ⟨d', hd', hid' ▸ hid, hcarries f hf⟩

theorem carries_of_ok {f : ControlField} {c : Collection} {id : String} {token : Token} {b : Value} {x : Option Document}
    (hx : (control api f c id token b).2 = .ok x) : Carries id f (control api f c id token b).1 := by
  rw [control_eq] at hx ⊢
  cases hid : ObjectId.ofHex? id with
  | none =>
    obtain ⟨e, -, he⟩ := setControlBreadcrumb_other h hid token (operationOf f)
    rw [he] at hx
    cases hx
  | some o =>
    rw [setControlBreadcrumb_spec h hid] at hx ⊢
    cases hv : visible api token c o with
    | none => rw [hv] at hx; cases hx
    | some d =>
      simp only [hv] at hx ⊢
      split at hx
      · rename_i hm
        obtain ⟨⟨hd, ho⟩, -⟩ := visible_eq_some_iff.1 hv
        rw [if_pos hm]
        refine ⟨d.setControl f b, mem_setControl_iff.2 (Or.inr ⟨d, hd, ho, rfl⟩), by rw [hid, ← ho]; rfl, ?_⟩
        rw [Document.setControl_self]
        exact Option.some_ne_none b
      · cases hx

theorem carries_of_ended {ι : Type} {req : ι → Request} {c : Collection} {cfg : CheckAct.Config Collection Outcome ι}
    (hinv : CheckAct.Inv (protocol api) req c cfg) {i : ι} {f : ControlField} {id : String} {token : Token} {b : Value}
    {x : Option Document} (hi : req i = .control f id token b) (hdone : cfg.status i = .done (.ok x)) :
    Carries id f cfg.store := by
  have hz := hinv.mem_zip hdone
  have hserial := hinv.serial
  rw [protocol_serve] at hz hserial
  rw [hi] at hz
  have hestablish : ∀ s, (serve api s (.control f id token b)).2 = .ok x →
      Carries id f (serve api s (.control f id token b)).1 := fun s hs => carries_of_ok h hs
  have hend := Runs.run_established (carries_serve h) hestablish _ c hz
  rw [hserial] at hend
  exact hend

/-- **Concurrent control requests serialize and lose no update.**  Whatever requests run together and however their
steps interleave, they end as the serial run in the order of their last steps does; and exchanging two neighbours of a
serial run that set different fields or address different notifications changes neither the final collection nor how
either one ends. -/
theorem interleavings_serialize {ι : Type} [DecidableEq ι] (req : ι → Request) (c : Collection) :
    (∀ schedule : List ι,
      Serialized api req c (CheckAct.run (protocol api) req (CheckAct.start c) schedule)) ∧
    (∀ f g id id' token token' b b', Independent f id g id' → ∀ pre post,
      (Runs.run (serve api) c (pre ++ .control f id token b :: .control g id' token' b' :: post)).1 =
        (Runs.run (serve api) c (pre ++ .control g id' token' b' :: .control f id token b :: post)).1 ∧
      verdict (control api f (control api g (after api c pre) id' token' b').1 id token b).2 =
        verdict (control api f (after api c pre) id token b).2 ∧
      verdict (control api g (control api f (after api c pre) id token b).1 id' token' b').2 =
        verdict (control api g (after api c pre) id' token' b').2) := by
  refine ⟨fun schedule => ?_, fun f g id id' token token' b b' hfg pre post => ⟨?_, ?_, ?_⟩⟩
  · have hinv := CheckAct.inv_reachable (protocol_stable h) req c schedule
    refine ⟨?_, hinv.once, hinv.ended, fun i f id token b hi hs => ?_, ?_⟩
    · rw [← protocol_serve]
      exact hinv.serial
    · have hcheck := hinv.current i hs
      rw [hi] at hcheck
      simp only [protocol] at hcheck
      split at hcheck
      · cases hcheck
      · assumption
    · intro i j id id' token token' b b' x y hi hj hids hx hy
      obtain ⟨d, hd, hid, hf⟩ := carries_of_ended h hinv hi hx
      obtain ⟨e, he, hid', hg⟩ := carries_of_ended h hinv hj hy
      have hde : e = d := List.inj_on_of_nodup_map (Collection.ids_nodup _) he hd
        (Option.some.inj (hid'.symm.trans (hids.symm.trans hid)))
      exact ⟨d, hd, hid, hf, hde ▸ hg⟩
  · exact Runs.run_swap (fun s => control_comm h hfg s token token' b b') pre post c
  · exact verdict_control h f g (after api c pre) id id' token token' b b'
  · exact verdict_control h g f (after api c pre) id' id token' token b' b

end

def retireOwn (f : ControlField) : Request :=
  .control f "000000000000000000000001" { menteeToken with profileId := some "a00000000000000000000002" }
    (.doc [("at_time", .date 0)])

theorem interleavings_serialize_own :
    ∃ d ∈ (CheckAct.run (protocol reference) retireOwn (CheckAct.start ownNotifications)
      [.dismissed, .cancelled, .cancelled, .dismissed]).store.docs,
      ObjectId.ofHex? "000000000000000000000001" = some d.id ∧
      d.fields dismissedField.name ≠ none ∧ d.fields cancelledField.name ≠ none :=
  ((interleavings_serialize reference_documented retireOwn ownNotifications).1 _).both .dismissed .cancelled
    _ _ _ _ _ _ _ _ rfl rfl rfl rfl rfl

end NotificationService
end Discovery
