import DiscoveryApi.Notification
import DiscoveryApi.Reference
/-!
# ControlAccess — what a control request reveals, and whom it admits

The visibility check stands before the permission check, so a refusal says nothing about a hidden document.  The two
checks spell an id differently: the read encodes the claim to an ObjectId, the permission check compares its text.
-/
namespace Discovery
namespace NotificationService

/-! ## The visible documents decide -/

theorem visible_eq_some_iff {api : ApiUtils} {token : Token} {c : Collection} {o : ObjectId} {d : Document} :
    visible api token c o = some d ↔ (d ∈ c.docs ∧ d.id = o) ∧ sees api token d = true := by
  rw [visible, Option.filter_eq_some_iff, Collection.find_eq_some_iff]

/-- Two collections that agree on every document the caller sees. -/
def SameVisible (api : ApiUtils) (token : Token) (c c' : Collection) : Prop :=
  ∀ d, sees api token d = true → (d ∈ c.docs ↔ d ∈ c'.docs)

theorem SameVisible.symm {api : ApiUtils} {token : Token} {c c' : Collection} (h : SameVisible api token c c') :
    SameVisible api token c' c := fun d hd => (h d hd).symm

theorem visible_congr {api : ApiUtils} {token : Token} {c c' : Collection} (h : SameVisible api token c c')
    (o : ObjectId) : visible api token c o = visible api token c' o := by
  refine Option.ext (fun d => ?_)
  rw [visible_eq_some_iff, visible_eq_some_iff]
  constructor <;> rintro ⟨⟨hd, ho⟩, hs⟩
  · exact ⟨⟨(h d hs).1 hd, ho⟩, hs⟩
  · exact ⟨⟨(h d hs).2 hd, ho⟩, hs⟩

theorem mem_setControl_iff {c : Collection} {o : ObjectId} {f : ControlField} {b : Value} {d : Document} :
    d ∈ (c.setControl o f b).docs ↔
      (d ∈ c.docs ∧ d.id ≠ o) ∨ ∃ e, e ∈ c.docs ∧ e.id = o ∧ e.setControl f b = d := by
  simp only [Collection.setControl, List.mem_map]
  constructor
  · rintro ⟨e, he, rfl⟩
    by_cases ho : e.id = o
    · rw [if_pos ho]
      exact Or.inr ⟨e, he, ho, rfl⟩
    · rw [if_neg ho]
      exact Or.inl ⟨he, ho⟩
  · rintro (⟨hd, ho⟩ | ⟨e, he, ho, rfl⟩)
    · exact ⟨d, hd, if_neg ho⟩
    · exact ⟨e, he, if_pos ho⟩

theorem control_error {api : ApiUtils} {f : ControlField} {c : Collection} {id : String} {token : Token} {b : Value}
    {e : HTTPError} (he : (control api f c id token b).2 = .error e) : (control api f c id token b).1 = c := by
  rw [control_eq] at he ⊢
  exact setControlBreadcrumb_error he

section
variable {api : ApiUtils} (h : api.Documented)
include h

theorem sameVisible_setControl {token : Token} {c c' : Collection} (hs : SameVisible api token c c') (o : ObjectId)
    (f : ControlField) (b : Value) : SameVisible api token (c.setControl o f b) (c'.setControl o f b) := by
  have hone : ∀ {c c' : Collection}, SameVisible api token c c' → ∀ d, sees api token d = true →
      d ∈ (c.setControl o f b).docs → d ∈ (c'.setControl o f b).docs := by
    intro c c' hs d hd hmem
    rcases mem_setControl_iff.1 hmem with ⟨hm, ho⟩ | ⟨e, he, ho, rfl⟩
    · exact mem_setControl_iff.2 (Or.inl ⟨(hs d hd).1 hm, ho⟩)
    · rw [sees_setControl h] at hd
      exact mem_setControl_iff.2 (Or.inr ⟨e, (hs e hd).1 he, ho, rfl⟩)
  exact fun d hd => ⟨hone hs d hd, hone hs.symm d hd⟩

theorem mem_setControl_unseen {token : Token} {c : Collection} {o : ObjectId} {n d : Document}
    (hn : visible api token c o = some n) (hd : sees api token d = false) (f : ControlField) (b : Value) :
    d ∈ (c.setControl o f b).docs ↔ d ∈ c.docs := by
  have hid : ∀ e ∈ c.docs, e.id = o → e = n := fun e he ho =>
    Option.some.inj ((Collection.find_eq_some_iff.2 ⟨he, ho⟩).symm.trans (Option.filter_eq_some_iff.1 hn).1)
  have hns := (Option.filter_eq_some_iff.1 hn).2
  rw [mem_setControl_iff]
  constructor
  · rintro (⟨hm, -⟩ | ⟨e, he, ho, rfl⟩)
    · exact hm
    · rw [sees_setControl h, hid e he ho, hns] at hd
      cases hd
  · intro hm
    refine Or.inl ⟨hm, fun ho => ?_⟩
    rw [hid d hm ho, hns] at hd
    cases hd

theorem control_same (token : Token) (f : ControlField) (id : String) (b : Value) {c c' : Collection}
    (hs : SameVisible api token c c') :
    (control api f c id token b).2 = (control api f c' id token b).2 ∧
    SameVisible api token (control api f c id token b).1 (control api f c' id token b).1 := by
  rw [control_eq, control_eq]
  cases hid : ObjectId.ofHex? id with
  | none =>
    obtain ⟨e, -, he⟩ := setControlBreadcrumb_other h hid token (operationOf f)
    rw [he, he]
    exact ⟨rfl, hs⟩
  | some o =>
    rw [setControlBreadcrumb_spec h hid, setControlBreadcrumb_spec h hid, ← visible_congr hs o]
    split
    · exact ⟨rfl, hs⟩
    · split
      · exact ⟨rfl, sameVisible_setControl h hs o f b⟩
      · exact ⟨rfl, hs⟩

theorem control_unseen (token : Token) (f : ControlField) (id : String) (b : Value) (c : Collection) {d : Document}
    (hd : sees api token d = false) : d ∈ (control api f c id token b).1.docs ↔ d ∈ c.docs := by
  rw [control_eq]
  cases hid : ObjectId.ofHex? id with
  | none =>
    obtain ⟨e, -, he⟩ := setControlBreadcrumb_other h hid token (operationOf f)
    rw [he]
  | some o =>
    rw [setControlBreadcrumb_spec h hid]
    split
    · rfl
    · rename_i n hn
      split
      · exact mem_setControl_unseen h hn hd f b
      · rfl

theorem control_unseen_notFound (token : Token) (f : ControlField) (b : Value) {id : String} {o : ObjectId}
    (hid : ObjectId.ofHex? id = some o) {c : Collection} (hc : ∀ d ∈ c.docs, d.id = o → sees api token d = false) :
    (control api f c id token b).2 = .error (.notFound (notFoundMessage id)) := by
  rw [control_eq, setControlBreadcrumb_spec h hid]
  cases hv : visible api token c o with
  | none => rfl
  | some d =>
    obtain ⟨⟨hd, ho⟩, hs⟩ := visible_eq_some_iff.1 hv
    rw [hc d hd ho] at hs
    cases hs

theorem control_forbidden (token : Token) (f : ControlField) (b : Value) {id : String} {c : Collection} {msg : String}
    (he : (control api f c id token b).2 = .error (.forbidden msg)) :
    ∃ o d, ObjectId.ofHex? id = some o ∧ visible api token c o = some d ∧ mayControl api token d = false := by
  rw [control_eq] at he
  cases hid : ObjectId.ofHex? id with
  | none =>
    obtain ⟨e, hne, hall⟩ := setControlBreadcrumb_other h hid token (operationOf f)
    rw [hall] at he
    cases he
    exact absurd rfl (hne msg)
  | some o =>
    rw [setControlBreadcrumb_spec h hid] at he
    split at he
    · cases he
    · rename_i d hd
      split at he
      · cases he
      · rename_i hm
        exact ⟨o, d, rfl, hd, by simpa using hm⟩

end

/-! ## A mentee and its notification -/

/-- The id spelled `A00000000000000000000002` in the token and `a00000000000000000000002` by `str`. -/
def menteeProfile : ObjectId := Reference.idOf 0xa00000000000000000000002

def menteeToken : Token := ⟨some "daniel", some [.mentee], some "A00000000000000000000002", none, none⟩

def ownNotification : Document :=
  Document.ofList (Reference.idOf 1) [("profile_id", .oid menteeProfile), ("name", .str "Welcome")] rfl

def ownNotifications : Collection := ⟨[ownNotification], List.nodup_singleton _⟩

def otherNotifications : Collection :=
  ⟨[Document.ofList (Reference.idOf 2) [("profile_id", .oid (Reference.idOf 9))] rfl], List.nodup_singleton _⟩

/-! ## Hidden and missing are alike -/

/-- **A control request reveals only what the caller sees**: on two collections alike there, it ends alike, changes the
visible documents alike and the others not at all; it is refused as forbidden only over a visible document, and any
failure leaves the whole collection as it was. -/
theorem control_reveals_visible {api : ApiUtils} (h : api.Documented) (token : Token) (f : ControlField) (id : String)
    (b : Value) {c c' : Collection} (hs : SameVisible api token c c') :
    (control api f c id token b).2 = (control api f c' id token b).2 ∧
    SameVisible api token (control api f c id token b).1 (control api f c' id token b).1 ∧
    (∀ d, sees api token d = false →
      (d ∈ (control api f c id token b).1.docs ↔ d ∈ c.docs) ∧
      (d ∈ (control api f c' id token b).1.docs ↔ d ∈ c'.docs)) ∧
    (∀ o, ObjectId.ofHex? id = some o → (∀ d ∈ c.docs, d.id = o → sees api token d = false) →
      (control api f c id token b).2 = .error (.notFound (notFoundMessage id))) ∧
    (∀ msg, (control api f c id token b).2 = .error (.forbidden msg) →
      ∃ d ∈ c.docs, ObjectId.ofHex? id = some d.id ∧ sees api token d = true) ∧
    (∀ e, (control api f c id token b).2 = .error e → (control api f c id token b).1 = c) := by
  obtain ⟨hout, hchange⟩ := control_same h token f id b hs
  refine ⟨hout, hchange, fun d hd => ⟨control_unseen h token f id b c hd, control_unseen h token f id b c' hd⟩,
    fun o hid hc => control_unseen_notFound h token f b hid hc, fun msg he => ?_, fun e he => control_error he⟩
  obtain ⟨o, d, hid, hd, -⟩ := control_forbidden h token f b he
  obtain ⟨⟨hmem, rfl⟩, hsees⟩ := visible_eq_some_iff.1 hd
  exact ⟨d, hmem, hid, hsees⟩

theorem control_hidden_as_missing :
    (control reference .cancelled otherNotifications "000000000000000000000002" menteeToken .null).2 =
      (control reference .cancelled Collection.empty "000000000000000000000002" menteeToken .null).2 := by
  have hs : SameVisible reference menteeToken otherNotifications Collection.empty := by
    intro d hd
    refine ⟨fun hm => ?_, fun hm => absurd hm List.not_mem_nil⟩
    rw [List.mem_singleton.1 hm] at hd
    exact absurd hd (by decide)
  exact (control_reveals_visible reference_documented menteeToken .cancelled "000000000000000000000002" .null hs).1

/-! ## Two spellings of one id -/

/-- A claim of the caller denotes the document's target of the same name. -/
def Targeted (token : Token) (d : Document) : Prop := ∃ k s, token.claim k = some s ∧ d.names k.name s = true

/-- One of those claims is spelled as `str` spells the id. -/
def TargetedAsStored (token : Token) (d : Document) : Prop :=
  ∃ k s, token.claim k = some s ∧ d.names k.name s = true ∧ ∀ ch ∈ s.toList, Hex.isUpper ch = false

/-- The permission check compares text: it accepts a claim only in the stored id's own spelling. -/
theorem claimNamesTarget_iff {api : ApiUtils} (h : api.Documented) {token : Token} {d : Document} {k : TargetField} :
    claimNamesTarget api token d k = true ↔
      ∃ s, token.claim k = some s ∧ d.names k.name s = true ∧ ∀ ch ∈ s.toList, Hex.isUpper ch = false := by
  unfold claimNamesTarget
  constructor
  · intro hc
    split at hc
    · rename_i target claim ht hcl
      obtain ⟨hclaim, -⟩ := Option.filter_eq_some_iff.1 hcl
      rcases d.dict_id_cases (List.mem_cons_of_mem _ k.name_mem) with hd | hd | ⟨o, hd⟩
      · simp [Dict.value, hd] at ht
      · simp [Dict.value, hd] at ht
      · have hto : target = .oid o := by simpa [Dict.value, hd] using ht.symm
        rw [hto, h.str_oid, h.str_str, decide_eq_true_eq] at hc
        refine ⟨claim, hclaim, Document.names_iff.2 ⟨o, ?_, hd⟩, ?_⟩
        · rw [← hc, ObjectId.ofHex?_hex]
        · exact (ObjectId.eq_hex_iff (by rw [← hc, ObjectId.ofHex?_hex])).1 hc.symm
    · cases hc
  · rintro ⟨s, hclaim, hn, hlow⟩
    obtain ⟨o, ho, hd⟩ := Document.names_iff.1 hn
    have ht : d.dict.value k.name = some (.oid o) := by simp [Dict.value, hd]
    have hs : truthyClaim (token.claim k) = some s := by
      rw [hclaim]
      exact Option.filter_some_pos (decide_eq_true (ObjectId.ne_empty_of_ofHex? ho))
    rw [ht, hs]
    simp only [h.str_oid, h.str_str, decide_eq_true_eq]
    exact ((ObjectId.eq_hex_iff ho).2 hlow).symm

theorem mayControl_iff {api : ApiUtils} (h : api.Documented) {token : Token} (ht : token.has .admin = false)
    {d : Document} : mayControl api token d = true ↔ TargetedAsStored token d := by
  rw [mayControl, h.isAdmin_eq, ht, Bool.false_or, targetFields, List.any_eq_true]
  constructor
  · rintro ⟨k, -, hk⟩
    obtain ⟨s, hs⟩ := (claimNamesTarget_iff h).1 hk
    exact ⟨k, s, hs⟩
  · rintro ⟨k, s, hs⟩
    exact ⟨k, k.mem_all, (claimNamesTarget_iff h).2 ⟨s, hs⟩⟩

/-- A visible notification a claim targets can be dismissed and cancelled; only one that no claim targets is refused. -/
def OwnersMayRetire (api : ApiUtils) (c : Collection) (id : String) (token : Token) (b : Value) (d : Document) : Prop :=
  (Targeted token d → ∀ f, control api f c id token b = (c.setControl d.id f b, .ok (some (d.setControl f b)))) ∧
  (∀ f msg, (control api f c id token b).2 = .error (.forbidden msg) → ¬ Targeted token d)

/-- **When reading and retiring agree**: exactly when a claim that targets the notification is spelled without an
upper-case digit, as the stored id is. -/
theorem ownersMayRetire_iff {api : ApiUtils} (h : api.Documented) {token : Token} (ht : token.has .admin = false)
    {c : Collection} {d : Document} (hd : d ∈ c.docs) (hs : sees api token d = true) {id : String}
    (hid : ObjectId.ofHex? id = some d.id) (b : Value) :
    OwnersMayRetire api c id token b d ↔ (Targeted token d → TargetedAsStored token d) := by
  have hv : visible api token c d.id = some d := visible_eq_some_iff.2 ⟨⟨hd, rfl⟩, hs⟩
  have hspec : ∀ f, control api f c id token b =
      if mayControl api token d then (c.setControl d.id f b, .ok (some (d.setControl f b)))
      else (c, .error (.forbidden (forbiddenMessage (operationOf f)))) := fun f => by
    rw [control_eq, setControlBreadcrumb_spec h hid, hv]
  constructor
  · rintro ⟨hok, -⟩ htarget
    refine (mayControl_iff h ht).1 (by_contra fun hm => ?_)
    have hc := hok htarget .dismissed
    rw [hspec, if_neg hm] at hc
    cases congrArg Prod.snd hc
  · intro himp
    refine ⟨fun htarget f => ?_, fun f msg he htarget => ?_⟩
    · rw [hspec, if_pos ((mayControl_iff h ht).2 (himp htarget))]
    · rw [hspec, if_pos ((mayControl_iff h ht).2 (himp htarget))] at he
      cases he

theorem ownersMayRetire_lower_case :
    OwnersMayRetire reference ownNotifications "000000000000000000000001"
      { menteeToken with profileId := some "a00000000000000000000002" } .null ownNotification ↔
    (Targeted { menteeToken with profileId := some "a00000000000000000000002" } ownNotification →
      TargetedAsStored { menteeToken with profileId := some "a00000000000000000000002" } ownNotification) :=
  ownersMayRetire_iff reference_documented rfl (List.mem_singleton.2 rfl) (by decide) (by decide) .null

/-- **An owner is refused**: the mentee's own notification is visible to it, and dismissing it is forbidden. -/
theorem owner_refused :
    sees reference menteeToken ownNotification = true ∧ Targeted menteeToken ownNotification ∧
    ¬ OwnersMayRetire reference ownNotifications "000000000000000000000001" menteeToken .null ownNotification := by
  have htarget : Targeted menteeToken ownNotification := ⟨.profileId, "A00000000000000000000002", rfl, by decide⟩
  refine ⟨by decide, htarget, fun h => ?_⟩
  exact h.2 .dismissed "Not permitted to dismiss this notification" rfl htarget

end NotificationService
end Discovery
