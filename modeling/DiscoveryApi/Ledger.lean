import DiscoveryApi.Lib.Journal
import DiscoveryApi.HomeShape
import DiscoveryApi.Interleaving
/-!
# Ledger — what a run leaves behind, read from its journal

The Notification collection after any run is the collection before it with the journal replayed: one document for each
create that returned, in order, and under every field the last value a returned request wrote there.  `Replays` says
this of two collections and a journal, and no second collection satisfies it.
-/
namespace Discovery
namespace NotificationService

open Journal (journal last)

/-! ## What one entry writes -/

/-- The id of the document a create stored. -/
def createdId : Request → Outcome → Option ObjectId
  | .create .., .ok (some d) => some d.id
  | _, _ => none

/-- What an entry writes under one field of one document. -/
def wrote (o : ObjectId) (k : String) : Request → Outcome → Option Value
  | .create .., .ok (some d) => if d.id = o then d.fields k else none
  | .control f id _ b, .ok _ => if ObjectId.ofHex? id = some o ∧ k = f.name then some b else none
  | _, _ => none

/-- **A collection is another with a journal replayed.** -/
structure Replays (c : Collection) (entries : List (Request × Outcome)) (c' : Collection) : Prop where
  ids : c'.docs.map Document.id = c.docs.map Document.id ++ entries.filterMap (fun e => createdId e.1 e.2)
  fields : ∀ o k, fieldAt c' o k = (last (wrote o k) entries).or (fieldAt c o k)

/-! ## A collection is its ids and its fields -/

theorem docs_eq_filterMap (c : Collection) : c.docs = (c.docs.map Document.id).filterMap c.find := by
  have hfind : ∀ d ∈ c.docs, c.find d.id = some d := fun d hd => Collection.find_eq_some_iff.2 ⟨hd, rfl⟩
  rw [List.filterMap_map]
  exact List.filterMap_some.symm.trans (List.filterMap_congr (fun d hd => (hfind d hd).symm))

theorem find_isSome_iff {c : Collection} {o : ObjectId} : (c.find o).isSome = true ↔ o ∈ c.docs.map Document.id := by
  rw [Option.isSome_iff_exists, List.mem_map]
  simp only [Collection.find_eq_some_iff]

theorem find_of_fields {c c' : Collection} {o : ObjectId} (hsome : (c'.find o).isSome = (c.find o).isSome)
    (hfields : ∀ k, fieldAt c' o k = fieldAt c o k) : c'.find o = c.find o := by
  cases hd : c.find o with
  | none => rw [hd] at hsome; exact Option.not_isSome_iff_eq_none.1 (by rw [hsome]; simp)
  | some d =>
    rw [hd] at hsome
    obtain ⟨d', hd'⟩ := Option.isSome_iff_exists.1 hsome
    have hid := (Collection.find_eq_some_iff.1 hd).2
    have hid' := (Collection.find_eq_some_iff.1 hd').2
    have hk : ∀ k, d'.fields k = d.fields k := fun k => by
      have hf := hfields k
      rw [fieldAt, fieldAt, hd, hd'] at hf
      exact hf
    rw [hd', Document.ext (hid'.trans hid.symm) (funext hk)]

theorem eq_of_fields {c c' : Collection} (hids : c'.docs.map Document.id = c.docs.map Document.id)
    (hfields : ∀ o k, fieldAt c' o k = fieldAt c o k) : c' = c := by
  have hsome : ∀ o, (c'.find o).isSome = (c.find o).isSome := fun o => by
    rw [Bool.eq_iff_iff, find_isSome_iff, find_isSome_iff, hids]
  have hfind : c'.find = c.find := funext (fun o => find_of_fields (hsome o) (hfields o))
  refine Collection.ext ?_
  rw [docs_eq_filterMap c', docs_eq_filterMap c, hids, hfind]

/-- **A journal replays to one collection.** -/
theorem Replays.unique {c c₁ c₂ : Collection} {entries : List (Request × Outcome)} (h₁ : Replays c entries c₁)
    (h₂ : Replays c entries c₂) : c₁ = c₂ :=
  eq_of_fields (h₁.ids.trans h₂.ids.symm) (fun o k => (h₁.fields o k).trans (h₂.fields o k).symm)

/-! ## What one request does to ids and fields -/

theorem fieldAt_written {c : Collection} {o : ObjectId} (hc : (c.find o).isSome = true) (f : ControlField) (b : Value)
    (o' : ObjectId) (k : String) :
    fieldAt (c.setControl o f b) o' k = if o = o' ∧ k = f.name then some b else fieldAt c o' k := by
  obtain ⟨d, hd⟩ := Option.isSome_iff_exists.1 hc
  unfold fieldAt
  rw [Collection.find_setControl]
  by_cases ho : o' = o
  · subst ho
    rw [if_pos rfl, hd]
    by_cases hk : k = f.name
    · rw [if_pos ⟨rfl, hk⟩, hk]
      exact d.setControl_self f b
    · rw [if_neg (fun hand => hk hand.2)]
      exact d.setControl_of_ne f b hk
  · rw [if_neg ho, if_neg (fun hand => ho hand.1.symm)]

theorem find_append {c c' : Collection} {d : Document} (hc : c'.docs = c.docs ++ [d]) (o : ObjectId) :
    c'.find o = (c.find o).or (if d.id = o then some d else none) := by
  rw [Collection.find, hc, List.find?_append, Collection.find, List.find?_singleton]
  congr 1
  by_cases ho : d.id = o <;> simp [ho]

theorem find_new {c c' : Collection} {d : Document} (hc : c'.docs = c.docs ++ [d]) : c.find d.id = none := by
  have hn := c'.ids_nodup
  rw [hc, List.map_append, List.nodup_append] at hn
  rw [← Option.not_isSome_iff_eq_none, find_isSome_iff]
  intro hmem
  exact hn.2.2 _ hmem _ (List.mem_singleton.2 rfl) rfl

theorem fieldAt_append {c c' : Collection} {d : Document} (hc : c'.docs = c.docs ++ [d]) (o : ObjectId) (k : String) :
    fieldAt c' o k = (if d.id = o then d.fields k else none).or (fieldAt c o k) := by
  unfold fieldAt
  rw [find_append hc]
  by_cases ho : d.id = o
  · subst ho
    rw [find_new hc, if_pos rfl, if_pos rfl]
    exact (Option.or_none).symm
  · rw [if_neg ho, if_neg ho, Option.or_none, Option.none_or]

section
variable {api : ApiUtils} (h : api.Documented)
include h

/-- **All a control request that returned did.** -/
theorem control_ok {f : ControlField} {c : Collection} {id : String} {token : Token} {b : Value} {x : Option Document}
    (hx : (control api f c id token b).2 = .ok x) : ∃ o d, ObjectId.ofHex? id = some o ∧
      visible api token c o = some d ∧ mayControl api token d = true ∧
      (control api f c id token b).1 = c.setControl o f b ∧ x = some (d.setControl f b) := by
  rw [control_eq] at hx ⊢
  cases hid : ObjectId.ofHex? id with
  | none =>
    obtain ⟨e, -, he⟩ := setControlBreadcrumb_other h hid token (operationOf f)
    rw [he] at hx
    cases hx
  | some o =>
    rw [setControlBreadcrumb_spec h hid] at hx ⊢
    cases hv : visible api token c o with
    | none => rw [hv] at hx; cases hx
    | some d =>
      simp only [hv] at hx ⊢
      split at hx
      · rename_i hm
        cases hx
        exact ⟨o, d, rfl, hv, hm, by rw [if_pos hm], rfl⟩
      · cases hx

theorem create_ok {c : Collection} {body : Match} {token : Token} {b : Value} {x : Option Document}
    (hx : (create api c body token b).2 = .ok x) : ∃ d, x = some d ∧ (create api c body token b).1.docs = c.docs ++ [d] ∧
      d.fields "created" = some b ∧ ∀ f : ControlField, d.fields f.name = none := by
  unfold create at hx ⊢
  cases hc : api.createNotification c body token b with
  | error e => rw [hc] at hx; cases hx
  | ok p =>
    obtain ⟨c', d⟩ := p
    rw [hc] at hx
    cases hx
    obtain ⟨hdocs, hcreated, hnone⟩ := h.createNotification_ok hc
    exact ⟨d, rfl, hdocs, hcreated, fun f => hnone f.name (by cases f <;> decide)⟩

omit h in
theorem serve_error {c : Collection} {r : Request} {e : HTTPError} (he : (serve api c r).2 = .error e) :
    (serve api c r).1 = c := by
  cases r with
  | create body token b =>
    rw [serve, create] at he ⊢
    cases hc : api.createNotification c body token b with
    | error e => rfl
    | ok p => rw [hc] at he; cases he
  | control f id token b => exact control_error he

theorem serve_ids (c : Collection) (r : Request) :
    (serve api c r).1.docs.map Document.id = c.docs.map Document.id ++ (createdId r (serve api c r).2).toList := by
  cases hx : (serve api c r).2 with
  | error e =>
    rw [serve_error hx]
    cases r <;> exact (List.append_nil _).symm
  | ok x =>
    cases r with
    | create body token b =>
      obtain ⟨d, rfl, hdocs, -⟩ := create_ok h hx
      rw [serve, hdocs, List.map_append]
      rfl
    | control f id token b =>
      obtain ⟨o, d, -, -, -, hc, -⟩ := control_ok h hx
      rw [serve, hc]
      exact (Collection.map_id_setControl c.docs o f b).trans (List.append_nil _).symm

theorem serve_fields (o : ObjectId) (k : String) (c : Collection) (r : Request) :
    fieldAt (serve api c r).1 o k = (wrote o k r (serve api c r).2).or (fieldAt c o k) := by
  cases hx : (serve api c r).2 with
  | error e =>
    rw [serve_error hx]
    cases r <;> rfl
  | ok x =>
    cases r with
    | create body token b =>
      obtain ⟨d, rfl, hdocs, -⟩ := create_ok h hx
      exact fieldAt_append hdocs o k
    | control f id token b =>
      obtain ⟨o', d, hid, hv, -, hc, -⟩ := control_ok h hx
      have hsome : (c.find o').isSome = true := by rw [(Option.filter_eq_some_iff.1 hv).1]; rfl
      rw [serve, hc, fieldAt_written hsome, wrote, hid]
      by_cases hk : o' = o ∧ k = f.name
      · rw [if_pos hk, if_pos ⟨congrArg some hk.1, hk.2⟩]
        rfl
      · rw [if_neg hk, if_neg (fun hand => hk ⟨Option.some.inj hand.1, hand.2⟩)]
        rfl

theorem replays_run (c : Collection) (requests : List Request) :
    Replays c (journal (serve api) c requests) (after api c requests) :=
  ⟨Journal.run_extended (V := fun c => c.docs.map Document.id) (serve_ids h) requests c,
    fun o k => Journal.run_register (V := fun c => fieldAt c o k) (serve_fields h o k) requests c⟩

/-- **The collection after a run is its journal replayed**, and no other collection is. -/
theorem after_replays (c : Collection) (requests : List Request) :
    Replays c (journal (serve api) c requests) (after api c requests) ∧
    ∀ c', Replays c (journal (serve api) c requests) c' → c' = after api c requests :=
  ⟨replays_run h c requests, fun _ hc' => hc'.unique (replays_run h c requests)⟩

end

theorem after_replays_own :
    fieldAt (after reference ownNotifications [dismissOwn, .create [] menteeToken .null]) (Reference.idOf 1) "dismissed" =
      some (.doc [("at_time", .date 0)]) :=
  ((after_replays reference_documented ownNotifications [dismissOwn, .create [] menteeToken .null]).1.fields
    (Reference.idOf 1) "dismissed").trans (by rfl)

/-! ## The home list, by the journal -/

open CardService (HomeCard isActive allNotifications notificationCards homeSections homeSections_band page_of_ok
  getHomeCards homeRank notificationCard notificationsOnly WithinCeiling)

/-- The notification carried no breadcrumb, and no request that returned retired it. -/
structure Unretired (c : Collection) (entries : List (Request × Outcome)) (o : ObjectId) : Prop where
  before : ∀ f : ControlField, fieldAt c o f.name = none
  since : ∀ f id token b x, (Request.control f id token b, Except.ok x) ∈ entries → ObjectId.ofHex? id ≠ some o

theorem isActive_iff {d : Document} : isActive d = true ↔ ∀ f : ControlField, d.fields f.name = none := by
  rw [isActive, Bool.and_eq_true, Option.isNone_iff_eq_none, Option.isNone_iff_eq_none]
  constructor
  · rintro ⟨hd, hc⟩ f
    cases f with
    | dismissed => exact hd
    | cancelled => exact hc
  · exact fun hf => ⟨hf .dismissed, hf .cancelled⟩

section
variable {api : ApiUtils} (h : api.Documented)
include h

/-- No entry of a run writes a breadcrumb but a control request that returned. -/
theorem wrote_none_iff {c : Collection} {requests : List Request} (o : ObjectId) :
    (∀ f : ControlField, last (wrote o f.name) (journal (serve api) c requests) = none) ↔
      ∀ f id token b x, (Request.control f id token b, Except.ok x) ∈ journal (serve api) c requests →
        ObjectId.ofHex? id ≠ some o := by
  simp only [Journal.last_eq_none_iff]
  constructor
  · intro hnone f id token b x hmem hid
    have hw := hnone f _ hmem
    rw [wrote, if_pos ⟨hid, rfl⟩] at hw
    cases hw
  · rintro hno f ⟨r, out⟩ hmem
    obtain ⟨s, hout⟩ := Journal.served hmem
    cases out with
    | error e => cases r <;> rfl
    | ok x =>
      cases r with
      | create body token b =>
        obtain ⟨d, rfl, -, -, hd⟩ := create_ok h hout
        rw [wrote, hd f, ite_self]
      | control g id token b =>
        rw [wrote, if_neg (fun hand => hno g id token b x hmem hand.1)]

theorem active_iff_unretired {c : Collection} {requests : List Request} {d : Document}
    (hd : d ∈ (after api c requests).docs) :
    isActive d = true ↔ Unretired c (journal (serve api) c requests) d.id := by
  have hfield : ∀ f : ControlField, d.fields f.name =
      (last (wrote d.id f.name) (journal (serve api) c requests)).or (fieldAt c d.id f.name) := fun f => by
    rw [← (replays_run h c requests).fields, fieldAt, Collection.find_eq_some_iff.2 ⟨hd, rfl⟩]
    rfl
  have hsplit : (∀ f : ControlField, d.fields f.name = none) ↔
      (∀ f : ControlField, last (wrote d.id f.name) (journal (serve api) c requests) = none) ∧
        ∀ f : ControlField, fieldAt c d.id f.name = none := by
    simp only [hfield, Option.or_eq_none_iff, forall_and]
  rw [isActive_iff, hsplit, wrote_none_iff h]
  exact ⟨fun hu => ⟨hu.2, hu.1⟩, fun hu => ⟨hu.since, hu.before⟩⟩

end

/-- Some page of the caller's home list has the notification's card. -/
def HomeShows (api : ApiUtils) (store : Store) (token : Token) (now : Int) (o : ObjectId) : Prop :=
  ∃ offset size page, getHomeCards api store token now offset size = .ok page ∧
    ∃ card ∈ page, card.type = some "Notification" ∧ card.id = some (.oid o)

/-- What the caller's home list owes: the notification is stored and visible, names the caller's profile, and no
request of the run retired it. -/
def Owed (api : ApiUtils) (c : Collection) (requests : List Request) (token : Token) (o : ObjectId) : Prop :=
  Unretired c (journal (serve api) c requests) o ∧ ∃ d ∈ (after api c requests).docs, d.id = o ∧
    sees api token d = true ∧ ∃ s, truthyClaim token.profileId = some s ∧ d.names "profile_id" s = true

section
variable {api : ApiUtils} (h : api.Documented)
include h

theorem mem_allNotifications {store : Store} {token : Token} {ds : List Document}
    (hds : allNotifications api store token = .ok ds) (d : Document) :
    d ∈ ds ↔ d ∈ store.notifications.docs ∧ sees api token d = true ∧ isActive d = true ∧
      ∃ s, truthyClaim token.profileId = some s ∧ d.names "profile_id" s = true := by
  unfold allNotifications at hds
  cases hs : truthyClaim token.profileId with
  | none =>
    rw [hs] at hds
    cases hds
    simp
  | some s =>
    rw [hs] at hds
    obtain ⟨-, -, rfl⟩ := Except.ok_of_map hds
    rw [(h.sort_perm _ _).mem_iff, List.mem_filter]
    simp

/-- **The home list shows exactly what the run left unretired**, for any caller, store and clock: what any page shows
was never retired; and what was never retired is shown, when the list is read at all and no section is past the
ceiling. -/
theorem home_shows_unretired (c : Collection) (requests : List Request) {store : Store}
    (hstore : store.notifications = after api c requests) (token : Token) (now : Int) (o : ObjectId) :
    (HomeShows api store token now o → Owed api c requests token o) ∧
    (WithinCeiling api store token now → (∃ page, getHomeCards api store token now 0 100 = .ok page) →
      Owed api c requests token o → HomeShows api store token now o) := by
  constructor
  · rintro ⟨offset, size, page, hpage, card, hc, ht, hid⟩
    obtain ⟨secs, i, k, hsecs, -, -, -, -, rfl⟩ := page_of_ok h hpage
    obtain ⟨ns, rest, hns, rfl, -, hrest, -⟩ := homeSections_band h hsecs
    have hmem : card ∈ ns ++ Window.whole rest :=
      (Window.cutAll_sublist 100 _).subset ((Window.slice_sublist i k _).subset hc)
    have hcard : card ∈ ns := (List.mem_append.1 hmem).resolve_right (fun hr => hrest.later card hr ht)
    obtain ⟨ds, hds, rfl⟩ := Except.ok_of_map hns
    obtain ⟨d, hd, rfl⟩ := List.mem_map.1 hcard
    obtain ⟨hdocs, hsees, hactive, hnames⟩ := (mem_allNotifications h hds d).1 hd
    have hdo : d.id = o := by simpa [notificationCard, CardService.cardOf, Dict.value] using hid
    rw [hstore] at hdocs
    exact ⟨hdo ▸ (active_iff_unretired h hdocs).1 hactive, d, hdocs, hdo, hsees, hnames⟩
  · rintro hceiling ⟨page, hpage⟩ ⟨hun, d, hdocs, hdo, hsees, hnames⟩
    obtain ⟨secs, i, k, hsecs, hi, hk, -, -, rfl⟩ := page_of_ok h hpage
    obtain ⟨ns, rest, hns, rfl, -, -, -⟩ := homeSections_band h hsecs
    have hlen : ns.length ≤ 100 := hceiling _ hsecs ⟨ns, true⟩ List.mem_cons_self rfl
    obtain ⟨ds, hds, rfl⟩ := Except.ok_of_map hns
    have hactive : isActive d = true := (active_iff_unretired h hdocs).2 (hdo ▸ hun)
    have hd : d ∈ ds := (mem_allNotifications h hds d).2 ⟨hstore ▸ hdocs, hsees, hactive, hnames⟩
    refine ⟨0, 100, _, hpage, notificationCard api token d, ?_, rfl, by rw [← hdo]; rfl⟩
    obtain rfl : i = 0 := by omega
    obtain rfl : k = 100 := by omega
    rw [Window.slice, List.drop_zero, Window.cutAll, List.flatMap_cons, Window.cut, if_pos rfl,
      List.take_of_length_le hlen, List.take_append, List.take_of_length_le hlen]
    exact List.mem_append_left _ (List.mem_map_of_mem hd)

end

/-- A dismissed notification is on no page of its owner's list. -/
theorem home_shows_unretired_own :
    ¬ HomeShows reference (notificationsOnly (after reference ownNotifications [dismissOwn])) menteeToken 0
      (Reference.idOf 1) := by
  intro hshow
  have howed := (home_shows_unretired reference_documented ownNotifications [dismissOwn]
    (show (notificationsOnly (after reference ownNotifications [dismissOwn])).notifications = _ from rfl) menteeToken 0
    (Reference.idOf 1)).1 hshow
  exact howed.1.since .dismissed _ _ _ (some (ownNotification.setControl .dismissed (.doc [("at_time", .date 0)])))
    (List.mem_singleton.2 rfl) rfl

end NotificationService
end Discovery
