import DiscoveryApi.EventCards
import Mathlib.Data.List.Forall2
/-!
# EventNames — which events get their Profile's name

Each card is what its event alone would get, so neither a repeated id nor a malformed one reaches another event.  The
name is the denoted Profile's exactly when the id is spelled as the table is keyed, in lower case.
-/
namespace Discovery
namespace EventCardService

open ProfileService

/-- The card of an event looked up alone. -/
def eventCard (api : ApiUtils) (c : Collection) (token : Token) (event : Event) : Card :=
  CardService.cardOf api cardTypeEvents ⟨"Event", eventFields⟩
    (describedAs event (eventDescription api (event.dict.value "type") ((eventProfileId event).bind (nameFor api c))
      (event.sub "created" "at_time"))) token.roleList

/-- The display name of the Profile whose `_id` the event's profile id denotes. -/
def ownName (api : ApiUtils) (c : Collection) (event : Event) : Option Value :=
  (eventProfileId event).bind (fun id => (denoted api id).bind (profileName c))

/-- The lines of an event under a name. -/
def linesWith (api : ApiUtils) (event : Event) (displayName : Option Value) : List String :=
  eventLines api (event.dict.value "type") displayName (event.sub "created" "at_time")

/-- What the description is to say: the event's type, its own Profile's name, its time. -/
def ownLines (api : ApiUtils) (c : Collection) (event : Event) : List String :=
  linesWith api event (ownName api c event)

def CardRight (api : ApiUtils) (c : Collection) (event : Event) (card : Card) : Prop :=
  ownLines api c event ≠ [] → card.description = some (.str (paragraphs (ownLines api c event)))

/-- A profile id of a named Profile is spelled in lower case; or the event has neither type nor time and already says
that name. -/
def Spelled (api : ApiUtils) (c : Collection) (event : Event) : Prop :=
  ∀ id o name, eventProfileId event = some id → denoted api id = some o → profileName c o = some name →
    api.str id = o.hex ∨
      linesWith api event none = [] ∧ event.dict.value "description" = some (.str (api.str name))

/-! ## Lines -/

theorem paragraphs_single (s : String) : paragraphs [s] = s := by simp [paragraphs, Python.join]

theorem describedAs_none (event : Event) : describedAs event none = event.dict := rfl

theorem describedAs_some (event : Event) {s : String} (hs : s ≠ "") :
    (describedAs event (some s)).value "description" = some (.str s) := by
  have hfilter : (some s).filter (fun s => decide (s ≠ "")) = some s := Option.filter_some_pos (decide_eq_true hs)
  unfold describedAs
  rw [hfilter]
  simp only [Dict.value, Dict.set_self]

section
variable {api : ApiUtils} (h : api.DocumentedText)
include h

theorem mem_eventLines {t n a : Option Value} : ∀ l ∈ eventLines api t n a, l ≠ "" := by
  have htext : ∀ {v : Option Value} {l : String}, l ∈ ((v.filter Value.truthy).map api.str).toList → l ≠ "" := by
    intro v l hl
    obtain ⟨w, hw, rfl⟩ := Option.map_eq_some_iff.1 (Option.mem_toList.1 hl)
    exact h.str_truthy w (Option.filter_eq_some_iff.1 hw).2
  intro l hl
  rcases List.mem_append.1 hl with hl | hl
  · rcases List.mem_append.1 hl with hl | hl
    · exact htext hl
    · exact htext hl
  · exact of_decide_eq_true (Option.filter_eq_some_iff.1 (Option.mem_toList.1 hl)).2

theorem paragraphs_ne_empty {event : Event} {n : Option Value} (hne : linesWith api event n ≠ []) :
    paragraphs (linesWith api event n) ≠ "" := by
  intro hp
  obtain ⟨l, hl⟩ := List.exists_mem_of_ne_nil _ hne
  have hjoin : Python.join ['\n', '\n'] ((linesWith api event n).map String.toList) = [] := by
    have hlist := congrArg String.toList hp
    rwa [paragraphs, String.toList_ofList] at hlist
  have hnil := Python.join_eq_nil hjoin l.toList (List.mem_map_of_mem hl)
  exact mem_eventLines h l hl (String.toList_eq_nil_iff.1 hnil)

/-- What a described event says: its lines, or its own description when it has none. -/
theorem description_eq (event : Event) (n : Option Value) :
    (describedAs event (eventDescription api (event.dict.value "type") n (event.sub "created" "at_time"))).value
      "description" =
      if linesWith api event n = [] then event.dict.value "description"
      else some (.str (paragraphs (linesWith api event n))) := by
  by_cases hl : linesWith api event n = []
  · have hdesc : eventDescription api (event.dict.value "type") n (event.sub "created" "at_time") = none := if_pos hl
    rw [hdesc, if_pos hl, describedAs_none]
  · have hdesc : eventDescription api (event.dict.value "type") n (event.sub "created" "at_time") =
        some (paragraphs (linesWith api event n)) := if_neg hl
    rw [hdesc, if_neg hl, describedAs_some event (paragraphs_ne_empty h hl)]

theorem eventCard_description (c : Collection) (token : Token) (event : Event) :
    (eventCard api c token event).description =
      if linesWith api event ((eventProfileId event).bind (nameFor api c)) = [] then event.dict.value "description"
      else some (.str (paragraphs (linesWith api event ((eventProfileId event).bind (nameFor api c))))) := by
  rw [← description_eq h]
  unfold eventCard CardService.cardOf CardService.firstPresent eventFields
  simp only [List.findSome?_cons, List.findSome?_nil]
  cases Dict.value _ "description" <;> rfl

end

/-- A name stands between the lines that need none. -/
theorem linesWith_name (api : ApiUtils) (event : Event) : ∃ before after, linesWith api event none = before ++ after ∧
    ∀ name : Value, name.truthy = true → linesWith api event (some name) = before ++ api.str name :: after := by
  refine ⟨(((event.dict.value "type").filter Value.truthy).map api.str).toList,
    ((formatAtTime api (event.sub "created" "at_time")).filter (fun s => decide (s ≠ ""))).toList, ?_,
    fun name hname => ?_⟩
  · unfold linesWith eventLines
    rw [Option.filter_none, Option.map_none, Option.toList_none, List.append_nil]
  · unfold linesWith eventLines
    rw [Option.filter_some_pos hname, Option.map_some, Option.toList_some, List.append_assoc]
    rfl

theorem length_paragraphs_insert (before after : List String) (s : String) (h : before ++ after ≠ []) :
    (paragraphs (before ++ after)).toList.length < (paragraphs (before ++ s :: after)).toList.length := by
  have hne : before.map String.toList ++ after.map String.toList ≠ [] := by simpa using h
  have hl := Python.length_join_insert ['\n', '\n'] s.toList hne
  simp only [paragraphs, String.toList_ofList, List.map_append, List.map_cons]
  rw [hl]
  simp only [List.length_cons, List.length_nil]
  omega

/-- An event whose id is spelled otherwise than its named Profile's `_id`. -/
theorem found_or_misspelled (api : ApiUtils) (c : Collection) (event : Event) :
    (eventProfileId event).bind (nameFor api c) = ownName api c event ∧ Spelled api c event ∨
      ∃ id o name, eventProfileId event = some id ∧ denoted api id = some o ∧ profileName c o = some name ∧
        api.str id ≠ o.hex ∧ (eventProfileId event).bind (nameFor api c) = none ∧ ownName api c event = some name := by
  unfold Spelled ownName
  cases hid : eventProfileId event with
  | none => exact Or.inl ⟨rfl, fun _ _ _ h => nomatch h⟩
  | some id =>
    cases ho : denoted api id with
    | none =>
      refine Or.inl ⟨by rw [Option.bind_some, Option.bind_some, nameFor, ho]; rfl, fun id' o name h hd => ?_⟩
      rw [← Option.some.inj h, ho] at hd
      cases hd
    | some o =>
      have hnamed : nameFor api c id = if api.str id = o.hex then profileName c o else none := by
        rw [nameFor, ho, Option.bind_some]
      rw [Option.bind_some, Option.bind_some, hnamed, ho, Option.bind_some]
      by_cases hs : api.str id = o.hex
      · refine Or.inl ⟨if_pos hs, fun id' o' name h hd _ => Or.inl ?_⟩
        rw [← Option.some.inj h] at hd ⊢
        rw [ho, Option.some.injEq] at hd
        rw [← hd, hs]
      · cases hn : profileName c o with
        | none =>
          refine Or.inl ⟨if_neg hs, fun id' o' name h hd hname => ?_⟩
          rw [← Option.some.inj h, ho, Option.some.injEq] at hd
          rw [← hd, hn] at hname
          cases hname
        | some name => exact Or.inr ⟨id, o, name, rfl, ho, hn, hs, if_neg hs, rfl⟩

theorem truthy_profileName {c : Collection} {o : ObjectId} {name : Value} (h : profileName c o = some name) :
    name.truthy = true := by
  obtain ⟨d, -, hd⟩ := Option.bind_eq_some_iff.1 h
  exact (Option.filter_eq_some_iff.1 hd).2

/-- **When a card is right**: exactly when its event's id is spelled as the table is keyed. -/
theorem cardRight_iff {api : ApiUtils} (h : api.DocumentedText) (c : Collection) (token : Token) (event : Event) :
    CardRight api c event (eventCard api c token event) ↔ Spelled api c event := by
  rcases found_or_misspelled api c event with ⟨hfound, hspelled⟩ | ⟨id, o, name, hid, ho, hname, hs, hfound, hown⟩
  · refine ⟨fun _ => hspelled, fun _ hne => ?_⟩
    rw [eventCard_description h, hfound]
    exact if_neg hne
  · obtain ⟨before, after, hnone, hsome⟩ := linesWith_name api event
    have hlines : ownLines api c event = before ++ api.str name :: after := by
      rw [ownLines, hown]
      exact hsome name (truthy_profileName hname)
    unfold CardRight
    rw [eventCard_description h, hfound, hlines, hnone]
    constructor
    · intro hright id' o' name' hid' ho' hname'
      rw [hid, Option.some.injEq] at hid'
      subst hid'
      rw [ho, Option.some.injEq] at ho'
      subst ho'
      rw [hname, Option.some.injEq] at hname'
      subst hname'
      have hdesc := hright (by simp)
      by_cases hl : before ++ after = []
      · obtain ⟨rfl, rfl⟩ := List.append_eq_nil_iff.1 hl
        rw [if_pos hl, List.nil_append, paragraphs_single] at hdesc
        exact Or.inr ⟨by rw [hnone]; rfl, hdesc⟩
      · -- a line more makes another text
        rw [if_neg hl] at hdesc
        have hlt := length_paragraphs_insert before after (api.str name) hl
        rw [Value.str.inj (Option.some.inj hdesc)] at hlt
        exact absurd hlt (Nat.lt_irrefl _)
    · intro hspelled _
      rcases hspelled id o name hid ho hname with hlower | ⟨hl, hdesc⟩
      · exact absurd hlower hs
      · rw [hnone] at hl
        obtain ⟨rfl, rfl⟩ := List.append_eq_nil_iff.1 hl
        rw [if_pos hl, hdesc, List.nil_append, paragraphs_single]

/-! ## The page -/

theorem enrichEvents_eq {api : ApiUtils} (h : api.DocumentedText) (c : Collection) (events : List Event) :
    enrichEvents api c events = events.map (fun event => describedAs event (eventDescription api
      (event.dict.value "type") ((eventProfileId event).bind (nameFor api c)) (event.sub "created" "at_time"))) := by
  refine List.map_congr_left (fun event he => ?_)
  unfold enrichEvent
  cases hid : eventProfileId event with
  | none => rfl
  | some id =>
    have hmem : some id ∈ events.map eventProfileId := hid ▸ List.mem_map_of_mem he
    rw [Option.bind_some, Option.bind_some, displayNames_get h c hmem]

/-- **The batch is the events looked up alone.** -/
theorem getEvents_eq {api : ApiUtils} (h : api.DocumentedText)
    (sharedGetEvents : EventQuery → Except HTTPError (List Event)) (c : Collection) {query : EventQuery}
    {events : List Event} (he : sharedGetEvents query = .ok events) :
    getEvents api sharedGetEvents c query = .ok (events.map (eventCard api c query.token)) := by
  have hproject : ∀ source, CardService.project api cardTypeEvents (some source) (some query.token) =
      .ok (CardService.cardOf api cardTypeEvents ⟨"Event", eventFields⟩ source query.token.roleList) :=
    fun source => CardService.project_known api rfl source query.token
  unfold getEvents
  simp only [he, bind, Except.bind]
  rw [Except.mapM_ok hproject, enrichEvents_eq h, List.map_map]
  rfl

/-- **When the page of Event cards is right**: each card is the one its event alone would get, and it names the event's
own Profile exactly when every id of a named Profile is spelled in lower case. -/
theorem eventCards_right_iff {api : ApiUtils} (h : api.DocumentedText)
    {sharedGetEvents : EventQuery → Except HTTPError (List Event)} (c : Collection) {query : EventQuery}
    {events : List Event} (he : sharedGetEvents query = .ok events) :
    (∃ cards, getEvents api sharedGetEvents c query = .ok cards ∧
      List.Forall₂ (fun event card => CardRight api c event card ∧
        getEvents api (fun _ => .ok [event]) c query = .ok [card]) events cards) ↔
      ∀ event ∈ events, Spelled api c event := by
  have halone : ∀ event, getEvents api (fun _ => .ok [event]) c query = .ok [eventCard api c query.token event] :=
    fun event => getEvents_eq h (fun _ => .ok [event]) c rfl
  constructor
  · rintro ⟨cards, hcards, hright⟩ event hevent
    rw [getEvents_eq h _ c he, Except.ok.injEq] at hcards
    rw [← hcards, List.forall₂_map_right_iff, List.forall₂_same] at hright
    exact (cardRight_iff h c query.token event).1 (hright event hevent).1
  · intro hspelled
    refine ⟨_, getEvents_eq h _ c he, ?_⟩
    rw [List.forall₂_map_right_iff, List.forall₂_same]
    exact fun event hevent => ⟨(cardRight_iff h c query.token event).2 (hspelled event hevent), halone event⟩

end EventCardService

/-! ## On concrete events -/

theorem Reference.str_truthy {v : Value} (h : v.truthy = true) : Reference.str v ≠ "" := by
  cases v with
  | null => cases h
  | bool b => cases b <;> decide
  | int i =>
    cases i with
    | ofNat n => exact Nat.repr_ne_empty
    | negSucc n => simp [Reference.str, Reference.reprOf, toString, Int.repr]
  | str s => exact of_decide_eq_true h
  | oid o => exact ObjectId.ne_empty_of_ofHex? (ObjectId.ofHex?_hex o)
  | date t => exact Calendar.isoformat_ne_empty _ _
  | list xs => simp [Reference.str, Reference.reprOf]
  | doc fs => simp [Reference.str, Reference.reprOf]

theorem Reference.str_falsy {v : Value} (h : v.truthy = false) : ObjectId.ofHex? (Reference.str v) = none := by
  cases v with
  | null => decide
  | bool b => cases b <;> decide
  | int i =>
    have hi : i = 0 := by simpa [Value.truthy] using h
    subst hi
    decide
  | str s =>
    have hs : s = "" := by simpa [Value.truthy] using h
    subst hs
    decide
  | oid o => cases h
  | date t => cases h
  | list xs =>
    have hx : xs = [] := by simpa [Value.truthy] using h
    subst hx
    decide
  | doc fs =>
    have hf : fs = [] := by simpa [Value.truthy] using h
    subst hf
    decide

theorem Reference.sat_in (os : List ObjectId) (d : Document) :
    Reference.sat [("_id", .doc [("$in", .list (os.map .oid))])] d = os.contains d.id := by
  have hop : Reference.operator d "_id" "$in" (.list (os.map .oid)) =
      some ((os.map Value.oid).any (fun w => decide (Reference.valueAt d "_id" = some w))) := rfl
  have hid : Reference.valueAt d "_id" = some (.oid d.id) := rfl
  rw [Reference.sat_operator hop, hid, List.any_map, Bool.eq_iff_iff, List.any_eq_true, List.contains_iff_mem]
  simp

theorem reference_documentedText : reference.DocumentedText where
  toDocumented := reference_documented
  str_truthy _ := Reference.str_truthy
  str_falsy _ := Reference.str_falsy
  sat_in := Reference.sat_in

namespace EventCardService

def loginOf (profileId : Value) : Event where
  dict := fun k => [("type", .str "login"), ("context", .doc [("profile_id", profileId)])].lookup k
  context := Or.inr (Or.inr ⟨_, rfl⟩)
  created := Or.inl rfl

def namedProfiles : Collection :=
  ⟨[Document.ofList (Reference.idOf 0xa00000000000000000000002) [("display_name", .str "Daniel")] rfl],
    List.nodup_singleton _⟩

def eventQuery : EventQuery := ⟨⟨some "mike", some [.admin], none, none, none⟩, 0, 20, none, none, none⟩

def logins : List Event := [loginOf (.str "a00000000000000000000002"), loginOf (.str "not an id"),
  loginOf (.oid (Reference.idOf 0xa00000000000000000000002))]

theorem eventCards_logins :
    (∃ cards, getEvents reference (fun _ => .ok logins) namedProfiles eventQuery = .ok cards ∧
      List.Forall₂ (fun event card => CardRight reference namedProfiles event card ∧
        getEvents reference (fun _ => .ok [event]) namedProfiles eventQuery = .ok [card]) logins cards) ↔
      ∀ event ∈ logins, Spelled reference namedProfiles event :=
  eventCards_right_iff reference_documentedText namedProfiles rfl

/-- **An id spelled in upper case loses its Profile's name.** -/
theorem upper_case_id_nameless :
    ¬ ∃ cards, getEvents reference (fun _ => .ok [loginOf (.str "A00000000000000000000002")]) namedProfiles eventQuery =
        .ok cards ∧
      List.Forall₂ (CardRight reference namedProfiles) [loginOf (.str "A00000000000000000000002")] cards := by
  rintro ⟨cards, hcards, hright⟩
  rw [getEvents_eq reference_documentedText _ namedProfiles rfl, Except.ok.injEq] at hcards
  rw [← hcards, List.forall₂_map_right_iff, List.forall₂_same] at hright
  have hspelled := (cardRight_iff reference_documentedText namedProfiles eventQuery.token _).1
    (hright _ List.mem_cons_self)
  rcases hspelled (.str "A00000000000000000000002") (Reference.idOf 0xa00000000000000000000002) (.str "Daniel")
    rfl (by decide) (by decide) with h | ⟨h, -⟩
  · exact absurd h (by decide)
  · exact absurd h (by decide)

end EventCardService
end Discovery
