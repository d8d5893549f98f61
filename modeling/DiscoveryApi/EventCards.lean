import DiscoveryApi.Card
import DiscoveryApi.Query
import DiscoveryApi.Reference
import DiscoveryApi.Lib.Batch
import DiscoveryApi.Lib.Python
/-!
# EventCards — the Event list as Cards, with each Profile's name

The names are read in one lookup for the whole page: ids go in as text and the answers come back filed under the text
of each Profile's `_id`, which is how an id is spelled only in lower case.
-/
namespace Discovery

open Python (join)

/-! ## Events -/

/-- A field that is absent, null or a sub-document. -/
def subDocument (v : Option Value) : Prop := v = none ∨ v = some .null ∨ ∃ fs, v = some (.doc fs)

/-- An Event as the shared service returns it. -/
structure Event where
  dict : Dict
  context : subDocument (dict "context")
  created : subDocument (dict "created")

/-- `(event.get(k) or {}).get(sub)` -/
def Event.sub (event : Event) (k sub : String) : Option Value :=
  match event.dict k with
  | some (.doc fs) => Dict.value (fun name => fs.lookup name) sub
  | _ => none

/-- The keyword arguments of `get_events`. -/
structure EventQuery where
  token : Token
  offset : Int
  size : Int
  filters : Option Match
  sortBy : Option SortBy
  profileId : Option Value

/-! ## The names of a page -/

namespace ProfileService

def displayNameOf (doc : Document) : Option Value := (doc.dict.value "display_name").filter Value.truthy

/-- The ids to look up, from their texts: each text once, a text that is no ObjectId skipped.  bson also takes a text of
24 characters with blanks among them, as an id no document has. -/
def uniqueIds (api : ApiUtils) (profileIds : List (Option Value)) : List ObjectId :=
  Batch.collect ObjectId.ofHex? [] (profileIds.filterMap (fun id => (id.filter Value.truthy).map api.str))

def displayNamesForIds (api : ApiUtils) (c : Collection) (profileIds : List (Option Value)) : Dict :=
  let ids := uniqueIds api profileIds
  if ids = [] then fun _ => none
  else Batch.assign (fun doc => api.str (.oid doc.id)) displayNameOf
    (api.getDocuments c [("_id", .doc [("$in", .list (ids.map .oid))])])

end ProfileService

namespace EventCardService

def eventProfileId (event : Event) : Option Value :=
  match (event.sub "context" "profile_id").filter Value.truthy with
  | some id => some id
  | none => event.dict.value "profile_id"

def formatAtTime (api : ApiUtils) : Option Value → Option String
  | none => none
  | some (.date t) => some (Calendar.isoformat "T" t)
  | some v => some (api.str v)

/-- The lines of an Event's Markdown: its type, its profile's name, its time. -/
def eventLines (api : ApiUtils) (eventType displayName atTime : Option Value) : List String :=
  ((eventType.filter Value.truthy).map api.str).toList ++ ((displayName.filter Value.truthy).map api.str).toList ++
    ((formatAtTime api atTime).filter (fun s => decide (s ≠ ""))).toList

def paragraphs (lines : List String) : String := String.ofList (join ['\n', '\n'] (lines.map String.toList))

def eventDescription (api : ApiUtils) (eventType displayName atTime : Option Value) : Option String :=
  let lines := eventLines api eventType displayName atTime
  if lines = [] then none else some (paragraphs lines)

/-- A copy of the event, its description set when there is one to set. -/
def describedAs (event : Event) (description : Option String) : Dict :=
  match description.filter (fun s => decide (s ≠ "")) with
  | some s => event.dict.set "description" (.str s)
  | none => event.dict

/-- One event of `_enrich_events`, with the names read for the page. -/
def enrichEvent (api : ApiUtils) (names : Dict) (event : Event) : Dict :=
  let displayName := (eventProfileId event).bind (fun id => names (api.str id))
  describedAs event
    (eventDescription api (event.dict.value "type") displayName (event.sub "created" "at_time"))

def enrichEvents (api : ApiUtils) (profiles : Collection) (events : List Event) : List Dict :=
  let names := ProfileService.displayNamesForIds api profiles (events.map eventProfileId)
  events.map (enrichEvent api names)

/-- `get_events`, over the shared service's. -/
def getEvents (api : ApiUtils) (sharedGetEvents : EventQuery → Except HTTPError (List Event)) (profiles : Collection)
    (query : EventQuery) : Except HTTPError (List Card) := do
  let events ← sharedGetEvents query
  (enrichEvents api profiles events).mapM (fun source =>
    CardService.project api cardTypeEvents (some source) (some query.token))

end EventCardService

/-! ## What the lookup relies on -/

/-- What the Event cards also rely on: how Python spells a value, and MongoDB's `$in`. -/
structure ApiUtils.DocumentedText (api : ApiUtils) : Prop extends api.Documented where
  str_truthy : ∀ v, v.truthy = true → api.str v ≠ ""
  str_falsy : ∀ v, v.truthy = false → ObjectId.ofHex? (api.str v) = none
  sat_in : ∀ (os : List ObjectId) d, api.sat [("_id", .doc [("$in", .list (os.map .oid))])] d = os.contains d.id

namespace ProfileService

/-- The id a profile id's text spells. -/
def denoted (api : ApiUtils) (id : Value) : Option ObjectId := ObjectId.ofHex? (api.str id)

/-- The display name of the Profile of an id. -/
def profileName (c : Collection) (o : ObjectId) : Option Value := (c.find o).bind displayNameOf

/-- What the table holds under an id's own text: its Profile's name, if the text is the lower-case one. -/
def nameFor (api : ApiUtils) (c : Collection) (id : Value) : Option Value :=
  (denoted api id).bind (fun o => if api.str id = o.hex then profileName c o else none)

section
variable {api : ApiUtils} (h : api.DocumentedText)
include h

theorem truthy_of_denoted {v : Value} {o : ObjectId} (hv : denoted api v = some o) : v.truthy = true := by
  refine by_contra fun hf => ?_
  rw [denoted, h.str_falsy v (Bool.eq_false_iff.2 hf)] at hv
  cases hv

theorem mem_uniqueIds {ids : List (Option Value)} {o : ObjectId} :
    o ∈ uniqueIds api ids ↔ ∃ v, some v ∈ ids ∧ denoted api v = some o := by
  unfold uniqueIds
  rw [Batch.mem_collect]
  constructor
  · rintro ⟨k, hk, -, ho⟩
    obtain ⟨id, hid, hkey⟩ := List.mem_filterMap.1 hk
    obtain ⟨v, hv, rfl⟩ := Option.map_eq_some_iff.1 hkey
    obtain ⟨rfl, -⟩ := Option.filter_eq_some_iff.1 hv
    exact ⟨v, hid, ho⟩
  · rintro ⟨v, hv, ho⟩
    refine ⟨api.str v, List.mem_filterMap.2 ⟨some v, hv, ?_⟩, List.not_mem_nil, ho⟩
    rw [Option.filter_some_pos (truthy_of_denoted h ho), Option.map_some]

omit h in
theorem key_nodup (c : Collection) (p : Document → Bool) :
    ((c.docs.filter p).map (fun doc => doc.id.hex)).Nodup := by
  have hids : ((c.docs.filter p).map Document.id).Nodup := c.ids_nodup.sublist (List.filter_sublist.map _)
  have hhex := hids.map (f := ObjectId.hex) (fun o o' heq => ObjectId.hex_inj heq)
  rwa [List.map_map] at hhex

theorem displayNames_eq (c : Collection) (ids : List (Option Value)) : displayNamesForIds api c ids =
    Batch.assign (fun doc : Document => doc.id.hex) displayNameOf
      (c.docs.filter (fun d => (uniqueIds api ids).contains d.id)) := by
  have hdocs : api.getDocuments c [("_id", .doc [("$in", .list ((uniqueIds api ids).map .oid))])] =
      c.docs.filter (fun d => (uniqueIds api ids).contains d.id) := by
    rw [h.getDocuments_eq]
    exact List.filter_congr (fun d _ => h.sat_in _ d)
  have hkey : (fun doc : Document => api.str (.oid doc.id)) = fun doc => doc.id.hex := funext fun d => h.str_oid d.id
  unfold displayNamesForIds
  simp only [hdocs, hkey]
  split
  · rename_i hnone
    rw [hnone]
    simp only [List.contains_nil, List.filter_false]
    rfl
  · rfl

/-- **One lookup serves every id of the page**: under an id's text the table holds what that id alone would find. -/
theorem displayNames_get (c : Collection) {ids : List (Option Value)} {id : Value} (hid : some id ∈ ids) :
    displayNamesForIds api c ids (api.str id) = nameFor api c id := by
  rw [displayNames_eq h]
  have hspelled : ∀ d : Document, d.id.hex = api.str id → denoted api id = some d.id := fun d hd => by
    rw [denoted, ← hd, ObjectId.ofHex?_hex]
  by_cases hlower : ∃ o, denoted api id = some o ∧ api.str id = o.hex
  · obtain ⟨o, ho, hs⟩ := hlower
    have hname : nameFor api c id = profileName c o := by rw [nameFor, ho, Option.bind_some, if_pos hs]
    rw [hname, profileName]
    cases hf : c.find o with
    | none =>
      refine Batch.assign_other (fun d hd heq => ?_)
      have hid' := hspelled d heq
      rw [ho, Option.some.injEq] at hid'
      rw [Collection.find_eq_some_iff.2 ⟨(List.mem_filter.1 hd).1, hid'.symm⟩] at hf
      cases hf
    | some d =>
      obtain ⟨hd, rfl⟩ := Collection.find_eq_some_iff.1 hf
      have hmem : d ∈ c.docs.filter (fun d => (uniqueIds api ids).contains d.id) :=
        List.mem_filter.2 ⟨hd, List.contains_iff_mem.2 ((mem_uniqueIds h).2 ⟨id, hid, ho⟩)⟩
      rw [hs, Batch.assign_mem (key_nodup c _) hmem]
      rfl
  · have hname : nameFor api c id = none := by
      unfold nameFor
      cases ho : denoted api id with
      | none => rfl
      | some o => exact if_neg (fun hs => hlower ⟨o, ho, hs⟩)
    rw [hname]
    exact Batch.assign_other (fun d _ heq => hlower ⟨d.id, hspelled d heq, heq.symm⟩)

end

end ProfileService
end Discovery
