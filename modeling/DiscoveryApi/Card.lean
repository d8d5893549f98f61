import DiscoveryApi.ApiUtils
/-!
# Card — projecting a document onto the Card schema

`CardService.project` emits the five Card properties and no other; a property whose source is absent is left out, here
`none`.
-/
namespace Discovery

/-- The Card schema (`additionalProperties: false`). -/
structure Card where
  id : Option Value
  name : Option Value
  description : Option Value
  type : Option String
  link : Option String
deriving DecidableEq

def cardTypeCustomer : String := "customer"
def cardTypeEvent : String := "event"
def cardTypeEvents : String := "events"
def cardTypeMember : String := "member"
def cardTypeMembers : String := "members"
def cardTypeMentee : String := "mentee"
def cardTypeMentees : String := "mentees"
def cardTypeNotification : String := "notification"
def cardTypeNotifications : String := "notifications"
def cardTypePaths : String := "paths"
def cardTypePlans : String := "plans"
def cardTypeResources : String := "resources"

/-- Card field -> ordered source field candidates. -/
structure CardFields where
  name : List String
  description : List String

def namedFields : CardFields := ⟨["name"], ["description"]⟩
def profileFields : CardFields := ⟨["display_name"], ["description"]⟩
def notificationFields : CardFields := ⟨["name"], ["message"]⟩
def eventFields : CardFields := ⟨["type"], ["description"]⟩

structure CardSpec where
  type : String
  fields : CardFields

def cardTypeSpecs : List (String × CardSpec) :=
  [(cardTypeCustomer, ⟨"Customer", namedFields⟩),
   (cardTypeEvent, ⟨"Event", eventFields⟩),
   (cardTypeEvents, ⟨"Event", eventFields⟩),
   (cardTypeMember, ⟨"Member", profileFields⟩),
   (cardTypeMembers, ⟨"Member", profileFields⟩),
   (cardTypeMentee, ⟨"Mentee", profileFields⟩),
   (cardTypeMentees, ⟨"Mentee", profileFields⟩),
   (cardTypeNotification, ⟨"Notification", notificationFields⟩),
   (cardTypeNotifications, ⟨"Notification", notificationFields⟩),
   (cardTypePaths, ⟨"Path", namedFields⟩),
   (cardTypePlans, ⟨"Plan", namedFields⟩),
   (cardTypeResources, ⟨"Resource", namedFields⟩)]

namespace CardService

def syntheticCard (name description cardType link : String) : Card :=
  ⟨none, some (.str name), some (.str description), some cardType, some link⟩

def firstPresent (source : Dict) (candidates : List String) : Option Value := candidates.findSome? source.value

/-- The SPA path of a projected document, its id already spelled. -/
def cardLink (cardType : String) (roles : List Role) (idStr : String) : Option String :=
  if cardType = cardTypeNotification ∨ cardType = cardTypeNotifications then some ("discovery/notification/" ++ idStr)
  else if cardType = cardTypeMember ∨ cardType = cardTypeMembers then some ("customer/profile/" ++ idStr)
  else if cardType = cardTypeMentee ∨ cardType = cardTypeMentees then some ("mentor/mentee/" ++ idStr)
  else if cardType = cardTypeCustomer then some ("customer/customer/" ++ idStr)
  else if cardType = cardTypeResources then
    some ((if Role.mentor ∈ roles then "mentor" else "mentee") ++ "/resource/" ++ idStr)
  else if cardType = cardTypePaths then
    some ((if Role.mentor ∈ roles then "mentor" else "mentee") ++ "/path/" ++ idStr)
  else if cardType = cardTypePlans then some ("mentor/plan/" ++ idStr)
  else none

def cardOf (api : ApiUtils) (cardType : String) (spec : CardSpec) (source : Dict) (roles : List Role) : Card where
  id := source.value "_id"
  name := firstPresent source spec.fields.name
  description := firstPresent source spec.fields.description
  type := some spec.type
  link := (source.value "_id").bind (fun docId => cardLink cardType roles (api.str docId))

def project (api : ApiUtils) (cardType : String) (document : Option Dict) (token : Option Token) :
    Except HTTPError Card :=
  match cardTypeSpecs.lookup cardType with
  | none => .error (.badRequest ("Unsupported card type: " ++ cardType))
  | some spec => .ok (cardOf api cardType spec (document.getD (fun _ => none)) ((token.map Token.roleList).getD []))

def projectAll (api : ApiUtils) (cardType : String) (documents : List Document) (token : Option Token) :
    Except HTTPError (List Card) :=
  documents.mapM (fun document => project api cardType (some document.dict) token)

theorem project_known (api : ApiUtils) {cardType : String} {spec : CardSpec}
    (h : cardTypeSpecs.lookup cardType = some spec) (document : Dict) (token : Token) :
    project api cardType (some document) (some token) = .ok (cardOf api cardType spec document token.roleList) := by
  rw [project, h]
  rfl

theorem projectAll_known (api : ApiUtils) {cardType : String} {spec : CardSpec}
    (h : cardTypeSpecs.lookup cardType = some spec) (documents : List Document) (token : Token) :
    projectAll api cardType documents (some token) =
      .ok (documents.map (fun d => cardOf api cardType spec d.dict token.roleList)) := by
  unfold projectAll
  induction documents with
  | nil => rfl
  | cons d ds ih => rw [List.mapM_cons, project_known api h, ih]; rfl

theorem cardOf_id (api : ApiUtils) (cardType : String) (spec : CardSpec) (d : Document) (roles : List Role) :
    (cardOf api cardType spec d.dict roles).id = some (.oid d.id) := rfl

end CardService
end Discovery
