import DiscoveryApi.ConcurrentRequests
import DiscoveryApi.UnseenCalls
/-!
# UnseenRequests — requests out of a caller's sight, handled at the same time

A request of another caller that is refused, reads, or controls a notification the viewer does not see leaves no trace
in the viewer's responses, however the handlers interleave: they are the responses to its requests without it.
-/
namespace Discovery
namespace WebRoutes

open Concurrency (TouchesUnseen LookAlike)
open Linearize (History)
open Unwinding (Purge Conditions transcript)

/-- The request authenticates as the viewer. -/
def fromViewer (flask : FlaskUtils) (viewer : Token) (r : WebRequest) : Bool :=
  match flask.createFlaskToken r with
  | .ok token => decide (token = viewer)
  | .error _ => false

/-- A request of another caller that is refused before its call, or whose call touches nothing the viewer sees. -/
def UnseenRequest (api : ApiUtils) (flask : FlaskUtils) (viewer : Token) (s : Store) (r : WebRequest) : Prop :=
  fromViewer flask viewer r = false ∧ ∀ call, callOf flask r = .ok call → TouchesUnseen api viewer s call

theorem CallFor.token {r : WebRequest} {token : Token} {breadcrumb : Breadcrumb} {call : Concurrency.Call}
    (hfor : CallFor r token breadcrumb call) : call.token = token := by
  cases hfor <;> rfl

theorem front_call {flask : FlaskUtils} {r : WebRequest} {call : Concurrency.Call}
    (hcall : (front flask).call r = .ok call) : callOf flask r = .ok call := by
  unfold front outcomes Front.FrontEnd.map at hcall
  dsimp only at hcall
  cases hx : callOf flask r with
  | error e =>
    rw [hx] at hcall
    cases hcall
  | ok call' =>
    rw [hx] at hcall
    cases hcall
    rfl

/-- A request that makes a call is its caller's. -/
theorem fromViewer_call {flask : FlaskUtils} (viewer : Token) {r : WebRequest} {call : Concurrency.Call}
    (hcall : callOf flask r = .ok call) : fromViewer flask viewer r = decide (call.token = viewer) := by
  obtain ⟨token, breadcrumb, htoken, hfor⟩ := callOf_ok hcall
  rw [fromViewer, htoken, hfor.token]

section
variable {api : ApiUtils} (h : api.Documented) (hcreate : api.CreatesByIds) {flask : FlaskUtils}
variable (hf : flask.Documented) {lists : ListUtils} (hl : lists.Documented) (viewer : Token)
include h hcreate hf hl

theorem unseen_request_conditions : Conditions (view api flask lists) (LookAlike api viewer)
    (UnseenRequest api flask viewer) (fromViewer flask viewer) := by
  rw [view_eq hf]
  refine Front.FrontEnd.conditions (Concurrency.unseen_conditions h hcreate hl) (LookAlike.refl api viewer)
    (fun hcall ho => ?_) (fun hd => hd.1) (fun hd hcall => ?_)
  · rwa [← fromViewer_call viewer (front_call hcall)]
  · have hother := fromViewer_call viewer (front_call hcall)
    rw [hd.1] at hother
    exact ⟨of_decide_eq_false hother.symm, hd.2 _ (front_call hcall)⟩

variable {ι : Type} [DecidableEq ι]

/-- **No trace under any interleaving.**  However the database accesses of any number of requests interleave, some log
explains the schedule; and if requests are left out of the log that were out of the viewer's sight where they took
effect, the rest, served one after the other, give the viewer every response it was given, and leave a store that looks
alike to it. -/
theorem unseen_requests_traceless (requests : ι → WebRequest) (s : Store) (schedule : List ι) :
    ∃ log : List (ι × Response),
      History (view api flask lists) requests s (inFlight api flask lists requests s) schedule log ∧
      ∀ kept, Purge (view api flask lists) (UnseenRequest api flask viewer) s (log.map (fun e => requests e.1)) kept →
        (∀ i response, (Linearize.run (inFlight api flask lists requests s) schedule).prog i = .ret response →
          fromViewer flask viewer (requests i) = true →
          (requests i, response) ∈ transcript (view api flask lists) (fromViewer flask viewer) s kept) ∧
        LookAlike api viewer (Linearize.run (inFlight api flask lists requests s) schedule).store
          (Runs.run (view api flask lists) s kept).1 := by
  obtain ⟨log, hlog⟩ := requests_linearizable h hf lists requests s schedule
  refine ⟨log, hlog, fun kept hpurge => ?_⟩
  obtain ⟨hserial, -, hended⟩ := hlog.whole
  obtain ⟨htranscript, halike⟩ :=
    hpurge.alike (unseen_request_conditions h hcreate hf hl viewer) (LookAlike.refl api viewer s)
  constructor
  · intro i response hret hviewer
    rw [← htranscript, transcript, List.mem_filter]
    refine ⟨?_, hviewer⟩
    rw [Journal.journal, hserial, List.zip_map']
    exact List.mem_map.2 ⟨(i, response), hended i response hret, rfl⟩
  · rw [hserial] at halike
    exact halike

end

/-- The home pages of two callers. -/
def twoReaders : Bool → WebRequest
  | false => ⟨.getHomeCards, ⟨[("Authorization", "daniel")], []⟩, none, 6⟩
  | true => ⟨.getHomeCards, ⟨[("Authorization", "erin")], []⟩, none, 6⟩

/-- The one caller's page, read query by query between the other's queries, is the page it gets alone. -/
theorem unseen_requests_traceless_readers :
    ∃ log : List (Bool × Response), ∀ response,
      (Linearize.run (inFlight reference referenceFlaskUtils referenceLists twoReaders
        (CardService.notificationsOnly NotificationService.ownNotifications))
        [true, false, true, false, true, false]).prog false = .ret response →
      (twoReaders false, response) ∈ transcript (view reference referenceFlaskUtils referenceLists)
        (fromViewer referenceFlaskUtils NotificationService.menteeToken)
        (CardService.notificationsOnly NotificationService.ownNotifications)
        ((log.map (fun e => twoReaders e.1)).filter
          (fromViewer referenceFlaskUtils NotificationService.menteeToken)) := by
  obtain ⟨log, -, hrest⟩ := unseen_requests_traceless reference_documented Concurrency.reference_createsByIds
    referenceFlaskUtils_documented referenceLists_documented NotificationService.menteeToken twoReaders
    (CardService.notificationsOnly NotificationService.ownNotifications) [true, false, true, false, true, false]
  refine ⟨log, fun response hret => (hrest _ (Purge.filter (fun r hr hother s => ⟨hother, ?_⟩) _)).1 false response hret
    (by decide)⟩
  -- a home page touches nothing, whoever reads it
  obtain ⟨⟨i, -⟩, -, rfl⟩ := List.mem_map.1 hr
  intro call hcall
  cases i <;> (cases hcall; trivial)

end WebRoutes
end Discovery
