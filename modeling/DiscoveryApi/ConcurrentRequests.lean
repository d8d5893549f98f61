import DiscoveryApi.WebRoutes
/-!
# ConcurrentRequests — requests handled at the same time

The handlers of requests in flight interleave at their database accesses.  Whatever the interleaving, some order of the
requests that took effect explains every response and the store, so what a response acknowledged is there.
-/
namespace Discovery
namespace WebRoutes

open Linearize (Prog History)

/-- A handler, a database access a step: what comes before its call refuses it or not, what comes after replies. -/
def handlerProgram (api : ApiUtils) (flask : FlaskUtils) (lists : ListUtils) (r : WebRequest) :
    Prog Store (Except RouteError Response) :=
  (outcomes flask).program (Concurrency.program api lists) r

def requestProgram (api : ApiUtils) (flask : FlaskUtils) (lists : ListUtils) (r : WebRequest) : Prog Store Response :=
  flask.handleRouteExceptions (handlerProgram api flask lists r)

/-- The wrapper takes no step of its own. -/
theorem requestProgram_eq {flask : FlaskUtils} (hf : flask.Documented) (api : ApiUtils) (lists : ListUtils)
    (r : WebRequest) : requestProgram api flask lists r = (front flask).program (Concurrency.program api lists) r := by
  rw [requestProgram, hf.once, Prog.bind_pure_eq_map, front, Front.FrontEnd.program_map, handlerProgram]

/-- The requests in flight, none of them begun. -/
def inFlight {ι : Type} (api : ApiUtils) (flask : FlaskUtils) (lists : ListUtils) (requests : ι → WebRequest)
    (s : Store) : Linearize.Config Store Response ι :=
  ⟨s, fun i => requestProgram api flask lists (requests i)⟩

section
variable {api : ApiUtils} (h : api.Documented) {flask : FlaskUtils} (hf : flask.Documented) (lists : ListUtils)
variable {ι : Type} [DecidableEq ι]
include h hf

theorem requests_linearizable (requests : ι → WebRequest) (s : Store) (schedule : List ι) :
    ∃ log, History (view api flask lists) requests s (inFlight api flask lists requests s) schedule log := by
  unfold inFlight
  simp only [requestProgram_eq hf, view_eq hf]
  exact Front.FrontEnd.linearizable (fun call s => Concurrency.program_pending h lists call s) requests s schedule

/-- **Acknowledged under any interleaving.**  However the database accesses of any number of requests interleave, one
log explains the schedule, at every point of it: a request is logged between its first and its last access, and the
logged ones, served one after the other, leave the store and give every response given.  The notifications at the end
are those at the start, kept but for breadcrumbs, and those the logged 201 responses name, each id once; and every
document a response carries is stored, as it was but for later breadcrumbs. -/
theorem acknowledged_concurrently (requests : ι → WebRequest) (s : Store) (schedule : List ι) :
    ∃ log : List (ι × Response),
      History (view api flask lists) requests s (inFlight api flask lists requests s) schedule log ∧
      (Linearize.run (inFlight api flask lists requests s) schedule).store.notifications.docs.map Document.id =
        s.notifications.docs.map Document.id ++ log.filterMap (fun e => createdBy e.2) ∧
      (s.notifications.docs.map Document.id ++ log.filterMap (fun e => createdBy e.2)).Nodup ∧
      NotificationService.Keeps s.notifications
        (Linearize.run (inFlight api flask lists requests s) schedule).store.notifications ∧
      ∀ i response d, (Linearize.run (inFlight api flask lists requests s) schedule).prog i = .ret response →
        response.body = .document (some d) →
        ∃ d' ∈ (Linearize.run (inFlight api flask lists requests s) schedule).store.notifications.docs,
          NotificationService.LaterOf d d' := by
  obtain ⟨log, hlog⟩ := requests_linearizable h hf lists requests s schedule
  refine ⟨log, hlog, ?_⟩
  obtain ⟨hserial, -, hended⟩ := hlog.whole
  have hjournal : Journal.journal (view api flask lists) s (log.map (fun e => requests e.1)) =
      log.map (fun e => (requests e.1, e.2)) := by
    rw [Journal.journal, hserial, List.zip_map']
  have hstore : (Runs.run (view api flask lists) s (log.map (fun e => requests e.1))).1 =
      (Linearize.run (inFlight api flask lists requests s) schedule).store := congrArg Prod.fst hserial
  have hids := ids_run h hf lists (log.map (fun e => requests e.1)) s
  rw [hjournal, List.filterMap_map, hstore] at hids
  simp only [Function.comp_def] at hids
  refine ⟨hids, ?_, ?_, fun i response d hret hd => ?_⟩
  · rw [← hids]
    exact Collection.ids_nodup _
  · rw [← hstore]
    exact Runs.run_rel (R := fun s s' : Store => NotificationService.Keeps s.notifications s'.notifications)
      (fun _ => NotificationService.Keeps.refl _) NotificationService.Keeps.trans
      (fun s r => (view_handled hf h lists s r).keeps) _ s
  · rw [← hstore]
    have hmem : (requests i, response) ∈
        Journal.journal (view api flask lists) s (log.map (fun e => requests e.1)) := by
      rw [hjournal]
      exact List.mem_map.2 ⟨(i, response), hended i response hret, rfl⟩
    exact carried_run h hf lists hmem hd

end

/-- A create, and the home page of the same caller. -/
def createAndRead : Bool → WebRequest
  | false => ⟨.createNotification, ⟨[("Authorization", "daniel")], []⟩, some (.doc [("name", .str "Welcome")]), 5⟩
  | true => ⟨.getHomeCards, ⟨[("Authorization", "daniel")], []⟩, none, 6⟩

/-- The create's insertion between the arrival of the read and its query. -/
theorem acknowledged_concurrently_between :
    ∃ log : List (Bool × Response),
      (Linearize.run (inFlight reference referenceFlaskUtils referenceLists createAndRead
          (CardService.notificationsOnly NotificationService.ownNotifications))
        [true, false, true]).store.notifications.docs.map Document.id =
        [Reference.idOf 1] ++ log.filterMap (fun e => createdBy e.2) := by
  obtain ⟨log, -, hids, -⟩ := acknowledged_concurrently reference_documented referenceFlaskUtils_documented
    referenceLists createAndRead (CardService.notificationsOnly NotificationService.ownNotifications)
    [true, false, true]
  exact ⟨log, hids⟩

end WebRoutes
end Discovery
