import DiscoveryApi.Lib.Front
import DiscoveryApi.Concurrency
import DiscoveryApi.Ledger
/-!
# WebRoutes — the handlers between HTTP and the services

A handler reads the token, builds the breadcrumb, parses what its request must carry, makes one service call, logs the
success and returns the answer; `handle_route_exceptions` turns what it raises into a status.  So the HTTP API is a front
end over the calls of `Concurrency`, and every theorem about runs of calls is one about runs of requests.
-/
namespace Discovery

/-! ## Requests and responses -/

/-- What a handler raises: a failed authentication, or an exception of a service. -/
inductive RouteError where
  | unauthorized (message : String)
  | raised (e : HTTPError)

inductive Route where
  | getHomeCards
  | getNotificationCards
  | createNotification
  | dismissNotification (notificationId : String)
  | cancelNotification (notificationId : String)

/-- A route whose handler may write. -/
def Route.writes : Route → Bool
  | .getHomeCards | .getNotificationCards => false
  | _ => true

/-- A request at a route: what `get_json(silent=True)` makes of its body, and the clock when it is handled. -/
structure WebRequest where
  route : Route
  request : Request
  json : Option Value
  now : Int

inductive Body where
  | document (d : Option Document)
  | cards (cards : List Card)
  | error (message : String)

structure Response where
  status : Nat
  body : Body

/-- A breadcrumb dict. -/
abbrev Breadcrumb := List (String × Value)

/-- The part of `api_utils.flask_utils` the handlers use. -/
structure FlaskUtils where
  createFlaskToken : WebRequest → Except RouteError Token
  createFlaskBreadcrumb : WebRequest → Token → Breadcrumb
  parsePaginationHeaders : Request → Except HTTPError (Int × Int)
  /-- The wrapper of a handler, whatever a handler's steps are: it runs on a store, or between other requests. -/
  handleRouteExceptions : {m : Type → Type} → [Monad m] → m (Except RouteError Response) → m Response

/-- What the wrapper makes of a handler's end. -/
def FlaskUtils.answer (flask : FlaskUtils) (outcome : Except RouteError Response) : Response :=
  flask.handleRouteExceptions (m := Id) outcome

/-- **What the handlers rely on** of `flask_utils`. -/
structure FlaskUtils.Documented (flask : FlaskUtils) : Prop where
  -- the two entries of a breadcrumb the handlers log
  at_time : ∀ r token, (flask.createFlaskBreadcrumb r token).lookup "at_time" ≠ none
  correlation_id : ∀ r token, (flask.createFlaskBreadcrumb r token).lookup "correlation_id" ≠ none
  -- handle_route_exceptions: the handler runs once, its response passes, an exception is answered with a message
  once : ∀ {m : Type → Type} [Monad m] (handler : m (Except RouteError Response)),
    flask.handleRouteExceptions handler = handler >>= fun outcome => pure (flask.answer outcome)
  returned : ∀ response, flask.answer (.ok response) = response
  message : ∀ e, ∃ text, (flask.answer (.error e)).body = .error text
  -- and with the status of its class
  unauthorized : ∀ msg, (flask.answer (.error (.unauthorized msg))).status = 401
  badRequest : ∀ msg, (flask.answer (.error (.raised (.badRequest msg)))).status = 400
  forbidden : ∀ msg, (flask.answer (.error (.raised (.forbidden msg)))).status = 403
  notFound : ∀ msg, (flask.answer (.error (.raised (.notFound msg)))).status = 404
  unhandled : ∀ msg, (flask.answer (.error (.raised (.unhandled msg)))).status = 500

namespace WebRoutes

open Concurrency (Call Answer)
open CardService (getHomeCards)

/-! ## The handlers -/

def raising {α : Type} : Except HTTPError α → Except RouteError α := Except.mapError .raised

def authContext (flask : FlaskUtils) (r : WebRequest) : Except RouteError (Token × Breadcrumb) := do
  let token ← flask.createFlaskToken r
  .ok (token, flask.createFlaskBreadcrumb r token)

def requestDocument (r : WebRequest) : Except RouteError Match :=
  match r.json with
  | some (.doc data) => .ok data
  | _ => .error (.raised (.badRequest "Request body must be a JSON object"))

/-- `breadcrumb['at_time']` and `breadcrumb['correlation_id']`, as the log line reads them. -/
def logSuccess (breadcrumb : Breadcrumb) : Except RouteError Unit :=
  match breadcrumb.lookup "at_time", breadcrumb.lookup "correlation_id" with
  | some _, some _ => .ok ()
  | _, _ => .error (.raised (.unhandled "KeyError"))

def getHomeCardsRoute (api : ApiUtils) (flask : FlaskUtils) (s : Store) (r : WebRequest) : Except RouteError Response := do
  let (token, breadcrumb) ← authContext flask r
  let (offset, size) ← raising (flask.parsePaginationHeaders r.request)
  let cards ← raising (getHomeCards api s token r.now offset size)
  logSuccess breadcrumb
  .ok ⟨200, .cards cards⟩

def getNotificationCardsRoute (api : ApiUtils) (flask : FlaskUtils) (lists : ListUtils) (s : Store) (r : WebRequest) :
    Except RouteError Response := do
  let (token, breadcrumb) ← authContext flask r
  let cards ← raising (CardRoutes.getNotificationCards api lists s.notifications token r.request).result
  logSuccess breadcrumb
  .ok ⟨200, .cards cards⟩

def createNotificationRoute (api : ApiUtils) (flask : FlaskUtils) (s : Store) (r : WebRequest) :
    Store × Except RouteError Response :=
  match authContext flask r with
  | .error e => (s, .error e)
  | .ok (token, breadcrumb) =>
    match requestDocument r with
    | .error e => (s, .error e)
    | .ok data =>
      let created := NotificationService.create api s.notifications data token (.doc breadcrumb)
      ({ s with notifications := created.1 }, do
        let notification ← raising created.2
        logSuccess breadcrumb
        .ok ⟨201, .document notification⟩)

/-- The handler of a control operation. -/
def controlRoute (flask : FlaskUtils)
    (operation : Collection → String → Token → Value → Collection × Except HTTPError (Option Document))
    (s : Store) (r : WebRequest) (notificationId : String) : Store × Except RouteError Response :=
  match authContext flask r with
  | .error e => (s, .error e)
  | .ok (token, breadcrumb) =>
    let updated := operation s.notifications notificationId token (.doc breadcrumb)
    ({ s with notifications := updated.1 }, do
      let notification ← raising updated.2
      logSuccess breadcrumb
      .ok ⟨200, .document notification⟩)

def dismissNotificationRoute (api : ApiUtils) (flask : FlaskUtils) :
    Store → WebRequest → String → Store × Except RouteError Response :=
  controlRoute flask (NotificationService.dismissNotification api)

def cancelNotificationRoute (api : ApiUtils) (flask : FlaskUtils) :
    Store → WebRequest → String → Store × Except RouteError Response :=
  controlRoute flask (NotificationService.cancelNotification api)

/-- What the handler of a request does, its wrapper aside. -/
def handler (api : ApiUtils) (flask : FlaskUtils) (lists : ListUtils) (r : WebRequest) :
    StateM Store (Except RouteError Response) := fun s =>
  match r.route with
  | .getHomeCards => (getHomeCardsRoute api flask s r, s)
  | .getNotificationCards => (getNotificationCardsRoute api flask lists s r, s)
  | .createNotification => (createNotificationRoute api flask s r).swap
  | .dismissNotification id => (dismissNotificationRoute api flask s r id).swap
  | .cancelNotification id => (cancelNotificationRoute api flask s r id).swap

/-- The response to a request, and the store it leaves. -/
def view (api : ApiUtils) (flask : FlaskUtils) (lists : ListUtils) (s : Store) (r : WebRequest) : Store × Response :=
  ((flask.handleRouteExceptions (handler api flask lists r)).run s).swap

/-! ## The call of a request -/

/-- The call a request makes, or the exception it is refused with before any. -/
def callOf (flask : FlaskUtils) (r : WebRequest) : Except RouteError Call := do
  let (token, breadcrumb) ← authContext flask r
  match r.route with
  | .getHomeCards =>
    let (offset, size) ← raising (flask.parsePaginationHeaders r.request)
    .ok (.home token r.now offset size)
  | .getNotificationCards => .ok (.list token r.request)
  | .createNotification =>
    let data ← requestDocument r
    .ok (.notification (.create data token (.doc breadcrumb)))
  | .dismissNotification id => .ok (.notification (.control .dismissed id token (.doc breadcrumb)))
  | .cancelNotification id => .ok (.notification (.control .cancelled id token (.doc breadcrumb)))

def successStatus : Route → Nat
  | .createNotification => 201
  | _ => 200

def replyTo (r : WebRequest) : Except HTTPError Answer → Except RouteError Response
  | .ok (.document d) => .ok ⟨successStatus r.route, .document d⟩
  | .ok (.cards cards) => .ok ⟨successStatus r.route, .cards cards⟩
  | .error e => .error (.raised e)

/-- The handlers as a front end over the calls. -/
def outcomes (flask : FlaskUtils) :
    Front.FrontEnd Call (Except HTTPError Answer) WebRequest (Except RouteError Response) where
  call r := (callOf flask r).mapError .error
  reply := replyTo

/-- The HTTP API as a front end over the calls. -/
def front (flask : FlaskUtils) : Front.FrontEnd Call (Except HTTPError Answer) WebRequest Response :=
  (outcomes flask).map flask.answer

theorem logSuccess_ok {flask : FlaskUtils} (hf : flask.Documented) (r : WebRequest) (token : Token) :
    logSuccess (flask.createFlaskBreadcrumb r token) = .ok () := by
  obtain ⟨t, ht⟩ := Option.ne_none_iff_exists'.1 (hf.at_time r token)
  obtain ⟨c, hc⟩ := Option.ne_none_iff_exists'.1 (hf.correlation_id r token)
  rw [logSuccess, ht, hc]

/-- A request that authenticates, with what its handler goes on with. -/
theorem authContext_ok {flask : FlaskUtils} {r : WebRequest} {token : Token} (ht : flask.createFlaskToken r = .ok token) :
    authContext flask r = .ok (token, flask.createFlaskBreadcrumb r token) := by
  rw [authContext, ht]
  rfl

theorem authContext_error {flask : FlaskUtils} {r : WebRequest} {e : RouteError}
    (ht : flask.createFlaskToken r = .error e) : authContext flask r = .error e := by
  rw [authContext, ht]
  rfl

/-- **A handler is its call**: it refuses before any, or replies to the call's answer. -/
theorem handler_eq {flask : FlaskUtils} (hf : flask.Documented) (api : ApiUtils) (lists : ListUtils) (s : Store)
    (r : WebRequest) :
    (handler api flask lists r s).swap = (outcomes flask).serve (Concurrency.serve api lists) s r := by
  unfold Front.FrontEnd.serve outcomes handler callOf
  dsimp only
  cases ht : flask.createFlaskToken r with
  | error e =>
    have hauth := authContext_error ht
    cases hr : r.route <;>
      simp only [getHomeCardsRoute, getNotificationCardsRoute, createNotificationRoute, dismissNotificationRoute,
        cancelNotificationRoute, controlRoute, hauth, bind, Except.bind, Except.mapError, Prod.swap_prod_mk]
  | ok token =>
    have hauth := authContext_ok ht
    have hlog := logSuccess_ok hf r token
    cases hr : r.route with
    | getHomeCards =>
      simp only [getHomeCardsRoute, hauth, bind, Except.bind, Prod.swap_prod_mk]
      cases flask.parsePaginationHeaders r.request with
      | error e => rfl
      | ok page =>
        simp only [raising, Except.mapError, Concurrency.serve]
        cases getHomeCards api s token r.now page.1 page.2 with
        | error e => rfl
        | ok cards => simp only [hlog, Except.map, replyTo, hr, successStatus]
    | getNotificationCards =>
      simp only [getNotificationCardsRoute, hauth, bind, Except.bind, raising, Except.mapError, Concurrency.serve,
        Prod.swap_prod_mk]
      cases (CardRoutes.getNotificationCards api lists s.notifications token r.request).result with
      | error e => rfl
      | ok cards => simp only [hlog, Except.map, replyTo, hr, successStatus]
    | createNotification =>
      simp only [createNotificationRoute, hauth, bind, Except.bind, Prod.swap_swap]
      cases requestDocument r with
      | error e => rfl
      | ok data =>
        simp only [Except.mapError, Concurrency.serve, NotificationService.serve]
        cases (NotificationService.create api s.notifications data token
            (.doc (flask.createFlaskBreadcrumb r token))).2 with
        | error e => rfl
        | ok d => simp only [raising, Except.mapError, hlog, Except.map, replyTo, hr, successStatus]
    | dismissNotification id =>
      simp only [dismissNotificationRoute, controlRoute, hauth, bind, Except.bind, Except.mapError, Concurrency.serve,
        NotificationService.serve, NotificationService.control, Prod.swap_prod_mk]
      cases (NotificationService.dismissNotification api s.notifications id token
          (.doc (flask.createFlaskBreadcrumb r token))).2 with
      | error e => rfl
      | ok d => simp only [raising, Except.mapError, hlog, Except.map, replyTo, hr, successStatus]
    | cancelNotification id =>
      simp only [cancelNotificationRoute, controlRoute, hauth, bind, Except.bind, Except.mapError, Concurrency.serve,
        NotificationService.serve, NotificationService.control, Prod.swap_prod_mk]
      cases (NotificationService.cancelNotification api s.notifications id token
          (.doc (flask.createFlaskBreadcrumb r token))).2 with
      | error e => rfl
      | ok d => simp only [raising, Except.mapError, hlog, Except.map, replyTo, hr, successStatus]

/-- **The API is a front end over the calls**: a request is refused before any, or answered from its call's answer. -/
theorem view_eq {flask : FlaskUtils} (hf : flask.Documented) (api : ApiUtils) (lists : ListUtils) :
    view api flask lists = (front flask).serve (Concurrency.serve api lists) := by
  funext s r
  rw [front, Front.FrontEnd.serve_map, ← handler_eq hf, view, hf.once]
  rfl

/-- The call of a request, by its route. -/
inductive CallFor (r : WebRequest) (token : Token) (breadcrumb : Breadcrumb) : Call → Prop
  | home (offset size : Int) (hr : r.route = .getHomeCards) : CallFor r token breadcrumb (.home token r.now offset size)
  | list (hr : r.route = .getNotificationCards) : CallFor r token breadcrumb (.list token r.request)
  | create (data : Match) (hr : r.route = .createNotification) :
      CallFor r token breadcrumb (.notification (.create data token (.doc breadcrumb)))
  | control (f : ControlField) (id : String)
      (hr : r.route = .dismissNotification id ∨ r.route = .cancelNotification id) :
      CallFor r token breadcrumb (.notification (.control f id token (.doc breadcrumb)))

theorem callOf_ok {flask : FlaskUtils} {r : WebRequest} {call : Call} (hcall : callOf flask r = .ok call) :
    ∃ token breadcrumb, flask.createFlaskToken r = .ok token ∧ CallFor r token breadcrumb call := by
  obtain ⟨⟨token, breadcrumb⟩, hauth, hcall⟩ := Except.ok_of_bind hcall
  obtain ⟨token', htoken, hauth⟩ := Except.ok_of_bind hauth
  cases hauth
  refine ⟨token, flask.createFlaskBreadcrumb r token, htoken, ?_⟩
  cases hr : r.route with
  | getHomeCards =>
    simp only [hr] at hcall
    obtain ⟨⟨offset, size⟩, -, hcall⟩ := Except.ok_of_bind hcall
    cases hcall
    exact .home offset size hr
  | getNotificationCards =>
    simp only [hr] at hcall
    cases hcall
    exact .list hr
  | createNotification =>
    simp only [hr] at hcall
    obtain ⟨data, -, hcall⟩ := Except.ok_of_bind hcall
    cases hcall
    exact .create data hr
  | dismissNotification id =>
    simp only [hr] at hcall
    cases hcall
    exact .control .dismissed id (Or.inl hr)
  | cancelNotification id =>
    simp only [hr] at hcall
    cases hcall
    exact .control .cancelled id (Or.inr hr)

/-! ## What a response says -/

/-- **All a request can do**, by its response: fail and change nothing, read and change nothing, store the document it
answers with, or set a breadcrumb on a stored document and answer with that. -/
inductive Handled (s : Store) (r : WebRequest) : Store × Response → Prop
  | failed {response : Response} {message : String} (hbody : response.body = .error message) : Handled s r (s, response)
  | read (cards : List Card) (hr : r.route.writes = false) : Handled s r (s, ⟨200, .cards cards⟩)
  | created {c : Collection} {d : Document} (hr : r.route = .createNotification)
      (hdocs : c.docs = s.notifications.docs ++ [d]) :
      Handled s r ({ s with notifications := c }, ⟨201, .document (some d)⟩)
  | controlled {o : ObjectId} {d : Document} (f : ControlField) (b : Value) (hr : r.route.writes = true)
      (hd : s.notifications.find o = some d) :
      Handled s r ({ s with notifications := s.notifications.setControl o f b },
        ⟨200, .document (some (d.setControl f b))⟩)

section
variable {flask : FlaskUtils} (hf : flask.Documented)
include hf

theorem Handled.raised (s : Store) (r : WebRequest) (e : RouteError) : Handled s r (s, flask.answer (.error e)) := by
  obtain ⟨message, hbody⟩ := hf.message e
  exact .failed hbody

theorem readRoute_handled {s : Store} {r : WebRequest} (hr : r.route.writes = false)
    (hsuccess : successStatus r.route = 200) (x : Except HTTPError (List Card)) :
    Handled s r (s, flask.answer (replyTo r (x.map .cards))) := by
  cases x with
  | error e => exact Handled.raised hf s r (.raised e)
  | ok cards =>
    have hread := Handled.read (s := s) cards hr
    simpa only [Except.map, replyTo, hf.returned, hsuccess] using hread

variable {api : ApiUtils} (h : api.Documented)
include h

theorem controlRoute_handled {s : Store} {r : WebRequest} {id : String} {f : ControlField} {token : Token} {b : Value}
    (hr : r.route.writes = true) (hsuccess : successStatus r.route = 200) {lists : ListUtils} :
    Handled s r ((Concurrency.serve api lists s (.notification (.control f id token b))).1,
      flask.answer (replyTo r (Concurrency.serve api lists s (.notification (.control f id token b))).2)) := by
  simp only [Concurrency.serve, NotificationService.serve]
  cases hx : (NotificationService.control api f s.notifications id token b).2 with
  | error e =>
    rw [NotificationService.control_error hx]
    exact Handled.raised hf s r (.raised e)
  | ok x =>
    obtain ⟨o, d, -, hv, -, hc, rfl⟩ := NotificationService.control_ok h hx
    rw [hc]
    have hhandled := Handled.controlled f b hr (Option.filter_eq_some_iff.1 hv).1
    simpa only [Except.map, replyTo, hf.returned, hsuccess] using hhandled

theorem view_handled (lists : ListUtils) (s : Store) (r : WebRequest) : Handled s r (view api flask lists s r) := by
  rw [view_eq hf, front, Front.FrontEnd.serve_map, Front.FrontEnd.serve, outcomes]
  dsimp only
  cases hcall : callOf flask r with
  | error e => exact Handled.raised hf s r e
  | ok call =>
    obtain ⟨token, breadcrumb, -, hfor⟩ := callOf_ok hcall
    cases hfor with
    | home offset size hr =>
      exact readRoute_handled hf (by rw [hr]; rfl) (by rw [hr]; rfl) (getHomeCards api s token r.now offset size)
    | list hr =>
      exact readRoute_handled hf (by rw [hr]; rfl) (by rw [hr]; rfl)
        (CardRoutes.getNotificationCards api lists s.notifications token r.request).result
    | create data hr =>
      simp only [Except.mapError, Concurrency.serve, NotificationService.serve]
      cases hx : (NotificationService.create api s.notifications data token (.doc breadcrumb)).2 with
      | error e =>
        have hsame := NotificationService.serve_error (r := .create data token (.doc breadcrumb)) hx
        rw [NotificationService.serve] at hsame
        rw [hsame]
        exact Handled.raised hf s r (.raised e)
      | ok x =>
        obtain ⟨d, rfl, hdocs, -⟩ := NotificationService.create_ok h hx
        simp only [Except.map, replyTo, hf.returned, hr, successStatus]
        exact .created hr hdocs
    | control f id hr =>
      have hroute : r.route.writes = true ∧ successStatus r.route = 200 := by
        rcases hr with hr | hr <;> rw [hr] <;> exact ⟨rfl, rfl⟩
      exact controlRoute_handled hf h hroute.1 hroute.2

end

/-! ## Runs of requests -/

/-- The document a response says was created. -/
def createdBy (response : Response) : Option ObjectId :=
  match response.body with
  | .document (some d) => if response.status = 201 then some d.id else none
  | _ => none

/-- The entry of a request that may have written: a success of a route that writes. -/
def effective (r : WebRequest) (response : Response) : Bool := r.route.writes && decide (response.status < 400)

/-- The control requests and creates among the calls. -/
def notificationRequests (calls : List Call) : List NotificationService.Request :=
  calls.filterMap (fun
    | .notification r => some r
    | _ => none)

theorem run_notifications (api : ApiUtils) (lists : ListUtils) : ∀ (calls : List Call) (s : Store),
    (Runs.run (Concurrency.serve api lists) s calls).1.notifications =
      NotificationService.after api s.notifications (notificationRequests calls)
  | [], _ => rfl
  | call :: calls, s => by
    rw [Runs.run, run_notifications api lists calls]
    cases call <;> rfl

section
variable {s : Store} {r : WebRequest} {p : Store × Response} (hp : Handled s r p)
include hp

theorem Handled.ids : p.1.notifications.docs.map Document.id =
    s.notifications.docs.map Document.id ++ (createdBy p.2).toList := by
  cases hp with
  | failed hbody =>
    rw [createdBy, hbody]
    exact (List.append_nil _).symm
  | read cards hr => exact (List.append_nil _).symm
  | created hr hdocs => rw [hdocs, List.map_append]; rfl
  | controlled f b hr hd =>
    exact (Collection.map_id_setControl s.notifications.docs _ f b).trans (List.append_nil _).symm

theorem Handled.keeps : NotificationService.Keeps s.notifications p.1.notifications := by
  cases hp with
  | failed hbody => exact NotificationService.Keeps.refl _
  | read cards hr => exact NotificationService.Keeps.refl _
  | created hr hdocs =>
    intro d hd
    refine ⟨d, ?_, NotificationService.LaterOf.refl d⟩
    rw [hdocs]
    exact List.mem_append_left _ hd
  | controlled f b hr hd => exact NotificationService.keeps_setControl _ _ f b

/-- A document a response carries is stored. -/
theorem Handled.stored {d : Document} (hd : p.2.body = .document (some d)) : d ∈ p.1.notifications.docs := by
  cases hp with
  | failed hbody =>
    rw [hbody] at hd
    cases hd
  | read cards hr => cases hd
  | created hr hdocs =>
    cases hd
    rw [hdocs]
    exact List.mem_append_right _ (List.mem_singleton.2 rfl)
  | controlled f b hr hfind =>
    cases hd
    obtain ⟨hmem, ho⟩ := Collection.find_eq_some_iff.1 hfind
    exact NotificationService.mem_setControl_iff.2 (Or.inr ⟨_, hmem, ho, rfl⟩)

theorem Handled.unchanged (he : effective r p.2 = false) : p.1 = s := by
  cases hp with
  | failed hbody => rfl
  | read cards hr => rfl
  | created hr hdocs =>
    rw [effective, hr] at he
    cases he
  | controlled f b hr hd =>
    rw [effective, hr] at he
    cases he

theorem Handled.unwritten : Concurrency.Unwritten s p.1 := by
  cases hp <;> exact ⟨rfl, rfl, rfl, rfl, rfl⟩

end

section
variable {api : ApiUtils} (h : api.Documented) {flask : FlaskUtils} (hf : flask.Documented) (lists : ListUtils)
include h hf

/-- **The HTTP API is its calls**: a run of requests leaves the store its calls leave, and answers each request with
its refusal or its call's answer; the notifications are the journal of the calls replayed, and nothing else was
written. -/
theorem requests_are_calls (rs : List WebRequest) (s : Store) :
    Runs.run (view api flask lists) s rs =
      ((Runs.run (Concurrency.serve api lists) s ((front flask).calls rs)).1,
        (front flask).weave rs (Runs.run (Concurrency.serve api lists) s ((front flask).calls rs)).2) ∧
    NotificationService.Replays s.notifications
      (Journal.journal (NotificationService.serve api) s.notifications
        (notificationRequests ((front flask).calls rs)))
      (Runs.run (view api flask lists) s rs).1.notifications ∧
    Concurrency.Unwritten s (Runs.run (view api flask lists) s rs).1 := by
  have hrun : Runs.run (view api flask lists) s rs =
      ((Runs.run (Concurrency.serve api lists) s ((front flask).calls rs)).1,
        (front flask).weave rs (Runs.run (Concurrency.serve api lists) s ((front flask).calls rs)).2) := by
    rw [view_eq hf, Front.FrontEnd.run_serve]
  refine ⟨hrun, ?_, ?_⟩
  · rw [hrun, run_notifications]
    exact NotificationService.replays_run h s.notifications _
  · exact Runs.run_rel Concurrency.Unwritten.refl Concurrency.Unwritten.trans
      (fun s r => (view_handled hf h lists s r).unwritten) rs s

/-- The stored ids are those before the run and those its responses say were created. -/
theorem ids_run (rs : List WebRequest) (s : Store) :
    (Runs.run (view api flask lists) s rs).1.notifications.docs.map Document.id =
      s.notifications.docs.map Document.id ++
        (Journal.journal (view api flask lists) s rs).filterMap (fun e => createdBy e.2) :=
  Journal.run_extended (V := fun s : Store => s.notifications.docs.map Document.id)
    (fun s r => (view_handled hf h lists s r).ids) rs s

/-- A document some response of the run carried is stored at its end, as it was but for later breadcrumbs. -/
theorem carried_run {rs : List WebRequest} {s : Store} {r : WebRequest} {response : Response} {d : Document}
    (hmem : (r, response) ∈ Journal.journal (view api flask lists) s rs) (hd : response.body = .document (some d)) :
    ∃ d' ∈ (Runs.run (view api flask lists) s rs).1.notifications.docs, NotificationService.LaterOf d d' := by
  refine Runs.run_established (P := fun s : Store => ∃ d' ∈ s.notifications.docs, NotificationService.LaterOf d d')
    ?_ ?_ rs s hmem
  · rintro s q ⟨d', hd', hlater⟩
    obtain ⟨d'', hd'', hlater'⟩ := (view_handled hf h lists s q).keeps d' hd'
    exact ⟨d'', hd'', hlater.trans hlater'⟩
  · intro s hs
    exact ⟨d, (view_handled hf h lists s r).stored (by rw [hs, hd]), NotificationService.LaterOf.refl d⟩

/-- **What the API acknowledged is what it stores**: after any run of requests, the stored notifications are those
before it and, in order, those its 201 responses carried; and every document any response carried is stored, as it was
but for later breadcrumbs. -/
theorem acknowledged_stored (rs : List WebRequest) (s : Store) :
    (Runs.run (view api flask lists) s rs).1.notifications.docs.map Document.id =
      s.notifications.docs.map Document.id ++
        (Journal.journal (view api flask lists) s rs).filterMap (fun e => createdBy e.2) ∧
    ∀ r response d, (r, response) ∈ Journal.journal (view api flask lists) s rs →
      response.body = .document (some d) →
      ∃ d' ∈ (Runs.run (view api flask lists) s rs).1.notifications.docs, NotificationService.LaterOf d d' :=
  ⟨ids_run h hf lists rs s, fun _ _ _ hmem hd => carried_run h hf lists hmem hd⟩

/-- **A read, a refusal and a failure leave no trace**: after any run of requests the store is the one its successful
writes alone leave, and these get the same responses by themselves. -/
theorem effective_requests_alone (rs : List WebRequest) (s : Store) :
    Runs.run (view api flask lists) s
        (((Journal.journal (view api flask lists) s rs).filter (fun e => effective e.1 e.2)).map Prod.fst) =
      ((Runs.run (view api flask lists) s rs).1,
        ((Journal.journal (view api flask lists) s rs).filter (fun e => effective e.1 e.2)).map Prod.snd) :=
  Journal.run_kept (fun s r => (view_handled hf h lists s r).unchanged) rs s

end

end WebRoutes

/-! ## On concrete requests -/

namespace Reference

def statusOf : RouteError → Nat
  | .unauthorized _ => 401
  | .raised (.badRequest _) => 400
  | .raised (.forbidden _) => 403
  | .raised (.notFound _) => 404
  | .raised (.unhandled _) => 500

def messageOf : RouteError → String
  | .unauthorized message | .raised (.badRequest message) | .raised (.forbidden message)
  | .raised (.notFound message) => message
  | .raised (.unhandled _) => "A processing error occurred"

def responseOf : Except RouteError Response → Response
  | .ok response => response
  | .error e => ⟨statusOf e, .error (messageOf e)⟩

end Reference

/-- `flask_utils`, computed: the bearer's name is the user, a mentee. -/
def referenceFlaskUtils : FlaskUtils where
  createFlaskToken r :=
    match r.request.headers.lookup "Authorization" with
    | none => .error (.unauthorized "Missing Authorization header")
    | some user => .ok { NotificationService.menteeToken with userId := some user }
  createFlaskBreadcrumb r token :=
    [("at_time", .date r.now), ("by_user", .str (token.userId.getD "")), ("correlation_id", .str "none")]
  parsePaginationHeaders request := do
    let offset ← Reference.headerInt request "offset" 0
    let size ← Reference.headerInt request "size" 20
    .ok (offset, size)
  handleRouteExceptions handler := do
    let outcome ← handler
    pure (Reference.responseOf outcome)

theorem referenceFlaskUtils_documented : referenceFlaskUtils.Documented where
  at_time _ _ := Option.some_ne_none _
  correlation_id _ _ := Option.some_ne_none _
  once _ := rfl
  returned _ := rfl
  message e := ⟨Reference.messageOf e, rfl⟩
  unauthorized _ := rfl
  badRequest _ := rfl
  forbidden _ := rfl
  notFound _ := rfl
  unhandled _ := rfl

namespace WebRoutes

/-- A create, the home page, and a dismissal without a token. -/
def createThenRead : List WebRequest :=
  [⟨.createNotification, ⟨[("Authorization", "daniel")], []⟩, some (.doc [("name", .str "Welcome")]), 5⟩,
   ⟨.getHomeCards, ⟨[("Authorization", "daniel")], []⟩, none, 6⟩,
   ⟨.dismissNotification "000000000000000000000001", ⟨[], []⟩, none, 7⟩]

/-- The third request is refused before any call; the first two are answered from theirs. -/
theorem requests_are_calls_create :
    (Runs.run (view reference referenceFlaskUtils referenceLists)
        (CardService.notificationsOnly NotificationService.ownNotifications) createThenRead).2 =
      (front referenceFlaskUtils).weave createThenRead (Runs.run (Concurrency.serve reference referenceLists)
        (CardService.notificationsOnly NotificationService.ownNotifications)
        ((front referenceFlaskUtils).calls createThenRead)).2 ∧
    ((front referenceFlaskUtils).weave createThenRead (Runs.run (Concurrency.serve reference referenceLists)
        (CardService.notificationsOnly NotificationService.ownNotifications)
        ((front referenceFlaskUtils).calls createThenRead)).2).map Response.status = [201, 200, 401] ∧
    Concurrency.Unwritten (CardService.notificationsOnly NotificationService.ownNotifications)
      (Runs.run (view reference referenceFlaskUtils referenceLists)
        (CardService.notificationsOnly NotificationService.ownNotifications) createThenRead).1 := by
  obtain ⟨hrun, -, hunwritten⟩ := requests_are_calls reference_documented referenceFlaskUtils_documented referenceLists
    createThenRead (CardService.notificationsOnly NotificationService.ownNotifications)
  exact ⟨congrArg Prod.snd hrun, rfl, hunwritten⟩

theorem acknowledged_stored_create :
    (Runs.run (view reference referenceFlaskUtils referenceLists)
        (CardService.notificationsOnly NotificationService.ownNotifications) createThenRead).1.notifications.docs.map
          Document.id =
      [Reference.idOf 1] ++ (Journal.journal (view reference referenceFlaskUtils referenceLists)
        (CardService.notificationsOnly NotificationService.ownNotifications) createThenRead).filterMap
          (fun e => createdBy e.2) :=
  (acknowledged_stored reference_documented referenceFlaskUtils_documented referenceLists createThenRead
    (CardService.notificationsOnly NotificationService.ownNotifications)).1

theorem effective_requests_alone_create :
    (Runs.run (view reference referenceFlaskUtils referenceLists)
        (CardService.notificationsOnly NotificationService.ownNotifications)
        (((Journal.journal (view reference referenceFlaskUtils referenceLists)
          (CardService.notificationsOnly NotificationService.ownNotifications) createThenRead).filter
            (fun e => effective e.1 e.2)).map Prod.fst)).1 =
      (Runs.run (view reference referenceFlaskUtils referenceLists)
        (CardService.notificationsOnly NotificationService.ownNotifications) createThenRead).1 := by
  rw [effective_requests_alone reference_documented referenceFlaskUtils_documented referenceLists createThenRead
    (CardService.notificationsOnly NotificationService.ownNotifications)]

end WebRoutes
end Discovery
