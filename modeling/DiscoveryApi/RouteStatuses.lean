import DiscoveryApi.HomeCustomer
import DiscoveryApi.WebRoutes
/-!
# RouteStatuses — every response has a status the API description lists

What a handler answers with follows from what its service raises: the home list raises only where a claim's id does not
encode, the Notification list also refuses filters, and only the control operations look a document up.
-/
namespace Discovery

/-- The statuses the API description lists for a route. -/
def Route.statuses : Route → List Nat
  | .getHomeCards => [200, 400, 401, 500]
  | .getNotificationCards => [200, 400, 401, 403, 500]
  | .createNotification => [201, 400, 401, 403, 500]
  | .dismissNotification _ | .cancelNotification _ => [200, 400, 401, 403, 404, 500]

/-- A request that cannot be answered as sent, or a failure outside the services. -/
inductive HTTPError.Plain : HTTPError → Prop
  | badRequest (message : String) : Plain (.badRequest message)
  | unhandled (message : String) : Plain (.unhandled message)

/-- **What api_utils raises**: a token fails as unauthorized, parsing and encoding neither refuse a caller nor miss a
document, and a create misses none. -/
structure RaisesPlainly (api : ApiUtils) (flask : FlaskUtils) (lists : ListUtils) : Prop where
  token : ∀ {r e}, flask.createFlaskToken r = .error e → ∃ message, e = .unauthorized message
  encode : ∀ {m ids dates e}, api.encodeDocument m ids dates = .error e → e.Plain
  create : ∀ {c body token b e}, api.createNotification c body token b = .error e → ∀ message, e ≠ .notFound message
  pagination : ∀ {request e}, flask.parsePaginationHeaders request = .error e → e.Plain
  parseList : ∀ {request spec order e}, lists.parseListRequest request spec order = .error e → e.Plain

namespace WebRoutes

open CardService (getHomeCards getHomeCards_eq ValidPage homeSections notificationCards allNotifications
  customerSection customerHomeCard_eq memberCards allMembers menteeCards allMentees allScoped)

section
variable {api : ApiUtils} (h : api.Documented)
include h

omit h in
theorem allScoped_error {store : Store} {base : Match} {k : String} {value : Option String} {e : HTTPError}
    (he : allScoped api store base k value = .error e) : ∃ v, api.encodeId (.str v) = .error e := by
  unfold allScoped at he
  split at he
  · cases he
  · rename_i v _
    exact ⟨v, Except.error_of_map he⟩

/-- The complete list raises only where an id of the caller's claims does not encode. -/
theorem homeSections_error {store : Store} {token : Token} {now : Int} {e : HTTPError}
    (he : homeSections api store token now = .error e) : ∃ v, api.encodeId (.str v) = .error e := by
  rcases Except.error_of_bind he with hn | ⟨ns, -, he⟩
  · have hall := Except.error_of_map hn
    unfold allNotifications at hall
    split at hall
    · cases hall
    · rename_i v _
      exact ⟨v, Except.error_of_map hall⟩
  rcases Except.error_of_bind he with hc | ⟨cs, -, he⟩
  · unfold customerSection at hc
    split at hc
    · rename_i hgate
      rw [Bool.and_eq_true] at hgate
      obtain ⟨v, hv⟩ := Option.isSome_iff_exists.1 hgate.2
      rw [customerHomeCard_eq h hv] at hc
      exact ⟨v, Except.error_of_map (Except.error_of_map hc)⟩
    · cases hc
  rcases Except.error_of_bind he with hm | ⟨ms, -, he⟩
  · have hall := Except.error_of_map hm
    unfold allMembers at hall
    split at hall
    · exact allScoped_error hall
    · cases hall
  rcases Except.error_of_bind he with hm | ⟨es, -, he⟩
  · have hall := Except.error_of_map hm
    unfold allMentees at hall
    split at hall
    · exact allScoped_error hall
    · cases hall
  · cases he

variable {flask : FlaskUtils} {lists : ListUtils} (hraises : RaisesPlainly api flask lists)
include hraises

theorem encodeId_plain {v : String} {e : HTTPError} (he : api.encodeId (.str v) = .error e) : e.Plain := by
  have hencode : api.encodeDocument [("profile_id", .str v)] api.notificationIdProperties
      api.notificationDateProperties = .error e := by
    rw [h.encode_id h.notificationIds.1 rfl, he]
    rfl
  exact hraises.encode hencode

theorem getHomeCards_plain {store : Store} {token : Token} {now offset size : Int} {e : HTTPError}
    (he : getHomeCards api store token now offset size = .error e) : e.Plain := by
  by_cases hp : ValidPage offset size
  · obtain ⟨o, k, rfl, rfl, h1, hk⟩ := hp.nat
    rw [getHomeCards_eq h store token now o h1 hk] at he
    obtain ⟨v, hv⟩ := homeSections_error h (Except.error_of_map he)
    exact encodeId_plain h hraises hv
  · obtain ⟨msg, hv⟩ := h.validate_bad hp
    unfold getHomeCards at he
    rw [hv] at he
    cases he
    exact .badRequest msg

theorem listCards_plain {c : Collection} {token : Token} {offset size : Int} (ho : 0 ≤ offset) (h1 : 1 ≤ size)
    (hn : size ≤ maxSize) {extra : Match} {calls : List NotificationCardService.Call} {e : HTTPError}
    (he : (NotificationCardService.listCards api c token offset size extra calls).result = .error e) : e.Plain := by
  unfold NotificationCardService.listCards at he
  dsimp only at he
  rcases Except.error_of_bind he with hq | ⟨ds, -, hproject⟩
  · rw [h.getNotifications_eq ho h1 hn] at hq
    exact hraises.encode (Except.error_of_map hq)
  · rw [CardService.projectAll_known api CardRoutes.cardSpec_known] at hproject
    cases hproject

/-- The Notification list fails on what was asked, or refuses the filters of a caller who is no admin. -/
theorem getNotificationCards_error (hl : lists.Documented) {c : Collection} {token : Token} {request : Request}
    {e : HTTPError} (he : (CardRoutes.getNotificationCards api lists c token request).result = .error e) :
    e.Plain ∨ ∃ message, e = .forbidden message := by
  unfold CardRoutes.getNotificationCards at he
  split at he
  · rename_i hp
    cases he
    exact Or.inl (hraises.parseList hp)
  · rename_i parsed hp
    obtain ⟨ho, h1, hn⟩ := hl.page hp
    unfold NotificationCardService.getNotifications at he
    split at he
    · cases he
      exact Or.inr ⟨_, rfl⟩
    · dsimp only at he
      generalize (if api.isAdmin token = true then _ else _) = applicable at he
      split at he
      · exact Or.inl (listCards_plain h hraises ho h1 hn he)
      · exact Or.inl (listCards_plain h hraises ho h1 hn he)

omit h in
/-- A request refused before any call. -/
theorem refusal_error {r : WebRequest} {e : RouteError} (he : callOf flask r = .error e) :
    (∃ message, e = .unauthorized message) ∨ (∃ message, e = .raised (.badRequest message)) ∨
      (r.route = .getHomeCards ∧ ∃ message, e = .raised (.unhandled message)) := by
  rcases Except.error_of_bind he with hauth | ⟨⟨token, breadcrumb⟩, -, he⟩
  · rcases Except.error_of_bind hauth with ht | ⟨token, -, hauth⟩
    · exact Or.inl (hraises.token ht)
    · cases hauth
  cases hr : r.route with
  | getHomeCards =>
    simp only [hr] at he
    rcases Except.error_of_bind he with hpage | ⟨page, -, he⟩
    · cases hp : flask.parsePaginationHeaders r.request with
      | error e' =>
        rw [hp] at hpage
        cases hpage
        cases hraises.pagination hp with
        | badRequest message => exact Or.inr (Or.inl ⟨message, rfl⟩)
        | unhandled message => exact Or.inr (Or.inr ⟨rfl, message, rfl⟩)
      | ok page => rw [hp] at hpage; cases hpage
    · cases he
  | getNotificationCards => simp only [hr] at he; cases he
  | createNotification =>
    simp only [hr] at he
    rcases Except.error_of_bind he with hbody | ⟨data, -, he⟩
    · unfold requestDocument at hbody
      split at hbody
      · cases hbody
      · cases hbody
        exact Or.inr (Or.inl ⟨_, rfl⟩)
    · cases he
  | dismissNotification id => simp only [hr] at he; cases he
  | cancelNotification id => simp only [hr] at he; cases he

omit h hraises
variable (hf : flask.Documented)
include hf

theorem plain_status {e : HTTPError} (he : e.Plain) :
    (flask.answer (.error (.raised e))).status = 400 ∨ (flask.answer (.error (.raised e))).status = 500 := by
  cases he with
  | badRequest message => exact Or.inl (hf.badRequest message)
  | unhandled message => exact Or.inr (hf.unhandled message)

theorem raised_status (e : HTTPError) : (flask.answer (.error (.raised e))).status ∈ [400, 403, 404, 500] := by
  cases e with
  | badRequest message => rw [hf.badRequest]; decide
  | forbidden message => rw [hf.forbidden]; decide
  | notFound message => rw [hf.notFound]; decide
  | unhandled message => rw [hf.unhandled]; decide

theorem control_status {r : WebRequest} (hsuccess : successStatus r.route = 200)
    (outcome : Except HTTPError (Option Document)) :
    (flask.answer (replyTo r (outcome.map Concurrency.Answer.document))).status ∈ [200, 400, 401, 403, 404, 500] := by
  cases outcome with
  | error e =>
    have he := raised_status hf e
    simp only [List.mem_cons, List.not_mem_nil, or_false] at he
    simp only [Except.map, replyTo]
    rcases he with he | he | he | he <;> rw [he] <;> decide
  | ok d => simp [Except.map, replyTo, hf.returned, hsuccess]

include h hraises

/-- **Every response has a documented status**, whatever the store holds. -/
theorem statuses_documented (hl : lists.Documented) (s : Store) (r : WebRequest) :
    (view api flask lists s r).2.status ∈ r.route.statuses := by
  rw [view_eq hf, front, Front.FrontEnd.serve_map, Front.FrontEnd.serve, outcomes]
  dsimp only
  cases hcall : callOf flask r with
  | error e =>
    simp only [Except.mapError]
    rcases refusal_error hraises hcall with ⟨message, rfl⟩ | ⟨message, rfl⟩ | ⟨hr, message, rfl⟩
    · rw [hf.unauthorized]
      cases r.route <;> simp [Route.statuses]
    · rw [hf.badRequest]
      cases r.route <;> simp [Route.statuses]
    · rw [hf.unhandled, hr]
      decide
  | ok call =>
    obtain ⟨token, breadcrumb, -, hfor⟩ := callOf_ok hcall
    simp only [Except.mapError]
    cases hfor with
    | home offset size hr =>
      rw [hr]
      simp only [Concurrency.serve]
      cases hx : getHomeCards api s token r.now offset size with
      | error e =>
        simp only [Except.map, replyTo]
        rcases plain_status hf (getHomeCards_plain h hraises hx) with he | he <;> rw [he] <;> decide
      | ok cards => simp only [Except.map, replyTo, hf.returned, hr]; decide
    | list hr =>
      rw [hr]
      simp only [Concurrency.serve]
      cases hx : (CardRoutes.getNotificationCards api lists s.notifications token r.request).result with
      | error e =>
        simp only [Except.map, replyTo]
        rcases getNotificationCards_error h hraises hl hx with he | ⟨message, rfl⟩
        · rcases plain_status hf he with he | he <;> rw [he] <;> decide
        · rw [hf.forbidden]
          decide
      | ok cards => simp only [Except.map, replyTo, hf.returned, hr]; decide
    | create data hr =>
      rw [hr]
      simp only [Concurrency.serve, NotificationService.serve, NotificationService.create]
      cases hx : api.createNotification s.notifications data token (.doc breadcrumb) with
      | error e =>
        have he := hraises.create hx
        simp only [Except.map, replyTo]
        cases e with
        | badRequest message => rw [hf.badRequest]; decide
        | forbidden message => rw [hf.forbidden]; decide
        | notFound message => exact absurd rfl (he message)
        | unhandled message => rw [hf.unhandled]; decide
      | ok p => simp only [Except.map, replyTo, hf.returned, hr]; decide
    | control f id hr =>
      have hroute : successStatus r.route = 200 ∧ r.route.statuses = [200, 400, 401, 403, 404, 500] := by
        rcases hr with hr | hr <;> rw [hr] <;> exact ⟨rfl, rfl⟩
      rw [hroute.2]
      exact control_status hf hroute.1 _

end

end WebRoutes

/-! ## On concrete requests -/

namespace Reference

theorem encodeId_plain {v : Value} {e : HTTPError} (he : encodeId v = .error e) : e.Plain := by
  unfold encodeId at he
  split at he
  · split at he
    · cases he
    · cases he
      exact .unhandled _
  · cases he

mutual
theorem encodeFields_plain {ids : List String} : ∀ {m : List (String × Value)} {e : HTTPError},
    encodeFields ids m = .error e → e.Plain
  | [], _, he => by
    rw [encodeFields] at he
    cases he
  | (k, v) :: m, e, he => by
    rw [encodeFields] at he
    rcases Except.error_of_bind he with hv | ⟨v', -, hm⟩
    · split at hv
      · exact encodeId_plain hv
      · exact encodeValue_plain hv
    · exact encodeFields_plain (Except.error_of_map hm)

theorem encodeValue_plain {ids : List String} : ∀ {v : Value} {e : HTTPError},
    encodeValue ids v = .error e → e.Plain
  | .doc fs, _, he => by
    rw [encodeValue] at he
    exact encodeFields_plain (Except.error_of_map he)
  | .null, _, he | .bool _, _, he | .int _, _, he | .str _, _, he | .oid _, _, he | .date _, _, he
  | .list _, _, he => by
    rw [encodeValue] at he
    · cases he
    · intro fs hfs
      cases hfs
end

theorem createNotification_plain {c : Collection} {body : Match} (token : Token) {b : Value} {e : HTTPError}
    (he : createNotification c body token b = .error e) : e.Plain := by
  unfold createNotification at he
  split at he
  · rename_i e' hfields
    cases he
    exact encodeFields_plain (Except.error_of_map hfields)
  · split at he
    · cases he
      exact .unhandled _
    · split at he
      · cases he
      · cases he
        exact .badRequest _

theorem headerInt_plain {request : Request} {name : String} {default : Int} {e : HTTPError}
    (he : headerInt request name default = .error e) : e.Plain := by
  unfold headerInt at he
  split at he
  · cases he
  · split at he
    · cases he
      exact .badRequest _
    · cases he

theorem parseListRequest_plain {request : Request} {spec : FilterSpec} {order : OrderSpec} {e : HTTPError}
    (he : parseListRequest request spec order = .error e) : e.Plain := by
  rcases Except.error_of_bind he with ho | ⟨offset, -, he⟩
  · exact headerInt_plain ho
  rcases Except.error_of_bind he with hs | ⟨size, -, he⟩
  · exact headerInt_plain hs
  rcases Except.error_of_bind he with hv | ⟨_, -, he⟩
  · unfold validatePagination at hv
    split at hv
    · cases hv
    · cases hv
      exact .badRequest _
  rcases Except.error_of_bind he with hs | ⟨sortBy, -, he⟩
  · unfold sortByOf at hs
    dsimp only at hs
    split at hs
    · cases hs
    · cases hs
      exact .badRequest _
  · split at he
    · cases he
    · cases he
      exact .unhandled _

end Reference

theorem reference_raisesPlainly : RaisesPlainly reference referenceFlaskUtils referenceLists where
  token {r e} he := by
    unfold referenceFlaskUtils at he
    dsimp only at he
    split at he
    · cases he
      exact ⟨_, rfl⟩
    · cases he
  encode he := Reference.encodeFields_plain he
  create {_ _ token _ _} he message hmessage := by
    subst hmessage
    cases Reference.createNotification_plain token he
  pagination he := by
    rcases Except.error_of_bind he with ho | ⟨offset, -, he⟩
    · exact Reference.headerInt_plain ho
    rcases Except.error_of_bind he with hs | ⟨size, -, he⟩
    · exact Reference.headerInt_plain hs
    · cases he
  parseList he := Reference.parseListRequest_plain he

namespace WebRoutes

theorem statuses_documented_malformed :
    (view reference referenceFlaskUtils referenceLists
      (CardService.notificationsOnly NotificationService.ownNotifications)
      ⟨.dismissNotification "none", ⟨[("Authorization", "daniel")], []⟩, none, 0⟩).2.status ∈
        (Route.dismissNotification "none").statuses :=
  statuses_documented reference_documented reference_raisesPlainly referenceFlaskUtils_documented
    referenceLists_documented (CardService.notificationsOnly NotificationService.ownNotifications)
    ⟨.dismissNotification "none", ⟨[("Authorization", "daniel")], []⟩, none, 0⟩

end WebRoutes
end Discovery
