import DiscoveryApi.ListOnly
/-!
# Server — what the start-up mounts

`server.py` registers nine blueprints one after the other and ends with the first exception.  `startUp_mounts` is about
every such start-up: which rules the app has when it ended, and which URLs a completed one serves.
-/
namespace Discovery
namespace Server

open CardRoutes

variable {ν ε : Type}

/-! ## The blueprints -/

/-- The view functions of the repository's own blueprints. -/
structure Views (ν : Type) where
  getHomeCards : ν
  getNotificationCards : ν
  createNotification : ν
  dismissNotification : ν
  cancelNotification : ν

/-- The blueprints of the shared factories. -/
structure SharedBlueprints (ν : Type) where
  explorerRoutes : Blueprint ν
  configRoutes : Blueprint ν
  resourceGetRoutes : Blueprint ν
  pathGetRoutes : Blueprint ν
  planGetRoutes : Blueprint ν
  eventGetRoutes : Blueprint ν

/-- `bp.route(rule, methods=[method])` -/
def route (rule method endpoint : String) (view : ν) : RuleArgs ν :=
  ⟨rule, endpoint, some view, [("methods", .list [.str method])]⟩

def createCardsGetRoutes (views : Views ν) : Blueprint ν :=
  ⟨"card_routes", [route "" "GET" "get_home_cards" views.getHomeCards]⟩

def createNotificationCardGetRoutes (views : Views ν) : Blueprint ν :=
  ⟨"notification_card_routes", [route "" "GET" "get_notification_cards" views.getNotificationCards]⟩

def createNotificationRoutes (views : Views ν) : Blueprint ν :=
  ⟨"notification_routes",
    [route "" "POST" "create_notification" views.createNotification,
     route "/dismiss/<notification_id>" "POST" "dismiss_notification" views.dismissNotification,
     route "/cancel/<notification_id>" "POST" "cancel_notification" views.cancelNotification]⟩

/-! ## The start-up -/

def registrations (shared : SharedBlueprints ν) (views : Views ν) : List (Registration ν) :=
  [.plain shared.explorerRoutes "/docs",
   .plain shared.configRoutes "/api/config",
   .plain (createCardsGetRoutes views) "/api/cards",
   .listOnly shared.resourceGetRoutes "/api/cards/resources",
   .listOnly shared.pathGetRoutes "/api/cards/paths",
   .listOnly shared.planGetRoutes "/api/cards/plans",
   .plain (createNotificationCardGetRoutes views) "/api/cards/notifications",
   .plain shared.eventGetRoutes "/api/cards/events",
   .plain (createNotificationRoutes views) "/api/notification"]

/-- The registrations in order, up to the first that raises. -/
def startUp (flask : Flask ν ε) (shared : SharedBlueprints ν) (views : Views ν) (app : App ν) : App ν × Except ε Unit :=
  Steps.run (Registration.serve flask) app (registrations shared views)

/-- The rules a sequence of registrations keeps, in order. -/
def mounted (flask : Flask ν ε) (rs : List (Registration ν)) : List (RuleArgs ν) :=
  rs.flatMap (fun r => (r.rules flask).filter r.keeps)

theorem mem_mounted {flask : Flask ν ε} {rs : List (Registration ν)} {args : RuleArgs ν} :
    args ∈ mounted flask rs ↔ ∃ r ∈ rs, args ∈ r.rules flask ∧ r.keeps args = true := by
  unfold mounted
  simp only [List.mem_flatMap, List.mem_filter]

/-- What the registrations do one after the other, each that returns leaving its blueprint known. -/
def setupSteps (flask : Flask ν ε) : List String → List (Registration ν) → List (SetupStep ν ε)
  | _, [] => []
  | known, r :: rs => r.steps flask known ++ setupSteps flask (known ++ [r.blueprint.name]) rs

theorem rulesOf_setupSteps {flask : Flask ν ε} (h : flask.Documented) : ∀ (rs : List (Registration ν))
    (known : List String), rulesOf (setupSteps flask known rs) = mounted flask rs
  | [], _ => rfl
  | r :: rs, known => by
    rw [setupSteps, rulesOf_append, Registration.rulesOf_steps h, rulesOf_setupSteps h rs, mounted, mounted,
      List.flatMap_cons]

/-- **A sequence of registrations is one run** of what they do, up to the exception that ended it. -/
theorem run_mounts {flask : Flask ν ε} (h : flask.Documented) : ∀ (rs : List (Registration ν)) {app : App ν},
    app.addUrlRule = .own →
    (Steps.run (Registration.serve flask) app rs).1.addUrlRule = .own ∧
      ((Steps.run (Registration.serve flask) app rs).1.routes, (Steps.run (Registration.serve flask) app rs).2) =
        Steps.run (ownStep flask.addUrlRule) app.routes (setupSteps flask app.blueprints rs)
  | [], app, happ => ⟨happ, rfl⟩
  | r :: rs, app, happ => by
    obtain ⟨hown, hruns, hknown⟩ := Registration.serve_runs h happ r
    rw [Steps.run, setupSteps, Steps.run_append, ← hruns]
    rcases hserve : Registration.serve flask app r with ⟨app', e | ⟨⟩⟩
    · rw [hserve] at hown
      exact ⟨hown, rfl⟩
    · rw [hserve] at hown hknown
      obtain ⟨hown', hrest⟩ := run_mounts h rs hown
      rw [show app'.blueprints = app.blueprints ++ [r.blueprint.name] from hknown rfl] at hrest
      exact ⟨hown', hrest⟩

/-! ## The URLs -/

/-- One slash at the front, and not two. -/
def leadingSlash (rule : String) : Bool :=
  decide (rule.toList.head? = some '/') && decide (rule.toList.tail.head? ≠ some '/')

/-- **What the start-up relies on** of `BlueprintSetupState`: every rule comes to stand under the prefix, an empty one
or one with a single leading slash right behind it. -/
structure PrefixesRules (flask : Flask ν ε) : Prop where
  under : ∀ blueprint urlPrefix args, urlPrefix.toList.getLast? ≠ some '/' →
    urlPrefix.toList <+: (flask.resolve blueprint urlPrefix args).rule.toList
  behind : ∀ blueprint urlPrefix args, urlPrefix.toList.getLast? ≠ some '/' →
    (args.rule = "" ∨ leadingSlash args.rule = true) →
    (flask.resolve blueprint urlPrefix args).rule = urlPrefix ++ args.rule

/-- The prefixes whose rules may take a path argument. -/
def argumentPrefixes : List String := ["/docs", "/api/config", "/api/cards/events", "/api/notification"]

/-- The control endpoints of the API. -/
def notificationRules : List String :=
  ["/api/notification", "/api/notification/dismiss/<notification_id>", "/api/notification/cancel/<notification_id>"]

section
variable {flask : Flask ν ε} (hp : PrefixesRules flask)
include hp

theorem createNotificationRoutes_rules (views : Views ν) :
    ∀ args ∈ flask.rules (createNotificationRoutes views) "/api/notification", args.rule ∈ notificationRules := by
  intro args hargs
  obtain ⟨own, hown, rfl⟩ := List.mem_map.1 hargs
  have hall : ∀ rule ∈ ["", "/dismiss/<notification_id>", "/cancel/<notification_id>"],
      (rule = "" ∨ leadingSlash rule = true) ∧ "/api/notification" ++ rule ∈ notificationRules := by decide
  have hrule : own.rule ∈ ["", "/dismiss/<notification_id>", "/cancel/<notification_id>"] := by
    simp only [createNotificationRoutes, List.mem_cons, List.not_mem_nil, or_false] at hown
    rcases hown with rfl | rfl | rfl <;> simp [route]
  rw [hp.behind _ _ _ (by decide) (hall _ hrule).1]
  exact (hall _ hrule).2

/-- The one rule of a card list of this repository. -/
theorem list_rule {name urlPrefix method endpoint : String} {view : ν} (hlast : urlPrefix.toList.getLast? ≠ some '/')
    {args : RuleArgs ν} (hargs : args ∈ flask.rules ⟨name, [route "" method endpoint view]⟩ urlPrefix) :
    args.rule = urlPrefix := by
  rw [Flask.rules, List.map_singleton, List.mem_singleton] at hargs
  rw [hargs, hp.behind _ _ _ hlast (Or.inl rfl)]
  exact String.append_empty

theorem stands_under {blueprint : Blueprint ν} {urlPrefix : String} (hlast : urlPrefix.toList.getLast? ≠ some '/')
    {args : RuleArgs ν} (hargs : args ∈ flask.rules blueprint urlPrefix) : urlPrefix.toList <+: args.rule.toList := by
  obtain ⟨own, -, rfl⟩ := List.mem_map.1 hargs
  exact hp.under _ _ _ hlast

/-- A rule that takes a path argument stands under one of four prefixes. -/
theorem argument_mounted {shared : SharedBlueprints ν} {views : Views ν} {args : RuleArgs ν}
    (hargs : args ∈ mounted flask (registrations shared views)) (htakes : takesArgument args = true) :
    ∃ urlPrefix ∈ argumentPrefixes, urlPrefix.toList <+: args.rule.toList := by
  obtain ⟨r, hr, hrule, hkeeps⟩ := mem_mounted.1 hargs
  have hlistOnly : ∀ {blueprint : Blueprint ν} {urlPrefix : String},
      Registration.keeps (.listOnly blueprint urlPrefix) args ≠ true := by
    intro blueprint urlPrefix hk
    rw [Registration.keeps, show args.rule.toList.contains '<' = true from htakes] at hk
    cases hk
  have hown : ∀ {urlPrefix : String}, urlPrefix.toList.contains '<' = false → args.rule ≠ urlPrefix := by
    rintro urlPrefix hnone rfl
    exact absurd (htakes.symm.trans hnone) (by decide)
  simp only [registrations, List.mem_cons, List.not_mem_nil, or_false] at hr
  rcases hr with rfl | rfl | rfl | rfl | rfl | rfl | rfl | rfl | rfl
  · exact ⟨"/docs", by decide, stands_under hp (by decide) hrule⟩
  · exact ⟨"/api/config", by decide, stands_under hp (by decide) hrule⟩
  · exact absurd (list_rule hp (by decide) hrule) (hown (by decide))
  · exact absurd hkeeps hlistOnly
  · exact absurd hkeeps hlistOnly
  · exact absurd hkeeps hlistOnly
  · exact absurd (list_rule hp (by decide) hrule) (hown (by decide))
  · exact ⟨"/api/cards/events", by decide, stands_under hp (by decide) hrule⟩
  · exact ⟨"/api/notification", by decide, stands_under hp (by decide) hrule⟩

/-- A rule under the control prefix is a control endpoint. -/
theorem notification_mounted {shared : SharedBlueprints ν} {views : Views ν} {args : RuleArgs ν}
    (hargs : args ∈ mounted flask (registrations shared views))
    (hunder : "/api/notification".toList <+: args.rule.toList) : args.rule ∈ notificationRules := by
  obtain ⟨r, hr, hrule, -⟩ := mem_mounted.1 hargs
  -- a rule under two prefixes, one of them has to be under the other
  have hother : ∀ {blueprint : Blueprint ν} {urlPrefix : String}, urlPrefix.toList.getLast? ≠ some '/' →
      ¬ urlPrefix.toList <+: "/api/notification".toList → ¬ "/api/notification".toList <+: urlPrefix.toList →
      args ∉ flask.rules blueprint urlPrefix := by
    intro blueprint urlPrefix hlast hleft hright hmem
    rcases List.prefix_or_prefix_of_prefix (stands_under hp hlast hmem) hunder with hpre | hpre
    · exact hleft hpre
    · exact hright hpre
  simp only [registrations, List.mem_cons, List.not_mem_nil, or_false] at hr
  rcases hr with rfl | rfl | rfl | rfl | rfl | rfl | rfl | rfl | rfl
  · exact absurd hrule (hother (by decide) (by decide) (by decide))
  · exact absurd hrule (hother (by decide) (by decide) (by decide))
  · exact absurd hrule (hother (by decide) (by decide) (by decide))
  · exact absurd hrule (hother (by decide) (by decide) (by decide))
  · exact absurd hrule (hother (by decide) (by decide) (by decide))
  · exact absurd hrule (hother (by decide) (by decide) (by decide))
  · exact absurd hrule (hother (by decide) (by decide) (by decide))
  · exact absurd hrule (hother (by decide) (by decide) (by decide))
  · exact createNotificationRoutes_rules hp views args hrule

omit hp in
/-- No registration drops a rule without a path argument. -/
theorem list_mounted {rs : List (Registration ν)} {r : Registration ν} (hr : r ∈ rs) {args : RuleArgs ν}
    (hrule : args ∈ r.rules flask) (htakes : takesArgument args = false) : args ∈ mounted flask rs := by
  refine mem_mounted.2 ⟨r, hr, hrule, ?_⟩
  cases r with
  | plain blueprint urlPrefix => rfl
  | listOnly blueprint urlPrefix =>
    rw [Registration.keeps, show args.rule.toList.contains '<' = false from htakes]
    rfl

end

/-- **What the start-up mounts.**  However it ends, it did what its registrations do in order, on the class's own method
and up to the exception that ended it, and took every filter of `add_url_rule` away.  The rules it mounts are those its
registrations keep: all without a path argument, so every list of a factory; one with a path argument stands under one
of four prefixes, none of them a list-only one; and under the control prefix are the three rules this repository
defines. -/
theorem startUp_mounts {flask : Flask ν ε} (h : flask.Documented) (hp : PrefixesRules flask)
    (shared : SharedBlueprints ν) (views : Views ν) {app : App ν} (happ : app.addUrlRule = .own) :
    (startUp flask shared views app).1.addUrlRule = .own ∧
    Registers flask (setupSteps flask app.blueprints (registrations shared views)) app.routes
      (startUp flask shared views app).1.routes (startUp flask shared views app).2 ∧
    rulesOf (setupSteps flask app.blueprints (registrations shared views)) =
      mounted flask (registrations shared views) ∧
    (∀ r ∈ registrations shared views, ∀ args ∈ r.rules flask, takesArgument args = false →
      args ∈ mounted flask (registrations shared views)) ∧
    ∀ args ∈ mounted flask (registrations shared views),
      (takesArgument args = true → ∃ urlPrefix ∈ argumentPrefixes, urlPrefix.toList <+: args.rule.toList) ∧
      ("/api/notification".toList <+: args.rule.toList → args.rule ∈ notificationRules) := by
  obtain ⟨hown, hruns⟩ := run_mounts h (registrations shared views) happ
  refine ⟨hown, registers_of_run h hruns, rulesOf_setupSteps h _ _, fun r hr args hrule htakes => ?_,
    fun args hargs => ⟨?_, ?_⟩⟩
  · exact list_mounted hr hrule htakes
  · exact argument_mounted hp hargs
  · exact notification_mounted hp hargs

/-! ## On a concrete app -/

def namedViews : Views String :=
  ⟨"get_home_cards", "get_notification_cards", "create_notification", "dismiss_notification", "cancel_notification"⟩

def namedBlueprints : SharedBlueprints String where
  explorerRoutes := ⟨"explorer_routes", [route "/<path:filename>" "GET" "docs" "docs"]⟩
  configRoutes := ⟨"config_routes", [route "" "GET" "get_config" "get_config"]⟩
  resourceGetRoutes := resourceRoutes "resource_card_routes"
  pathGetRoutes := resourceRoutes "path_card_routes"
  planGetRoutes := resourceRoutes "plan_card_routes"
  eventGetRoutes := ⟨"event_card_routes", [route "" "GET" "get_events" "get_events"]⟩

theorem referenceFlask_prefixes : PrefixesRules referenceFlask where
  under _ urlPrefix args _ := by
    have hrule : ∀ blueprint, (referenceFlask.resolve blueprint urlPrefix args).rule = urlPrefix ++ args.rule :=
      fun _ => rfl
    rw [hrule, String.toList_append]
    exact List.prefix_append _ _
  behind _ _ _ _ _ := rfl

/-- An app that already knows a blueprint of the start-up. -/
def takenApp : App String := { emptyApp with blueprints := ["path_card_routes"] }

/-- Started on an empty app, and on one where the fifth registration raises. -/
theorem startUp_mounts_named :
    Registers referenceFlask (setupSteps referenceFlask [] (registrations namedBlueprints namedViews)) emptyApp.routes
      (startUp referenceFlask namedBlueprints namedViews emptyApp).1.routes (.ok ()) ∧
    Registers referenceFlask (setupSteps referenceFlask takenApp.blueprints (registrations namedBlueprints namedViews))
      takenApp.routes (startUp referenceFlask namedBlueprints namedViews takenApp).1.routes (.error "ValueError") := by
  obtain ⟨-, hok, -⟩ := startUp_mounts referenceFlask_documented referenceFlask_prefixes namedBlueprints namedViews
    (show emptyApp.addUrlRule = .own from rfl)
  obtain ⟨-, hraised, -⟩ := startUp_mounts referenceFlask_documented referenceFlask_prefixes namedBlueprints namedViews
    (show takenApp.addUrlRule = .own from rfl)
  exact ⟨hok, hraised⟩

example : (startUp referenceFlask namedBlueprints namedViews emptyApp).1.routes.urlMap.map Prod.fst =
    ["/docs/<path:filename>", "/api/config", "/api/cards", "/api/cards/resources", "/api/cards/paths",
      "/api/cards/plans", "/api/cards/notifications", "/api/cards/events"] ++ notificationRules := rfl

end Server
end Discovery
