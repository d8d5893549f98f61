import DiscoveryApi.Lib.Assoc
import DiscoveryApi.Lib.Runs
import DiscoveryApi.Lib.Steps
import DiscoveryApi.Document
/-!
# ListOnly — registering a blueprint without its by-id rules

`register_list_only_blueprint` puts a filter in front of `app.add_url_rule` while a blueprint registers, and takes it
away on every exit.  The attribute is modelled as Python has it: an entry of the app's own dict hides the class's
method, and `del` removes the entry.  `registrations_exact` is about every sequence of registrations on one app.
-/
namespace Discovery
namespace CardRoutes

variable {ν ε : Type}

/-! ## The app -/

/-- The arguments of `add_url_rule`; `ν` are the view functions. -/
structure RuleArgs (ν : Type) where
  rule : String
  endpoint : String
  viewFunc : Option ν
  options : List (String × Value)

/-- `app.url_map` in order, and the dict `app.view_functions`. -/
structure Routes (ν : Type) where
  urlMap : List (String × String × List (String × Value))
  viewFunctions : List (String × ν)

/-- What a call of `add_url_rule` that returns adds. -/
def Routes.add (routes : Routes ν) (args : RuleArgs ν) : Routes ν where
  urlMap := routes.urlMap ++ [(args.rule, args.endpoint, args.options)]
  viewFunctions :=
    match args.viewFunc with
    | none => routes.viewFunctions
    | some view => Assoc.set routes.viewFunctions args.endpoint view

def Routes.addAll (routes : Routes ν) (rules : List (RuleArgs ν)) : Routes ν := rules.foldl Routes.add routes

/-- The functions `app.add_url_rule` may be: the class's own method, or the closure over the function before. -/
inductive AddUrlRule where
  | own
  | argumentFree (addUrlRule : AddUrlRule)

/-- A Flask app: its routes, the blueprints it knows, and `add_url_rule` in its own dict. -/
structure App (ν : Type) where
  routes : Routes ν
  blueprints : List String
  instanceAttr : Option AddUrlRule

/-- `app.add_url_rule` -/
def App.addUrlRule (app : App ν) : AddUrlRule := app.instanceAttr.getD .own

structure Blueprint (ν : Type) where
  name : String
  rules : List (RuleArgs ν)

/-! ## The calls -/

/-- A `<` in the rule marks a by-id route rather than the list route. -/
def takesArgument (args : RuleArgs ν) : Bool := args.rule.toList.contains '<'

/-- Calling one of these functions, `own` being the class's method. -/
def callAddUrlRule (own : Routes ν → RuleArgs ν → Routes ν × Except ε Unit) :
    AddUrlRule → Routes ν → RuleArgs ν → Routes ν × Except ε Unit
  | .own, routes, args => own routes args
  | .argumentFree addUrlRule, routes, args =>
    if takesArgument args then (routes, .ok ()) else callAddUrlRule own addUrlRule routes args

/-- What a blueprint does while it registers: a call of `app.add_url_rule`, or something that raises. -/
inductive SetupStep (ν ε : Type) where
  | rule (args : RuleArgs ν)
  | raising (e : ε)

def setupStep (own : Routes ν → RuleArgs ν → Routes ν × Except ε Unit) (app : App ν) :
    SetupStep ν ε → App ν × Except ε Unit
  | .rule args =>
    let called := callAddUrlRule own app.addUrlRule app.routes args
    ({ app with routes := called.1 }, called.2)
  | .raising e => (app, .error e)

def rulesOf (steps : List (SetupStep ν ε)) : List (RuleArgs ν) :=
  steps.filterMap (fun
    | .rule args => some args
    | .raising _ => none)

/-- The part of Flask the registration uses. -/
structure Flask (ν ε : Type) where
  /-- The class's own method. -/
  addUrlRule : Routes ν → RuleArgs ν → Routes ν × Except ε Unit
  /-- `BlueprintSetupState`: a rule of the blueprint under a prefix. -/
  resolve : Blueprint ν → String → RuleArgs ν → RuleArgs ν
  /-- What a blueprint does under a prefix, on an app that knows these blueprints. -/
  setupSteps : List String → Blueprint ν → String → List (SetupStep ν ε)
  registerBlueprint : App ν → Blueprint ν → String → App ν × Except ε Unit
  attributeError : ε

/-- A blueprint's rules with their full URLs. -/
def Flask.rules (flask : Flask ν ε) (blueprint : Blueprint ν) (urlPrefix : String) : List (RuleArgs ν) :=
  blueprint.rules.map (flask.resolve blueprint urlPrefix)

/-- The registration, on `app.add_url_rule` as it stands. -/
def Flask.setup (flask : Flask ν ε) (app : App ν) (blueprint : Blueprint ν) (urlPrefix : String) :
    App ν × Except ε Unit :=
  Steps.run (setupStep flask.addUrlRule) app (flask.setupSteps app.blueprints blueprint urlPrefix)

/-- **What the registration relies on** of Flask: a blueprint calls `app.add_url_rule` once a rule, in order, and may
raise before, between or after; that call alone adds the rule and its view function. -/
structure Flask.Documented (flask : Flask ν ε) : Prop where
  adds : ∀ {routes args routes'}, flask.addUrlRule routes args = (routes', .ok ()) → routes' = routes.add args
  oncePerRule : ∀ known blueprint urlPrefix,
    rulesOf (flask.setupSteps known blueprint urlPrefix) = flask.rules blueprint urlPrefix
  registers : ∀ app blueprint urlPrefix,
    (flask.registerBlueprint app blueprint urlPrefix).1.routes = (flask.setup app blueprint urlPrefix).1.routes ∧
    (flask.registerBlueprint app blueprint urlPrefix).1.instanceAttr =
      (flask.setup app blueprint urlPrefix).1.instanceAttr ∧
    (flask.registerBlueprint app blueprint urlPrefix).2 = (flask.setup app blueprint urlPrefix).2
  known : ∀ {app blueprint urlPrefix}, (flask.registerBlueprint app blueprint urlPrefix).2 = .ok () →
    (flask.registerBlueprint app blueprint urlPrefix).1.blueprints = app.blueprints ++ [blueprint.name]

/-- `del app.add_url_rule` -/
def delAddUrlRule (flask : Flask ν ε) (app : App ν) : App ν × Except ε Unit :=
  match app.instanceAttr with
  | none => (app, .error flask.attributeError)
  | some _ => ({ app with instanceAttr := none }, .ok ())

def registerListOnlyBlueprint (flask : Flask ν ε) (app : App ν) (blueprint : Blueprint ν) (urlPrefix : String) :
    App ν × Except ε Unit :=
  let addUrlRule := app.addUrlRule
  let patched := { app with instanceAttr := some (.argumentFree addUrlRule) }
  let registered := flask.registerBlueprint patched blueprint urlPrefix
  -- the `finally` clause: what it raises takes the place of what the registration raised
  let deleted := delAddUrlRule flask registered.1
  match deleted.2 with
  | .error e => (deleted.1, .error e)
  | .ok () => (deleted.1, registered.2)

/-! ## What a registration adds -/

/-- Does the function hand the rule on to the class's own method? -/
def AddUrlRule.keeps : AddUrlRule → RuleArgs ν → Bool
  | .own, _ => true
  | .argumentFree addUrlRule, args => !takesArgument args && addUrlRule.keeps args

theorem callAddUrlRule_eq (own : Routes ν → RuleArgs ν → Routes ν × Except ε Unit) (routes : Routes ν)
    (args : RuleArgs ν) : ∀ f : AddUrlRule,
    callAddUrlRule own f routes args = if f.keeps args then own routes args else (routes, .ok ())
  | .own => rfl
  | .argumentFree f => by
    rw [callAddUrlRule, callAddUrlRule_eq own routes args f, AddUrlRule.keeps]
    cases takesArgument args <;> rfl

/-- A step that raises, or adds a rule that is kept. -/
def SetupStep.kept (keeps : RuleArgs ν → Bool) : SetupStep ν ε → Bool
  | .rule args => keeps args
  | .raising _ => true

/-- A step on the class's own method. -/
def ownStep (own : Routes ν → RuleArgs ν → Routes ν × Except ε Unit) (routes : Routes ν) :
    SetupStep ν ε → Routes ν × Except ε Unit
  | .rule args => own routes args
  | .raising e => (routes, .error e)

/-- **What these steps did**: they ran in order on the class's own method.  When all of them returned they added their
rules; else one of them raised, and those before it added theirs. -/
structure Registers (flask : Flask ν ε) (steps : List (SetupStep ν ε)) (before after : Routes ν) (o : Except ε Unit) :
    Prop where
  runs : (after, o) = Steps.run (ownStep flask.addUrlRule) before steps
  returned : o = .ok () → after = before.addAll (rulesOf steps)
  raised : ∀ e, o = .error e → ∃ done s rest, steps = done ++ s :: rest ∧
    ownStep flask.addUrlRule (before.addAll (rulesOf done)) s = (after, .error e)

theorem rulesOf_append (steps more : List (SetupStep ν ε)) : rulesOf (steps ++ more) = rulesOf steps ++ rulesOf more :=
  List.filterMap_append

theorem rulesOf_kept (keeps : RuleArgs ν → Bool) : ∀ steps : List (SetupStep ν ε),
    rulesOf (steps.filter (SetupStep.kept keeps)) = (rulesOf steps).filter keeps
  | [] => rfl
  | .raising e :: steps => by
    rw [List.filter_cons_of_pos rfl]
    exact rulesOf_kept keeps steps
  | .rule args :: steps => by
    have hrules : ∀ l : List (SetupStep ν ε), rulesOf (.rule args :: l) = args :: rulesOf l := fun _ => rfl
    rw [List.filter_cons, hrules, List.filter_cons, SetupStep.kept]
    cases keeps args
    · exact rulesOf_kept keeps steps
    · exact congrArg (args :: ·) (rulesOf_kept keeps steps)

def added (routes : Routes ν) : SetupStep ν ε → Routes ν
  | .rule args => routes.add args
  | .raising _ => routes

theorem foldl_added : ∀ (steps : List (SetupStep ν ε)) (routes : Routes ν),
    steps.foldl added routes = routes.addAll (rulesOf steps)
  | [], _ => rfl
  | .raising _ :: steps, routes => foldl_added steps routes
  | .rule args :: steps, routes => foldl_added steps (routes.add args)

theorem setupStep_addUrlRule {own : Routes ν → RuleArgs ν → Routes ν × Except ε Unit} {f : AddUrlRule} (app : App ν)
    (s : SetupStep ν ε) (hf : app.addUrlRule = f) : (setupStep own app s).1.addUrlRule = f := by
  cases s <;> exact hf

section
variable {flask : Flask ν ε} (h : flask.Documented)
include h

theorem ownStep_ok {routes routes' : Routes ν} {s : SetupStep ν ε}
    (hs : ownStep flask.addUrlRule routes s = (routes', .ok ())) : routes' = added routes s := by
  cases s with
  | rule args => exact h.adds hs
  | raising e => cases (Prod.mk.inj hs).2

theorem run_returned {routes routes' : Routes ν} {steps : List (SetupStep ν ε)}
    (hrun : Steps.run (ownStep flask.addUrlRule) routes steps = (routes', .ok ())) :
    routes' = routes.addAll (rulesOf steps) := by
  rw [← foldl_added]
  exact Steps.run_ok (P := fun _ => True) (fun _ _ _ => trivial) (fun _ hs => ownStep_ok h hs) trivial hrun

/-- The routes a run reaches and its outcome are all there is to say of it. -/
theorem registers_of_run {steps : List (SetupStep ν ε)} {before after : Routes ν} {o : Except ε Unit}
    (hrun : (after, o) = Steps.run (ownStep flask.addUrlRule) before steps) : Registers flask steps before after o where
  runs := hrun
  returned ho := run_returned h (by rw [← hrun, ho])
  raised e he := by
    obtain ⟨done, s, rest, routes, hsteps, hdone, hs⟩ := Steps.run_error (hrun.symm.trans (by rw [he]))
    exact ⟨done, s, rest, hsteps, run_returned h hdone ▸ hs⟩

/-- **A registration runs the steps its function keeps**, and leaves `app.add_url_rule` as it is. -/
theorem registerBlueprint_runs {f : AddUrlRule} {app : App ν} (hf : app.addUrlRule = f) (blueprint : Blueprint ν)
    (urlPrefix : String) :
    (flask.registerBlueprint app blueprint urlPrefix).1.instanceAttr = app.instanceAttr ∧
    ((flask.registerBlueprint app blueprint urlPrefix).1.routes, (flask.registerBlueprint app blueprint urlPrefix).2) =
      Steps.run (ownStep flask.addUrlRule) app.routes
        ((flask.setupSteps app.blueprints blueprint urlPrefix).filter (SetupStep.kept f.keeps)) := by
  obtain ⟨hroutes, hattr, hresult⟩ := h.registers app blueprint urlPrefix
  rw [hroutes, hattr, hresult]
  refine ⟨?_, ?_⟩
  · exact Steps.run_keeps (P := fun a : App ν => a.instanceAttr = app.instanceAttr)
      (fun a s ha => by cases s <;> exact ha) _ app rfl
  · refine Steps.run_view (V := App.routes) (P := fun a : App ν => a.addUrlRule = f)
      setupStep_addUrlRule (fun a s ha hk => ?_) (fun a s ha hk => ?_) _ app hf
    · cases s with
      | raising e => rfl
      | rule args =>
        have hk : f.keeps args = true := hk
        rw [setupStep, ha, callAddUrlRule_eq, if_pos hk]
        rfl
    · cases s with
      | raising e => cases hk
      | rule args =>
        have hk : f.keeps args = false := hk
        rw [setupStep, ha, callAddUrlRule_eq, hk]
        rfl

/-- The list-only registration takes its filter away whether the registration returned or raised. -/
theorem registerListOnlyBlueprint_runs {f : AddUrlRule} {app : App ν} (hf : app.addUrlRule = f)
    (blueprint : Blueprint ν) (urlPrefix : String) :
    (registerListOnlyBlueprint flask app blueprint urlPrefix).1.instanceAttr = none ∧
    ((registerListOnlyBlueprint flask app blueprint urlPrefix).1.routes,
      (registerListOnlyBlueprint flask app blueprint urlPrefix).2) =
      Steps.run (ownStep flask.addUrlRule) app.routes ((flask.setupSteps app.blueprints blueprint urlPrefix).filter
        (SetupStep.kept (fun args => !takesArgument args && f.keeps args))) ∧
    ((registerListOnlyBlueprint flask app blueprint urlPrefix).2 = .ok () →
      (registerListOnlyBlueprint flask app blueprint urlPrefix).1.blueprints = app.blueprints ++ [blueprint.name]) := by
  have hpatched : App.addUrlRule { app with instanceAttr := some (.argumentFree app.addUrlRule) } =
      .argumentFree app.addUrlRule := rfl
  obtain ⟨hattr, hruns⟩ := registerBlueprint_runs h hpatched blueprint urlPrefix
  unfold registerListOnlyBlueprint delAddUrlRule
  simp only [hattr]
  rw [← hf]
  exact ⟨trivial, hruns, h.known⟩

end

/-! ## Every sequence of registrations -/

inductive Registration (ν : Type) where
  | listOnly (blueprint : Blueprint ν) (urlPrefix : String)
  | plain (blueprint : Blueprint ν) (urlPrefix : String)

namespace Registration

def blueprint : Registration ν → Blueprint ν
  | .listOnly blueprint _ | .plain blueprint _ => blueprint

def rules (flask : Flask ν ε) : Registration ν → List (RuleArgs ν)
  | .listOnly blueprint urlPrefix | .plain blueprint urlPrefix => flask.rules blueprint urlPrefix

def setupSteps (flask : Flask ν ε) (known : List String) : Registration ν → List (SetupStep ν ε)
  | .listOnly blueprint urlPrefix | .plain blueprint urlPrefix => flask.setupSteps known blueprint urlPrefix

/-- A list-only registration keeps the rules without a path argument, a plain one all. -/
def keeps : Registration ν → RuleArgs ν → Bool
  | .listOnly _ _, args => !args.rule.toList.contains '<'
  | .plain _ _, _ => true

/-- The steps of the registration that raise or add a rule it keeps. -/
def steps (flask : Flask ν ε) (known : List String) (r : Registration ν) : List (SetupStep ν ε) :=
  (r.setupSteps flask known).filter (SetupStep.kept r.keeps)

def serve (flask : Flask ν ε) (app : App ν) : Registration ν → App ν × Except ε Unit
  | .listOnly blueprint urlPrefix => registerListOnlyBlueprint flask app blueprint urlPrefix
  | .plain blueprint urlPrefix => flask.registerBlueprint app blueprint urlPrefix

theorem rulesOf_steps {flask : Flask ν ε} (h : flask.Documented) (known : List String) (r : Registration ν) :
    rulesOf (r.steps flask known) = (r.rules flask).filter r.keeps := by
  rw [steps, rulesOf_kept]
  cases r <;> rw [setupSteps, h.oncePerRule, rules]

/-- One registration on an app whose `add_url_rule` is the class's own. -/
theorem serve_runs {flask : Flask ν ε} (h : flask.Documented) {app : App ν} (happ : app.addUrlRule = .own)
    (r : Registration ν) :
    (serve flask app r).1.addUrlRule = .own ∧
    ((serve flask app r).1.routes, (serve flask app r).2) =
      Steps.run (ownStep flask.addUrlRule) app.routes (r.steps flask app.blueprints) ∧
    ((serve flask app r).2 = .ok () → (serve flask app r).1.blueprints = app.blueprints ++ [r.blueprint.name]) := by
  cases r with
  | listOnly blueprint urlPrefix =>
    obtain ⟨hattr, hruns, hknown⟩ := registerListOnlyBlueprint_runs h happ blueprint urlPrefix
    refine ⟨by rw [App.addUrlRule, serve, hattr]; rfl, ?_, hknown⟩
    simp only [AddUrlRule.keeps, Bool.and_true] at hruns
    exact hruns
  | plain blueprint urlPrefix =>
    obtain ⟨hattr, hruns⟩ := registerBlueprint_runs h happ blueprint urlPrefix
    exact ⟨by rw [App.addUrlRule, serve, hattr]; exact happ, hruns, h.known⟩

/-- **List-only registration drops exactly the parameterised rules and leaves no trace**: after every sequence of
registrations, any of them raising, the next one runs the steps of its blueprint whose rules it keeps, up to the one
that raises, and leaves the class's own method. -/
theorem registrations_exact {flask : Flask ν ε} (h : flask.Documented) {app : App ν} (happ : app.addUrlRule = .own)
    (registrations : List (Registration ν)) (r : Registration ν) :
    let reached := (Runs.run (serve flask) app registrations).1
    reached.addUrlRule = .own ∧ (serve flask reached r).1.addUrlRule = .own ∧
    rulesOf (r.steps flask reached.blueprints) = (r.rules flask).filter r.keeps ∧
    Registers flask (r.steps flask reached.blueprints) reached.routes (serve flask reached r).1.routes
      (serve flask reached r).2 := by
  intro reached
  have hown : reached.addUrlRule = .own :=
    Runs.run_rel (R := fun a a' : App ν => a.addUrlRule = .own → a'.addUrlRule = .own) (fun _ ha => ha)
      (fun hab hbc ha => hbc (hab ha)) (fun _ q ha => (serve_runs h ha q).1) registrations app happ
  obtain ⟨hserved, hruns, -⟩ := serve_runs h hown r
  exact ⟨hown, hserved, rulesOf_steps h _ r, registers_of_run h hruns⟩

end Registration

/-! ## On a concrete app -/

/-- The method of `Flask`: a second view function for an endpoint raises, its rule already in the map. -/
def ownAddUrlRule (routes : Routes String) (args : RuleArgs String) : Routes String × Except String Unit :=
  match args.viewFunc, routes.viewFunctions.lookup args.endpoint with
  | some view, some old =>
    if view = old then (routes.add args, .ok ())
    else ({ routes with urlMap := (routes.add args).urlMap }, .error "AssertionError")
  | _, _ => (routes.add args, .ok ())

def underPrefix (blueprint : Blueprint String) (urlPrefix : String) (args : RuleArgs String) : RuleArgs String :=
  { args with rule := urlPrefix ++ args.rule, endpoint := blueprint.name ++ "." ++ args.endpoint }

/-- A blueprint name may be registered once. -/
def referenceSteps (known : List String) (blueprint : Blueprint String) (urlPrefix : String) :
    List (SetupStep String String) :=
  (if known.contains blueprint.name then [.raising "ValueError"] else []) ++
    (blueprint.rules.map (underPrefix blueprint urlPrefix)).map .rule

/-- Flask, computed. -/
def referenceFlask : Flask String String where
  addUrlRule := ownAddUrlRule
  resolve := underPrefix
  setupSteps := referenceSteps
  registerBlueprint app blueprint urlPrefix :=
    let registered := Steps.run (setupStep ownAddUrlRule) app (referenceSteps app.blueprints blueprint urlPrefix)
    let known := if app.blueprints.contains blueprint.name then [] else [blueprint.name]
    ({ registered.1 with blueprints := app.blueprints ++ known }, registered.2)
  attributeError := "AttributeError"

theorem rulesOf_map_rule (rules : List (RuleArgs ν)) :
    rulesOf (rules.map (SetupStep.rule (ε := ε))) = rules := by
  unfold rulesOf
  rw [List.filterMap_map]
  exact List.filterMap_some

theorem referenceFlask_documented : referenceFlask.Documented where
  adds {routes args routes'} h := by
    have hown : referenceFlask.addUrlRule routes args = ownAddUrlRule routes args := rfl
    rw [hown, ownAddUrlRule] at h
    split at h
    · split at h
      · exact (Prod.mk.inj h).1.symm
      · cases (Prod.mk.inj h).2
    · exact (Prod.mk.inj h).1.symm
  oncePerRule known blueprint urlPrefix := by
    have hsteps : referenceFlask.setupSteps known blueprint urlPrefix = referenceSteps known blueprint urlPrefix := rfl
    rw [hsteps, referenceSteps, rulesOf_append, rulesOf_map_rule]
    split <;> rfl
  registers _ _ _ := ⟨rfl, rfl, rfl⟩
  known {app blueprint urlPrefix} h := by
    cases hknown : app.blueprints.contains blueprint.name with
    | true =>
      have hraised : (referenceFlask.registerBlueprint app blueprint urlPrefix).2 = .error "ValueError" := by
        simp only [referenceFlask, referenceSteps, hknown, if_true, List.cons_append, Steps.run, setupStep]
      rw [hraised] at h
      cases h
    | false => simp only [referenceFlask, hknown, Bool.false_eq_true, if_false]

def resourceRoutes (name : String) : Blueprint String :=
  ⟨name, [⟨"", "get_resources", some "get_resources", []⟩, ⟨"/<resource_id>", "get_resource", some "get_resource", []⟩]⟩

def emptyApp : App String := ⟨⟨[], []⟩, [], none⟩

namespace Registration

def resourceCards : Registration String := .listOnly (resourceRoutes "cards") "/api/cards/resources"

def plainResources : Registration String := .plain (resourceRoutes "plain_routes") "/plain"

/-- A list-only registration first, then a plain one after a list-only one that raised: its name was taken. -/
theorem listOnly_then_plain :
    Registers referenceFlask (resourceCards.steps referenceFlask []) emptyApp.routes
      (serve referenceFlask emptyApp resourceCards).1.routes (serve referenceFlask emptyApp resourceCards).2 ∧
    rulesOf (resourceCards.steps referenceFlask []) =
      [⟨"/api/cards/resources", "cards.get_resources", some "get_resources", []⟩] ∧
    let reached := (Runs.run (serve referenceFlask) emptyApp [resourceCards, resourceCards]).1
    Registers referenceFlask (plainResources.steps referenceFlask reached.blueprints) reached.routes
      (serve referenceFlask reached plainResources).1.routes (serve referenceFlask reached plainResources).2 ∧
    rulesOf (plainResources.steps referenceFlask reached.blueprints) =
      [⟨"/plain", "plain_routes.get_resources", some "get_resources", []⟩,
       ⟨"/plain/<resource_id>", "plain_routes.get_resource", some "get_resource", []⟩] := by
  have hempty : emptyApp.addUrlRule = .own := rfl
  obtain ⟨-, -, -, hlist⟩ := registrations_exact referenceFlask_documented hempty [] resourceCards
  obtain ⟨-, -, -, hplain⟩ :=
    registrations_exact referenceFlask_documented hempty [resourceCards, resourceCards] plainResources
  exact ⟨hlist, rfl, hplain, rfl⟩

example : (Runs.run (serve referenceFlask) emptyApp [resourceCards, resourceCards, plainResources]).1.routes.urlMap.map
    Prod.fst = ["/api/cards/resources", "/plain", "/plain/<resource_id>"] := rfl

end Registration
end CardRoutes
end Discovery
