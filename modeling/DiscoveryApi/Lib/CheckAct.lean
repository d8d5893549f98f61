import DiscoveryApi.Lib.Runs
/-!
# CheckAct — requests that check in one atomic step and act in the next

A request's first step reads the state: it ends the request there, or lets it go on to a second step, which acts without
looking again.  If what a check accepted stays acceptable whatever other requests do (`Stable`), every interleaving of
any number of requests is a serial run of them in the order of their last steps.
-/
namespace CheckAct

variable {σ ρ ω ι : Type}

structure Protocol (σ ρ ω : Type) where
  /-- The first step: the state and outcome a request ends with there, or none when it goes on. -/
  check : σ → ρ → Option (σ × ω)
  /-- The second step. -/
  act : σ → ρ → σ × ω

def Protocol.serve (P : Protocol σ ρ ω) (s : σ) (r : ρ) : σ × ω := (P.check s r).getD (P.act s r)

theorem Protocol.serve_of_check {P : Protocol σ ρ ω} {s : σ} {r : ρ} {x : σ × ω} (h : P.check s r = some x) :
    P.serve s r = x := by rw [serve, h]; rfl

theorem Protocol.serve_of_go {P : Protocol σ ρ ω} {s : σ} {r : ρ} (h : P.check s r = none) :
    P.serve s r = P.act s r := by rw [serve, h]; rfl

/-- A request that may go on may still go on after any other request was served. -/
def Stable (P : Protocol σ ρ ω) : Prop :=
  ∀ s r q, P.check s r = none → P.check (P.serve s q).1 r = none

inductive Status (ω : Type) where
  | idle
  | checked
  | done (outcome : ω)

/-- The shared state, where each request is, and the requests that ended, in the order of their last steps. -/
structure Config (σ ω ι : Type) where
  store : σ
  status : ι → Status ω
  log : List (ι × ω)

def start (s : σ) : Config σ ω ι := ⟨s, fun _ => .idle, []⟩

/-! ## The invariant -/

/-- **What every reachable configuration satisfies**: the log is a serial run to the store, it holds each ended request
once with its outcome, and every request past its check would pass it now. -/
structure Inv (P : Protocol σ ρ ω) (req : ι → ρ) (s₀ : σ) (cfg : Config σ ω ι) : Prop where
  serial : Runs.run P.serve s₀ (cfg.log.map (fun p => req p.1)) = (cfg.store, cfg.log.map Prod.snd)
  once : (cfg.log.map Prod.fst).Nodup
  ended : ∀ i o, cfg.status i = .done o ↔ (i, o) ∈ cfg.log
  current : ∀ i, cfg.status i = .checked → P.check cfg.store (req i) = none

theorem inv_start (P : Protocol σ ρ ω) (req : ι → ρ) (s₀ : σ) : Inv P req s₀ (start s₀) where
  serial := rfl
  once := List.nodup_nil
  ended _ _ := ⟨fun h => (nomatch h), fun h => (nomatch h)⟩
  current _ h := nomatch h

theorem Inv.mem_zip {P : Protocol σ ρ ω} {req : ι → ρ} {s₀ : σ} {cfg : Config σ ω ι} (h : Inv P req s₀ cfg) {i : ι}
    {o : ω} (hi : cfg.status i = .done o) : (req i, o) ∈
      (cfg.log.map (fun p => req p.1)).zip (Runs.run P.serve s₀ (cfg.log.map (fun p => req p.1))).2 := by
  rw [h.serial, List.zip_map']
  exact List.mem_map.2 ⟨(i, o), (h.ended i o).1 hi, rfl⟩

/-! ## Steps -/

variable [DecidableEq ι]

def setStatus (status : ι → Status ω) (i : ι) (x : Status ω) : ι → Status ω := fun j => if j = i then x else status j

@[simp] theorem setStatus_self (status : ι → Status ω) (i : ι) (x : Status ω) : setStatus status i x i = x :=
  if_pos rfl

theorem setStatus_of_ne (status : ι → Status ω) {i j : ι} (x : Status ω) (h : j ≠ i) :
    setStatus status i x j = status j := if_neg h

def finish (cfg : Config σ ω ι) (i : ι) (x : σ × ω) : Config σ ω ι :=
  ⟨x.1, setStatus cfg.status i (.done x.2), cfg.log ++ [(i, x.2)]⟩

def step (P : Protocol σ ρ ω) (req : ι → ρ) (cfg : Config σ ω ι) (i : ι) : Config σ ω ι :=
  match cfg.status i with
  | .idle =>
    match P.check cfg.store (req i) with
    | some x => finish cfg i x
    | none => { cfg with status := setStatus cfg.status i .checked }
  | .checked => finish cfg i (P.act cfg.store (req i))
  | .done _ => cfg

/-- A schedule names the request that steps next. -/
def run (P : Protocol σ ρ ω) (req : ι → ρ) (cfg : Config σ ω ι) (schedule : List ι) : Config σ ω ι :=
  schedule.foldl (step P req) cfg

/-! ## Every step keeps the invariant -/

theorem inv_finish {P : Protocol σ ρ ω} (hP : Stable P) {req : ι → ρ} {s₀ : σ} {cfg : Config σ ω ι}
    (h : Inv P req s₀ cfg) {i : ι} {x : σ × ω} (hi : ∀ o, cfg.status i ≠ .done o)
    (hx : P.serve cfg.store (req i) = x) : Inv P req s₀ (finish cfg i x) where
  serial := by
    simp only [finish, List.map_append, List.map_cons, List.map_nil]
    rw [Runs.run_append, h.serial]
    simp only [Runs.run, hx]
  once := by
    simp only [finish, List.map_append, List.map_cons, List.map_nil]
    refine List.nodup_append.2 ⟨h.once, List.pairwise_singleton _ _, fun a ha b hb hab => ?_⟩
    obtain ⟨⟨j, o⟩, hm, rfl⟩ := List.mem_map.1 ha
    have hji : j = i := hab.trans (List.mem_singleton.1 hb)
    exact hi o (hji ▸ (h.ended j o).2 hm)
  ended j o := by
    simp only [finish, List.mem_append, List.mem_singleton, Prod.mk.injEq]
    by_cases hj : j = i
    · subst hj
      rw [setStatus_self]
      constructor
      · intro ho
        cases ho
        exact Or.inr ⟨rfl, rfl⟩
      · rintro (hm | ⟨-, rfl⟩)
        · exact absurd ((h.ended j o).2 hm) (hi o)
        · rfl
    · rw [setStatus_of_ne _ _ hj, h.ended j o]
      exact ⟨Or.inl, fun hm => hm.resolve_right (fun he => hj he.1)⟩
  current j hj := by
    by_cases hji : j = i
    · subst hji
      simp only [finish, setStatus_self] at hj
      cases hj
    · simp only [finish, setStatus_of_ne _ _ hji] at hj
      have hstable := hP cfg.store (req j) (req i) (h.current j hj)
      rw [hx] at hstable
      exact hstable

theorem inv_step {P : Protocol σ ρ ω} (hP : Stable P) {req : ι → ρ} {s₀ : σ} {cfg : Config σ ω ι}
    (h : Inv P req s₀ cfg) (i : ι) : Inv P req s₀ (step P req cfg i) := by
  unfold step
  cases hs : cfg.status i with
  | idle =>
    cases hc : P.check cfg.store (req i) with
    | some x => exact inv_finish hP h (fun o ho => by rw [hs] at ho; cases ho) (Protocol.serve_of_check hc)
    | none =>
      refine ⟨h.serial, h.once, fun j o => ?_, fun j hj => ?_⟩
      · by_cases hji : j = i
        · subst hji
          simp only [setStatus_self]
          refine ⟨fun ho => (nomatch ho), fun hm => ?_⟩
          have ho := (h.ended j o).2 hm
          rw [hs] at ho
          cases ho
        · simp only [setStatus_of_ne _ _ hji]
          exact h.ended j o
      · by_cases hji : j = i
        · subst hji
          exact hc
        · simp only [setStatus_of_ne _ _ hji] at hj
          exact h.current j hj
  | checked =>
    exact inv_finish hP h (fun o ho => by rw [hs] at ho; cases ho) (Protocol.serve_of_go (h.current i hs))
  | done o => exact h

/-- **Every interleaving is a serial run** in the order of the last steps. -/
theorem inv_run {P : Protocol σ ρ ω} (hP : Stable P) (req : ι → ρ) {s₀ : σ} : ∀ (schedule : List ι)
    {cfg : Config σ ω ι}, Inv P req s₀ cfg → Inv P req s₀ (run P req cfg schedule)
  | [], _, h => h
  | i :: schedule, _, h => inv_run hP req schedule (inv_step hP h i)

theorem inv_reachable {P : Protocol σ ρ ω} (hP : Stable P) (req : ι → ρ) (s₀ : σ) (schedule : List ι) :
    Inv P req s₀ (run P req (start s₀) schedule) := inv_run hP req schedule (inv_start P req s₀)

end CheckAct
