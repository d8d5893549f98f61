import DiscoveryApi.Lib.Runs
/-!
# Linearize — requests of many steps that take effect at one of them

A request is a program of atomic steps on a shared state.  If every program has, whatever is served between its steps,
one step at which it does what serving its request there does, and writes at no other (`Pending`), then every
interleaving of any number of programs is a serial run of their requests in the order of those steps.
-/
namespace Linearize

variable {σ ρ ω ι : Type}

/-- A program: it ends with an outcome, or writes and goes on, both by the state its step finds. -/
inductive Prog (σ ω : Type) where
  | ret (outcome : ω)
  | step (write : σ → σ) (next : σ → Prog σ ω)

/-! ## Later states -/

/-- Requests served from the first state on may lead to the second. -/
def Later (serve : σ → ρ → σ × ω) (s s' : σ) : Prop := ∃ rs, (Runs.run serve s rs).1 = s'

theorem Later.refl {serve : σ → ρ → σ × ω} (s : σ) : Later serve s s := ⟨[], rfl⟩

theorem Later.trans {serve : σ → ρ → σ × ω} (a b c : σ) (hab : Later serve a b) (hbc : Later serve b c) :
    Later serve a c := by
  obtain ⟨rs, rfl⟩ := hab
  obtain ⟨qs, rfl⟩ := hbc
  exact ⟨rs ++ qs, by rw [Runs.run_append]⟩

theorem Later.serve {serve : σ → ρ → σ × ω} (s : σ) (r : ρ) : Later serve s (serve s r).1 := ⟨[r], rfl⟩

/-- A reflexive and transitive relation every request keeps holds of every later state. -/
theorem Later.rel {serve : σ → ρ → σ × ω} {R : σ → σ → Prop} (hrefl : ∀ s, R s s)
    (htrans : ∀ {a b c}, R a b → R b c → R a c) (hstep : ∀ s r, R s (serve s r).1) {s s' : σ}
    (h : Later serve s s') : R s s' := by
  obtain ⟨rs, rfl⟩ := h
  exact Runs.run_rel hrefl htrans hstep rs s

/-! ## When a program takes effect -/

/-- The program writes nothing more and ends with the outcome, however the state moves along `R` between its steps. -/
def Settled (R : σ → σ → Prop) (o : ω) : σ → Prog σ ω → Prop
  | _, .ret o' => o' = o
  | s, .step write next => ∀ s', R s s' → write s' = s' ∧ Settled R o s' (next s')

/-- The program has not taken effect: its next step writes nothing and leaves it so, or does what serving the request
now does and settles it. -/
def Pending (serve : σ → ρ → σ × ω) (r : ρ) : σ → Prog σ ω → Prop
  | _, .ret _ => False
  | s, .step write next => ∀ s', Later serve s s' → write s' = s' ∧ Pending serve r s' (next s') ∨
      write s' = (serve s' r).1 ∧ Settled (Later serve) (serve s' r).2 (write s') (next s')

theorem Settled.later {R : σ → σ → Prop} (htrans : ∀ a b c, R a b → R b c → R a c) {o : ω} {s s' : σ}
    {p : Prog σ ω} (h : Settled R o s p) (hs : R s s') : Settled R o s' p := by
  cases p with
  | ret o' => exact h
  | step write next => exact fun s'' hs' => h s'' (htrans _ _ _ hs hs')

theorem Pending.later {serve : σ → ρ → σ × ω} {r : ρ} {s s' : σ} {p : Prog σ ω} (h : Pending serve r s p)
    (hs : Later serve s s') : Pending serve r s' p := by
  cases p with
  | ret o' => exact h
  | step write next => exact fun s'' hs' => h s'' (Later.trans _ _ _ hs hs')

/-! ## One program after another -/

namespace Prog

variable {α β γ : Type}

def bind : Prog σ α → (α → Prog σ β) → Prog σ β
  | .ret outcome, k => k outcome
  | .step write next, k => .step write (fun s => (next s).bind k)

instance : Monad (Prog σ) where
  pure := .ret
  bind := bind

/-- The outcome seen through a function. -/
def map (f : α → β) : Prog σ α → Prog σ β
  | .ret outcome => .ret (f outcome)
  | .step write next => .step write (fun s => (next s).map f)

theorem map_map (f : α → β) (g : β → γ) : ∀ p : Prog σ α, (p.map f).map g = p.map (fun a => g (f a))
  | .ret _ => rfl
  | .step write next => congrArg (Prog.step write) (funext fun s => map_map f g (next s))

/-- What only changes the outcome takes no step of its own. -/
theorem bind_pure_eq_map (f : α → β) : ∀ p : Prog σ α, (p >>= fun a => pure (f a)) = p.map f
  | .ret _ => rfl
  | .step write next => congrArg (Prog.step write) (funext fun s => bind_pure_eq_map f (next s))

end Prog

/-- A program settled along a relation is so along a narrower one, and its outcome settled through any function. -/
theorem Settled.map {ω' : Type} {R R' : σ → σ → Prop} (hR : ∀ {s s'}, R' s s' → R s s') (f : ω → ω') {o : ω} :
    ∀ {p : Prog σ ω} {s : σ}, Settled R o s p → Settled R' (f o) s (p.map f)
  | .ret _, _, h => congrArg f h
  | .step _ _, _, h => fun s' hs => ⟨(h s' (hR hs)).1, (h s' (hR hs)).2.map hR f⟩

/-! ## Interleavings -/

/-- The shared state, and what is left of each program. -/
structure Config (σ ω ι : Type) where
  store : σ
  prog : ι → Prog σ ω

variable [DecidableEq ι]

def Config.set (cfg : Config σ ω ι) (s : σ) (i : ι) (p : Prog σ ω) : Config σ ω ι :=
  ⟨s, fun j => if j = i then p else cfg.prog j⟩

theorem Config.set_self (cfg : Config σ ω ι) (s : σ) (i : ι) (p : Prog σ ω) : (cfg.set s i p).prog i = p := if_pos rfl

theorem Config.set_of_ne (cfg : Config σ ω ι) (s : σ) {i j : ι} (p : Prog σ ω) (h : j ≠ i) :
    (cfg.set s i p).prog j = cfg.prog j := if_neg h

def step (cfg : Config σ ω ι) (i : ι) : Config σ ω ι :=
  match cfg.prog i with
  | .ret _ => cfg
  | .step write next => cfg.set (write cfg.store) i (next cfg.store)

theorem step_ret {cfg : Config σ ω ι} {i : ι} {o : ω} (h : cfg.prog i = .ret o) : step cfg i = cfg := by
  rw [step, h]

theorem step_step {cfg : Config σ ω ι} {i : ι} {write : σ → σ} {next : σ → Prog σ ω}
    (h : cfg.prog i = .step write next) : step cfg i = cfg.set (write cfg.store) i (next cfg.store) := by
  rw [step, h]

/-- A schedule names the program that steps next. -/
def run (cfg : Config σ ω ι) (schedule : List ι) : Config σ ω ι := schedule.foldl step cfg

/-- **A log of the requests that took effect**, in order: it runs serially to the store and the outcomes, and every
program that ended did with the outcome logged. -/
structure Linearizes (serve : σ → ρ → σ × ω) (req : ι → ρ) (s₀ : σ) (cfg : Config σ ω ι) (log : List (ι × ω)) :
    Prop where
  serial : Runs.run serve s₀ (log.map (fun p => req p.1)) = (cfg.store, log.map Prod.snd)
  once : (log.map Prod.fst).Nodup
  ended : ∀ i o, cfg.prog i = .ret o → (i, o) ∈ log

/-! ## The log of a schedule -/

/-- What the invariant says of one program, given what the log has of it. -/
structure Inv (serve : σ → ρ → σ × ω) (req : ι → ρ) (s₀ : σ) (cfg : Config σ ω ι) (log : List (ι × ω)) : Prop where
  serial : Runs.run serve s₀ (log.map (fun p => req p.1)) = (cfg.store, log.map Prod.snd)
  once : (log.map Prod.fst).Nodup
  pending : ∀ i, i ∉ log.map Prod.fst → Pending serve (req i) cfg.store (cfg.prog i)
  settled : ∀ i o, (i, o) ∈ log → Settled (Later serve) o cfg.store (cfg.prog i)

theorem Inv.linearizes {serve : σ → ρ → σ × ω} {req : ι → ρ} {s₀ : σ} {cfg : Config σ ω ι} {log : List (ι × ω)}
    (h : Inv serve req s₀ cfg log) : Linearizes serve req s₀ cfg log where
  serial := h.serial
  once := h.once
  ended i o hret := by
    by_cases hi : i ∈ log.map Prod.fst
    · obtain ⟨⟨j, o'⟩, hmem, rfl⟩ := List.mem_map.1 hi
      have hsettled := h.settled j o' hmem
      rw [hret] at hsettled
      obtain rfl : o = o' := hsettled
      exact hmem
    · have hpending := h.pending i hi
      rw [hret] at hpending
      exact hpending.elim

/-- A step that writes nothing, and leaves its own program as the log has it. -/
theorem Inv.keep {serve : σ → ρ → σ × ω} {req : ι → ρ} {s₀ : σ} {cfg : Config σ ω ι} {log : List (ι × ω)}
    (h : Inv serve req s₀ cfg log) {i : ι} {p : Prog σ ω}
    (hpending : i ∉ log.map Prod.fst → Pending serve (req i) cfg.store p)
    (hsettled : ∀ o, (i, o) ∈ log → Settled (Later serve) o cfg.store p) :
    Inv serve req s₀ (cfg.set cfg.store i p) log where
  serial := h.serial
  once := h.once
  pending j hj := by
    by_cases hji : j = i
    · subst hji
      rw [Config.set_self]
      exact hpending hj
    · rw [Config.set_of_ne _ _ _ hji]
      exact h.pending j hj
  settled j o hj := by
    by_cases hji : j = i
    · subst hji
      rw [Config.set_self]
      exact hsettled o hj
    · rw [Config.set_of_ne _ _ _ hji]
      exact h.settled j o hj

/-- The step at which a program takes effect puts its request at the end of the log. -/
theorem Inv.commit {serve : σ → ρ → σ × ω} {req : ι → ρ} {s₀ : σ} {cfg : Config σ ω ι} {log : List (ι × ω)}
    (h : Inv serve req s₀ cfg log) {i : ι} (hi : i ∉ log.map Prod.fst) {p : Prog σ ω}
    (hsettled : Settled (Later serve) (serve cfg.store (req i)).2 (serve cfg.store (req i)).1 p) :
    Inv serve req s₀ (cfg.set (serve cfg.store (req i)).1 i p)
      (log ++ [(i, (serve cfg.store (req i)).2)]) where
  serial := by
    simp only [List.map_append, List.map_cons, List.map_nil]
    rw [Runs.run_append, h.serial]
    rfl
  once := by
    simp only [List.map_append, List.map_cons, List.map_nil]
    refine List.nodup_append.2 ⟨h.once, List.pairwise_singleton _ _, fun a ha b hb hab => hi ?_⟩
    rw [← List.mem_singleton.1 hb, ← hab]
    exact ha
  pending j hj := by
    simp only [List.map_append, List.map_cons, List.map_nil, List.mem_append, List.mem_singleton, not_or] at hj
    rw [Config.set_of_ne _ _ _ hj.2]
    exact (h.pending j hj.1).later (Later.serve _ _)
  settled j o hj := by
    rcases List.mem_append.1 hj with hj | hj
    · have hji : j ≠ i := fun hji => hi (hji ▸ List.mem_map_of_mem (f := Prod.fst) hj)
      rw [Config.set_of_ne _ _ _ hji]
      exact (h.settled j o hj).later Later.trans (Later.serve _ _)
    · rw [List.mem_singleton, Prod.mk.injEq] at hj
      rw [hj.1, hj.2, Config.set_self]
      exact hsettled

/-- **One step**: the log stays as it is, or takes the request that stepped. -/
theorem Inv.step {serve : σ → ρ → σ × ω} {req : ι → ρ} {s₀ : σ} {cfg : Config σ ω ι} {log : List (ι × ω)}
    (h : Inv serve req s₀ cfg log) (i : ι) :
    ∃ more : List (ι × ω), Inv serve req s₀ (step cfg i) (log ++ more) ∧ ∀ e ∈ more, e.1 = i := by
  cases hp : cfg.prog i with
  | ret o => exact ⟨[], by rw [step_ret hp, List.append_nil]; exact h, fun _ he => absurd he List.not_mem_nil⟩
  | step write next =>
    rw [step_step hp]
    by_cases hi : i ∈ log.map Prod.fst
    · obtain ⟨⟨j, o⟩, hmem, rfl⟩ := List.mem_map.1 hi
      have hsettled := fun o hj => h.settled j o hj
      rw [hp] at hsettled
      have hwrite := (hsettled o hmem cfg.store (Later.refl _)).1
      refine ⟨[], ?_, fun _ he => absurd he List.not_mem_nil⟩
      rw [List.append_nil, hwrite]
      exact h.keep (fun hj => absurd hi hj) (fun o' hj => (hsettled o' hj cfg.store (Later.refl _)).2)
    · have hpending := h.pending i hi
      rw [hp] at hpending
      rcases hpending cfg.store (Later.refl _) with ⟨hwrite, hnext⟩ | ⟨hwrite, hnext⟩
      · refine ⟨[], ?_, fun _ he => absurd he List.not_mem_nil⟩
        rw [List.append_nil, hwrite]
        exact h.keep (fun _ => hnext) (fun o hj => absurd (List.mem_map_of_mem (f := Prod.fst) hj) hi)
      · refine ⟨[(i, (serve cfg.store (req i)).2)], ?_, fun e he => by rw [List.mem_singleton.1 he]⟩
        rw [hwrite] at hnext ⊢
        exact h.commit hi hnext

/-- **A log of a whole schedule**: cut it anywhere, and what it has of the part before is a log of that part, of
programs that stepped there; the rest is of programs that stepped after. -/
def History (serve : σ → ρ → σ × ω) (req : ι → ρ) (s₀ : σ) (cfg : Config σ ω ι) (schedule : List ι)
    (log : List (ι × ω)) : Prop :=
  ∀ pre post, schedule = pre ++ post → ∃ done later, log = done ++ later ∧
    Linearizes serve req s₀ (run cfg pre) done ∧ (∀ e ∈ done, e.1 ∈ pre) ∧ ∀ e ∈ later, e.1 ∈ post

/-- The whole schedule is a part of itself: all of the log is of programs that took effect in it. -/
theorem History.whole {serve : σ → ρ → σ × ω} {req : ι → ρ} {s₀ : σ} {cfg : Config σ ω ι} {schedule : List ι}
    {log : List (ι × ω)} (h : History serve req s₀ cfg schedule log) :
    Linearizes serve req s₀ (Linearize.run cfg schedule) log := by
  obtain ⟨done, later, rfl, hlinear, -, hlater⟩ := h schedule [] (List.append_nil schedule).symm
  obtain rfl : later = [] := List.eq_nil_iff_forall_not_mem.2 (fun e he => List.not_mem_nil (hlater e he))
  rwa [List.append_nil]

/-- What a schedule adds to the log, wherever the schedule is cut. -/
theorem Inv.run {serve : σ → ρ → σ × ω} {req : ι → ρ} {s₀ : σ} : ∀ (schedule : List ι) {cfg : Config σ ω ι}
    {log : List (ι × ω)}, Inv serve req s₀ cfg log → ∃ more : List (ι × ω), (∀ e ∈ more, e.1 ∈ schedule) ∧
      ∀ pre post, schedule = pre ++ post → ∃ done later, more = done ++ later ∧
        Inv serve req s₀ (Linearize.run cfg pre) (log ++ done) ∧ (∀ e ∈ done, e.1 ∈ pre) ∧ ∀ e ∈ later, e.1 ∈ post
  | [], cfg, log, h => by
    have hnone : ∀ {l : List ι} {e : ι × ω}, e ∈ ([] : List (ι × ω)) → e.1 ∈ l := fun he => absurd he List.not_mem_nil
    refine ⟨[], fun _ => hnone, fun pre post hs => ⟨[], [], rfl, ?_, fun _ => hnone, fun _ => hnone⟩⟩
    obtain ⟨rfl, -⟩ := List.nil_eq_append_iff.1 hs
    rw [List.append_nil]
    exact h
  | i :: schedule, cfg, log, h => by
    obtain ⟨first, hfirst, hi⟩ := h.step i
    obtain ⟨more, hmore, hcut⟩ := hfirst.run schedule
    have hmem : ∀ e ∈ first ++ more, e.1 ∈ i :: schedule := fun e he => by
      rcases List.mem_append.1 he with he | he
      · exact hi e he ▸ List.mem_cons_self
      · exact List.mem_cons_of_mem i (hmore e he)
    refine ⟨first ++ more, hmem, fun pre post hs => ?_⟩
    rcases List.cons_eq_append_iff.1 hs with ⟨rfl, rfl⟩ | ⟨pre', rfl, hs'⟩
    · exact ⟨[], first ++ more, rfl, by rw [List.append_nil]; exact h, fun _ he => absurd he List.not_mem_nil, hmem⟩
    · obtain ⟨done, later, rfl, hinv, hdone, hlater⟩ := hcut pre' post hs'
      refine ⟨first ++ done, later, (List.append_assoc _ _ _).symm, ?_, fun e he => ?_, hlater⟩
      · rw [← List.append_assoc]
        exact hinv
      · rcases List.mem_append.1 he with he | he
        · exact hi e he ▸ List.mem_cons_self
        · exact List.mem_cons_of_mem i (hdone e he)

/-- **Every interleaving is linearizable.** -/
theorem linearizable {serve : σ → ρ → σ × ω} {req : ι → ρ} {s₀ : σ} {prog : ρ → Prog σ ω}
    (hprog : ∀ i, Pending serve (req i) s₀ (prog (req i))) (schedule : List ι) :
    ∃ log, History serve req s₀ ⟨s₀, fun i => prog (req i)⟩ schedule log := by
  have hstart : Inv serve req s₀ ⟨s₀, fun i => prog (req i)⟩ ([] : List (ι × ω)) :=
    ⟨rfl, List.nodup_nil, fun i _ => hprog i, fun _ _ hi => absurd hi List.not_mem_nil⟩
  obtain ⟨log, -, hcut⟩ := hstart.run schedule
  refine ⟨log, fun pre post hs => ?_⟩
  obtain ⟨done, later, hlog, hinv, hdone, hlater⟩ := hcut pre post hs
  exact ⟨done, later, hlog, hinv.linearizes, hdone, hlater⟩

/-! ## Programs that only read -/

/-- A program that may raise; an error ends every program it is part of. -/
def Proc (σ ε α : Type) : Type := Prog σ (Except ε α)

namespace Proc

variable {ε α β : Type}

def bind : Proc σ ε α → (α → Proc σ ε β) → Proc σ ε β
  | .ret (.error e), _ => .ret (.error e)
  | .ret (.ok a), k => k a
  | .step write next, k => .step write (fun s => bind (next s) k)

instance : Monad (Proc σ ε) where
  pure a := .ret (.ok a)
  bind := bind

/-- A value computed without a step. -/
def ofExcept (x : Except ε α) : Proc σ ε α := .ret x

/-- One read of the state. -/
def query (x : σ → Except ε α) : Proc σ ε α := .step (fun s => s) (fun s => .ret (x s))

def forEach (f : α → Proc σ ε β) : List α → Proc σ ε (List β)
  | [] => pure []
  | a :: l => do
    let b ← f a
    let bs ← forEach f l
    pure (b :: bs)

/-- The program computes a value that does not move along `R`, and writes nothing. -/
def Reads (R : σ → σ → Prop) (p : Proc σ ε α) (x : σ → Except ε α) : Prop := ∀ s, Settled R (x s) s p

section
variable {R : σ → σ → Prop} (htrans : ∀ a b c, R a b → R b c → R a c)
include htrans

theorem settled_bind {o : Except ε α} {o' : Except ε β} {k : α → Proc σ ε β} : ∀ {p : Proc σ ε α} {s : σ},
    Settled R o s p → (∀ e, o = .error e → o' = .error e) → (∀ a, o = .ok a → Settled R o' s (k a)) →
    Settled R o' s (bind p k)
  | .ret (.error e), _, hp, herr, _ => (herr e hp.symm).symm
  | .ret (.ok a), _, hp, _, hok => hok a hp.symm
  | .step _ _, _, hp, herr, hok => fun s' hs =>
    ⟨(hp s' hs).1, settled_bind (hp s' hs).2 herr (fun a ha => (hok a ha).later htrans hs)⟩

theorem Reads.bind {p : Proc σ ε α} {x : σ → Except ε α} {k : α → Proc σ ε β} {y : α → σ → Except ε β}
    (hp : Reads R p x) (hk : ∀ a, Reads R (k a) (y a)) :
    Reads R (p >>= k) (fun s => x s >>= fun a => y a s) := by
  intro s
  refine settled_bind htrans (hp s) (fun e he => ?_) (fun a ha => ?_)
  · simp only [he]
    rfl
  · simp only [ha]
    exact hk a s

theorem Reads.forEach {f : α → Proc σ ε β} {y : α → σ → Except ε β} (hf : ∀ a, Reads R (f a) (y a)) :
    ∀ l : List α, Reads R (forEach f l) (fun s => l.mapM (fun a => y a s))
  | [] => fun _ => rfl
  | a :: l => by
    simp only [List.mapM_cons]
    exact (hf a).bind htrans (fun b => (Reads.forEach hf l).bind htrans (fun _ _ => rfl))

end

theorem Reads.ofExcept {R : σ → σ → Prop} (x : Except ε α) : Reads R (ofExcept x) (fun _ => x) := fun _ => rfl

theorem Reads.query {R : σ → σ → Prop} {x : σ → Except ε α} (hx : ∀ {s s'}, R s s' → x s' = x s) :
    Reads R (query x) x := fun _ _ hs => ⟨rfl, hx hs⟩

end Proc

end Linearize
