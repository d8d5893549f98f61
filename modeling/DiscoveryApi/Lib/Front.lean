import DiscoveryApi.Lib.Linearize
import DiscoveryApi.Lib.Unwinding
/-!
# Front — a front end over a service

A front end refuses a request by itself, or makes one call and turns its answer into a reply.  A run of it is a run of
the calls it made, with the refusals woven in: the service's theorems about runs are theorems about the front end's.
Likewise its interleavings are linearizable where the service's are, and what leaves no trace behind the front end
leaves none before it.
-/
namespace Front

open Linearize (Prog Later Settled Pending History)

variable {σ ρ ω ρ' ω' ι : Type}

/-- The call a request makes, or the reply it is refused with; and the reply to an answer. -/
structure FrontEnd (ρ ω ρ' ω' : Type) where
  call : ρ' → Except ω' ρ
  reply : ρ' → ω → ω'

namespace FrontEnd

def serve (front : FrontEnd ρ ω ρ' ω') (service : σ → ρ → σ × ω) (s : σ) (r : ρ') : σ × ω' :=
  match front.call r with
  | .error refusal => (s, refusal)
  | .ok c => ((service s c).1, front.reply r (service s c).2)

/-- The calls of the requests that made one. -/
def calls (front : FrontEnd ρ ω ρ' ω') (rs : List ρ') : List ρ := rs.filterMap (fun r => (front.call r).toOption)

/-- The replies to the requests, given the answers to their calls. -/
def weave (front : FrontEnd ρ ω ρ' ω') : List ρ' → List ω → List ω'
  | [], _ => []
  | r :: rs, answers =>
    match front.call r, answers with
    | .error refusal, answers => refusal :: front.weave rs answers
    | .ok _, answer :: answers => front.reply r answer :: front.weave rs answers
    | .ok _, [] => []

/-- **A run of the front end is the run of its calls.** -/
theorem run_serve (front : FrontEnd ρ ω ρ' ω') (service : σ → ρ → σ × ω) : ∀ (rs : List ρ') (s : σ),
    Runs.run (front.serve service) s rs =
      ((Runs.run service s (front.calls rs)).1, front.weave rs (Runs.run service s (front.calls rs)).2)
  | [], _ => rfl
  | r :: rs, s => by
    rw [Runs.run, run_serve front service rs, calls]
    cases hr : front.call r with
    | error refusal => simp only [serve, weave, hr, List.filterMap_cons, Except.toOption, calls]
    | ok c => simp only [serve, weave, hr, List.filterMap_cons, Except.toOption, calls, Runs.run]

/-! ## Interleaved requests -/

/-- What a request does, step by step: its refusal on arrival, or its call's program with the reply at the end. -/
def program (front : FrontEnd ρ ω ρ' ω') (prog : ρ → Prog σ ω) (r : ρ') : Prog σ ω' :=
  match front.call r with
  | .error refusal => .step (fun s => s) (fun _ => .ret refusal)
  | .ok c => (prog c).map (front.reply r)

/-! ## Replies seen through a function -/

/-- The front end that answers what the function makes of the replies. -/
def map {ω'' : Type} (f : ω' → ω'') (front : FrontEnd ρ ω ρ' ω') : FrontEnd ρ ω ρ' ω'' where
  call r := (front.call r).mapError f
  reply r answer := f (front.reply r answer)

theorem serve_map {ω'' : Type} (f : ω' → ω'') (front : FrontEnd ρ ω ρ' ω') (service : σ → ρ → σ × ω) (s : σ) (r : ρ') :
    (front.map f).serve service s r = ((front.serve service s r).1, f (front.serve service s r).2) := by
  unfold serve map
  dsimp only
  cases front.call r <;> rfl

theorem program_map {ω'' : Type} (f : ω' → ω'') (front : FrontEnd ρ ω ρ' ω') (prog : ρ → Prog σ ω) (r : ρ') :
    (front.map f).program prog r = (front.program prog r).map f := by
  unfold program map
  dsimp only
  cases front.call r with
  | error refusal => rfl
  | ok c => exact (Prog.map_map _ _ _).symm

section
variable {front : FrontEnd ρ ω ρ' ω'} {service : σ → ρ → σ × ω}

/-- What requests lead to, calls lead to. -/
theorem later_service {s s' : σ} (hs : Later (front.serve service) s s') : Later service s s' := by
  obtain ⟨rs, rfl⟩ := hs
  exact ⟨front.calls rs, by rw [run_serve]⟩

theorem serve_ok {r : ρ'} {c : ρ} (hr : front.call r = .ok c) (s : σ) :
    front.serve service s r = ((service s c).1, front.reply r (service s c).2) := by
  rw [serve, hr]

/-- The reply takes effect where the call does. -/
theorem pending_map {r : ρ'} {c : ρ} (hr : front.call r = .ok c) : ∀ {p : Prog σ ω} {s : σ}, Pending service c s p →
    Pending (front.serve service) r s (p.map (front.reply r))
  | .ret _, _, h => h.elim
  | .step write next, s, h => fun s' hs => by
    rw [serve_ok hr]
    rcases h s' (later_service hs) with ⟨hwrite, hnext⟩ | ⟨hwrite, hnext⟩
    · exact Or.inl ⟨hwrite, pending_map hr hnext⟩
    · exact Or.inr ⟨hwrite, hnext.map later_service (front.reply r)⟩

theorem pending_program {prog : ρ → Prog σ ω} (hprog : ∀ c s, Pending service c s (prog c)) (r : ρ') (s : σ) :
    Pending (front.serve service) r s (front.program prog r) := by
  unfold program
  cases hr : front.call r with
  | error refusal =>
    intro s' _
    rw [serve, hr]
    exact Or.inr ⟨rfl, rfl⟩
  | ok c => exact pending_map hr (hprog c s)

/-- **A front end over a linearizable service is linearizable.** -/
theorem linearizable [DecidableEq ι] {prog : ρ → Prog σ ω} (hprog : ∀ c s, Pending service c s (prog c))
    (requests : ι → ρ') (s : σ) (schedule : List ι) :
    ∃ log, History (front.serve service) requests s ⟨s, fun i => front.program prog (requests i)⟩ schedule log :=
  Linearize.linearizable (fun i => pending_program hprog (requests i) s) schedule

/-! ## Requests left out -/

/-- **An observer of the service is an observer of the front end**: what it observes are calls the service's observer
does, and what may be left out it does not observe, and is refused or calls what may be left out. -/
theorem conditions {alike : σ → σ → Prop} {droppable : σ → ρ → Prop} {observed : ρ → Bool}
    (hc : Unwinding.Conditions service alike droppable observed) (hrefl : ∀ s, alike s s)
    {droppable' : σ → ρ' → Prop} {observed' : ρ' → Bool}
    (hobserved : ∀ {r c}, front.call r = .ok c → observed' r = true → observed c = true)
    (hunobserved : ∀ {s r}, droppable' s r → observed' r = false)
    (hdrop : ∀ {s r c}, droppable' s r → front.call r = .ok c → droppable s c) :
    Unwinding.Conditions (front.serve service) alike droppable' observed' where
  trans := hc.trans
  step {s s'} hs r := by
    cases hr : front.call r with
    | error refusal => simpa only [serve, hr] using hs
    | ok c =>
      rw [serve_ok hr, serve_ok hr]
      exact hc.step hs c
  answer {s s'} hs r ho := by
    cases hr : front.call r with
    | error refusal => simp only [serve, hr]
    | ok c => rw [serve_ok hr, serve_ok hr, hc.answer hs c (hobserved hr ho)]
  dropped {s r} hd := by
    refine ⟨?_, hunobserved hd⟩
    cases hr : front.call r with
    | error refusal => simpa only [serve, hr] using hrefl s
    | ok c =>
      rw [serve_ok hr]
      exact (hc.dropped (hdrop hd hr)).1

end

end FrontEnd
end Front
