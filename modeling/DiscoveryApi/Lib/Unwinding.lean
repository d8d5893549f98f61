import DiscoveryApi.Lib.Journal
/-!
# Unwinding — a run with some of its requests left out

An observer sees the requests it makes and their answers.  If every request keeps the states it cannot tell apart alike,
its own answers are the same in such states, and a request that may be left out changes nothing it can tell, then it
cannot tell a run from the run without them.
-/
namespace Unwinding

open Journal (journal)

variable {σ ρ ω : Type}

/-- The second list is the first without some requests, each droppable in the state it was served in. -/
inductive Purge (serve : σ → ρ → σ × ω) (droppable : σ → ρ → Prop) : σ → List ρ → List ρ → Prop
  | nil (s : σ) : Purge serve droppable s [] []
  | keep {s : σ} (r : ρ) {rs qs : List ρ} (rest : Purge serve droppable (serve s r).1 rs qs) :
      Purge serve droppable s (r :: rs) (r :: qs)
  | drop {s : σ} {r : ρ} {rs qs : List ρ} (hdrop : droppable s r) (rest : Purge serve droppable (serve s r).1 rs qs) :
      Purge serve droppable s (r :: rs) qs

/-- Requests that may be left out wherever they are served may be left out together. -/
theorem Purge.filter {serve : σ → ρ → σ × ω} {droppable : σ → ρ → Prop} {p : ρ → Bool} : ∀ {rs : List ρ},
    (∀ r ∈ rs, p r = false → ∀ s, droppable s r) → ∀ s, Purge serve droppable s rs (rs.filter p)
  | [], _, s => .nil s
  | r :: rs, hdrop, s => by
    have hrest : Purge serve droppable (serve s r).1 rs (rs.filter p) :=
      Purge.filter (fun q hq => hdrop q (List.mem_cons_of_mem r hq)) (serve s r).1
    rw [List.filter_cons]
    by_cases hr : p r = true
    · rw [if_pos hr]
      exact .keep r hrest
    · rw [if_neg hr]
      exact .drop (hdrop r List.mem_cons_self (Bool.not_eq_true _ ▸ hr) s) hrest

/-- What one step must give for an observer to whom related states look alike. -/
structure Conditions (serve : σ → ρ → σ × ω) (alike : σ → σ → Prop) (droppable : σ → ρ → Prop) (observed : ρ → Bool) :
    Prop where
  trans : ∀ {a b c}, alike a b → alike b c → alike a c
  step : ∀ {s s'}, alike s s' → ∀ r, alike (serve s r).1 (serve s' r).1
  answer : ∀ {s s'}, alike s s' → ∀ r, observed r = true → (serve s r).2 = (serve s' r).2
  dropped : ∀ {s r}, droppable s r → alike (serve s r).1 s ∧ observed r = false

/-- What the observer saw: its own requests and their answers. -/
def transcript (serve : σ → ρ → σ × ω) (observed : ρ → Bool) (s : σ) (rs : List ρ) : List (ρ × ω) :=
  (journal serve s rs).filter (fun e => observed e.1)

theorem transcript_cons (serve : σ → ρ → σ × ω) (observed : ρ → Bool) (s : σ) (r : ρ) (rs : List ρ) :
    transcript serve observed s (r :: rs) =
      (if observed r then [(r, (serve s r).2)] else []) ++ transcript serve observed (serve s r).1 rs := by
  rw [transcript, Journal.journal_cons, List.filter_cons]
  cases observed r <;> rfl

/-- **The observer cannot tell the two runs apart**, while they go on or when they end. -/
theorem Purge.alike {serve : σ → ρ → σ × ω} {alike : σ → σ → Prop} {droppable : σ → ρ → Prop} {observed : ρ → Bool}
    (hc : Conditions serve alike droppable observed) {s : σ} {rs qs : List ρ} (hp : Purge serve droppable s rs qs) :
    ∀ {s'}, alike s s' → transcript serve observed s rs = transcript serve observed s' qs ∧
      alike (Runs.run serve s rs).1 (Runs.run serve s' qs).1 := by
  induction hp with
  | nil s => exact fun hs => ⟨rfl, hs⟩
  | @keep s r rs qs _ ih =>
    intro s' hs
    obtain ⟨htranscript, hend⟩ := ih (hc.step hs r)
    refine ⟨?_, hend⟩
    rw [transcript_cons, transcript_cons, htranscript]
    cases hr : observed r with
    | false => rfl
    | true => rw [hc.answer hs r hr]
  | @drop s r rs qs hdrop _ ih =>
    intro s' hs
    obtain ⟨hsame, hr⟩ := hc.dropped hdrop
    obtain ⟨htranscript, hend⟩ := ih (hc.trans hsame hs)
    refine ⟨?_, hend⟩
    rw [transcript_cons, htranscript, hr]
    rfl

end Unwinding
