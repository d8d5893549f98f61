/-!
# Runs — requests served one at a time

`serve` takes a state and a request to the next state and an outcome; a run serves a list of requests in order.  What
every request keeps, a run keeps.
-/
namespace Runs

variable {σ ρ ω : Type}

def run (serve : σ → ρ → σ × ω) : σ → List ρ → σ × List ω
  | s, [] => (s, [])
  | s, r :: rs => ((run serve (serve s r).1 rs).1, (serve s r).2 :: (run serve (serve s r).1 rs).2)

theorem run_append (serve : σ → ρ → σ × ω) : ∀ (rs qs : List ρ) (s : σ),
    run serve s (rs ++ qs) =
      ((run serve (run serve s rs).1 qs).1, (run serve s rs).2 ++ (run serve (run serve s rs).1 qs).2)
  | [], _, _ => rfl
  | r :: rs, qs, s => by
    rw [List.cons_append, run, run_append serve rs qs]
    rfl

/-- **What one request relates, a run relates**: a reflexive and transitive relation every step keeps. -/
theorem run_rel {serve : σ → ρ → σ × ω} {R : σ → σ → Prop} (hrefl : ∀ s, R s s)
    (htrans : ∀ {a b c}, R a b → R b c → R a c) (hstep : ∀ s r, R s (serve s r).1) :
    ∀ (rs : List ρ) (s : σ), R s (run serve s rs).1
  | [], s => hrefl s
  | r :: rs, s => htrans (hstep s r) (run_rel hrefl htrans hstep rs (serve s r).1)

/-- **What an outcome establishes, the end of the run has**, when every request keeps it. -/
theorem run_established {serve : σ → ρ → σ × ω} {P : σ → Prop} (hkeep : ∀ s r, P s → P (serve s r).1) {r : ρ} {o : ω}
    (hestablish : ∀ s, (serve s r).2 = o → P (serve s r).1) :
    ∀ (rs : List ρ) (s : σ), (r, o) ∈ rs.zip (run serve s rs).2 → P (run serve s rs).1
  | [], _, h => by cases h
  | q :: rs, s, h => by
    rw [run, List.zip_cons_cons, List.mem_cons, Prod.mk.injEq] at h
    rcases h with ⟨rfl, rfl⟩ | h
    · exact run_rel (R := fun s s' => P s → P s') (fun _ hs => hs) (fun hab hbc hs => hbc (hab hs)) hkeep rs _
        (hestablish s rfl)
    · exact run_established hkeep hestablish rs _ h

/-- Two requests that commute on the state may be exchanged in the middle of a run. -/
theorem run_swap {serve : σ → ρ → σ × ω} {r q : ρ} (h : ∀ s, (serve (serve s r).1 q).1 = (serve (serve s q).1 r).1)
    (before after : List ρ) (s : σ) :
    (run serve s (before ++ r :: q :: after)).1 = (run serve s (before ++ q :: r :: after)).1 := by
  rw [run_append, run_append]
  simp only [run]
  rw [h]

end Runs
