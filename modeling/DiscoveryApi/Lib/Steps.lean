/-!
# Steps — calls in order, up to the first that raises

A step takes a state to the next state and an outcome; a step that raises leaves a state too, and ends the run.
-/
namespace Steps

variable {σ α ε : Type} {step : σ → α → σ × Except ε Unit}

def run (step : σ → α → σ × Except ε Unit) : σ → List α → σ × Except ε Unit
  | s, [] => (s, .ok ())
  | s, a :: as =>
    match step s a with
    | (s', .ok _) => run step s' as
    | (s', .error e) => (s', .error e)

/-- What every step keeps, a run keeps, also one that raises. -/
theorem run_keeps {P : σ → Prop} (hstep : ∀ s a, P s → P (step s a).1) : ∀ (as : List α) (s : σ), P s → P (run step s as).1
  | [], _, hs => hs
  | a :: as, s, hs => by
    have ha := hstep s a hs
    rw [run]
    split
    · rename_i s' _ heq
      rw [heq] at ha
      exact run_keeps hstep as s' ha
    · rename_i s' e heq
      rw [heq] at ha
      exact ha

theorem run_append : ∀ (as bs : List α) (s : σ), run step s (as ++ bs) =
    match run step s as with
    | (s', .ok _) => run step s' bs
    | (s', .error e) => (s', .error e)
  | [], _, _ => rfl
  | a :: as, bs, s => by
    rw [List.cons_append, run, run]
    rcases step s a with ⟨s', e | ⟨⟩⟩
    · rfl
    · exact run_append as bs s'

/-- **A run seen through a view** of the state is the run of the steps the view sees, when every other step returns and
leaves the view as it is. -/
theorem run_view {τ : Type} {V : σ → τ} {seen : τ → α → τ × Except ε Unit} {keep : α → Bool} {P : σ → Prop}
    (hkeep : ∀ s a, P s → P (step s a).1)
    (hseen : ∀ s a, P s → keep a = true → (V (step s a).1, (step s a).2) = seen (V s) a)
    (hskip : ∀ s a, P s → keep a = false → (V (step s a).1, (step s a).2) = (V s, .ok ())) :
    ∀ (as : List α) (s : σ), P s →
      (V (run step s as).1, (run step s as).2) = run seen (V s) (as.filter keep)
  | [], _, _ => rfl
  | a :: as, s, hs => by
    have hnext := hkeep s a hs
    cases hk : keep a with
    | true =>
      have ha := hseen s a hs hk
      rw [List.filter_cons_of_pos hk, run, run, ← ha]
      rcases hstep : step s a with ⟨s', e | ⟨⟩⟩
      · rfl
      · rw [hstep] at hnext
        exact run_view hkeep hseen hskip as s' hnext
    | false =>
      have ha := hskip s a hs hk
      rw [List.filter_cons_of_neg (by rw [hk]; decide), run]
      rcases hstep : step s a with ⟨s', e | ⟨⟩⟩
      · rw [hstep] at ha
        cases (Prod.mk.inj ha).2
      · rw [hstep] at ha hnext
        rw [← (Prod.mk.inj ha).1]
        exact run_view hkeep hseen hskip as s' hnext

/-- **What the steps that return do, a run that returns does in order.** -/
theorem run_ok {P : σ → Prop} (hkeep : ∀ s a, P s → P (step s a).1) {g : σ → α → σ}
    (hstep : ∀ {s a s'}, P s → step s a = (s', .ok ()) → s' = g s a) :
    ∀ {as : List α} {s s' : σ}, P s → run step s as = (s', .ok ()) → s' = as.foldl g s
  | [], _, _, _, h => (Prod.mk.inj h).1.symm
  | a :: as, s, s', hs, h => by
    have ha := hkeep s a hs
    rw [run] at h
    split at h
    · rename_i s₁ _ heq
      rw [heq] at ha
      rw [List.foldl_cons, ← hstep hs heq]
      exact run_ok hkeep hstep ha h
    · cases (Prod.mk.inj h).2

/-- **A run that raised stopped at one step**: those before it returned. -/
theorem run_error : ∀ {as : List α} {s s' : σ} {e : ε}, run step s as = (s', .error e) →
    ∃ done a rest s₁, as = done ++ a :: rest ∧ run step s done = (s₁, .ok ()) ∧ step s₁ a = (s', .error e)
  | [], _, _, _, h => by cases (Prod.mk.inj h).2
  | a :: as, s, s', e, h => by
    rw [run] at h
    split at h
    · rename_i s₁ _ heq
      obtain ⟨done, b, rest, s₂, has, hdone, hb⟩ := run_error h
      refine ⟨a :: done, b, rest, s₂, by rw [has]; rfl, ?_, hb⟩
      rw [run, heq]
      exact hdone
    · rename_i s₁ e₁ heq
      obtain ⟨rfl, he⟩ := Prod.mk.inj h
      cases he
      exact ⟨[], a, as, s, rfl, rfl, heq⟩

end Steps
