/-!
# Except — reading back a computation that returned

A computation that returned did so at every step: `ok_of_bind` and `ok_of_map` give what the step before returned.  One
that raised did so at some step (`error_of_bind`, `error_of_map`).
-/
namespace Except

variable {ε α β : Type}

theorem ok_of_bind {x : Except ε α} {f : α → Except ε β} {b : β} (h : x.bind f = .ok b) :
    ∃ a, x = .ok a ∧ f a = .ok b := by
  cases x with
  | error e => cases h
  | ok a => exact ⟨a, rfl, h⟩

theorem ok_of_map {x : Except ε α} {f : α → β} {b : β} (h : x.map f = .ok b) : ∃ a, x = .ok a ∧ f a = b := by
  cases x with
  | error e => cases h
  | ok a => exact ⟨a, rfl, Except.ok.inj h⟩

theorem error_of_bind {x : Except ε α} {f : α → Except ε β} {e : ε} (h : x.bind f = .error e) :
    x = .error e ∨ ∃ a, x = .ok a ∧ f a = .error e := by
  cases x with
  | error e' => exact Or.inl (congrArg Except.error (Except.error.inj h))
  | ok a => exact Or.inr ⟨a, rfl, h⟩

theorem error_of_map {x : Except ε α} {f : α → β} {e : ε} (h : x.map f = .error e) : x = .error e := by
  cases x with
  | error e' => exact congrArg Except.error (Except.error.inj h)
  | ok a => cases h

/-- A loop whose every step returns. -/
theorem mapM_ok {f : α → Except ε β} {g : α → β} (h : ∀ a, f a = .ok (g a)) : ∀ l : List α, l.mapM f = .ok (l.map g)
  | [] => rfl
  | a :: l => by rw [List.mapM_cons, h a, mapM_ok h l]; rfl

/-! ## Joining what several computations return -/

/-- The lists the computations return, joined in order; the first to raise raises. -/
def join (xs : List (Except ε (List α))) : Except ε (List α) := (xs.mapM id).map List.flatten

theorem join_nil : join ([] : List (Except ε (List α))) = .ok [] := rfl

theorem join_cons (x : Except ε (List α)) (xs : List (Except ε (List α))) :
    join (x :: xs) = x.bind (fun l => (join xs).map (l ++ ·)) := by
  unfold join
  rw [List.mapM_cons]
  cases x with
  | error e => rfl
  | ok l => cases xs.mapM id <;> simp [bind, Except.bind, Except.map, pure, Except.pure]

end Except
