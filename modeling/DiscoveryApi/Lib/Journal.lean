import DiscoveryApi.Lib.Runs
/-!
# Journal — a run read back from its requests and outcomes

The journal of a run pairs each request with its outcome.  A register that every step sets or leaves, as its entry says,
ends with the last value written; a list that every step extends, as its entry says, ends with what the entries added.
-/
namespace Journal

variable {σ ρ ω α β : Type}

def journal (serve : σ → ρ → σ × ω) (s : σ) (rs : List ρ) : List (ρ × ω) := rs.zip (Runs.run serve s rs).2

theorem journal_cons (serve : σ → ρ → σ × ω) (s : σ) (r : ρ) (rs : List ρ) :
    journal serve s (r :: rs) = (r, (serve s r).2) :: journal serve (serve s r).1 rs := rfl

/-- Every entry was served in some state. -/
theorem served {serve : σ → ρ → σ × ω} : ∀ {rs : List ρ} {s : σ} {e : ρ × ω}, e ∈ journal serve s rs →
    ∃ s', (serve s' e.1).2 = e.2
  | [], _, _, h => by cases h
  | r :: rs, s, e, h => by
    rw [journal_cons] at h
    rcases List.mem_cons.1 h with rfl | h
    · exact ⟨s, rfl⟩
    · exact served h

/-- The last value the entries write. -/
def last (wrote : ρ → ω → Option β) (entries : List (ρ × ω)) : Option β :=
  entries.reverse.findSome? (fun e => wrote e.1 e.2)

theorem last_cons (wrote : ρ → ω → Option β) (e : ρ × ω) (entries : List (ρ × ω)) :
    last wrote (e :: entries) = (last wrote entries).or (wrote e.1 e.2) := by
  rw [last, List.reverse_cons, List.findSome?_append, last, List.findSome?_singleton]

theorem last_eq_none_iff {wrote : ρ → ω → Option β} {entries : List (ρ × ω)} :
    last wrote entries = none ↔ ∀ e ∈ entries, wrote e.1 e.2 = none := by
  simp only [last, List.findSome?_eq_none_iff, List.mem_reverse]

/-- **The last writer wins**: a register every step sets, or leaves, as its entry says. -/
theorem run_register {serve : σ → ρ → σ × ω} {V : σ → Option β} {wrote : ρ → ω → Option β}
    (hstep : ∀ s r, V (serve s r).1 = (wrote r (serve s r).2).or (V s)) : ∀ (rs : List ρ) (s : σ),
    V (Runs.run serve s rs).1 = (last wrote (journal serve s rs)).or (V s)
  | [], _ => rfl
  | r :: rs, s => by
    rw [Runs.run, run_register hstep rs, hstep, journal_cons, last_cons, Option.or_assoc]

/-- **Nothing is dropped**: a list every step extends by what its entry says. -/
theorem run_extended {serve : σ → ρ → σ × ω} {V : σ → List α} {added : ρ → ω → Option α}
    (hstep : ∀ s r, V (serve s r).1 = V s ++ (added r (serve s r).2).toList) : ∀ (rs : List ρ) (s : σ),
    V (Runs.run serve s rs).1 = V s ++ (journal serve s rs).filterMap (fun e => added e.1 e.2)
  | [], s => (List.append_nil (V s)).symm
  | r :: rs, s => by
    rw [Runs.run, run_extended hstep rs, hstep, journal_cons, List.filterMap_cons, List.append_assoc]
    cases added r (serve s r).2 <;> rfl

/-- **A run is what its effective requests did**: serving only the requests whose entries are kept gives the same state
and the same outcomes, when every entry that is not kept left the state as it was. -/
theorem run_kept {serve : σ → ρ → σ × ω} {kept : ρ → ω → Bool}
    (hstep : ∀ s r, kept r (serve s r).2 = false → (serve s r).1 = s) : ∀ (rs : List ρ) (s : σ),
    Runs.run serve s (((journal serve s rs).filter (fun e => kept e.1 e.2)).map Prod.fst) =
      ((Runs.run serve s rs).1, ((journal serve s rs).filter (fun e => kept e.1 e.2)).map Prod.snd)
  | [], _ => rfl
  | r :: rs, s => by
    have ih := run_kept hstep rs (serve s r).1
    rw [journal_cons, List.filter_cons]
    cases hk : kept r (serve s r).2 with
    | true =>
      simp only [if_true, List.map_cons, Runs.run, ih]
    | false =>
      simp only [Bool.false_eq_true, if_false, Runs.run]
      rw [hstep s r hk] at ih ⊢
      exact ih

end Journal
