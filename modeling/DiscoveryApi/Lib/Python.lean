import Mathlib.Algebra.GroupWithZero.Nat
import Mathlib.Data.List.DropRight
import DiscoveryApi.Lib.Window
/-!
# Python — slicing, `str.split` and `str.join`

Text is the list of its characters.  `split` keeps the maximal runs of characters that are not white space, so what it
joins back is empty exactly when the text shows nothing.
-/
namespace Python

/-! ## Slices -/

/-- A slice bound: from the end when negative, and never outside. -/
def bound (len : Nat) (i : Int) : Nat := if i < 0 then (i + len).toNat else min i.toNat len

/-- `xs[i:j]` -/
def sliced {α : Type} (xs : List α) (i j : Int) : List α :=
  (xs.drop (bound xs.length i)).take (bound xs.length j - bound xs.length i)

theorem bound_natCast (len a : Nat) : bound len a = min a len := by
  rw [bound, if_neg (by omega), Int.toNat_natCast]

theorem sliced_eq_slice {α : Type} (xs : List α) (a b : Nat) : sliced xs a (a + b : Nat) = Window.slice a b xs := by
  rw [sliced, bound_natCast, bound_natCast, Window.slice]
  by_cases h : xs.length ≤ a
  · have ha : min a xs.length = xs.length := Nat.min_eq_right h
    rw [ha, List.drop_length, List.drop_of_length_le h, List.take_nil, List.take_nil]
  · have ha : min a xs.length = a := by omega
    rw [ha]
    by_cases hl : a + b ≤ xs.length
    · have hab : min (a + b) xs.length - a = b := by omega
      rw [hab]
    · have hab : min (a + b) xs.length - a = (xs.drop a).length := by rw [List.length_drop]; omega
      rw [hab, List.take_length, List.take_of_length_le]
      rw [List.length_drop]
      omega

theorem mem_of_mem_sliced {α : Type} {xs : List α} {i j : Int} {x : α} (h : x ∈ sliced xs i j) : x ∈ xs :=
  List.mem_of_mem_drop (List.mem_of_mem_take h)

/-! ## White space -/

/-- `str.isspace` of one character. -/
def isSpace (c : Char) : Bool :=
  let n := c.toNat
  decide (9 ≤ n ∧ n ≤ 13 ∨ 28 ≤ n ∧ n ≤ 32 ∨ n = 0x85 ∨ n = 0xA0 ∨ n = 0x1680 ∨ 0x2000 ≤ n ∧ n ≤ 0x200A ∨
    n = 0x2028 ∨ n = 0x2029 ∨ n = 0x202F ∨ n = 0x205F ∨ n = 0x3000)

def visible (s : List Char) : Bool := s.any (fun c => !isSpace c)

/-- `s.split()`, `word` being the run read so far. -/
def splitFrom (word : List Char) : List Char → List (List Char)
  | [] => if word = [] then [] else [word]
  | c :: s =>
    if isSpace c then (if word = [] then splitFrom [] s else word :: splitFrom [] s)
    else splitFrom (word ++ [c]) s

def split (s : List Char) : List (List Char) := splitFrom [] s

theorem splitFrom_ne_nil : ∀ {s word : List Char}, word ≠ [] → splitFrom word s ≠ []
  | [], word, h => by simp [splitFrom, h]
  | c :: s, word, h => by
    rw [splitFrom]
    split
    · exact List.cons_ne_nil _ _
    · exact splitFrom_ne_nil (by simp)

theorem split_eq_nil_iff : ∀ {s : List Char}, split s = [] ↔ visible s = false
  | [] => by simp [split, splitFrom, visible]
  | c :: s => by
    have ih := split_eq_nil_iff (s := s)
    rw [split] at ih
    rw [split, splitFrom, visible, List.any_cons]
    cases hc : isSpace c with
    | true => simpa [visible] using ih
    | false => simpa using splitFrom_ne_nil (s := s) (List.cons_ne_nil c [])

theorem mem_splitFrom_ne_nil : ∀ {s word w : List Char}, w ∈ splitFrom word s → w ≠ []
  | [], word, w, h => by
    rw [splitFrom] at h
    split at h
    · cases h
    · rename_i hw
      rw [List.mem_singleton.1 h]
      exact hw
  | c :: s, word, w, h => by
    rw [splitFrom] at h
    split at h
    · split at h
      · exact mem_splitFrom_ne_nil h
      · rename_i hw
        rcases List.mem_cons.1 h with rfl | h
        · exact hw
        · exact mem_splitFrom_ne_nil h
    · exact mem_splitFrom_ne_nil h

theorem mem_splitFrom_visible : ∀ {s word w : List Char}, (∀ c ∈ word, isSpace c = false) → w ∈ splitFrom word s →
    ∀ c ∈ w, isSpace c = false
  | [], word, w, hword, h => by
    rw [splitFrom] at h
    split at h
    · cases h
    · rw [List.mem_singleton.1 h]
      exact hword
  | c :: s, word, w, hword, h => by
    rw [splitFrom] at h
    split at h
    · split at h
      · exact mem_splitFrom_visible (fun _ hc => absurd hc List.not_mem_nil) h
      · rcases List.mem_cons.1 h with rfl | h
        · exact hword
        · exact mem_splitFrom_visible (fun _ hc => absurd hc List.not_mem_nil) h
    · rename_i hc
      refine mem_splitFrom_visible (fun x hx => ?_) h
      rcases List.mem_append.1 hx with hx | hx
      · exact hword x hx
      · rw [List.mem_singleton.1 hx]
        exact Bool.eq_false_iff.2 hc

/-! ## Stripping, and the items of a separated list -/

/-- `s.strip()` -/
def strip (s : List Char) : List Char := (s.dropWhile isSpace).rdropWhile isSpace

theorem visible_strip {s : List Char} (h : strip s ≠ []) : visible (strip s) = true := by
  refine List.any_eq_true.2 ⟨(strip s).getLast h, List.getLast_mem h, ?_⟩
  rw [Bool.not_eq_true', Bool.eq_false_iff]
  exact List.rdropWhile_last_not isSpace (s.dropWhile isSpace) h

/-- The parts of `s.split(sep)`, stripped, without the empty ones. -/
def items (sep : Char) (s : List Char) : List (List Char) :=
  ((s.splitOn sep).map strip).filter (fun item => decide (item ≠ []))

theorem visible_of_mem_items {sep : Char} {s item : List Char} (h : item ∈ items sep s) : visible item = true := by
  obtain ⟨hmem, hne⟩ := List.mem_filter.1 h
  obtain ⟨part, -, rfl⟩ := List.mem_map.1 hmem
  exact visible_strip (of_decide_eq_true hne)

/-! ## Joining -/

/-- `sep.join(ls)` -/
def join (sep : List Char) (ls : List (List Char)) : List Char := sep.intercalate ls

theorem join_cons (sep l : List Char) {ls : List (List Char)} (h : ls ≠ []) :
    join sep (l :: ls) = l ++ sep ++ join sep ls := by
  cases ls with
  | nil => exact absurd rfl h
  | cons m ms => simp [join, List.intercalate_cons_cons]

theorem join_append_singleton (sep l : List Char) : ∀ ls : List (List Char),
    join sep (ls ++ [l]) = join sep ls ++ (if ls.isEmpty then [] else sep) ++ l
  | [] => by simp [join]
  | m :: ms => by
    rw [List.cons_append, join_cons sep m (by simp), join_append_singleton sep l ms]
    cases ms with
    | nil => simp [join]
    | cons k ks => rw [join_cons sep m (List.cons_ne_nil k ks)]; simp

theorem join_more (sep : List Char) (ls : List (List Char)) : ∀ ms : List (List Char),
    ∃ t, join sep (ls ++ ms) = join sep ls ++ t
  | [] => ⟨[], by simp⟩
  | m :: ms => by
    obtain ⟨t, ht⟩ := join_more sep (ls ++ [m]) ms
    rw [List.append_assoc, List.singleton_append] at ht
    rw [ht, join_append_singleton, List.append_assoc, List.append_assoc]
    exact ⟨_, rfl⟩

theorem join_eq_nil {sep : List Char} {ls : List (List Char)} (h : join sep ls = []) : ∀ l ∈ ls, l = [] := by
  intro l hl
  obtain ⟨a, b, rfl⟩ := List.append_of_mem hl
  obtain ⟨t, ht⟩ := join_more sep (a ++ [l]) b
  rw [List.append_assoc, List.singleton_append, h, join_append_singleton] at ht
  simp only [List.nil_eq, List.append_eq_nil_iff] at ht
  exact ht.1.2

theorem length_join (sep : List Char) : ∀ {ls : List (List Char)}, ls ≠ [] →
    (join sep ls).length + sep.length = (ls.map (fun l => l.length + sep.length)).sum
  | [], h => absurd rfl h
  | [l], _ => by simp [join]
  | l :: m :: ms, _ => by
    have ih := length_join sep (List.cons_ne_nil m ms)
    rw [join_cons sep l (List.cons_ne_nil m ms), List.map_cons, List.sum_cons, ← ih]
    simp only [List.length_append]
    omega

/-- A part more makes the joined text longer by its separator at least. -/
theorem length_join_insert (sep l : List Char) {a b : List (List Char)} (h : a ++ b ≠ []) :
    (join sep (a ++ l :: b)).length = (join sep (a ++ b)).length + sep.length + l.length := by
  have hmore := length_join sep (show a ++ l :: b ≠ [] by simp)
  have hless := length_join sep h
  simp only [List.map_append, List.map_cons, List.sum_append, List.sum_cons] at hmore hless
  omega

theorem mem_join {sep : List Char} {c : Char} : ∀ {ls : List (List Char)}, c ∈ join sep ls → c ∈ sep ∨ ∃ l ∈ ls, c ∈ l
  | [], h => absurd h (by simp [join])
  | [l], h => Or.inr ⟨l, List.mem_singleton_self l, by simpa [join] using h⟩
  | l :: m :: ms, h => by
    rw [join_cons sep l (List.cons_ne_nil m ms), List.mem_append, List.mem_append] at h
    rcases h with (h | h) | h
    · exact Or.inr ⟨l, List.mem_cons_self, h⟩
    · exact Or.inl h
    · rcases mem_join h with h | ⟨x, hx, hc⟩
      · exact Or.inl h
      · exact Or.inr ⟨x, List.mem_cons_of_mem _ hx, hc⟩

/-- `" ".join(s.split())` -/
def normalize (s : List Char) : List Char := join [' '] (split s)

/-- **Normalising keeps what shows**: the result is empty exactly for text that shows nothing. -/
theorem normalize_eq_nil_iff {s : List Char} : normalize s = [] ↔ visible s = false := by
  rw [← split_eq_nil_iff]
  constructor
  · intro h
    cases hs : split s with
    | nil => rfl
    | cons w ws =>
      have hw : w ∈ split s := hs ▸ List.mem_cons_self
      exact absurd (join_eq_nil h w hw) (mem_splitFrom_ne_nil hw)
  · intro h
    rw [normalize, h]
    rfl

/-- Normalised text is one line: its only white space is the blank between two words. -/
theorem mem_normalize {s : List Char} {c : Char} (h : c ∈ normalize s) (hc : isSpace c = true) : c = ' ' := by
  rcases mem_join h with h | ⟨w, hw, hcw⟩
  · exact List.mem_singleton.1 h
  · rw [mem_splitFrom_visible (fun _ hx => absurd hx List.not_mem_nil) hw c hcw] at hc
    cases hc

theorem newline_not_mem_normalize (s : List Char) : '\n' ∉ normalize s :=
  fun h => absurd (mem_normalize h (by decide)) (by decide)

end Python
