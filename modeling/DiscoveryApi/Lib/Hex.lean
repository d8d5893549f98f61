/-!
# Hex — nibbles and their spellings

`encode` writes nibbles as lower-case digits, `decode` reads them in either letter case.  `decode_encode` is the round
trip, and `eq_encode_iff` says which spelling of a value the writer produces: the one without an upper-case digit.
-/
namespace Hex

def digit (n : Fin 16) : Char :=
  match n.val with
  | 0 => '0' | 1 => '1' | 2 => '2' | 3 => '3' | 4 => '4' | 5 => '5' | 6 => '6' | 7 => '7'
  | 8 => '8' | 9 => '9' | 10 => 'a' | 11 => 'b' | 12 => 'c' | 13 => 'd' | 14 => 'e' | _ => 'f'

def value : Char → Option (Fin 16)
  | '0' => some 0 | '1' => some 1 | '2' => some 2 | '3' => some 3 | '4' => some 4
  | '5' => some 5 | '6' => some 6 | '7' => some 7 | '8' => some 8 | '9' => some 9
  | 'a' => some 10 | 'b' => some 11 | 'c' => some 12 | 'd' => some 13 | 'e' => some 14 | 'f' => some 15
  | 'A' => some 10 | 'B' => some 11 | 'C' => some 12 | 'D' => some 13 | 'E' => some 14 | 'F' => some 15
  | _ => none

def isUpper (c : Char) : Bool := ['A', 'B', 'C', 'D', 'E', 'F'].contains c

theorem value_digit : ∀ n : Fin 16, value (digit n) = some n := by decide

theorem isUpper_digit : ∀ n : Fin 16, isUpper (digit n) = false := by decide

/-- A digit read as `n` is the one written for `n`, unless it is upper-case. -/
theorem eq_digit_of_value {c : Char} {n : Fin 16} (h : value c = some n) (hc : isUpper c = false) : c = digit n := by
  unfold value at h
  split at h <;> first
    | (cases h; rfl)
    | (cases h; cases hc)
    | cases h

def encode (ns : List (Fin 16)) : List Char := ns.map digit

def decode : List Char → Option (List (Fin 16))
  | [] => some []
  | c :: cs =>
    match value c, decode cs with
    | some n, some ns => some (n :: ns)
    | _, _ => none

theorem decode_encode : ∀ ns : List (Fin 16), decode (encode ns) = some ns
  | [] => rfl
  | n :: ns => by
    have ih := decode_encode ns
    simp only [encode] at ih
    simp only [encode, List.map_cons, decode, value_digit, ih]

theorem decode_cons {c : Char} {cs : List Char} {ns : List (Fin 16)} (h : decode (c :: cs) = some ns) :
    ∃ m ms, value c = some m ∧ decode cs = some ms ∧ ns = m :: ms := by
  simp only [decode] at h
  split at h
  · rename_i m ms hm hms
    exact ⟨m, ms, hm, hms, (Option.some.inj h).symm⟩
  · cases h

theorem length_decode : ∀ {cs : List Char} {ns : List (Fin 16)}, decode cs = some ns → ns.length = cs.length
  | [], _, h => by cases h; rfl
  | c :: cs, _, h => by
    obtain ⟨m, ms, -, hms, rfl⟩ := decode_cons h
    simp [length_decode hms]

/-- **Of the spellings of one value, the writer's is the one without an upper-case digit.** -/
theorem eq_encode_iff : ∀ {cs : List Char} {ns : List (Fin 16)}, decode cs = some ns →
    (cs = encode ns ↔ ∀ c ∈ cs, isUpper c = false)
  | [], _, h => by cases h; simp [encode]
  | c :: cs, _, h => by
    obtain ⟨m, ms, hm, hms, rfl⟩ := decode_cons h
    have ih := eq_encode_iff hms
    simp only [encode] at ih
    simp only [encode, List.map_cons, List.cons.injEq, ih, List.forall_mem_cons]
    refine and_congr_left (fun _ => ⟨fun hc => ?_, fun hc => eq_digit_of_value hm hc⟩)
    rw [hc]; exact isUpper_digit m

end Hex
