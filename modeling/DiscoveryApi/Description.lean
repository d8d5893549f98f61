import DiscoveryApi.Card
import DiscoveryApi.Lib.Python
/-!
# Description — the Markdown of Member and Mentee cards

The loop of `_mentee_description` packs one bullet a note until the Card description limit is reached, cutting the
last one to fit.  Text is a list of characters here; `available` is Python's, and may be negative.
-/
namespace Discovery

open Python (join normalize)

def cardActivityWindowDays : Nat := 30
def cardDescriptionMaxLength : Nat := 4096
def cardNotesEmpty : List Char := "*No notes*".toList

/-- The dict `resource_counts_for_profile` returns. -/
structure ResourceCounts where
  library : Nat
  now : Nat
  next : Nat
deriving DecidableEq

namespace CardService

def memberDescription (counts : ResourceCounts) (eventCount : Nat) : String :=
  "**Progress**\n" ++
  "- Library: " ++ toString counts.library ++ "\n" ++
  "- Now: " ++ toString counts.now ++ "\n" ++
  "- Next: " ++ toString counts.next ++ "\n" ++
  "\n" ++
  "**Activity**\n" ++
  "- " ++ toString eventCount ++ " events in the last " ++ toString cardActivityWindowDays ++ " days"

/-! ## The packing loop -/

def menteeHeader (eventCount : Nat) : List Char :=
  "**Activity**\n- ".toList ++ (toString eventCount).toList ++ " events in the last ".toList ++
    (toString cardActivityWindowDays).toList ++ " days\n\n**Notes**\n".toList

/-- What one note adds to `bodies`: nothing when its text is absent or empty. -/
def noteBody (api : ApiUtils) (note : Dict) : Option (List Char) :=
  match note.value "note" with
  | none => none
  | some text => if text.truthy then some (normalize (api.str text).toList) else none

def bullet (body : List Char) : List Char := "- ".toList ++ body

def joiner (lines : List (List Char)) : List Char := if lines.isEmpty then [] else ['\n']

def available (header : List Char) (lines : List (List Char)) : Int :=
  cardDescriptionMaxLength - header.length - (join ['\n'] lines).length - (joiner lines).length - "- ".toList.length

/-- `lines` after the loop over `bodies`. -/
def packLines (header : List Char) : List (List Char) → List (List Char) → List (List Char)
  | lines, [] => lines
  | lines, body :: bodies =>
    if available header lines ≤ 0 then lines
    else
      let body := if available header lines < body.length then body.take (available header lines).toNat else body
      if body = [] then lines else packLines header (lines ++ [bullet body]) bodies

def noNotes (header : List Char) : List Char := header ++ bullet cardNotesEmpty

/-- `_mentee_description` from `bodies` on. -/
def describe (header : List Char) (bodies : List (List Char)) : List Char :=
  if bodies = [] then noNotes header
  else
    let lines := packLines header [] bodies
    if lines = [] then noNotes header else (header ++ join ['\n'] lines).take cardDescriptionMaxLength

def menteeDescription (api : ApiUtils) (eventCount : Nat) (notes : List Dict) : String :=
  String.ofList (describe (menteeHeader eventCount) (notes.filterMap (noteBody api)))

/-! ## What the loop keeps -/

/-- The header and every bullet, without a limit. -/
def fullText (header : List Char) (bodies : List (List Char)) : List Char :=
  header ++ join ['\n'] (bodies.map bullet)

/-- A start of the text: all of it within the limit, all but three characters of the limit otherwise. -/
def Excerpt (r full : List Char) : Prop :=
  r <+: full ∧ (full.length ≤ 4096 → r = full) ∧ (4096 < full.length → 4093 ≤ r.length)

theorem length_append_line (header : List Char) (lines : List (List Char)) (body : List Char) :
    ((header ++ join ['\n'] (lines ++ [bullet body])).length : Int) = 4096 - available header lines + body.length := by
  rw [Python.join_append_singleton]
  simp only [available, joiner, bullet, cardDescriptionMaxLength, List.length_append]
  omega

theorem length_text (header : List Char) (lines : List (List Char)) :
    ((header ++ join ['\n'] lines).length : Int) = 4096 - available header lines - (joiner lines).length - 2 := by
  simp only [available, cardDescriptionMaxLength, List.length_append]
  have h : "- ".toList.length = 2 := rfl
  omega

theorem length_joiner_le (lines : List (List Char)) : (joiner lines).length ≤ 1 := by
  unfold joiner
  split <;> simp

theorem length_joiner_append (lines : List (List Char)) (l : List Char) : (joiner (lines ++ [l])).length = 1 := by
  simp [joiner]

theorem text_more (header : List Char) (lines more : List (List Char)) :
    header ++ join ['\n'] lines <+: header ++ join ['\n'] (lines ++ more) := by
  obtain ⟨t, ht⟩ := Python.join_more ['\n'] lines more
  exact ⟨t, by rw [ht, List.append_assoc]⟩

theorem packLines_stop {header : List Char} {lines : List (List Char)} (h : available header lines ≤ 0) :
    ∀ bodies, packLines header lines bodies = lines
  | [] => rfl
  | body :: bodies => by rw [packLines, if_pos h]

theorem packLines_fits {header : List Char} {lines : List (List Char)} {body : List Char} (hb : body ≠ [])
    (h : 0 < available header lines) (hf : body.length ≤ available header lines) (bodies : List (List Char)) :
    packLines header lines (body :: bodies) = packLines header (lines ++ [bullet body]) bodies := by
  rw [packLines, if_neg (by omega)]
  simp only [if_neg (show ¬ available header lines < body.length by omega), if_neg hb]

theorem packLines_cut {header : List Char} {lines : List (List Char)} {body : List Char}
    (h : 0 < available header lines) (hf : available header lines < body.length) (bodies : List (List Char)) :
    packLines header lines (body :: bodies) = lines ++ [bullet (body.take (available header lines).toNat)] := by
  have hne : body.take (available header lines).toNat ≠ [] := by
    rw [Ne, List.take_eq_nil_iff, not_or]
    refine ⟨by omega, fun hb => ?_⟩
    rw [hb, List.length_nil] at hf
    omega
  rw [packLines, if_neg (by omega)]
  simp only [if_pos hf, if_neg hne]
  refine packLines_stop ?_ _
  have hl := length_append_line header lines (body.take (available header lines).toNat)
  have ht := length_text header (lines ++ [bullet (body.take (available header lines).toNat)])
  rw [length_joiner_append] at ht
  rw [List.length_take] at hl
  omega

theorem packLines_nil (header : List Char) (lines bodies : List (List Char)) :
    packLines header lines ([] :: bodies) = lines := by
  rw [packLines]
  split
  · rfl
  · simp

/-- **The loop never goes past the limit**, whatever the bodies. -/
theorem packLines_length (header : List Char) : ∀ (bodies lines : List (List Char)),
    (header ++ join ['\n'] lines).length ≤ 4096 →
    (header ++ join ['\n'] (packLines header lines bodies)).length ≤ 4096
  | [], _, hl => hl
  | body :: bodies, lines, hl => by
    by_cases ha : available header lines ≤ 0
    · rw [packLines_stop ha]
      exact hl
    · by_cases hb : body = []
      · rw [hb, packLines_nil]
        exact hl
      · by_cases hf : body.length ≤ available header lines
        · have hline := length_append_line header lines body
          rw [packLines_fits hb (by omega) hf]
          exact packLines_length header bodies _ (by omega)
        · have hcut := length_append_line header lines (body.take (available header lines).toNat)
          rw [List.length_take] at hcut
          rw [packLines_cut (by omega) (by omega)]
          omega

/-- **What the loop packs**: with a text in every body, a start of the whole text. -/
theorem packLines_excerpt (header : List Char) : ∀ (bodies lines : List (List Char)), (∀ b ∈ bodies, b ≠ []) →
    (header ++ join ['\n'] lines).length ≤ 4096 →
    Excerpt (header ++ join ['\n'] (packLines header lines bodies))
      (header ++ join ['\n'] (lines ++ bodies.map bullet))
  | [], lines, _, hl => by
    rw [packLines, List.map_nil, List.append_nil]
    exact ⟨List.prefix_refl _, fun _ => rfl, fun h => absurd h (Nat.not_lt.2 hl)⟩
  | body :: bodies, lines, hb, hl => by
    have hne : body ≠ [] := hb body List.mem_cons_self
    have hpos : 0 < body.length := List.length_pos_of_ne_nil hne
    have hsplit : lines ++ (body :: bodies).map bullet = (lines ++ [bullet body]) ++ bodies.map bullet := by simp
    have hline := length_append_line header lines body
    have hlong := (text_more header (lines ++ [bullet body]) (bodies.map bullet)).length_le
    rw [hsplit]
    by_cases ha : available header lines ≤ 0
    · -- no room is left: at most the separator and the mark are missing to the limit
      rw [packLines_stop ha]
      refine ⟨?_, fun h => ?_, fun _ => ?_⟩
      · rw [List.append_assoc]
        exact text_more header lines _
      · omega
      · have ht := length_text header lines
        have hj := length_joiner_le lines
        omega
    · by_cases hf : body.length ≤ available header lines
      · rw [packLines_fits hne (by omega) hf]
        exact packLines_excerpt header bodies _ (fun b h => hb b (List.mem_cons_of_mem _ h)) (by omega)
      · rw [packLines_cut (by omega) (by omega)]
        have hcut := length_append_line header lines (body.take (available header lines).toNat)
        rw [List.length_take] at hcut
        refine ⟨?_, fun h => ?_, fun _ => ?_⟩
        · refine List.IsPrefix.trans ?_ (text_more header (lines ++ [bullet body]) _)
          rw [Python.join_append_singleton, Python.join_append_singleton]
          exact (List.prefix_append_right_inj _).2 ((List.prefix_append_right_inj _).2
            ((List.prefix_append_right_inj _).2 (List.take_prefix _ _)))
        · omega
        · omega

theorem packLines_blank (header : List Char) (more : List (List Char)) : ∀ bodies lines : List (List Char),
    packLines header lines (bodies ++ [] :: more) = packLines header lines bodies
  | [], lines => by
    have hnil : packLines header lines [] = lines := rfl
    rw [List.nil_append, hnil, packLines]
    split
    · rfl
    · simp
  | body :: bodies, lines => by
    rw [List.cons_append, packLines, packLines]
    simp only [packLines_blank header more bodies]

theorem packLines_full {header : List Char} (hh : header.length < 4093) (more : List (List Char)) :
    ∀ bodies lines : List (List Char), (∀ b ∈ bodies, b ≠ []) →
    4093 ≤ (header ++ join ['\n'] (lines ++ bodies.map bullet)).length →
    packLines header lines (bodies ++ more) = packLines header lines bodies
  | [], lines, _, h => by
    rw [List.map_nil, List.append_nil] at h
    refine packLines_stop ?_ more
    have ht := length_text header lines
    cases lines with
    | nil => simp [join] at h; omega
    | cons l ls =>
      simp only [joiner, List.isEmpty_cons, Bool.false_eq_true, if_false, List.length_singleton] at ht
      omega
  | body :: bodies, lines, hb, h => by
    have hne : body ≠ [] := hb body List.mem_cons_self
    rw [List.cons_append]
    by_cases ha : available header lines ≤ 0
    · rw [packLines_stop ha, packLines_stop ha]
    · by_cases hf : body.length ≤ available header lines
      · rw [packLines_fits hne (by omega) hf, packLines_fits hne (by omega) hf]
        refine packLines_full hh more bodies _ (fun b hm => hb b (List.mem_cons_of_mem _ hm)) ?_
        rw [List.append_assoc]
        exact h
      · rw [packLines_cut (by omega) (by omega), packLines_cut (by omega) (by omega)]

/-! ## The described text -/

theorem bullets_eq_nil {bodies : List (List Char)} (h : join ['\n'] (bodies.map bullet) = []) : bodies = [] := by
  cases bodies with
  | nil => rfl
  | cons b bs =>
    have hb := Python.join_eq_nil h (bullet b) (List.mem_map_of_mem List.mem_cons_self)
    cases hb

theorem length_fullText_pos (header : List Char) {bodies : List (List Char)} (h : bodies ≠ []) :
    header.length < (fullText header bodies).length := by
  rw [fullText, List.length_append]
  have hne : join ['\n'] (bodies.map bullet) ≠ [] := fun hn => h (bullets_eq_nil hn)
  have := List.length_pos_of_ne_nil hne
  omega

theorem packLines_ne_nil {header : List Char} (hh : header.length < 4093) {bodies : List (List Char)}
    (hb : ∀ b ∈ bodies, b ≠ []) (h : bodies ≠ []) : packLines header [] bodies ≠ [] := by
  intro hn
  have hl : (header ++ join ['\n'] []).length ≤ 4096 := by simp [join]; omega
  obtain ⟨-, hfit, hlong⟩ := packLines_excerpt header bodies [] hb hl
  have hfull := length_fullText_pos header h
  rw [hn] at hfit hlong
  simp only [List.nil_append, join, List.intercalate_nil, List.append_nil] at hfit hlong
  rw [fullText, join] at hfull
  by_cases hc : (header ++ ['\n'].intercalate (bodies.map bullet)).length ≤ 4096
  · rw [← hfit hc] at hfull
    omega
  · exact absurd (hlong (by omega)) (by omega)

theorem describe_eq_packLines {header : List Char} (hh : header.length < 4093) {bodies : List (List Char)}
    (hb : ∀ b ∈ bodies, b ≠ []) (h : bodies ≠ []) :
    describe header bodies = header ++ join ['\n'] (packLines header [] bodies) := by
  have hl : (header ++ join ['\n'] []).length ≤ 4096 := by simp [join]; omega
  rw [describe, if_neg h]
  simp only [if_neg (packLines_ne_nil hh hb h)]
  exact List.take_of_length_le (packLines_length header bodies [] hl)

/-- **Texts in every body**: the description is a start of the whole text. -/
theorem describe_excerpt {header : List Char} (hh : header.length < 4093) {bodies : List (List Char)}
    (hb : ∀ b ∈ bodies, b ≠ []) (h : bodies ≠ []) : Excerpt (describe header bodies) (fullText header bodies) := by
  have hl : (header ++ join ['\n'] []).length ≤ 4096 := by simp [join]; omega
  rw [describe_eq_packLines hh hb h]
  exact packLines_excerpt header bodies [] hb hl

theorem describe_blank (header : List Char) (bodies more : List (List Char)) :
    describe header (bodies ++ [] :: more) = describe header bodies := by
  rw [describe, if_neg (by simp), packLines_blank]
  cases bodies with
  | nil => rfl
  | cons b bs => rw [describe, if_neg (List.cons_ne_nil b bs)]

theorem describe_full {header : List Char} (hh : header.length < 4093) {bodies : List (List Char)}
    (hb : ∀ b ∈ bodies, b ≠ []) (h : 4093 ≤ (fullText header bodies).length) (more : List (List Char)) :
    describe header (bodies ++ more) = describe header bodies := by
  have hne : bodies ≠ [] := by
    rintro rfl
    simp [fullText, join] at h
    omega
  rw [describe, if_neg (by simp [hne]), packLines_full hh more bodies [] hb h, describe, if_neg hne]

end CardService
end Discovery
