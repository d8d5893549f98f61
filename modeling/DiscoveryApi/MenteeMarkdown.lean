import DiscoveryApi.MenteeNotes
/-!
# MenteeMarkdown — the shape of a Mentee description

Whatever the notes, the description is the header and then bullets within the limit: one a note, in their order, only
the last one cut.  `packLines_bullets` is the loop's invariant, on every list of bodies.
-/
namespace Discovery
namespace CardService

open Python (join normalize)

/-- **What the loop adds**: nothing, or a bullet for each of the first bodies, only the last of them cut. -/
theorem packLines_bullets (header : List Char) : ∀ bodies lines : List (List Char),
    packLines header lines bodies = lines ∨
      ∃ whole body rest cut, bodies = whole ++ body :: rest ∧
        packLines header lines bodies = lines ++ (whole ++ [cut]).map bullet ∧
        cut <+: body ∧ ∀ b ∈ whole ++ [cut], b ≠ []
  | [], _ => Or.inl rfl
  | body :: bodies, lines => by
    by_cases ha : available header lines ≤ 0
    · exact Or.inl (packLines_stop ha _)
    by_cases hb : body = []
    · rw [hb]
      exact Or.inl (packLines_nil header lines bodies)
    refine Or.inr ?_
    by_cases hf : body.length ≤ available header lines
    · rw [packLines_fits hb (by omega) hf]
      rcases packLines_bullets header bodies (lines ++ [bullet body]) with hp | ⟨whole, b, rest, cut, rfl, hp, hcut, hne⟩
      · refine ⟨[], body, bodies, body, rfl, hp, List.prefix_refl _, fun b hm => ?_⟩
        rw [List.mem_singleton.1 hm]
        exact hb
      · refine ⟨body :: whole, b, rest, cut, rfl, ?_, hcut, List.forall_mem_cons.2 ⟨hb, hne⟩⟩
        rw [hp, List.append_assoc]
        rfl
    · refine ⟨[], body, bodies, body.take (available header lines).toNat, rfl, packLines_cut (by omega) (by omega) _,
        List.take_prefix _ _, fun b hm => ?_⟩
      rw [List.mem_singleton.1 hm, Ne, List.take_eq_nil_iff, not_or]
      exact ⟨by omega, hb⟩

/-! ## The notes of a description -/

/-- The texts of the notes that are not empty, in order. -/
def noteTexts (notes : List Dict) : List (List Char) :=
  notes.filterMap (fun note => (noteText note).filter (fun s => decide (s ≠ [])))

theorem bodies_eq {api : ApiUtils} (hstr : ∀ s, api.str (.str s) = s) {notes : List Dict}
    (hn : ∀ n ∈ notes, NoteWf n) : notes.filterMap (noteBody api) = (noteTexts notes).map normalize := by
  rw [noteTexts, List.map_filterMap]
  exact List.filterMap_congr (fun n hmem => noteBody_eq hstr (hn n hmem))

/-- One bullet a note: the notes are the first of `texts`, each bullet a line of the note's normalised text, and only
the last may be cut. -/
def Bullets (texts : List (List Char)) (tail : List Char) : Prop :=
  ∃ whole text rest cut, texts = whole ++ text :: rest ∧ cut <+: normalize text ∧
    tail = join ['\n'] ((whole.map normalize ++ [cut]).map bullet) ∧
    ∀ body ∈ whole.map normalize ++ [cut], body ≠ [] ∧ '\n' ∉ body

/-- A description that fits the Card schema: the whole header, then the placeholder or the notes' bullets. -/
structure WellFormed (header : List Char) (texts : List (List Char)) (r : List Char) : Prop where
  fits : r.length ≤ cardDescriptionMaxLength
  shape : ∃ tail, r = header ++ tail ∧ (tail = bullet cardNotesEmpty ∨ Bullets texts tail)

theorem bullets_packLines {header : List Char} {texts : List (List Char)}
    (h : packLines header [] (texts.map normalize) ≠ []) :
    Bullets texts (join ['\n'] (packLines header [] (texts.map normalize))) := by
  rcases packLines_bullets header (texts.map normalize) [] with hp | ⟨whole, body, rest, cut, hsplit, hp, hcut, hne⟩
  · exact absurd hp h
  · obtain ⟨used, more, rfl, rfl, hmore⟩ := List.map_eq_append_iff.1 hsplit
    obtain ⟨text, rest', rfl, rfl, rfl⟩ := List.map_eq_cons_iff.1 hmore
    refine ⟨used, text, rest', cut, rfl, hcut, by rw [hp, List.nil_append], fun b hb => ⟨hne b hb, fun hnl => ?_⟩⟩
    rcases List.mem_append.1 hb with hb | hb
    · obtain ⟨s, -, rfl⟩ := List.mem_map.1 hb
      exact Python.newline_not_mem_normalize s hnl
    · rw [List.mem_singleton.1 hb] at hnl
      exact Python.newline_not_mem_normalize text (hcut.mem hnl)

/-- **The final cut removes nothing.** -/
theorem take_packLines {header : List Char} (hh : header.length ≤ 4096) (bodies : List (List Char)) :
    (header ++ join ['\n'] (packLines header [] bodies)).take cardDescriptionMaxLength =
      header ++ join ['\n'] (packLines header [] bodies) :=
  List.take_of_length_le (packLines_length header bodies [] (by simpa [join] using hh))

theorem describe_wellFormed {header : List Char} (hh : header.length ≤ 4084) (texts : List (List Char)) :
    WellFormed header texts (describe header (texts.map normalize)) := by
  have hempty : WellFormed header texts (noNotes header) := by
    refine ⟨?_, bullet cardNotesEmpty, rfl, Or.inl rfl⟩
    rw [length_noNotes, cardDescriptionMaxLength]
    omega
  rw [describe]
  split
  · exact hempty
  · dsimp only
    split
    · exact hempty
    · rename_i hne
      rw [take_packLines (by omega)]
      exact ⟨packLines_length header _ [] (by simp [join]; omega), _, rfl, Or.inr (bullets_packLines hne)⟩

/-- **A Mentee description fits and is well formed**, for every event count and every notes; the final cut removes
nothing. -/
theorem menteeDescription_wellFormed {api : ApiUtils} (h : api.Documented) {eventCount : Nat}
    (he : eventCount < 2 ^ 63) {notes : List Dict} (hn : ∀ n ∈ notes, NoteWf n) :
    WellFormed (menteeHeader eventCount) (noteTexts notes) (menteeDescription api eventCount notes).toList ∧
      ∀ bodies, (menteeHeader eventCount ++ join ['\n'] (packLines (menteeHeader eventCount) [] bodies)).take
        cardDescriptionMaxLength =
          menteeHeader eventCount ++ join ['\n'] (packLines (menteeHeader eventCount) [] bodies) := by
  have hh := length_menteeHeader he
  refine ⟨?_, take_packLines (by omega)⟩
  rw [menteeDescription, String.toList_ofList, bodies_eq h.str_str hn]
  exact describe_wellFormed (by omega) (noteTexts notes)

theorem menteeDescription_wellFormed_lines :
    WellFormed (menteeHeader 4) (noteTexts (["spoke\nabout  Lean", "", "next"].map noteWith))
      (menteeDescription reference 4 (["spoke\nabout  Lean", "", "next"].map noteWith)).toList :=
  (menteeDescription_wellFormed reference_documented (by decide) noteWith_wf).1

end CardService
end Discovery
