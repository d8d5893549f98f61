import DiscoveryApi.Description
import DiscoveryApi.Reference
import Mathlib.Data.List.TakeWhile
/-!
# MenteeNotes — which notes a Mentee card shows

A note whose text is all white space passes the `if not text` test, normalises to the empty body, and ends the packing
loop: the notes after it are not on the card.
-/
namespace Discovery
namespace CardService

open Python (join normalize visible)

def noteText (note : Dict) : Option (List Char) :=
  match note.value "note" with
  | some (.str s) => some s.toList
  | _ => none

def visibleNote (note : Dict) : Bool := (noteText note).any visible

/-- A note written with white space only. -/
def blankNote (note : Dict) : Bool := (noteText note).any (fun s => decide (s ≠ []) && !visible s)

/-- The normalised texts of the notes that show something, in order. -/
def visibleTexts (notes : List Dict) : List (List Char) :=
  notes.filterMap (fun note => ((noteText note).filter visible).map normalize)

/-- A note is a document whose `note` is absent or a string. -/
def NoteWf (note : Dict) : Prop := note.value "note" = none ∨ ∃ s, note.value "note" = some (.str s)

/-! ## Bodies and visible texts -/

theorem mem_visibleTexts_ne_nil {notes : List Dict} : ∀ b ∈ visibleTexts notes, b ≠ [] := by
  intro b hb
  obtain ⟨note, -, hn⟩ := List.mem_filterMap.1 hb
  obtain ⟨s, hs, rfl⟩ := Option.map_eq_some_iff.1 hn
  have hv := (Option.filter_eq_some_iff.1 hs).2
  intro h
  rw [Python.normalize_eq_nil_iff, hv] at h
  cases h

theorem noteBody_eq {api : ApiUtils} (hstr : ∀ s, api.str (.str s) = s) {note : Dict} (hn : NoteWf note) :
    noteBody api note = ((noteText note).filter (fun s => decide (s ≠ []))).map normalize := by
  rcases hn with hn | ⟨s, hn⟩
  · simp [noteBody, noteText, hn]
  · simp only [noteBody, noteText, hn, Value.truthy, hstr, Option.filter_some, decide_eq_true_eq]
    by_cases hs : s = ""
    · subst hs
      rfl
    · have hl : s.toList ≠ [] := fun hl => hs (by rw [← String.ofList_toList (s := s), hl])
      rw [if_pos hs, if_pos hl]
      rfl

theorem visible_ne_nil {s : List Char} (h : visible s = true) : s ≠ [] := by
  rintro rfl
  cases h

theorem bodies_of_not_blank {api : ApiUtils} (hstr : ∀ s, api.str (.str s) = s) {notes : List Dict}
    (hn : ∀ n ∈ notes, NoteWf n) (hb : ∀ n ∈ notes, blankNote n = false) :
    notes.filterMap (noteBody api) = visibleTexts notes := by
  refine List.filterMap_congr (fun n hmem => ?_)
  rw [noteBody_eq hstr (hn n hmem)]
  have hblank := hb n hmem
  cases ht : noteText n with
  | none => rfl
  | some s =>
    rw [blankNote, ht] at hblank
    cases hv : visible s with
    | true => simp [Option.filter, hv, visible_ne_nil hv]
    | false =>
      have hs : s = [] := by simpa [hv] using hblank
      subst hs
      rfl

theorem noteBody_blank {api : ApiUtils} (hstr : ∀ s, api.str (.str s) = s) {note : Dict} (hn : NoteWf note)
    (hb : blankNote note = true) : noteBody api note = some [] := by
  rw [noteBody_eq hstr hn]
  cases ht : noteText note with
  | none => rw [blankNote, ht] at hb; cases hb
  | some s =>
    rw [blankNote, ht] at hb
    simp only [Option.any_some, Bool.and_eq_true, decide_eq_true_eq, Bool.not_eq_true'] at hb
    simp [Option.filter, hb.1, Python.normalize_eq_nil_iff.2 hb.2]

theorem visibleTexts_append (a b : List Dict) : visibleTexts (a ++ b) = visibleTexts a ++ visibleTexts b :=
  List.filterMap_append

theorem visibleTexts_filter (notes : List Dict) : visibleTexts (notes.filter visibleNote) = visibleTexts notes := by
  rw [visibleTexts, visibleTexts, List.filterMap_filter]
  refine List.filterMap_congr (fun n _ => ?_)
  unfold visibleNote
  cases noteText n with
  | none => rfl
  | some s => cases hv : visible s <;> simp [Option.filter, hv]

/-- The notes before the first blank one, and from it on. -/
def shown (notes : List Dict) : List Dict := notes.takeWhile (fun n => !blankNote n)
def hidden (notes : List Dict) : List Dict := notes.dropWhile (fun n => !blankNote n)

theorem shown_append_hidden (notes : List Dict) : shown notes ++ hidden notes = notes :=
  List.takeWhile_append_dropWhile

theorem visibleTexts_shown_hidden (notes : List Dict) :
    visibleTexts notes = visibleTexts (shown notes) ++ visibleTexts (hidden notes) := by
  rw [← visibleTexts_append, shown_append_hidden]

/-- **What the card describes**: the visible texts before the first blank note, and no more. -/
theorem describe_shown {api : ApiUtils} (hstr : ∀ s, api.str (.str s) = s) (header : List Char) {notes : List Dict}
    (hn : ∀ n ∈ notes, NoteWf n) :
    describe header (notes.filterMap (noteBody api)) = describe header (visibleTexts (shown notes)) := by
  have hmem : ∀ n, n ∈ shown notes ∨ n ∈ hidden notes → NoteWf n := fun n h => by
    refine hn n ?_
    rw [← shown_append_hidden notes]
    exact List.mem_append.2 h
  have hshown : (shown notes).filterMap (noteBody api) = visibleTexts (shown notes) :=
    bodies_of_not_blank hstr (fun n h => hmem n (Or.inl h)) (fun n h => by simpa using List.mem_takeWhile_imp h)
  have happ : notes.filterMap (noteBody api) =
      visibleTexts (shown notes) ++ (hidden notes).filterMap (noteBody api) := by
    rw [← hshown, ← List.filterMap_append, shown_append_hidden]
  rw [happ]
  cases hh : hidden notes with
  | nil => simp
  | cons n ns =>
    have hblank : blankNote n = true := by
      have := List.head?_dropWhile_not (fun n => !blankNote n) notes
      rw [show notes.dropWhile (fun n => !blankNote n) = n :: ns from hh] at this
      simpa using this
    rw [List.filterMap_cons, noteBody_blank hstr (hmem n (Or.inr (hh ▸ List.mem_cons_self))) hblank]
    exact describe_blank header _ _

/-! ## Lengths -/

theorem length_menteeHeader {eventCount : Nat} (h : eventCount < 2 ^ 63) : (menteeHeader eventCount).length ≤ 73 := by
  have hsum : ∀ a n b c d : List Char, a.length = 15 → n.length ≤ 19 → b.length = 20 → c.length = 2 → d.length = 17 →
      (a ++ n ++ b ++ c ++ d).length ≤ 73 := by
    intro a n b c d ha hn hb hc hd
    simp only [List.length_append]
    omega
  have hn : (toString eventCount).toList.length ≤ 19 := by
    rw [String.length_toList]
    exact (Nat.length_repr_le_iff (by decide)).2 (by omega)
  exact hsum _ _ _ _ _ (by decide) hn (by decide) (by decide) (by decide)

theorem length_fullText_lt (header : List Char) (a : List (List Char)) {b : List (List Char)} (h : b ≠ []) :
    (fullText header a).length < (fullText header (a ++ b)).length := by
  cases b with
  | nil => exact absurd rfl h
  | cons x xs =>
    have hp := (text_more header (a.map bullet ++ [bullet x]) (xs.map bullet)).length_le
    have hsplit : (a ++ x :: xs).map bullet = a.map bullet ++ [bullet x] ++ xs.map bullet := by simp
    rw [fullText, fullText, hsplit]
    rw [Python.join_append_singleton] at hp
    simp only [bullet, List.length_append] at hp ⊢
    have h2 : "- ".toList.length = 2 := rfl
    omega

theorem length_noNotes (header : List Char) : (noNotes header).length = header.length + 12 := by
  simp only [noNotes, List.length_append]
  rfl

theorem fullText_eq_noNotes {header : List Char} {bodies : List (List Char)} (hne : bodies ≠ []) :
    fullText header bodies = noNotes header ↔ bodies = [cardNotesEmpty] := by
  rw [fullText, noNotes, List.append_cancel_left_eq]
  constructor
  · intro h
    cases bodies with
    | nil => exact absurd rfl hne
    | cons b bs =>
      cases bs with
      | nil =>
        simp only [List.map_cons, List.map_nil, join, List.intercalate_singleton, bullet,
          List.append_cancel_left_eq] at h
        rw [h]
      | cons c cs =>
        rw [List.map_cons, Python.join_cons _ _ (by simp)] at h
        have hnl : '\n' ∈ bullet cardNotesEmpty := by rw [← h]; simp
        exact absurd hnl (by decide)
  · rintro rfl
    simp [join]

/-! ## The notes a card keeps -/

/-- What a Mentee card promises about its notes: the placeholder exactly when none shows anything, else a start of the
whole text, and no effect of the notes that show nothing. -/
def KeepsNotes (api : ApiUtils) (eventCount : Nat) (notes : List Dict) : Prop :=
  ((menteeDescription api eventCount notes).toList = noNotes (menteeHeader eventCount) ↔ visibleTexts notes = []) ∧
  (visibleTexts notes ≠ [] → Excerpt (menteeDescription api eventCount notes).toList
    (fullText (menteeHeader eventCount) (visibleTexts notes))) ∧
  menteeDescription api eventCount notes = menteeDescription api eventCount (notes.filter visibleNote)

/-- Nothing visible is hidden, or the text before the first blank note is already at the limit. -/
def NoneDropped (eventCount : Nat) (notes : List Dict) : Prop :=
  visibleTexts (hidden notes) = [] ∨ 4093 ≤ (fullText (menteeHeader eventCount) (visibleTexts (shown notes))).length

theorem menteeDescription_eq {api : ApiUtils} (hstr : ∀ s, api.str (.str s) = s) (eventCount : Nat) {notes : List Dict}
    (hn : ∀ n ∈ notes, NoteWf n) : (menteeDescription api eventCount notes).toList =
      describe (menteeHeader eventCount) (visibleTexts (shown notes)) := by
  rw [menteeDescription, String.toList_ofList, describe_shown hstr _ hn]

theorem menteeDescription_filter {api : ApiUtils} (hstr : ∀ s, api.str (.str s) = s) (eventCount : Nat)
    {notes : List Dict} (hn : ∀ n ∈ notes, NoteWf n) :
    (menteeDescription api eventCount (notes.filter visibleNote)).toList =
      describe (menteeHeader eventCount) (visibleTexts notes) := by
  have hb : ∀ n ∈ notes.filter visibleNote, blankNote n = false := by
    intro n hmem
    have hv := (List.mem_filter.1 hmem).2
    unfold visibleNote at hv
    unfold blankNote
    cases ht : noteText n with
    | none => rfl
    | some s =>
      rw [ht, Option.any_some] at hv
      simp [hv]
  rw [menteeDescription, String.toList_ofList,
    bodies_of_not_blank hstr (fun n h => hn n (List.mem_of_mem_filter h)) hb, visibleTexts_filter]

theorem describe_shown_eq {eventCount : Nat} (he : eventCount < 2 ^ 63) {notes : List Dict}
    (h : NoneDropped eventCount notes) : describe (menteeHeader eventCount) (visibleTexts (shown notes)) =
      describe (menteeHeader eventCount) (visibleTexts notes) := by
  have hh := length_menteeHeader he
  rw [visibleTexts_shown_hidden notes]
  rcases h with h | h
  · rw [h, List.append_nil]
  · exact (describe_full (by omega) mem_visibleTexts_ne_nil h _).symm

theorem keepsNotes_of_noneDropped {api : ApiUtils} (hstr : ∀ s, api.str (.str s) = s) {eventCount : Nat}
    (he : eventCount < 2 ^ 63) {notes : List Dict} (hn : ∀ n ∈ notes, NoteWf n) (h : NoneDropped eventCount notes)
    (hp : visibleTexts notes ≠ [cardNotesEmpty]) : KeepsNotes api eventCount notes := by
  have hh := length_menteeHeader he
  have hex : visibleTexts notes ≠ [] → Excerpt (describe (menteeHeader eventCount) (visibleTexts notes))
      (fullText (menteeHeader eventCount) (visibleTexts notes)) := describe_excerpt (by omega) mem_visibleTexts_ne_nil
  refine ⟨?_, ?_, String.toList_inj.1 ?_⟩
  · rw [menteeDescription_eq hstr eventCount hn, describe_shown_eq he h]
    refine ⟨fun heq => ?_, fun hnil => by rw [hnil]; rfl⟩
    refine by_contra fun hne => ?_
    obtain ⟨-, hfit, hlong⟩ := hex hne
    rw [heq, length_noNotes] at hlong
    rw [heq] at hfit
    exact hp ((fullText_eq_noNotes hne).1 (hfit (by omega)).symm)
  · rw [menteeDescription_eq hstr eventCount hn, describe_shown_eq he h]
    exact hex
  · rw [menteeDescription_eq hstr eventCount hn, describe_shown_eq he h, menteeDescription_filter hstr eventCount hn]

theorem noneDropped_of_keepsNotes {api : ApiUtils} (hstr : ∀ s, api.str (.str s) = s) {eventCount : Nat}
    (he : eventCount < 2 ^ 63) {notes : List Dict} (hn : ∀ n ∈ notes, NoteWf n) (h : KeepsNotes api eventCount notes) :
    NoneDropped eventCount notes := by
  have hh := length_menteeHeader he
  obtain ⟨hiff, hex, -⟩ := h
  rw [menteeDescription_eq hstr eventCount hn] at hiff hex
  refine by_contra fun hd => ?_
  obtain ⟨hhid, hshort⟩ := not_or.1 hd
  have hvis : visibleTexts notes ≠ [] := by
    rw [visibleTexts_shown_hidden notes]
    simp [hhid]
  obtain ⟨-, hfit, hlong⟩ := hex hvis
  have hlt := length_fullText_lt (menteeHeader eventCount) (visibleTexts (shown notes)) hhid
  rw [← visibleTexts_shown_hidden notes] at hlt
  by_cases hs : visibleTexts (shown notes) = []
  · rw [hs] at hiff
    exact hvis (hiff.1 rfl)
  · -- the shown text is short, so the card is that text, which the whole text exceeds
    have hdesc := (describe_excerpt (show (menteeHeader eventCount).length < 4093 by omega)
      mem_visibleTexts_ne_nil hs).2.1 (by omega)
    rw [hdesc] at hfit hlong
    by_cases hc : (fullText (menteeHeader eventCount) (visibleTexts notes)).length ≤ 4096
    · rw [← hfit hc] at hlt
      omega
    · exact hshort (hlong (by omega))

/-- **When no written note is dropped**: exactly when the notes from the first blank one on show nothing, or the text
before it is already at the limit; a single note spelling the placeholder cannot be told from none. -/
theorem keepsNotes_iff {api : ApiUtils} (h : api.Documented) {eventCount : Nat} (he : eventCount < 2 ^ 63)
    {notes : List Dict} (hn : ∀ n ∈ notes, NoteWf n) :
    KeepsNotes api eventCount notes ↔ NoneDropped eventCount notes ∧ visibleTexts notes ≠ [cardNotesEmpty] := by
  refine ⟨fun hk => ⟨noneDropped_of_keepsNotes h.str_str he hn hk, fun hp => ?_⟩,
    fun hd => keepsNotes_of_noneDropped h.str_str he hn hd.1 hd.2⟩
  have hh := length_menteeHeader he
  obtain ⟨hiff, hex, -⟩ := hk
  have hfull : fullText (menteeHeader eventCount) (visibleTexts notes) = noNotes (menteeHeader eventCount) :=
    (fullText_eq_noNotes (by rw [hp]; exact List.cons_ne_nil _ _)).2 hp
  have hfit := (hex (by rw [hp]; exact List.cons_ne_nil _ _)).2.1
  rw [hfull, length_noNotes] at hfit
  have hnil := hiff.1 (hfit (by omega))
  rw [hp] at hnil
  cases hnil

def noteWith (text : String) : Dict := fun k => if k = "note" then some (.str text) else none

theorem noteWith_wf {texts : List String} : ∀ n ∈ texts.map noteWith, NoteWf n := by
  intro n hn
  obtain ⟨text, -, rfl⟩ := List.mem_map.1 hn
  exact Or.inr ⟨text, rfl⟩

theorem keepsNotes_blank_between : KeepsNotes reference 4 (["spoke  today", "\n", "next"].map noteWith) ↔
    NoneDropped 4 (["spoke  today", "\n", "next"].map noteWith) ∧
      visibleTexts (["spoke  today", "\n", "next"].map noteWith) ≠ [cardNotesEmpty] :=
  keepsNotes_iff reference_documented (by decide) noteWith_wf

/-- **A note typed as spaces hides the next one**: the card says there are no notes. -/
theorem blank_note_hides_next : ¬ KeepsNotes reference 0 (["   ", "Great progress"].map noteWith) := by
  rintro ⟨hiff, -, -⟩
  have hnotes : visibleTexts (["   ", "Great progress"].map noteWith) = ["Great progress".toList] := by decide
  have hdesc : (menteeDescription reference 0 (["   ", "Great progress"].map noteWith)).toList =
      noNotes (menteeHeader 0) := by
    rw [menteeDescription_eq reference_documented.str_str 0 noteWith_wf]
    rfl
  rw [hnotes] at hiff
  exact absurd (hiff.1 hdesc) (by decide)

end CardService
end Discovery
