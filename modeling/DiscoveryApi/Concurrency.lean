import DiscoveryApi.Lib.Linearize
import DiscoveryApi.Interleaving
import DiscoveryApi.NotificationFilters
/-!
# Concurrency — reads beside creates and control requests, query by query

A home read takes many queries, one collection each, with no snapshot around them; a control request reads in one step
and writes in the next.  Only the Notification collection is written, and a home read queries it once, so every call
takes effect at one of its steps (`program_pending`) and every interleaving is a serial run of whole calls.
-/
namespace Discovery
namespace Concurrency

open Linearize (Prog Proc Later Settled Pending History)
open NotificationService (readForControl operationOf control Outcome)
open CardService

/-! ## Calls -/

/-- A call of the API: a create or control request, a home page, a page of the Notification card list. -/
inductive Call where
  | notification (request : NotificationService.Request)
  | home (token : Token) (now offset size : Int)
  | list (token : Token) (request : Discovery.Request)

inductive Answer where
  | document (d : Option Document)
  | cards (cards : List Card)

/-- A call served at one moment. -/
def serve (api : ApiUtils) (lists : ListUtils) (s : Store) : Call → Store × Except HTTPError Answer
  | .notification r =>
    ({ s with notifications := (NotificationService.serve api s.notifications r).1 },
      (NotificationService.serve api s.notifications r).2.map .document)
  | .home token now offset size => (s, (getHomeCards api s token now offset size).map .cards)
  | .list token request => (s, (CardRoutes.getNotificationCards api lists s.notifications token request).result.map .cards)

/-! ## Their queries -/

def notificationProc (api : ApiUtils) (token : Token) (sectionSize : Int) : Proc Store HTTPError (List Card) :=
  match truthyClaim token.profileId with
  | none => pure []
  | some profileId => do
    let notifications ← Proc.query (fun s => NotificationService.getActiveNotifications api s.notifications token 0
      sectionSize (some [("profile_id", .str profileId)]))
    Proc.ofExcept (projectAll api cardTypeNotifications notifications (some token))

def customerProc (api : ApiUtils) (token : Token) : Proc Store HTTPError (List Card) :=
  if token.has .customer && (truthyClaim token.customerId).isSome then
    Proc.query (fun s => (customerHomeCard api s token).map Option.toList)
  else pure []

def memberCardProc (api : ApiUtils) (token : Token) (now : Int) (member : Document) : Proc Store HTTPError Card := do
  let source := member.dict
  let profileId := source.value "_id"
  let counts ← Proc.query (fun s => JourneyService.resourceCountsForProfile api s.journeys profileId)
  let eventCount ← Proc.query (fun s =>
    EventService.recentEventCountForProfile api s.events profileId now cardActivityWindowDays)
  let source := source.set "description" (.str (memberDescription counts eventCount))
  Proc.ofExcept (project api cardTypeMembers (some source) (some token))

def menteeCardProc (api : ApiUtils) (token : Token) (now : Int) (mentee : Document) : Proc Store HTTPError Card := do
  let source := mentee.dict
  let profileId := source.value "_id"
  let eventCount ← Proc.query (fun s =>
    EventService.recentEventCountForProfile api s.events profileId now cardActivityWindowDays)
  let notes ← Proc.query (fun s => NoteService.notesForProfile api s.notes profileId token)
  let source := source.set "description" (.str (menteeDescription api eventCount (notes.map Document.dict)))
  Proc.ofExcept (project api cardTypeMentees (some source) (some token))

def memberProc (api : ApiUtils) (token : Token) (now sectionSize : Int) : Proc Store HTTPError (List Card) :=
  if (truthyClaim token.customerId).isSome && isMemberReader token then do
    let members ← Proc.query (fun s =>
      ProfileService.getMemberProfiles api s.profiles token 0 sectionSize none (some (savedDesc api)))
    Proc.forEach (memberCardProc api token now) members
  else pure []

def menteeProc (api : ApiUtils) (token : Token) (now sectionSize : Int) : Proc Store HTTPError (List Card) :=
  if token.has .mentor && (mentorScopeId token).isSome then do
    let mentees ← Proc.query (fun s =>
      ProfileService.getMenteeProfiles api s.profiles token 0 sectionSize none (some (savedDesc api)))
    Proc.forEach (menteeCardProc api token now) mentees
  else pure []

/-- The queries of a home page after the Notification section's. -/
def otherSections (api : ApiUtils) (token : Token) (now offset size : Int) (notifications : List Card) :
    Proc Store HTTPError (List Card) := do
  let sectionSize := min (offset + size) maxSize
  let customer ← customerProc api token
  let members ← memberProc api token now sectionSize
  let mentees ← menteeProc api token now sectionSize
  let cards := notifications ++ adminSection token ++ customer ++ members ++ mentees ++ journeySection token
  pure (Python.sliced cards offset (offset + size))

/-- `get_home_cards`, a query a step. -/
def homeProc (api : ApiUtils) (token : Token) (now offset size : Int) : Proc Store HTTPError (List Card) := do
  Proc.ofExcept (api.validatePagination offset size)
  let notifications ← notificationProc api token (min (offset + size) maxSize)
  otherSections api token now offset size notifications

/-- What a call does, step by step; the first step of a read is its arrival.  A create is taken as one access: the shared
service does it. -/
def program (api : ApiUtils) (lists : ListUtils) : Call → Prog Store (Except HTTPError Answer)
  | .notification (.create body token b) =>
    .step (fun s => (serve api lists s (.notification (.create body token b))).1)
      (fun s => .ret (serve api lists s (.notification (.create body token b))).2)
  | .notification (.control f id token b) =>
    .step (fun s => s) (fun s =>
      match readForControl api s.notifications id token (operationOf f) with
      | .error e => .ret (.error e)
      | .ok () =>
        .step (fun s => { s with notifications := (api.updateDocument s.notifications id [(f.name, b)]).1 })
          (fun s => .ret (.ok (.document (api.updateDocument s.notifications id [(f.name, b)]).2))))
  | .home token now offset size =>
    .step (fun s => s) (fun _ => Proc.bind (homeProc api token now offset size) (fun cards => .ret (.ok (.cards cards))))
  | .list token request =>
    .step (fun s => s) (fun _ => Proc.query (fun s =>
      (CardRoutes.getNotificationCards api lists s.notifications token request).result.map .cards))

/-! ## What no call writes -/

/-- Every collection but the Notification collection is as it was. -/
structure Unwritten (s s' : Store) : Prop where
  customers : s'.customers = s.customers
  profiles : s'.profiles = s.profiles
  journeys : s'.journeys = s.journeys
  events : s'.events = s.events
  notes : s'.notes = s.notes

theorem Unwritten.refl (s : Store) : Unwritten s s := ⟨rfl, rfl, rfl, rfl, rfl⟩

theorem Unwritten.trans {a b c : Store} (hab : Unwritten a b) (hbc : Unwritten b c) : Unwritten a c :=
  ⟨hbc.customers.trans hab.customers, hbc.profiles.trans hab.profiles, hbc.journeys.trans hab.journeys,
    hbc.events.trans hab.events, hbc.notes.trans hab.notes⟩

theorem unwritten_serve (api : ApiUtils) (lists : ListUtils) (s : Store) (call : Call) :
    Unwritten s (serve api lists s call).1 := by
  cases call with
  | notification r => exact ⟨rfl, rfl, rfl, rfl, rfl⟩
  | home token now offset size => exact Unwritten.refl s
  | list token request => exact Unwritten.refl s

theorem unwritten_later {api : ApiUtils} {lists : ListUtils} {s s' : Store} (hs : Later (serve api lists) s s') :
    Unwritten s s' := hs.rel Unwritten.refl Unwritten.trans (unwritten_serve api lists)

/-! ## The sections after the first read what no call writes -/

section
variable (api : ApiUtils) (lists : ListUtils)

theorem customerProc_reads (token : Token) :
    (customerProc api token).Reads (Later (serve api lists)) (fun s => customerSection api s token) := by
  unfold customerProc customerSection
  split
  · refine Proc.Reads.query (fun {s s'} hs => ?_)
    rw [customerHomeCard, customerHomeCard, (unwritten_later hs).customers]
  · exact fun _ => rfl

theorem memberProc_reads (token : Token) (now n : Int) :
    (memberProc api token now n).Reads (Later (serve api lists)) (fun s => memberSection api s token now n) := by
  unfold memberProc memberSection
  split
  · refine Proc.Reads.bind Later.trans (Proc.Reads.query (fun {s s'} hs => ?_)) (fun members => ?_)
    · rw [(unwritten_later hs).profiles]
    · refine Proc.Reads.forEach Later.trans (fun member => ?_) members
      refine Proc.Reads.bind Later.trans (Proc.Reads.query (fun {s s'} hs => ?_)) (fun counts => ?_)
      · rw [(unwritten_later hs).journeys]
      refine Proc.Reads.bind Later.trans (Proc.Reads.query (fun {s s'} hs => ?_)) (fun eventCount => ?_)
      · rw [(unwritten_later hs).events]
      exact Proc.Reads.ofExcept _
  · exact fun _ => rfl

theorem menteeProc_reads (token : Token) (now n : Int) :
    (menteeProc api token now n).Reads (Later (serve api lists)) (fun s => menteeSection api s token now n) := by
  unfold menteeProc menteeSection
  split
  · refine Proc.Reads.bind Later.trans (Proc.Reads.query (fun {s s'} hs => ?_)) (fun mentees => ?_)
    · rw [(unwritten_later hs).profiles]
    · refine Proc.Reads.forEach Later.trans (fun mentee => ?_) mentees
      refine Proc.Reads.bind Later.trans (Proc.Reads.query (fun {s s'} hs => ?_)) (fun eventCount => ?_)
      · rw [(unwritten_later hs).events]
      refine Proc.Reads.bind Later.trans (Proc.Reads.query (fun {s s'} hs => ?_)) (fun notes => ?_)
      · rw [(unwritten_later hs).notes]
      exact Proc.Reads.ofExcept _
  · exact fun _ => rfl

/-- What a home page is once its Notification section is read. -/
def otherValue (token : Token) (now offset size : Int) (notifications : List Card) (s : Store) :
    Except HTTPError (List Card) := do
  let sectionSize := min (offset + size) maxSize
  let customer ← customerSection api s token
  let members ← memberSection api s token now sectionSize
  let mentees ← menteeSection api s token now sectionSize
  let cards := notifications ++ adminSection token ++ customer ++ members ++ mentees ++ journeySection token
  .ok (Python.sliced cards offset (offset + size))

theorem otherSections_reads (token : Token) (now offset size : Int) (notifications : List Card) :
    (otherSections api token now offset size notifications).Reads (Later (serve api lists))
      (otherValue api token now offset size notifications) :=
  (customerProc_reads api lists token).bind Later.trans (fun _ =>
    (memberProc_reads api lists token now _).bind Later.trans (fun _ =>
      (menteeProc_reads api lists token now _).bind Later.trans (fun _ _ => rfl)))

variable {api}

theorem getHomeCards_eq_other {token : Token} {now offset size : Int} {s : Store} {ns : List Card}
    (hv : api.validatePagination offset size = .ok ())
    (hns : notificationSection api s token (min (offset + size) maxSize) = .ok ns) :
    getHomeCards api s token now offset size = otherValue api token now offset size ns s := by
  unfold getHomeCards assembleHome otherValue
  simp only [hv, hns, bind, Except.bind]
  cases customerSection api s token with
  | error e => rfl
  | ok cs =>
    cases memberSection api s token now (min (offset + size) maxSize) with
    | error e => rfl
    | ok ms => cases menteeSection api s token now (min (offset + size) maxSize) <;> rfl

/-- **The rest of a home read is settled** once its Notification section is read. -/
theorem settled_other {token : Token} (now : Int) {offset size : Int} {s : Store} {ns : List Card}
    (hv : api.validatePagination offset size = .ok ())
    (hns : notificationSection api s token (min (offset + size) maxSize) = .ok ns) :
    Settled (Later (serve api lists)) ((getHomeCards api s token now offset size).map Answer.cards) s
      (Proc.bind (otherSections api token now offset size ns) (fun cards => .ret (.ok (.cards cards)))) := by
  rw [getHomeCards_eq_other hv hns]
  refine Proc.settled_bind Later.trans (otherSections_reads api lists token now offset size ns s) ?_ ?_
  · intro e he
    rw [he]
    rfl
  · intro cards hc
    rw [hc]
    rfl

theorem home_pending (token : Token) (now offset size : Int) (s : Store) :
    Pending (serve api lists) (.home token now offset size) s (program api lists (.home token now offset size)) := by
  intro s' _
  cases hv : api.validatePagination offset size with
  | error e =>
    refine Or.inr ⟨rfl, ?_⟩
    simp only [serve, getHomeCards, homeProc, hv]
    rfl
  | ok u =>
    cases hp : truthyClaim token.profileId with
    | none =>
      have hns : notificationSection api s' token (min (offset + size) maxSize) = .ok [] := by
        rw [notificationSection, hp]
      refine Or.inr ⟨rfl, ?_⟩
      have hsettled := settled_other lists now hv hns
      simp only [homeProc, hv, notificationProc, hp]
      exact hsettled
    | some profileId =>
      refine Or.inl ⟨rfl, ?_⟩
      simp only [homeProc, hv, notificationProc, hp]
      -- the query of the Notification section is the step at which the page takes effect
      intro s'' _
      refine Or.inr ⟨rfl, ?_⟩
      have hsection : notificationSection api s'' token (min (offset + size) maxSize) =
          (NotificationService.getActiveNotifications api s''.notifications token 0 (min (offset + size) maxSize)
            (some [("profile_id", .str profileId)])).bind (fun ds =>
              projectAll api cardTypeNotifications ds (some token)) := by
        rw [notificationSection, hp]
        rfl
      cases hq : NotificationService.getActiveNotifications api s''.notifications token 0 (min (offset + size) maxSize)
          (some [("profile_id", .str profileId)]) with
      | error e =>
        rw [hq] at hsection
        simp only [serve, getHomeCards, assembleHome, hv, hsection, hq]
        rfl
      | ok ds =>
        rw [hq] at hsection
        have hcards : projectAll api cardTypeNotifications ds (some token) = _ := projectAll_known api rfl ds token
        have hns := hsection.trans hcards
        have hsettled := settled_other lists now hv hns
        simp only [hq]
        show Settled _ _ s'' (Proc.bind (Proc.bind (Proc.ofExcept (projectAll api cardTypeNotifications ds (some token)))
          (otherSections api token now offset size)) (fun cards => .ret (.ok (Answer.cards cards))))
        rw [hcards]
        exact hsettled

theorem list_pending (token : Token) (request : Discovery.Request) (s : Store) :
    Pending (serve api lists) (.list token request) s (program api lists (.list token request)) :=
  fun _ _ => Or.inl ⟨rfl, fun _ _ => Or.inr ⟨rfl, rfl⟩⟩

theorem create_pending (body : Match) (token : Token) (b : Value) (s : Store) :
    Pending (serve api lists) (.notification (.create body token b)) s
      (program api lists (.notification (.create body token b))) :=
  fun _ _ => Or.inr ⟨rfl, rfl⟩

end

/-! ## A control request writes by a check that still holds -/

section
variable {api : ApiUtils} (h : api.Documented)
include h

/-- **A check that passed still passes in every later state.** -/
theorem read_later {lists : ListUtils} {s s' : Store} (hs : Later (serve api lists) s s') {id : String} {token : Token}
    {operation : String} (hok : readForControl api s.notifications id token operation = .ok ()) :
    readForControl api s'.notifications id token operation = .ok () := by
  have hstep : ∀ (s : Store) (call : Call), readForControl api s.notifications id token operation = .ok () →
      readForControl api (serve api lists s call).1.notifications id token operation = .ok () := by
    intro s call hok
    cases call with
    | notification r =>
      obtain ⟨o, ho, hadmits⟩ := (NotificationService.readForControl_ok_iff h).1 hok
      exact (NotificationService.readForControl_ok_iff h).2 ⟨o, ho, NotificationService.admits_serve h hadmits r⟩
    | home token now offset size => exact hok
    | list token request => exact hok
  obtain ⟨calls, rfl⟩ := hs
  exact Runs.run_rel (R := fun s s' : Store => readForControl api s.notifications id token operation = .ok () →
    readForControl api s'.notifications id token operation = .ok ()) (fun _ hok => hok)
    (fun hab hbc hok => hbc (hab hok)) hstep calls s hok

theorem control_pending (lists : ListUtils) (f : ControlField) (id : String) (token : Token) (b : Value) (s : Store) :
    Pending (serve api lists) (.notification (.control f id token b)) s
      (program api lists (.notification (.control f id token b))) := by
  intro s' _
  have hcontrol : ∀ c, NotificationService.serve api c (.control f id token b) =
      match readForControl api c id token (operationOf f) with
      | .error e => (c, .error e)
      | .ok () => ((api.updateDocument c id [(f.name, b)]).1, .ok (api.updateDocument c id [(f.name, b)]).2) :=
    fun c => by
      rw [NotificationService.serve, NotificationService.control_eq]
      rfl
  cases hread : readForControl api s'.notifications id token (operationOf f) with
  | error e =>
    have hserve := hcontrol s'.notifications
    rw [hread] at hserve
    refine Or.inr ⟨?_, ?_⟩
    · simp only [serve, hserve]
    · simp only [hread, serve, hserve]
      rfl
  | ok u =>
    refine Or.inl ⟨rfl, ?_⟩
    simp only [hread]
    intro s'' hs''
    have hserve := hcontrol s''.notifications
    rw [read_later h hs'' hread] at hserve
    refine Or.inr ⟨?_, ?_⟩
    · simp only [serve, hserve]
    · simp only [serve, hserve]
      rfl

theorem program_pending (lists : ListUtils) (call : Call) (s : Store) :
    Pending (serve api lists) call s (program api lists call) := by
  cases call with
  | notification r =>
    cases r with
    | create body token b => exact create_pending lists body token b s
    | control f id token b => exact control_pending h lists f id token b s
  | home token now offset size => exact home_pending lists token now offset size s
  | list token request => exact list_pending lists token request s

/-- **Every interleaving of whole calls is linearizable.**  Any number of creates, control requests, home reads and
list reads, their queries and writes interleaved in any order: at every point of the schedule, the calls that took
effect so far run serially to the store and to every answer given, no call before its first step or after its last. -/
theorem calls_linearizable (lists : ListUtils) {ι : Type} [DecidableEq ι] (calls : ι → Call) (s : Store)
    (schedule : List ι) :
    ∃ log, History (serve api lists) calls s ⟨s, fun i => program api lists (calls i)⟩ schedule log :=
  Linearize.linearizable (fun i => program_pending h lists (calls i) s) schedule

end

/-- A mentee's home read, and its own dismissal of the notification it may be shown. -/
def readAndDismiss : Bool → Call
  | false => .home NotificationService.menteeToken 0 0 20
  | true => .notification NotificationService.dismissOwn

theorem calls_linearizable_own :
    ∃ log, History (serve reference referenceLists) readAndDismiss
      (notificationsOnly NotificationService.ownNotifications)
      ⟨notificationsOnly NotificationService.ownNotifications,
        fun i => program reference referenceLists (readAndDismiss i)⟩
      [false, true, false, true, false] log :=
  calls_linearizable reference_documented referenceLists readAndDismiss
    (notificationsOnly NotificationService.ownNotifications) [false, true, false, true, false]

end Concurrency
end Discovery
