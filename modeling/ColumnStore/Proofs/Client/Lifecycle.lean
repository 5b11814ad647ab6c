import ColumnStore.Client.Reader
import ColumnStore.Proofs.Client.Recorded

/-!
# Using, closing and giving up

A reader and a writer are used until they are closed. Both keep to one protocol, whatever backend
they work on and however its calls end: until a close has succeeded every use is passed on to the
backend and so is every close; afterwards nothing is passed on, a use is refused, and a close
succeeds. What is given up is closed before if it has not been closed yet. So the backend closes at
most once, however often closing is tried.
-/

set_option autoImplicit false

namespace ColumnStore

/-- Something that a client uses until it closes it. -/
structure Lifecycle (α ι : Type) where
  what : Closable
  handle : α → Handle
  closed : α → Bool
  /-- The operation that closes it. -/
  closing : Operation
  /-- The operations that a use asks for if none of them fails. -/
  requests : ι → List (Operation × List Argument)
  use : {σ : Type} → ι → α → Client σ α
  close : {σ : Type} → α → Client σ α
  drop : {σ : Type} → α → Client σ Unit

/-- Something that is done with an object. -/
inductive Act (ι : Type) where
  | use (request : ι)
  | close

/-- An act, how it ended, whether the object is closed then, and the backend before and after. -/
structure Episode (ι σ : Type) where
  act : Act ι
  result : Except Failure Unit
  closed : Bool
  before : Recorded σ
  after : Recorded σ

/-- What became of an object: the episodes, and the backend when the object was given up and after
that. -/
structure Life (ι σ : Type) where
  episodes : List (Episode ι σ)
  left : Recorded σ
  final : Recorded σ

/-- The calls of an episode. -/
def Episode.calls {ι σ : Type} (episode : Episode ι σ) : List CallRecord :=
  episode.before.since episode.after

/-- One of the episodes is a close that succeeded. -/
def ClosedIn {ι σ : Type} (episodes : List (Episode ι σ)) : Prop :=
  ∃ episode ∈ episodes, episode.act = .close ∧ episode.result = .ok ()

/-- The record is of a call that closed something by the operation. -/
def CallRecord.closes (closing : Operation) : CallRecord → Bool
  | ⟨.onObject _ method _, .returned .nothing⟩ => method == closing.method
  | _ => false

namespace Lifecycle

variable {α ι σ : Type}

/-- The calls on a handle that a use makes if none of them fails. -/
def calls (cycle : Lifecycle α ι) (handle : Handle) (request : ι) : List Call :=
  (cycle.requests request).map fun entry ↦ .onObject handle entry.1.method entry.2

/-- The call that closes the object of a handle. -/
def closeCall (cycle : Lifecycle α ι) (handle : Handle) : Call :=
  .onObject handle cycle.closing.method []

/-- The client action of an act. -/
def action (cycle : Lifecycle α ι) (object : α) : Act ι → Client σ α
  | .use request => cycle.use request object
  | .close => cycle.close object

/-- Does something with an object, which stays as it is if that fails. -/
def perform (cycle : Lifecycle α ι) (backend : Backend σ) (act : Act ι) (object : α)
    (connection : Connection (Recorded σ)) : Episode ι σ × α × Connection (Recorded σ) :=
  match (cycle.action object act).run backend.recorded connection with
  | (.ok next, later) =>
    (⟨act, .ok (), cycle.closed next, connection.state, later.state⟩, next, later)
  | (.error failure, later) =>
    (⟨act, .error failure, cycle.closed object, connection.state, later.state⟩, object, later)

/-- Does several things with an object, one after the other. -/
def performAll (cycle : Lifecycle α ι) (backend : Backend σ) :
    List (Act ι) → α → Connection (Recorded σ) →
      List (Episode ι σ) × α × Connection (Recorded σ)
  | [], object, connection => ([], object, connection)
  | act :: acts, object, connection =>
    let first := cycle.perform backend act object connection
    let rest := performAll cycle backend acts first.2.1 first.2.2
    (first.1 :: rest.1, rest.2)

/-- Does several things with an object and gives it up. -/
def live (cycle : Lifecycle α ι) (backend : Backend σ) (acts : List (Act ι)) (object : α)
    (connection : Connection (Recorded σ)) : Life ι σ :=
  let last := cycle.performAll backend acts object connection
  ⟨last.1, last.2.2.state, ((cycle.drop last.2.1).run backend.recorded last.2.2).2.state⟩

/-- How often the backend has closed something by the operation. -/
def closings (cycle : Lifecycle α ι) (state : Recorded σ) : Nat :=
  state.records.countP (CallRecord.closes cycle.closing)

/-- What an episode of an open object is like: a use makes the calls that it asks for, one at least
and no more once one of them has failed; a close makes one call, and the object is closed exactly if
this call returns as it should. -/
def Passes (cycle : Lifecycle α ι) (handle : Handle) (episode : Episode ι σ) : Prop :=
  match episode.act with
  | .use request =>
    episode.calls.map CallRecord.call <+: cycle.calls handle request ∧
      (cycle.requests request ≠ [] → episode.calls ≠ []) ∧ episode.closed = false
  | .close =>
    ∃ outcome, episode.calls = [⟨cycle.closeCall handle, outcome⟩] ∧
      (outcome = .returned .nothing ∧ episode.result = .ok () ∧ episode.closed = true ∨
        outcome ≠ .returned .nothing ∧ (∃ failure, episode.result = .error failure) ∧
          episode.closed = false)

/-- What an episode of a closed object is like: it makes no call; a use is refused, a close
succeeds. -/
def Refuses (cycle : Lifecycle α ι) (episode : Episode ι σ) : Prop :=
  episode.calls = [] ∧ episode.after = episode.before ∧ episode.closed = true ∧
    episode.result = match episode.act with
      | .use _ => .error (.error (.closed cycle.what))
      | .close => .ok ()

/-- The single acts keep to the protocol. -/
structure Lawful (cycle : Lifecycle α ι) : Prop where
  distinct : ∀ request, ∀ entry ∈ cycle.requests request, entry.1 ≠ cycle.closing
  useOpen : ∀ {σ : Type} (backend : Backend σ) {object : α} (request : ι) (state : Recorded σ),
    cycle.closed object = false →
      Client.Ends backend.recorded (cycle.use request object) state fun result after ↦
        (∀ next, result = .ok next →
          cycle.handle next = cycle.handle object ∧ cycle.closed next = false) ∧
        ∃ calls, calls <+: cycle.calls (cycle.handle object) request ∧
          (cycle.requests request ≠ [] → calls ≠ []) ∧ after = state.answerAll backend calls
  useClosed : ∀ {σ : Type} (backend : Backend σ) {object : α} (request : ι) (state : Recorded σ),
    cycle.closed object = true →
      Client.Runs backend.recorded (cycle.use request object) state
        (.error (.error (.closed cycle.what))) state
  closeOpen : ∀ {σ : Type} (backend : Backend σ) {object : α} (state : Recorded σ),
    cycle.closed object = false →
      Client.Ends backend.recorded (cycle.close object) state fun result after ↦
        let outcome :=
          (backend.call (cycle.handle object) cycle.closing.method [] state.inner).outcome
        after = state.answer backend (cycle.closeCall (cycle.handle object)) ∧
          (outcome = .returned .nothing → ∃ next, result = .ok next ∧
            cycle.handle next = cycle.handle object ∧ cycle.closed next = true) ∧
          (outcome ≠ .returned .nothing → ∃ failure, result = .error failure)
  closeClosed : ∀ {σ : Type} (backend : Backend σ) {object : α} (state : Recorded σ),
    cycle.closed object = true →
      Client.Runs backend.recorded (cycle.close object) state (.ok object) state
  dropOpen : ∀ {σ : Type} (backend : Backend σ) {object : α} (state : Recorded σ),
    cycle.closed object = false →
      Client.Ends backend.recorded (cycle.drop object) state fun _ after ↦
        ∃ rest, rest <+: [.release (cycle.handle object)] ∧
          after = state.answerAll backend (cycle.closeCall (cycle.handle object) :: rest)
  dropClosed : ∀ {σ : Type} (backend : Backend σ) {object : α},
    cycle.closed object = true →
      Client.Makes backend (cycle.drop object) [.release (cycle.handle object)]

variable {cycle : Lifecycle α ι} {backend : Backend σ} {object : α} {act : Act ι}
  {connection : Connection (Recorded σ)} {handle : Handle} {state : Recorded σ}

/-! ### One act -/

/-- An act ends with a new state of the object, or it fails and leaves the object as it is. -/
theorem perform_cases (cycle : Lifecycle α ι) (act : Act ι)
    {post : Except Failure α → Recorded σ → Prop}
    (h : Client.Ends backend.recorded (cycle.action object act) connection.state post) :
    (∃ next later, post (.ok next) later.state ∧
      cycle.perform backend act object connection =
        (⟨act, .ok (), cycle.closed next, connection.state, later.state⟩, next, later)) ∨
      ∃ failure later, post (.error failure) later.state ∧
        cycle.perform backend act object connection =
          (⟨act, .error failure, cycle.closed object, connection.state, later.state⟩, object,
            later) := by
  have hpost := h connection.log
  unfold perform
  rcases hrun : (cycle.action object act).run backend.recorded connection with
    ⟨failure | next, later⟩
  · rw [hrun] at hpost
    exact .inr ⟨failure, later, hpost, rfl⟩
  · rw [hrun] at hpost
    exact .inl ⟨next, later, hpost, rfl⟩

theorem act_perform (act : Act ι) (object : α) (connection : Connection (Recorded σ)) :
    (cycle.perform backend act object connection).1.act = act := by
  unfold perform
  split <;> rfl

theorem before_perform (act : Act ι) (object : α) (connection : Connection (Recorded σ)) :
    (cycle.perform backend act object connection).1.before = connection.state := by
  unfold perform
  split <;> rfl

theorem after_perform (act : Act ι) (object : α) (connection : Connection (Recorded σ)) :
    (cycle.perform backend act object connection).1.after =
      (cycle.perform backend act object connection).2.2.state := by
  unfold perform
  split <;> rfl

theorem closed_perform (act : Act ι) (object : α) (connection : Connection (Recorded σ)) :
    (cycle.perform backend act object connection).1.closed =
      cycle.closed (cycle.perform backend act object connection).2.1 := by
  unfold perform
  split <;> rfl

/-- Calls of other operations close nothing. -/
theorem closings_answerAll {calls : List Call}
    (hcalls : ∀ call ∈ calls, ∀ handle arguments,
      call ≠ .onObject handle cycle.closing.method arguments) :
    cycle.closings (state.answerAll backend calls) = cycle.closings state := by
  obtain ⟨fresh, hrecords, hmap⟩ := Recorded.records_answerAll backend state calls
  have hnone : fresh.countP (CallRecord.closes cycle.closing) = 0 := by
    rw [List.countP_eq_zero]
    rintro ⟨call, outcome⟩ hmem hcloses
    have hcall : call ∈ calls := by
      rw [← hmap]
      exact List.mem_map_of_mem hmem
    unfold CallRecord.closes at hcloses
    split at hcloses
    · rename_i handle method arguments heq
      cases heq
      exact hcalls _ hcall _ _ (congrArg (Call.onObject handle · arguments) (eq_of_beq hcloses))
    · cases hcloses
  unfold closings
  rw [hrecords, List.countP_append, hnone, Nat.add_zero]

theorem closings_answerAll_release {calls : List Call} (h : calls <+: [.release handle]) :
    cycle.closings (state.answerAll backend calls) = cycle.closings state := by
  apply closings_answerAll
  intro call hmem handle arguments heq
  rw [List.mem_singleton.mp (h.subset hmem)] at heq
  cases heq

/-- A call to close closes something exactly if it returns as it should. -/
theorem closings_answer_closeCall (cycle : Lifecycle α ι) (backend : Backend σ) (handle : Handle)
    (state : Recorded σ) :
    cycle.closings (state.answer backend (cycle.closeCall handle)) = cycle.closings state +
      if (backend.call handle cycle.closing.method [] state.inner).outcome = .returned .nothing
        then 1 else 0 := by
  unfold closings closeCall
  rw [Recorded.records_answer_onObject, List.countP_append, List.countP_singleton]
  congr 1
  by_cases houtcome :
      (backend.call handle cycle.closing.method [] state.inner).outcome = .returned .nothing
  · rw [if_pos houtcome, houtcome]
    simp [CallRecord.closes]
  · have hnot : CallRecord.closes cycle.closing ⟨.onObject handle cycle.closing.method [],
        (backend.call handle cycle.closing.method [] state.inner).outcome⟩ = false := by
      unfold CallRecord.closes
      split
      · rename_i heq
        exact absurd (congrArg CallRecord.outcome heq) houtcome
      · rfl
    rw [if_neg houtcome, hnot, if_neg Bool.false_ne_true]

/-- What an act makes of an object that was open. -/
structure Moves (cycle : Lifecycle α ι) (object : α) (state : Recorded σ)
    (step : Episode ι σ × α × Connection (Recorded σ)) : Prop where
  passes : cycle.Passes (cycle.handle object) step.1
  handle : cycle.handle step.2.1 = cycle.handle object
  closedIff : cycle.closed step.2.1 = true ↔ step.1.act = .close ∧ step.1.result = .ok ()
  closings : cycle.closings step.2.2.state =
    cycle.closings state + if cycle.closed step.2.1 then 1 else 0

/-- The calls of a use are made on the object, and none of them closes it. -/
theorem Lawful.exists_of_mem_calls (h : cycle.Lawful) {request : ι} {made : List Call}
    (hbegins : made <+: cycle.calls handle request) {call : Call} (hmem : call ∈ made) :
    ∃ method arguments, call = .onObject handle method arguments ∧
      method ≠ cycle.closing.method := by
  obtain ⟨entry, hentry, rfl⟩ := List.mem_map.mp (hbegins.subset hmem)
  refine ⟨_, _, rfl, fun hmethod ↦ ?_⟩
  exact h.distinct request entry hentry (Operation.method_injective hmethod)

/-- A use of an open object leaves it open and makes its calls, or the first ones of them. -/
theorem Lawful.perform_use (h : cycle.Lawful) (backend : Backend σ)
    (hopen : cycle.closed object = false) (request : ι) (connection : Connection (Recorded σ)) :
    let step := cycle.perform backend (.use request) object connection
    (cycle.handle step.2.1 = cycle.handle object ∧ cycle.closed step.2.1 = false) ∧
      ∃ made, made <+: cycle.calls (cycle.handle object) request ∧
        (cycle.requests request ≠ [] → made ≠ []) ∧
          step.2.2.state = connection.state.answerAll backend made := by
  intro step
  rcases cycle.perform_cases (.use request) (h.useOpen backend request connection.state hopen) with
    ⟨next, later, ⟨hnext, hmade⟩, hperform⟩ | ⟨failure, later, ⟨-, hmade⟩, hperform⟩
  all_goals
    have hstep : step = _ := hperform
    rw [hstep]
  · exact ⟨hnext next rfl, hmade⟩
  · exact ⟨⟨rfl, hopen⟩, hmade⟩

theorem Lawful.moves_use (h : cycle.Lawful) (backend : Backend σ)
    (hopen : cycle.closed object = false) (request : ι) (connection : Connection (Recorded σ)) :
    cycle.Moves object connection.state
      (cycle.perform backend (.use request) object connection) := by
  obtain ⟨⟨hhandle, hstill⟩, made, hbegins, hsome, hstate⟩ :=
    h.perform_use backend hopen request connection
  have hmap : (cycle.perform backend (.use request) object connection).1.calls.map
      CallRecord.call = made := by
    unfold Episode.calls
    rw [before_perform, after_perform, hstate]
    exact Recorded.map_call_since_answerAll backend connection.state made
  constructor
  · unfold Passes
    rw [act_perform, hmap, closed_perform]
    refine ⟨hbegins, fun hrequests hnone ↦ hsome hrequests ?_, hstill⟩
    rw [← hmap, hnone]
    rfl
  · exact hhandle
  · rw [act_perform]
    exact iff_of_false (by simp [hstill]) (by rintro ⟨⟨⟩, -⟩)
  · rw [hstill, if_neg Bool.false_ne_true, hstate]
    refine closings_answerAll fun call hmem other arguments heq ↦ ?_
    obtain ⟨method, _, rfl, hmethod⟩ := h.exists_of_mem_calls hbegins hmem
    exact hmethod (Call.onObject.inj heq).2.1

theorem Lawful.moves_close (h : cycle.Lawful) (hopen : cycle.closed object = false) :
    cycle.Moves object connection.state (cycle.perform backend .close object connection) := by
  have hcalls : connection.state.since
      (connection.state.answer backend (cycle.closeCall (cycle.handle object))) =
        [⟨cycle.closeCall (cycle.handle object), (backend.call (cycle.handle object)
          cycle.closing.method [] connection.state.inner).outcome⟩] := by
    rw [Recorded.since, closeCall, Recorded.records_answer_onObject, List.drop_left]
  rcases cycle.perform_cases .close (h.closeOpen backend connection.state hopen) with
    ⟨next, later, ⟨hstate, hok, hfails⟩, hperform⟩ |
      ⟨failure, later, ⟨hstate, hok, -⟩, hperform⟩
  all_goals
    rw [hperform]
    rw [← hstate] at hcalls
    have hclosings :=
      closings_answer_closeCall cycle backend (cycle.handle object) connection.state
    rw [← hstate] at hclosings
  · have houtcome : (backend.call (cycle.handle object) cycle.closing.method []
        connection.state.inner).outcome = .returned .nothing := by
      by_contra hnot
      obtain ⟨failure, ⟨⟩⟩ := hfails hnot
    obtain ⟨_, ⟨⟩, hhandle, hclosed⟩ := hok houtcome
    refine ⟨⟨_, hcalls, .inl ⟨houtcome, rfl, hclosed⟩⟩, hhandle, ?_, ?_⟩
    · exact iff_of_true hclosed ⟨rfl, rfl⟩
    · rw [hclosed, if_pos rfl]
      rwa [if_pos houtcome] at hclosings
  · have houtcome : (backend.call (cycle.handle object) cycle.closing.method []
        connection.state.inner).outcome ≠ .returned .nothing := by
      intro hreturned
      obtain ⟨_, ⟨⟩, -⟩ := hok hreturned
    refine ⟨⟨_, hcalls, .inr ⟨houtcome, ⟨failure, rfl⟩, hopen⟩⟩, rfl, ?_, ?_⟩
    · exact iff_of_false (by simp [hopen]) (by rintro ⟨-, ⟨⟩⟩)
    · rw [hopen, if_neg Bool.false_ne_true]
      rwa [if_neg houtcome] at hclosings

/-- An open object, whatever is done with it, keeps to the protocol. -/
theorem Lawful.moves (h : cycle.Lawful) (backend : Backend σ)
    (hopen : cycle.closed object = false) (act : Act ι) (connection : Connection (Recorded σ)) :
    cycle.Moves object connection.state (cycle.perform backend act object connection) := by
  cases act with
  | use request => exact h.moves_use backend hopen request connection
  | close => exact h.moves_close hopen

/-- So does a closed object, and nothing becomes of it. -/
theorem Lawful.perform_closed (h : cycle.Lawful) (backend : Backend σ)
    (hclosed : cycle.closed object = true) (act : Act ι) (connection : Connection (Recorded σ)) :
    let step := cycle.perform backend act object connection
    cycle.Refuses step.1 ∧ step.2.1 = object ∧ step.2.2.state = connection.state := by
  cases act with
  | use request =>
    rcases cycle.perform_cases (.use request)
        (h.useClosed backend request connection.state hclosed) with
      ⟨next, later, ⟨⟨⟩, -⟩, -⟩ | ⟨failure, later, ⟨⟨⟩, hstate⟩, hperform⟩
    intro step
    have hstep : step = _ := hperform
    rw [hstep]
    refine ⟨⟨?_, hstate, hclosed, rfl⟩, rfl, hstate⟩
    show connection.state.since later.state = []
    rw [hstate]
    exact Recorded.since_self _
  | close =>
    rcases cycle.perform_cases .close (h.closeClosed backend connection.state hclosed) with
      ⟨next, later, ⟨⟨⟩, hstate⟩, hperform⟩ | ⟨failure, later, ⟨⟨⟩, -⟩, -⟩
    intro step
    have hstep : step = _ := hperform
    rw [hstep]
    refine ⟨⟨?_, hstate, hclosed, rfl⟩, rfl, hstate⟩
    show connection.state.since later.state = []
    rw [hstate]
    exact Recorded.since_self _

/-! ### A whole life -/

theorem closedIn_concat {episode : Episode ι σ} {episodes : List (Episode ι σ)} :
    ClosedIn (episodes ++ [episode]) ↔
      ClosedIn episodes ∨ episode.act = .close ∧ episode.result = .ok () := by
  constructor
  · rintro ⟨found, hmem, hends⟩
    rcases List.mem_append.mp hmem with hmem | hmem
    · exact .inl ⟨found, hmem, hends⟩
    · cases List.mem_singleton.mp hmem
      exact .inr hends
  · rintro (⟨found, hmem, hends⟩ | hends)
    · exact ⟨found, List.mem_append_left _ hmem, hends⟩
    · exact ⟨episode, List.mem_append_right _ List.mem_cons_self, hends⟩

/-- The object is the one of the handle, and it is closed exactly if a close has succeeded. -/
structure Fits (cycle : Lifecycle α ι) (handle : Handle) (episodes : List (Episode ι σ))
    (object : α) (state : Recorded σ) : Prop where
  handle : cycle.handle object = handle
  closedIff : cycle.closed object = true ↔ ClosedIn episodes
  closings : cycle.closings state = if cycle.closed object then 1 else 0

variable {episodes : List (Episode ι σ)}

theorem Fits.open (h : cycle.Fits handle episodes object state) (hnever : ¬ ClosedIn episodes) :
    cycle.closed object = false :=
  Bool.eq_false_iff.mpr fun hclosed ↦ hnever (h.closedIff.mp hclosed)

theorem Lawful.fits_perform (h : cycle.Lawful) (act : Act ι)
    (hfits : cycle.Fits handle episodes object connection.state) :
    let step := cycle.perform backend act object connection
    cycle.Fits handle (episodes ++ [step.1]) step.2.1 step.2.2.state := by
  intro step
  by_cases hclosed : cycle.closed object = true
  · obtain ⟨hrefuses, hobject, hstate⟩ :=
      h.perform_closed backend hclosed act connection
    have hstep : step.2.1 = object := hobject
    constructor
    · rw [hstep]
      exact hfits.handle
    · rw [hstep]
      exact iff_of_true hclosed (closedIn_concat.mpr (.inl (hfits.closedIff.mp hclosed)))
    · rw [hstep]
      exact (congrArg cycle.closings hstate).trans hfits.closings
  · have hmoves := h.moves backend (Bool.eq_false_iff.mpr hclosed) act connection
    have hnever : ¬ ClosedIn episodes := fun hsome ↦ hclosed (hfits.closedIff.mpr hsome)
    constructor
    · exact hmoves.handle.trans hfits.handle
    · exact hmoves.closedIff.trans (closedIn_concat.trans (or_iff_right hnever)).symm
    · have hcount := hfits.closings
      rw [if_neg hclosed] at hcount
      exact hmoves.closings.trans (by rw [hcount, Nat.zero_add])

/-- An open object that is given up is closed by one call. -/
theorem Lawful.drop_open (h : cycle.Lawful) (backend : Backend σ)
    (hopen : cycle.closed object = false) (connection : Connection (Recorded σ)) :
    let final := ((cycle.drop object).run backend.recorded connection).2.state
    (∃ rest, rest <+: [.release (cycle.handle object)] ∧ final =
      connection.state.answerAll backend (cycle.closeCall (cycle.handle object) :: rest)) ∧
      cycle.closings final = cycle.closings connection.state +
        if (backend.call (cycle.handle object) cycle.closing.method []
          connection.state.inner).outcome = .returned .nothing then 1 else 0 := by
  obtain ⟨rest, hbegins, hfinal⟩ := h.dropOpen backend connection.state hopen connection.log
  refine ⟨⟨rest, hbegins, hfinal⟩, ?_⟩
  rw [← closings_answer_closeCall]
  exact (congrArg cycle.closings hfinal).trans (closings_answerAll_release hbegins)

theorem Lawful.drop_closed (h : cycle.Lawful) (backend : Backend σ)
    (hclosed : cycle.closed object = true) (connection : Connection (Recorded σ)) :
    let final := ((cycle.drop object).run backend.recorded connection).2.state
    final = connection.state.answerAll backend [.release (cycle.handle object)] ∧
      cycle.closings final = cycle.closings connection.state := by
  have hfinal := h.dropClosed backend hclosed connection.state connection.log
  refine ⟨hfinal, (congrArg cycle.closings hfinal).trans ?_⟩
  exact closings_answerAll_release (List.prefix_refl _)

end Lifecycle

end ColumnStore
