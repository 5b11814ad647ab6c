import ColumnStore.Client.Reader
import ColumnStore.Proofs.Memory.Client

/-!
# What actions leave as it is

An action fixes a view of the backend if the view is the same afterwards, wherever the action starts
and however it ends. An action that is put together from actions that fix a view fixes it too, so in
the end only the calls count. The commits of the in-process backend are fixed by every call but that
which closes a writer, and so by whatever is done with readers.
-/

set_option autoImplicit false

namespace ColumnStore

namespace Client

variable {σ α β γ : Type} {backend : Backend σ} {view : σ → γ}

/-- However the action ends, the view is the same as before. -/
def Fixes (backend : Backend σ) (view : σ → γ) (action : Client σ α) : Prop :=
  ∀ before, Ends backend action before fun _ after ↦ view after = view before

theorem fixes_pure (a : α) : Fixes backend view (pure a : Client σ α) :=
  fun _ ↦ ends_pure rfl

theorem fixes_throw (failure : Failure) : Fixes backend view (throw failure : Client σ α) :=
  fun _ ↦ ends_throw rfl

theorem fixes_refuse (error : Error) : Fixes backend view (refuse error : Client σ α) :=
  fixes_throw _

theorem fixes_report (event : Event) : Fixes backend view (report event) :=
  fun _ ↦ (runs_report event).mono fun _ _ h ↦ congrArg view h.2

theorem fixes_expect (operation : String) (purpose : Purpose) (result : Except CallError α) :
    Fixes backend view (expect operation purpose result) := by
  cases result with
  | ok a => exact fixes_pure a
  | error error => exact fixes_refuse _

theorem fixes_exchange {ask : Backend σ → σ → Reply σ α}
    (h : ∀ before, view (ask backend before).state = view before) :
    Fixes backend view (exchange ask) :=
  fun before ↦ (runs_exchange ask before).mono fun _ _ hruns ↦ by rw [hruns.2, h]

theorem Fixes.bind {action : Client σ α} {next : α → Client σ β}
    (h : Fixes backend view action) (hnext : ∀ a, Fixes backend view (next a)) :
    Fixes backend view (action >>= next) := by
  intro before
  refine Ends.bind (h before) (fun a state hstate ↦ ?_) fun failure state hstate ↦ hstate
  exact (hnext a state).mono fun _ _ hafter ↦ hafter.trans hstate

theorem Fixes.tryCatch {action : Client σ α} {rescue : Failure → Client σ α}
    (h : Fixes backend view action) (hrescue : ∀ failure, Fixes backend view (rescue failure)) :
    Fixes backend view (tryCatch action rescue) := by
  intro before
  refine Ends.tryCatch (h before) (fun a state hstate ↦ hstate) fun failure state hstate ↦ ?_
  exact (hrescue failure state).mono fun _ _ hafter ↦ hafter.trans hstate

theorem Fixes.map {action : Client σ α} (f : α → β) (h : Fixes backend view action) :
    Fixes backend view (f <$> action) := by
  rw [map_eq_pure_bind]
  exact h.bind fun a ↦ fixes_pure (f a)

theorem Fixes.cleaning {action : Client σ α} {cleanup : Client σ Unit}
    (h : Fixes backend view action) (hcleanup : Fixes backend view cleanup) :
    Fixes backend view (Client.cleaning cleanup action) :=
  h.tryCatch fun failure ↦ hcleanup.bind fun _ ↦ fixes_throw failure

theorem Fixes.attempt {action : Client σ α} (h : Fixes backend view action) :
    Fixes backend view (Client.attempt action) := by
  refine (h.map Except.ok).tryCatch fun failure ↦ ?_
  cases failure with
  | error error => exact fixes_pure _
  | crash => exact fixes_throw _

theorem fixes_foldlM {step : β → α → Client σ β} (h : ∀ b a, Fixes backend view (step b a))
    (items : List α) (start : β) : Fixes backend view (items.foldlM step start) := by
  induction items generalizing start with
  | nil => exact fixes_pure start
  | cons item items ih =>
    rw [List.foldlM_cons]
    exact (h start item).bind ih

theorem fixes_discard {handle : Handle}
    (h : ∀ before, view (backend.release handle before).state = view before) :
    Fixes backend view (discard handle) := by
  refine (fixes_exchange h).bind fun result ↦ ?_
  cases result with
  | ok _ => exact fixes_pure ()
  | error error => exact fixes_report _

end Client

namespace Memory

/-- The commits of the backend. -/
def commits (memory : Memory) : List Commit := memory.store.commits

/-- The action files nothing. -/
abbrev FilesNothing {α : Type} (action : Client Memory α) : Prop :=
  Client.Fixes backend commits action

variable {memory before after : Memory} {handle : Handle} {operation : Operation} {method : Method}
  {outcome : Outcome Returned} {arguments : List Argument}

/-- Only closing a writer makes a commit. -/
theorem Effect.commits_eq (h : Effect operation handle before outcome after)
    (hnot : operation ≠ .closeWriter) : after.commits = before.commits := by
  unfold commits
  cases h with
  | committed writer hwriter hopen hrows hoperation => exact absurd hoperation hnot
  | tookRows => rw [store_pinAll, store_put]
  | describedAll => rw [store_pinAll]
  | _ => rfl

theorem commits_invoke (hnot : method ≠ Operation.closeWriter.method) (kind : MethodKind)
    (target : Option Handle) :
    (memory.invoke kind target method arguments).state.commits = memory.commits := by
  rcases invoke_cases kind target method arguments memory with
    ⟨error, -, hstate⟩ | ⟨operation, hmethod, -, heffect⟩
  · rw [hstate]
  · refine heffect.commits_eq ?_
    rintro rfl
    exact hnot hmethod.symm

theorem filesNothing_call (hnot : operation ≠ .closeWriter) :
    FilesNothing (Client.call handle operation arguments) :=
  Client.fixes_exchange fun _ ↦ commits_invoke (mt (@Operation.method_injective _ _) hnot) _ _

theorem filesNothing_callStatic (hnot : operation ≠ .closeWriter) :
    FilesNothing (Client.callStatic operation arguments) :=
  Client.fixes_exchange fun _ ↦ commits_invoke (mt (@Operation.method_injective _ _) hnot) _ _

theorem commits_release (handle : Handle) (memory : Memory) :
    (backend.release handle memory).state.commits = memory.commits := by
  change (Memory.release handle memory).state.commits = _
  unfold Memory.release
  split
  · rfl
  · split <;> rfl

theorem filesNothing_release (handle : Handle) : FilesNothing (Client.release handle) :=
  Client.fixes_exchange (commits_release handle)

theorem filesNothing_discard (handle : Handle) : FilesNothing (Client.discard handle) :=
  Client.fixes_discard (commits_release handle)

theorem filesNothing_chain (hnot : operation ≠ .closeWriter) :
    FilesNothing (Client.chain handle operation arguments) := by
  refine (filesNothing_call hnot).bind fun returned ↦ ?_
  cases returned.bind (Returned.toObject operation.method) with
  | error error => exact Client.fixes_pure _
  | ok other =>
    change FilesNothing (if other = handle then pure (.ok ()) else Client.release other)
    split
    · exact Client.fixes_pure _
    · exact filesNothing_release other

theorem filesNothing_holding {α : Type} {action : Client Memory α} (h : FilesNothing action)
    (handle : Handle) : FilesNothing (Client.holding handle action) :=
  (h.cleaning (filesNothing_discard handle)).bind fun result ↦
    (filesNothing_discard handle).bind fun _ ↦ Client.fixes_pure result

/-! ### Readers -/

theorem filesNothing_forPath (path : String) (table : Option String) :
    FilesNothing (ReaderBuilder.forPath path table) := by
  have hcreate : ∀ call : Client Memory (Except CallError Returned), FilesNothing call →
      FilesNothing (ReaderBuilder.create path table call) := fun call hcall ↦
    hcall.bind fun _ ↦ (Client.fixes_expect _ _ _).bind fun _ ↦
      (Client.fixes_report _).bind fun _ ↦ Client.fixes_pure _
  cases table with
  | none => exact hcreate _ (filesNothing_callStatic (by decide))
  | some name => exact hcreate _ (filesNothing_callStatic (by decide))

theorem filesNothing_option (builder : ReaderBuilder) (key value : String) :
    FilesNothing (builder.option key value) := by
  have hchain : FilesNothing (builder.chain ("withHadoopConf(" ++ key ++ ")") .setReaderOption
      [.text key, .text value]) :=
    (filesNothing_chain (by decide)).bind fun _ ↦ Client.fixes_expect _ _ _
  exact (hchain.cleaning (filesNothing_discard _)).bind fun _ ↦ Client.fixes_pure builder

theorem filesNothing_options (builder : ReaderBuilder) (options : Options) :
    FilesNothing (builder.options options) := by
  unfold ReaderBuilder.options
  refine Client.fixes_foldlM (fun builder entry ↦ ?_) _ _
  exact filesNothing_option builder entry.1 entry.2

theorem filesNothing_build (builder : ReaderBuilder) : FilesNothing builder.build := by
  refine filesNothing_holding ?_ builder.handle
  refine (filesNothing_call (by decide)).bind fun _ ↦ (Client.fixes_expect _ _ _).bind fun _ ↦ ?_
  exact (Client.fixes_report _).bind fun _ ↦ Client.fixes_pure _

variable {reader : Reader}

theorem filesNothing_whileOpen {α : Type} {action : Client Memory α} (h : FilesNothing action) :
    FilesNothing (reader.whileOpen action) := by
  unfold Reader.whileOpen
  split
  · exact Client.fixes_refuse _
  · exact h

theorem filesNothing_hasNext (reader : Reader) : FilesNothing reader.hasNext :=
  filesNothing_whileOpen ((filesNothing_call (by decide)).bind fun _ ↦ Client.fixes_expect _ _ _)

theorem filesNothing_next (reader : Reader) : FilesNothing reader.next :=
  filesNothing_whileOpen ((filesNothing_call (by decide)).bind fun _ ↦
    (Client.fixes_expect _ _ _).bind fun _ ↦ Client.fixes_pure _)

theorem filesNothing_step (reader : Reader) : FilesNothing reader.step := by
  refine (filesNothing_hasNext reader).attempt.bind fun left ↦ ?_
  rcases left with error | _ | _
  · exact Client.fixes_pure _
  · exact Client.fixes_pure _
  · refine (filesNothing_next reader).attempt.bind fun row ↦ ?_
    cases row with
    | ok row => exact Client.fixes_pure _
    | error error =>
      change FilesNothing (if error.isEndOfData then _ else _)
      split <;> exact Client.fixes_pure _

theorem filesNothing_closeReader (reader : Reader) : FilesNothing reader.close := by
  unfold Reader.close
  split
  · exact Client.fixes_pure _
  · refine (filesNothing_call (by decide)).bind fun _ ↦ (Client.fixes_expect _ _ _).bind fun _ ↦ ?_
    exact (Client.fixes_report _).bind fun _ ↦ Client.fixes_pure _

theorem filesNothing_dropReader (reader : Reader) : FilesNothing reader.drop := by
  unfold Reader.drop
  cases reader.closed with
  | true => exact filesNothing_discard _
  | false =>
    refine (Client.fixes_report _).bind fun _ ↦
      (filesNothing_closeReader reader).attempt.bind fun result ↦ ?_
    cases result with
    | ok _ => exact filesNothing_discard _
    | error error => exact (Client.fixes_report _).bind fun _ ↦ filesNothing_discard _

end Memory

end ColumnStore
