import ColumnStore.Proofs.Options.LastWins
import ColumnStore.Tool.Session

/-!
# What the command line says on top of a session

The options of the command line are put on top of those of a session all together or not at all: a
text among them that is no `key=value` leaves every option as it was, wherever it stands. What is
said about the backend, the class path and the verbosity of the machine has by then been put there.
So a refused list of options leaves the session as it was only if nothing else was said that is new
to it.
-/

set_option autoImplicit false

namespace ColumnStore

/-- What overrides say of the backend and its machine holds afterwards, and where they say nothing
all is as before. -/
structure Overrides.Said (overrides : Overrides) (before after : Session) : Prop where
  backend : after.backend = overrides.backend.getD before.backend
  classPath : after.machine.classPath =
    if overrides.classPath = [] then before.machine.classPath else overrides.classPath
  verbose : after.machine.verbose = (before.machine.verbose || overrides.verbose)
  other : { after.machine with
    classPath := before.machine.classPath, verbose := before.machine.verbose } = before.machine

/-- Overrides say nothing of the backend and its machine that the session does not say itself. -/
structure Overrides.SaysNothingNew (overrides : Overrides) (session : Session) : Prop where
  backend : ∀ kind, overrides.backend = some kind → session.backend = kind
  classPath : overrides.classPath ≠ [] → session.machine.classPath = overrides.classPath
  verbose : overrides.verbose = true → session.machine.verbose = true

namespace Session

variable {session after : Session} {overrides : Overrides}

theorem said_override (session : Session) (overrides : Overrides) :
    overrides.Said session (session.override overrides).1 := by
  unfold override
  cases Options.ofPairs overrides.options <;> exact ⟨rfl, by simp, rfl, rfl⟩

/-- What was said has changed nothing if it was nothing new. -/
theorem eq_iff_saysNothingNew (hsaid : overrides.Said session after)
    (hoptions : after.options = session.options) :
    after = session ↔ overrides.SaysNothingNew session := by
  constructor
  · rintro rfl
    refine ⟨fun kind hkind ↦ ?_, fun hpath ↦ ?_, fun hverbose ↦ ?_⟩
    · rw [hsaid.backend, hkind, Option.getD_some]
    · rw [hsaid.classPath, if_neg hpath]
    · rw [hsaid.verbose, hverbose, Bool.or_true]
  · intro hknown
    have hbackend : after.backend = session.backend := by
      rw [hsaid.backend]
      cases hkind : overrides.backend with
      | none => rfl
      | some kind => exact (hknown.backend kind hkind).symm
    have hpath : after.machine.classPath = session.machine.classPath := by
      rw [hsaid.classPath]
      split
      · rfl
      · rename_i hgiven
        exact (hknown.classPath hgiven).symm
    have hverbose : after.machine.verbose = session.machine.verbose := by
      rw [hsaid.verbose]
      cases hgiven : overrides.verbose with
      | false => exact Bool.or_false _
      | true => rw [hknown.verbose hgiven, Bool.or_true]
    have hmachine : after.machine = session.machine := by
      rw [← hsaid.other, ← hpath, ← hverbose]
    cases after
    cases session
    simp_all only

/-- Options that can be read come in together. -/
theorem override_of_gives (session : Session) {sets : List (String × String)}
    (h : List.Forall₂ Options.Gives overrides.options sets) :
    (session.override overrides).2 = none ∧
      (session.override overrides).1.options = session.options.merge (Options.ofEntries sets) := by
  have hread : Options.ofPairs overrides.options = .ok (Options.ofEntries sets) :=
    Options.ofPairs_eq_ok_iff.mpr ⟨sets, h, rfl⟩
  simp [override, hread]

/-- Options that cannot be read do not come in. -/
theorem override_of_refused (session : Session) {error : Error}
    (h : Options.ofPairs overrides.options = .error error) :
    (session.override overrides).2 = some error ∧
      (session.override overrides).1.options = session.options := by
  simp [override, h]

/-- Overrides come into a session with all of their options or with none of them. If every text sets
an option, each key has the value that is given last, and the value from before if none is given.
If not, the first text that sets none says why, and no option has changed. What is said of the
backend and its machine counts either way, so that the session is as before only if that was
nothing new. -/
theorem options_overridden_together (session : Session) (overrides : Overrides) :
    overrides.Said session (session.override overrides).1 ∧
      ((session.override overrides).2 = none ↔ ∀ text ∈ overrides.options, Options.IsPair text) ∧
      ((session.override overrides).2 = none →
        ∃ sets, List.Forall₂ Options.Gives overrides.options sets ∧ ∀ key,
          (session.override overrides).1.options.get? key =
            (Options.lastValue? sets key).or (session.options.get? key)) ∧
      ∀ error, (session.override overrides).2 = some error →
        (∃ before text rest, overrides.options = before ++ text :: rest ∧
          (∀ earlier ∈ before, Options.IsPair earlier) ∧ Options.readPair text = .error error) ∧
        (session.override overrides).1.options = session.options ∧
        ((session.override overrides).1 = session ↔ overrides.SaysNothingNew session) := by
  have hsaid := said_override session overrides
  refine ⟨hsaid, ?_⟩
  cases hread : Options.ofPairs overrides.options with
  | ok options =>
    have hpairs := Options.exists_ofPairs_eq_ok_iff.mp ⟨options, hread⟩
    obtain ⟨sets, hsets, rfl⟩ := Options.ofPairs_eq_ok_iff.mp hread
    obtain ⟨hnone, hoptions⟩ := override_of_gives session hsets
    refine ⟨iff_of_true hnone hpairs, fun _ ↦ ⟨sets, hsets, fun key ↦ ?_⟩, ?_⟩
    · rw [hoptions, Options.get?_merge_ofEntries]
    · simp [hnone]
  | error refused =>
    obtain ⟨text, hmem, htext⟩ := Options.exists_ofPairs_eq_error_iff.mp ⟨refused, hread⟩
    obtain ⟨hsome, hoptions⟩ := override_of_refused session hread
    rw [hsome]
    refine ⟨iff_of_false (Option.some_ne_none refused) fun hall ↦ htext (hall text hmem), ?_, ?_⟩
    · simp
    · rintro error ⟨⟩
      exact ⟨Options.ofPairs_eq_error_iff.mp hread, hoptions, eq_iff_saysNothingNew hsaid hoptions⟩

/-- A session is given a class path together with a text that sets no option. The text is refused
and the class path stays. -/
theorem class_path_overridden_though_refused :
    (default.override ⟨none, ["x.jar"], true, ["novalue"]⟩).2 =
        some (.config "expected key=value, got 'novalue'") ∧
      (default.override ⟨none, ["x.jar"], true, ["novalue"]⟩).1 ≠ default := by
  decide +kernel

end Session

end ColumnStore
