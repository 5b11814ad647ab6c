import ColumnStore.Console.Command
import ColumnStore.Proofs.Client.Account
import ColumnStore.Proofs.Client.Closing
import ColumnStore.Proofs.Client.Input

/-!
# Uses of the library

A `Use` is an operation of the library with all that it is asked for with: a builder, reader, row
view, writer or configuration in any state, open or closed, bound or not. Giving an object up is no
use, since nothing comes of it but reports. Every use has `Terms`: it heeds every call, except that
objects which it does not need any more may be hard to give up, and it says of which failures it
makes what.

The uses that do one thing after the other and pass over nothing are accounted for here, by one rule
for each family: the steps of a builder, closing, and the objects that a schema is read from.
-/

set_option autoImplicit false

namespace ColumnStore

/-! ### Uses -/

/-- A use of the library: an operation, and what it is asked for with. -/
inductive Use where
  | readerBuilder (path : String) (table : Option String)
  | readerStep (builder : ReaderBuilder) (step : ReaderStep)
  | readerConfiguration (builder : ReaderBuilder) (settings : Configuration)
  | buildReader (builder : ReaderBuilder)
  | buildRemoteReader (builder : ReaderBuilder) (access secret endpoint : String)
  | read (reader : Reader) (request : ReadRequest)
  | closeReader (reader : Reader)
  | ask (accessor : Accessor) (question : Question) (ordinal : Nat)
  | writerBuilder
  | writerStep (builder : WriterBuilder) (step : WriterStep)
  | buildWriter (builder : WriterBuilder)
  | write (writer : Writer) (record : List String)
  | writeValues (writer : Writer) (values : Row)
  | closeWriter (writer : Writer)
  | newConfiguration
  | configurationOf (options : Options)
  | setEntry (configuration : Configuration) (key value : String)
  | getEntry (configuration : Configuration) (key : String)
  | schema (source : SchemaSource) (path : String)
  | versionDetails (path : String)
  | shutdown

/-- Does what is asked for, whatever comes of it. -/
def Use.perform {σ : Type} : Use → Client σ Unit
  | .readerBuilder path table => (fun _ ↦ ()) <$> ReaderBuilder.forPath path table
  | .readerStep builder step => (fun _ ↦ ()) <$> step.take builder
  | .readerConfiguration builder settings => (fun _ ↦ ()) <$> builder.configuration settings
  | .buildReader builder => (fun _ ↦ ()) <$> builder.build
  | .buildRemoteReader builder access secret endpoint =>
    (fun _ ↦ ()) <$> builder.buildRemote access secret endpoint
  | .read reader request => request.make reader
  | .closeReader reader => (fun _ ↦ ()) <$> reader.close
  | .ask accessor question ordinal => (fun _ ↦ ()) <$> question.ask accessor ordinal
  | .writerBuilder => (fun _ ↦ ()) <$> WriterBuilder.create
  | .writerStep builder step => (fun _ ↦ ()) <$> step.take builder
  | .buildWriter builder => (fun _ ↦ ()) <$> builder.build
  | .write writer record => (fun _ ↦ ()) <$> writer.write record
  | .writeValues writer values => (fun _ ↦ ()) <$> writer.writeValues values
  | .closeWriter writer => (fun _ ↦ ()) <$> writer.close
  | .newConfiguration => (fun _ ↦ ()) <$> Configuration.create
  | .configurationOf options => (fun _ ↦ ()) <$> Configuration.ofOptions options
  | .setEntry configuration key value => configuration.set key value
  | .getEntry configuration key => (fun _ ↦ ()) <$> configuration.get key
  | .schema source path => (fun _ ↦ ()) <$> source.read path
  | .versionDetails path => (fun _ ↦ ()) <$> SchemaReader.versionDetails path
  | .shutdown => Client.shutdown

/-- Does the question take the null that a getter stumbles over for a value? -/
def Question.takesNull : Question → Bool
  | .value | .printed | .printedRow | .values => true
  | _ => false

/-- Does the operation get a field, or the type of the items of one? -/
def Operation.getsField : Operation → Bool
  | .getShort | .getInt | .getLong | .getDouble | .getFloat | .getBoolean | .getString | .getDecimal
  | .getVarchar | .getArray | .elementTypeName => true
  | _ => false

namespace Use

/-- Is a reader or a writer built? -/
def builds : Use → Prop
  | .buildReader _ | .buildRemoteReader _ _ _ _ | .buildWriter _ => True
  | _ => False

/-- Are rows asked for? -/
def reads : Use → Prop
  | .read _ _ => True
  | _ => False

/-- Is an accessor asked? -/
def asks : Use → Prop
  | .ask _ _ _ => True
  | _ => False

/-- Is the object given up because it is not needed any more? -/
def tidies (handle : Handle) : Use → Prop
  | .readerStep builder _ | .readerConfiguration builder _ | .buildReader builder
  | .buildRemoteReader builder _ _ _ => handle = builder.handle
  | .writerStep builder _ | .buildWriter builder => handle = builder.handle
  | .configurationOf _ | .schema _ _ => True
  | _ => False

/-- Every call counts, except that an object which is not needed any more may be hard to give up. -/
def heeds (use : Use) : Call → Prop
  | .release handle => ¬ use.tidies handle
  | _ => True

/-- The purposes that a use makes calls for. -/
def intends (use : Use) : Purpose → Prop
  | .build _ => use.builds
  | .read => use.reads
  | .field _ => use.asks
  | .other => ¬ use.reads

/-- A failure means what its purpose makes of it. A shutdown has no purpose. -/
def means (use : Use) (failure : CallError) (error : Error) : Prop :=
  match use with
  | .shutdown => error = .bridge failure.message
  | use => ∃ activity purpose, use.intends purpose ∧ error = .ofCall activity purpose failure

/-- The errors that a use ends with of its own accord. -/
def objects (use : Use) : Error → Prop
  | .index _ _ | .typeMismatch _ _ => use.asks
  | .closed _ | .config _ | .schema _ | .managed _ _ _ | .bridge _ => True
  | .startup _ | .build _ _ | .exhausted | .context _ _ => False

/-- The failures that a use passes over: the end of the data, met while rows are read one by one,
and a null that a getter stumbles over. -/
def forgives : Use → CallRecord → Prop
  | .read _ .iterate, record =>
    record.call.method? = some Operation.readRow.method ∧ record.Throws "NoSuchElementException"
  | .ask _ question _, record =>
    question.takesNull = true ∧ record.Throws "NullPointerException" ∧
      ∃ operation : Operation, operation.getsField = true ∧
        record.call.method? = some operation.method
  | _, _ => False

/-- The terms of a use. -/
def terms (use : Use) : Terms where
  makes _ := True
  heeds := use.heeds
  means := use.means
  objects := use.objects
  forgives := use.forgives
  wraps := True

/-- Is everything done for no special purpose and nothing forgiven, a build apart? -/
def isOrdinary : Use → Bool
  | .read _ _ | .ask _ _ _ | .shutdown => false
  | _ => true

variable {use : Use}

theorem heeds_of_method? {call : Call} {method : Method} (h : call.method? = some method) :
    use.heeds call := by
  cases call with
  | release handle => cases h
  | _ => trivial

theorem objects_of_concernsInput {error : Error} (h : error.concernsInput = true) :
    use.objects error := by
  cases error with
  | config reason => trivial
  | schema reason => trivial
  | _ => cases h

end Use

/-- Calls of methods are covered for no special purpose, and input may be objected to. -/
structure Terms.Ordinary (terms : Terms) : Prop where
  covers : ∀ call method, call.method? = some method → terms.Covers call .other
  input : ∀ error, error.concernsInput = true → terms.objects error
  closed : ∀ what, terms.objects (.closed what)

/-- The steps of a builder: the builder is given up if one fails, and so is at once every other
object that a step returns, which must succeed. -/
structure Terms.Builds (terms : Terms) (handle : Handle) : Prop extends terms.Ordinary where
  spares : ∀ other, other ≠ handle → terms.Covers (.release other) .other
  tidies : ¬ terms.heeds (.release handle) ∧ terms.makes (.release handle)

namespace Use

variable {use : Use} {handle : Handle}

theorem means_of_isOrdinary (h : use.isOrdinary = true) (activity : String) (failure : CallError) :
    use.means failure (.ofCall activity .other failure) := by
  cases use with
  | read reader request => cases h
  | ask accessor question ordinal => cases h
  | shutdown => cases h
  | _ => exact ⟨activity, .other, id, rfl⟩

theorem not_forgives_of_isOrdinary (h : use.isOrdinary = true) (record : CallRecord) :
    ¬ use.forgives record := by
  cases use with
  | read reader request => cases h
  | ask accessor question ordinal => cases h
  | _ => exact id

theorem ordinary (h : use.isOrdinary = true) : use.terms.Ordinary where
  covers _ _ hmethod :=
    ⟨trivial, heeds_of_method? hmethod, means_of_isOrdinary h,
      fun _ ↦ not_forgives_of_isOrdinary h _⟩
  input _ := objects_of_concernsInput
  closed _ := trivial

theorem builds_terms (h : use.isOrdinary = true)
    (htidies : ∀ other, use.tidies other ↔ other = handle) :
    use.terms.Builds handle where
  toOrdinary := ordinary h
  spares other hother :=
    ⟨trivial, fun hthis ↦ hother ((htidies other).mp hthis), means_of_isOrdinary h,
      fun _ ↦ not_forgives_of_isOrdinary h _⟩
  tidies := ⟨fun hheeds ↦ hheeds ((htidies handle).mpr rfl), trivial⟩

end Use

/-! ### Builders -/

section Builders

variable {σ α β : Type} {backend : Backend σ} {terms : Terms} {handle : Handle}

open Client Terms

/-- A step that changes nothing but the backend can be taken again and again. -/
theorem foldlM_pure_self (act : α → β → Client σ Unit) (items : List β) (a : α) :
    items.foldlM (fun a item ↦ do
      act a item
      pure a) a = (do
      items.forM (act a)
      pure a) := by
  induction items with
  | nil => exact (pure_bind _ _).symm
  | cons item items ih =>
    rw [List.foldlM_cons, bind_assoc]
    simp only [pure_bind, ih]
    exact (bind_assoc _ _ _).symm

/-- Input that is not usable is refused. -/
theorem accounted_input {result : Except Error α}
    (hinput : ∀ error, error.concernsInput = true → terms.objects error) {error : Error}
    (hchecks : ChecksInput result) (hresult : result = .error error) :
    Accounted terms [] backend (refuse error : Client (Recorded σ) β) := by
  have hconcerns := hchecks error hresult
  exact accounted_refuse (Error.cause_of_concernsInput hconcerns) (hinput error hconcerns)

/-- A step succeeds if it returns the builder, or another object that can be given up. -/
theorem accounted_chain (hbuilds : terms.Builds handle) {operation : Operation}
    (hreturns : operation.method.returns = .object) (arguments : List Argument) (name : String) :
    Accounted terms [] backend (do
      expect name .other (← Client.chain handle operation arguments)) := by
  have hcovers := hbuilds.covers (.onObject handle operation.method arguments) _ rfl
  unfold Client.chain
  rw [bind_assoc]
  refine accounted_call_bind hcovers.makes ?_
  intro outcome result hresult
  have htells := CallRecord.tells_bind (.onObject handle operation.method arguments)
    Returned.takes_toObject rfl rfl rfl hreturns hresult
  cases htaken : result.bind (Returned.toObject operation.method) with
  | error error =>
    rw [htaken] at htells
    dsimp only
    rw [pure_bind]
    exact accounted_expect name hcovers htells
  | ok returned =>
    rw [htaken] at htells
    dsimp only
    by_cases hreturned : returned = handle
    · rw [if_pos hreturned, pure_bind]
      exact accounted_expect name hcovers htells
    · rw [if_neg hreturned]
      have hspares := hbuilds.spares returned hreturned
      have hrelease : Accounted terms [] backend (do
          expect name .other (← release returned)) :=
        accounted_release_bind hspares.makes fun outcome result hresult ↦
          accounted_expect name hspares (CallRecord.tells_result _ _ hresult nofun)
      exact hrelease.after (passes_singleton htells)

/-- A builder is given up if a step fails. -/
theorem accounted_step (hbuilds : terms.Builds handle) {action : Client (Recorded σ) Unit}
    (h : Accounted terms [] backend action) :
    Accounted terms [] backend (cleaning (discard handle) action) :=
  h.cleaning (tidies_discard hbuilds.tidies.2 hbuilds.tidies.1)

theorem accounted_holding {action : Client (Recorded σ) α} (hbuilds : terms.Builds handle)
    (h : Accounted terms [] backend action) :
    Accounted terms [] backend (holding handle action) :=
  h.tidied (tidies_discard hbuilds.tidies.2 hbuilds.tidies.1)

/-- What comes last is an object that is built. -/
theorem accounted_building {operation : Operation} {purpose : Purpose} (activity : String)
    (hcovers : terms.Covers (.onObject handle operation.method []) purpose)
    (hreturns : operation.method.returns = .object) (event : Event) (build : Handle → α) :
    Accounted terms [] backend (do
      let returned ← call handle operation []
      let handle ← expect activity purpose
        (returned.bind (Returned.toObject operation.method))
      report event
      pure (build handle)) := by
  refine accounted_call_bind hcovers.makes fun outcome result hresult ↦ ?_
  refine (accounted_taken Returned.takes_toObject hreturns hcovers rfl hresult activity).bind ?_
  exact fun other ↦ (accounted_report event).bind fun _ ↦ accounted_pure _

namespace ReaderBuilder

variable {builder : ReaderBuilder}

theorem accounted_create (hordinary : terms.Ordinary) (path : String) (table : Option String)
    {operation : Operation} {arguments : List Argument}
    (hname : operation.method.name = Operation.newReaderBuilder.method.name)
    (hreturns : operation.method.returns = Operation.newReaderBuilder.method.returns) :
    Accounted terms [] backend (create path table (callStatic operation arguments)) := by
  have hcovers := hordinary.covers (.onClass operation.method arguments) _ rfl
  refine accounted_callStatic_bind hcovers.makes fun outcome result hresult ↦ ?_
  refine (accounted_expect _ hcovers
    (CallRecord.tells_bind _ Returned.takes_toObject rfl hname hreturns rfl hresult)).bind ?_
  exact fun _ ↦ (accounted_report _).bind fun _ ↦ accounted_pure _

theorem accounted_forPath (hordinary : terms.Ordinary) (path : String) (table : Option String) :
    Accounted terms [] backend (forPath path table) := by
  cases table with
  | none => exact accounted_create hordinary path none rfl rfl
  | some table => exact accounted_create hordinary path (some table) rfl rfl

/-- A step goes on with the builder if nothing fails. -/
theorem accounted_stepped (hbuilds : terms.Builds builder.handle)
    {action : Client (Recorded σ) Unit} (h : Accounted terms [] backend action) :
    Accounted terms [] backend (builder.step action) :=
  (accounted_step hbuilds h).bind fun _ ↦ accounted_pure builder

theorem options_eq (builder : ReaderBuilder) (options : Options) :
    (builder.options options : Client σ ReaderBuilder) = (do
      options.entries.forM fun entry ↦
        cleaning builder.drop (builder.chain ("withHadoopConf(" ++ entry.1 ++ ")") .setReaderOption
          [.text entry.1, .text entry.2])
      pure builder) :=
  foldlM_pure_self _ options.entries builder

theorem accounted_entries (hbuilds : terms.Builds builder.handle) (options : Options) :
    Accounted terms [] backend (options.entries.forM fun entry ↦
      cleaning builder.drop (builder.chain ("withHadoopConf(" ++ entry.1 ++ ")") .setReaderOption
        [.text entry.1, .text entry.2])) :=
  accounted_forM _ fun _ ↦ accounted_step hbuilds (accounted_chain hbuilds rfl _ _)

theorem accounted_options (hbuilds : terms.Builds builder.handle) (options : Options) :
    Accounted terms [] backend (builder.options options) := by
  rw [options_eq]
  exact (accounted_entries hbuilds options).bind fun _ ↦ accounted_pure _

theorem accounted_take (hbuilds : terms.Builds builder.handle) (step : ReaderStep) :
    Accounted terms [] backend (step.take builder) := by
  cases step with
  | projection columns =>
    show Accounted terms [] backend (if columns.isEmpty then pure builder else _)
    split
    · exact accounted_pure builder
    · exact accounted_stepped hbuilds (accounted_chain hbuilds rfl _ _)
  | option key value => exact accounted_stepped hbuilds (accounted_chain hbuilds rfl _ _)
  | options entries => exact accounted_options hbuilds entries
  | optionPairs texts =>
    show Accounted terms [] backend (builder.optionPairs texts)
    unfold optionPairs
    split
    · exact accounted_options hbuilds _
    · rename_i error herror
      exact accounted_stepped hbuilds
        (accounted_input hbuilds.input (Options.checksInput_ofPairs texts) herror)
  | batchSize size =>
    refine Accounted.bind (accounted_stepped hbuilds ?_) fun _ ↦
      accounted_pure _
    split
    · exact accounted_chain hbuilds rfl _ _
    · rename_i error herror
      exact accounted_input hbuilds.input (checksInput_readBatch size) herror

theorem accounted_build (hbuilds : terms.Builds builder.handle)
    (hcovers : terms.Covers (.onObject builder.handle Operation.buildReader.method [])
      (.build builder.path)) :
    Accounted terms [] backend builder.build := by
  refine accounted_holding hbuilds ?_
  exact accounted_building "build" hcovers rfl _ fun handle ↦
    (⟨handle, builder.path, builder.batch, false⟩ : Reader)

theorem accounted_buildRemote (hbuilds : terms.Builds builder.handle)
    (hcovers : terms.Covers (.onObject builder.handle Operation.buildReader.method [])
      (.build builder.path)) (access secret endpoint : String) :
    Accounted terms [] backend (builder.buildRemote access secret endpoint) := by
  unfold buildRemote
  simp only [options_eq, bind_assoc, pure_bind]
  exact (accounted_entries hbuilds _).bind fun _ ↦ accounted_build hbuilds hcovers

end ReaderBuilder

namespace WriterBuilder

variable {builder : WriterBuilder}

theorem accounted_create (hordinary : terms.Ordinary) :
    Accounted terms [] backend (create : Client (Recorded σ) WriterBuilder) := by
  have hcovers := hordinary.covers (.onClass Operation.newWriterBuilder.method []) _ rfl
  refine accounted_callStatic_bind hcovers.makes fun outcome result hresult ↦ ?_
  exact (accounted_taken Returned.takes_toObject rfl hcovers rfl hresult _).bind fun _ ↦
    accounted_pure _

theorem accounted_stepped (hbuilds : terms.Builds builder.handle)
    {action : Client (Recorded σ) Unit} (h : Accounted terms [] backend action) :
    Accounted terms [] backend (builder.step action) :=
  (accounted_step hbuilds h).bind fun _ ↦ accounted_pure builder

theorem accounted_stepped_chain (hbuilds : terms.Builds builder.handle) {operation : Operation}
    (hreturns : operation.method.returns = .object) (arguments : List Argument) (name : String) :
    Accounted terms [] backend (builder.step (builder.chain name operation arguments)) :=
  accounted_stepped hbuilds (accounted_chain hbuilds hreturns arguments name)

theorem accounted_options (hbuilds : terms.Builds builder.handle) (options : Options) :
    Accounted terms [] backend (builder.options options) := by
  have hoptions : (builder.options options : Client (Recorded σ) WriterBuilder) = (do
      options.entries.forM fun entry ↦
        cleaning builder.drop (builder.chain ("withHadoopConf(" ++ entry.1 ++ ")") .setWriterOption
          [.text entry.1, .text entry.2])
      pure builder) := foldlM_pure_self _ options.entries builder
  rw [hoptions]
  exact (accounted_forM _ fun _ ↦ accounted_step hbuilds (accounted_chain hbuilds rfl _ _)).bind
    fun _ ↦ accounted_pure _

theorem accounted_schemaText (hbuilds : terms.Builds builder.handle) (text : String) :
    Accounted terms [] backend (builder.schemaText text) := by
  unfold schemaText
  split
  · rename_i error herror
    exact accounted_stepped hbuilds
      (accounted_input hbuilds.input (Schema.checksInput_read text) herror)
  · exact (accounted_stepped_chain hbuilds rfl _ _).bind fun _ ↦
      accounted_pure _

theorem accounted_take (hbuilds : terms.Builds builder.handle) (step : WriterStep) :
    Accounted terms [] backend (step.take builder) := by
  have hrefuse {error : Error} (hconcerns : error.concernsInput = true) :
      Accounted terms [] backend (refuse error : Client (Recorded σ) Unit) :=
    accounted_refuse (Error.cause_of_concernsInput hconcerns) (hbuilds.input error hconcerns)
  cases step with
  | outputPath path =>
    exact (accounted_stepped_chain hbuilds rfl _ _).bind fun _ ↦
      accounted_pure _
  | schemaText text => exact accounted_schemaText hbuilds text
  | schema fields =>
    show Accounted terms [] backend (if fields.isEmpty then _ else _)
    split
    · exact accounted_stepped hbuilds (hrefuse rfl)
    · exact accounted_schemaText hbuilds fields.text
  | option key value => exact accounted_stepped_chain hbuilds rfl _ _
  | options entries => exact accounted_options hbuilds entries
  | writtenBy name =>
    exact (accounted_stepped_chain hbuilds rfl _ _).bind fun _ ↦
      accounted_pure _
  | sortBy columns => exact accounted_stepped_chain hbuilds rfl _ _
  | blockSize size =>
    refine accounted_stepped hbuilds ?_
    split
    · exact accounted_chain hbuilds rfl _ _
    · exact hrefuse rfl
  | blockletSize size =>
    refine accounted_stepped hbuilds ?_
    split
    · exact accounted_chain hbuilds rfl _ _
    · exact hrefuse rfl
  | uniqueIdentifier identifier => exact accounted_stepped_chain hbuilds rfl _ _

theorem accounted_build (hbuilds : terms.Builds builder.handle)
    (hcovers : ∀ path, terms.Covers (.onObject builder.handle Operation.buildWriter.method [])
      (.build path)) :
    Accounted terms [] backend builder.build := by
  have hwrite (other : WriterBuilder) (hhandle : other.handle = builder.handle) :
      Accounted terms [] backend (holding other.handle (do
        let returned ← call other.handle .buildWriter []
        let handle ← expect "build" (.build (other.path.getD ""))
          (returned.bind (Returned.toObject Operation.buildWriter.method))
        report ⟨.info, "writer built", [("path", other.path.getD "")]⟩
        pure (⟨handle, other.path.getD "", other.schema, 0, false⟩ : Writer))) := by
    rw [hhandle]
    refine accounted_holding hbuilds ?_
    exact accounted_building "build" (hcovers _) rfl _ fun handle ↦
      (⟨handle, other.path.getD "", other.schema, 0, false⟩ : Writer)
  unfold build
  by_cases hnamed : builder.named = true
  · rw [if_pos hnamed, pure_bind]
    exact hwrite builder rfl
  · rw [if_neg hnamed]
    unfold writtenBy step
    simp only [bind_assoc, pure_bind]
    exact (accounted_step hbuilds (accounted_chain hbuilds rfl _ _)).bind fun _ ↦
      hwrite { builder with named := true } rfl

end WriterBuilder

end Builders

/-! ### Writers, schemas and configurations -/

section Ordinary

variable {σ α : Type} {backend : Backend σ} {terms : Terms}

open Client Terms

/-- A close succeeds if its call returns as it should. -/
theorem accounted_closing (hordinary : terms.Ordinary) (handle : Handle) {operation : Operation}
    (hreturns : operation.method.returns = .nothing) (activity : String) (event : Event)
    (closed : α) :
    Accounted terms [] backend (do
      let returned ← call handle operation []
      expect activity .other (returned.bind (Returned.toNothing operation.method))
      report event
      pure closed) := by
  have hcovers := hordinary.covers (.onObject handle operation.method []) _ rfl
  refine accounted_call_bind hcovers.makes fun outcome result hresult ↦ ?_
  refine (accounted_taken Returned.takes_toNothing hreturns hcovers rfl hresult activity).bind ?_
  exact fun _ ↦ (accounted_report event).bind fun _ ↦ accounted_pure closed

theorem Reader.accounted_close (hordinary : terms.Ordinary) (reader : Reader) :
    Accounted terms [] backend reader.close := by
  unfold Reader.close
  split
  · exact accounted_pure reader
  · exact accounted_closing hordinary reader.handle rfl ("close(" ++ reader.path ++ ")")
      ⟨.info, "reader closed", [("path", reader.path)]⟩ ({ reader with closed := true } : Reader)

theorem Writer.accounted_close (hordinary : terms.Ordinary) (writer : Writer) :
    Accounted terms [] backend writer.close := by
  unfold Writer.close
  split
  · exact accounted_pure writer
  · exact accounted_closing hordinary writer.handle rfl "close" ⟨.debug, "writer closed",
      [("path", writer.path), ("rows", toString writer.written)]⟩
      ({ writer with closed := true } : Writer)

/-- A record that is refused is named with the error. -/
theorem Writer.accounted_write (hordinary : terms.Ordinary) (hwraps : terms.wraps) (writer : Writer)
    (record : List String) : Accounted terms [] backend (writer.write record) := by
  let call : Call := .onObject writer.handle Operation.writeRecord.method [.texts record]
  have hcovers := hordinary.covers call _ rfl
  unfold Writer.write
  split
  · exact accounted_refuse rfl (hordinary.closed .writer)
  · refine accounted_call_bind hcovers.makes fun outcome result hresult ↦ ?_
    have htells := CallRecord.tells_bind call Returned.takes_toNothing rfl rfl rfl rfl
      hresult
    cases htaken : result.bind (Returned.toNothing Operation.writeRecord.method) with
    | ok _ =>
      rw [htaken] at htells
      exact accounted_pure_of_passes _ (passes_singleton htells)
    | error failure =>
      rw [htaken] at htells
      exact accounted_of_ends (fun _ ↦ runs_refuse _)
        ((accounts_ofCall hcovers htells "write").context _ hwraps)

namespace Configuration

theorem accounted_create (hordinary : terms.Ordinary) :
    Accounted terms [] backend (create : Client (Recorded σ) Configuration) := by
  have hcovers := hordinary.covers (.construct Operation.newConfiguration.method []) _ rfl
  refine accounted_construct_bind hcovers.makes fun outcome result hresult ↦ ?_
  have htells : (⟨.construct Operation.newConfiguration.method [],
      outcome.map fun handle ↦ .object (some handle)⟩ : CallRecord).Tells result := by
    refine CallRecord.tells_result _ _ hresult ?_
    rintro handle _ ⟨⟩
    rfl
  exact (accounted_expect _ hcovers htells).bind fun _ ↦ accounted_pure _

theorem accounted_get (hordinary : terms.Ordinary) (configuration : Configuration) (key : String) :
    Accounted terms [] backend (configuration.get key) := by
  have hcovers := hordinary.covers
    (.onObject configuration.handle Operation.getEntry.method [.text key]) _ rfl
  exact accounted_call_bind hcovers.makes fun outcome result hresult ↦
    accounted_taken Returned.takes_toText rfl hcovers rfl hresult _

theorem accounted_set (hordinary : terms.Ordinary) (configuration : Configuration)
    (key value : String) : Accounted terms [] backend (configuration.set key value) := by
  have hcovers := hordinary.covers
    (.onObject configuration.handle Operation.setEntry.method [.text key, .text value]) _ rfl
  refine accounted_call_bind hcovers.makes fun outcome result hresult ↦ ?_
  refine (accounted_taken Returned.takes_toNothing rfl hcovers rfl hresult _).bind fun _ ↦ ?_
  exact (accounted_get hordinary configuration key).bind fun _ ↦ accounted_report _

theorem accounted_ofOptions (hordinary : terms.Ordinary)
    (htidies : ∀ handle, terms.makes (.release handle) ∧ ¬ terms.heeds (.release handle))
    (options : Options) : Accounted terms [] backend (ofOptions options) := by
  refine (accounted_create hordinary).bind fun configuration ↦ ?_
  have hset : Accounted terms [] backend
      (options.entries.forM fun entry ↦ configuration.set entry.1 entry.2) :=
    accounted_forM _ fun entry ↦ accounted_set hordinary configuration entry.1 entry.2
  exact (hset.cleaning (tidies_discard (htidies _).1 (htidies _).2)).bind fun _ ↦
    accounted_pure configuration

end Configuration

namespace SchemaReader

theorem accounted_text (hordinary : terms.Ordinary) (handle : Handle) {operation : Operation}
    (hreturns : operation.method.returns = .text) :
    Accounted terms [] backend (text handle operation) := by
  have hcovers := hordinary.covers (.onObject handle operation.method []) _ rfl
  refine accounted_call_bind hcovers.makes fun outcome result hresult ↦ ?_
  refine (accounted_taken Returned.takes_toText hreturns hcovers rfl hresult _).bind ?_
  rintro (_ | content)
  · exact accounted_refuse rfl (hordinary.input _ rfl)
  · exact accounted_pure content

theorem accounted_object (hordinary : terms.Ordinary) (handle : Handle) {operation : Operation}
    (hreturns : operation.method.returns = .object) :
    Accounted terms [] backend (object handle operation) := by
  have hcovers := hordinary.covers (.onObject handle operation.method []) _ rfl
  exact accounted_call_bind hcovers.makes fun outcome result hresult ↦
    accounted_taken Returned.takes_toObject hreturns hcovers rfl hresult _

theorem accounted_typeOf (hordinary : terms.Ordinary) (handle : Handle) :
    Accounted terms [] backend (typeOf handle) := by
  refine (accounted_text hordinary handle rfl).bind fun name ↦ ?_
  split
  · exact accounted_pure _
  · rename_i error herror
    exact accounted_input hordinary.input (DataType.checksInput_read name) herror

variable (hordinary : terms.Ordinary)
  (htidies : ∀ handle, terms.makes (.release handle) ∧ ¬ terms.heeds (.release handle))

include hordinary htidies

theorem accounted_field (handle : Handle) : Accounted terms [] backend (field handle) := by
  refine (accounted_text hordinary handle rfl).bind fun name ↦ ?_
  refine (accounted_object hordinary handle rfl).bind fun type ↦ ?_
  refine Accounted.tidied ?_ (tidies_discard (htidies type).1 (htidies type).2)
  refine (accounted_typeOf hordinary type).bind fun columnType ↦ ?_
  split
  · exact accounted_pure _
  · refine (accounted_object hordinary type rfl).bind fun element ↦ ?_
    refine Accounted.tidied ?_ (tidies_discard (htidies element).1 (htidies element).2)
    exact (accounted_typeOf hordinary element).bind fun _ ↦
      accounted_pure _

/-- A schema says with an error where it was read. -/
theorem accounted_read (hwraps : terms.wraps) {operation : Operation}
    (hreturns : operation.method.returns = .object) (path : String) :
    Accounted terms [] backend (read operation path) := by
  have hcovers := hordinary.covers (.onClass operation.method [.text path]) _ rfl
  refine accounted_callStatic_bind hcovers.makes fun outcome result hresult ↦ ?_
  refine (accounted_taken Returned.takes_toObject hreturns hcovers rfl hresult _).bind
    fun schema ↦ ?_
  refine Accounted.tidied ?_ (tidies_discard (htidies schema).1 (htidies schema).2)
  have hfields := hordinary.covers (.onObject schema Operation.schemaFields.method []) _ rfl
  refine accounted_call_bind hfields.makes fun outcome result hresult ↦ ?_
  refine (accounted_taken Returned.takes_toObjects rfl hfields rfl hresult _).bind fun handles ↦ ?_
  refine Accounted.tidied ?_ (tidies_discardAll htidies)
  refine (accounted_mapM handles (accounted_field hordinary htidies)).attempt_bind
    (Terms.Within.refl terms) ?_ ?_
  · exact fun fields ↦ (accounted_report _).bind fun _ ↦ accounted_pure _
  · intro error fresh _ haccounts
    have hcontext := haccounts.context (operation.method.name ++ "(" ++ path ++ ")") hwraps
    exact accounted_of_ends (fun _ ↦ runs_refuse _) hcontext.hand

omit htidies

theorem accounted_versionDetails (path : String) :
    Accounted terms [] backend (versionDetails path) := by
  have hcovers := hordinary.covers (.onClass Operation.versionDetails.method [.text path]) _ rfl
  refine accounted_callStatic_bind hcovers.makes fun outcome result hresult ↦ ?_
  refine (accounted_taken Returned.takes_toText rfl hcovers rfl hresult _).bind ?_
  rintro (_ | content)
  · exact accounted_refuse rfl (hordinary.input _ rfl)
  · exact accounted_pure content

end SchemaReader

end Ordinary

end ColumnStore
