import ColumnStore.MachineSettings
import ColumnStore.Tool.Error
import ColumnStore.Yaml.Node

/-!
# Sessions

A `Session` says which backend is used, how its virtual machine is started and which options readers
and writers get. It is read from a YAML document, in which every part may be left out and unknown
keys do not count. Without a session file the virtual machine is set up from the environment.
`Session.override` puts what was said on the command line on top.
-/

set_option autoImplicit false

namespace ColumnStore

namespace Yaml

namespace Node

/-- The text of a scalar. -/
def text? : Node → Option String
  | scalar text _ => some text
  | _ => none

/-- The texts of a sequence of scalars; a node that is left out counts as an empty sequence. -/
def texts? : Node → Option (List String)
  | sequence items => items.mapM text?
  | scalar text plain => if plain && text.isEmpty then some [] else none
  | mapping _ => none

/-- The truth value of a plain scalar. -/
def truth? : Node → Option Bool
  | scalar text true =>
    if ["true", "True", "TRUE"].contains text then some true
    else if ["false", "False", "FALSE"].contains text then some false
    else none
  | _ => none

/-- The entries of a mapping whose keys are scalars; a node that is left out counts as an empty
mapping. -/
def entries? : Node → Option (List (String × Node))
  | mapping entries => entries.mapM fun entry ↦ do pure (← entry.1.text?, entry.2)
  | scalar text plain => if plain && text.isEmpty then some [] else none
  | sequence _ => none

/-- The part of some entries under a key, which must not occur twice. -/
def part {α : Type} (entries : List (String × Node)) (key : String) (read : Node → Option α)
    (default : α) : Option α :=
  match entries.filter fun entry ↦ entry.1 == key with
  | [] => some default
  | [entry] => read entry.2
  | _ => none

end Node

end Yaml

/-- The backends. -/
inductive BackendKind where
  /-- The backend in the process itself. -/
  | memory
  /-- A virtual machine that runs the managed library. -/
  | machine
  deriving DecidableEq, Repr

/-- The name of a backend. -/
def BackendKind.name : BackendKind → String
  | .memory => "memory"
  | .machine => "jvm"

/-- The backend of a name. -/
def BackendKind.ofName? (name : String) : Option BackendKind :=
  [BackendKind.memory, .machine].find? fun kind ↦ kind.name == name

/-- What a run of the tool works with. -/
structure Session where
  backend : BackendKind
  machine : MachineSettings
  options : Options
  deriving DecidableEq, Repr

/-- What wins over the session. -/
structure Overrides where
  backend : Option BackendKind
  classPath : List String
  verbose : Bool
  /-- Options as `key=value` texts. -/
  options : List String

/-- Reads the settings of the virtual machine. -/
def MachineSettings.ofNode? (node : Yaml.Node) : Option MachineSettings := do
  let default := MachineSettings.default
  let entries ← node.entries?
  let part {α : Type} (key : String) (read : Yaml.Node → Option α) (default : α) : Option α :=
    Yaml.Node.part entries key read default
  pure {
    classPath := ← part "classpath" Yaml.Node.texts? default.classPath
    verbose := ← part "verbose_jni" Yaml.Node.truth? default.verbose
    disableCompiler := ← part "disable_jit" Yaml.Node.truth? default.disableCompiler
    extraOptions := ← part "jvm_options" Yaml.Node.texts? default.extraOptions
    ignoreUnrecognized :=
      ← part "ignore_unrecognized" Yaml.Node.truth? default.ignoreUnrecognized }

/-- Reads options, which are listed in key order. The last value of a key counts. -/
def Options.ofNode? (node : Yaml.Node) : Option Options := do
  let entries ← node.entries?
  let entries ← entries.mapM fun entry ↦ do pure (entry.1, ← entry.2.text?)
  pure (Options.ofEntries (Dictionary.ofEntries entries))

namespace Session

/-- The session if nothing is said. -/
def default : Session := ⟨.memory, .default, .empty⟩

/-- Reads a session. -/
def ofNode? (node : Yaml.Node) : Option Session := do
  let entries ← node.entries?
  let backendOf (node : Yaml.Node) : Option BackendKind := node.text?.bind BackendKind.ofName?
  pure {
    backend := ← Yaml.Node.part entries "backend_kind" backendOf default.backend
    machine := ← Yaml.Node.part entries "runtime" MachineSettings.ofNode? default.machine
    options := ← Yaml.Node.part entries "backend" Options.ofNode? default.options }

/-- The session in a text from the file `path`. -/
def read (path text : String) : Except ToolError Session :=
  match (Yaml.Node.ofText? text).bind fun
    | some node => ofNode? node
    | none => some default with
  | some session => .ok session
  | none => .error (.invalidSession path)

/-- Why bytes are no text. -/
def encodingReason : String := "stream did not contain valid UTF-8"

/-- The session in a file, of which the bytes are given, or the reason why there are none. -/
def load (path : String) (content : Except String (List UInt8)) : Except ToolError Session :=
  match content with
  | .error reason => .error (.unreadable path reason)
  | .ok bytes =>
    match Utf8.decode bytes with
    | .error _ => .error (.unreadable path encodingReason)
    | .ok text => read path text

/-- The session without a session file. -/
def ofEnvironment (environment : Options) : Session :=
  { default with machine := .ofEnvironment environment }

/-- Puts overrides on top of a session. If the options cannot be read, everything else has been
put there all the same. -/
def override (session : Session) (overrides : Overrides) : Session × Option Error :=
  let machine := session.machine
  let session : Session :=
    { session with
      backend := overrides.backend.getD session.backend
      machine :=
        { machine with
          classPath :=
            if overrides.classPath.isEmpty then machine.classPath else overrides.classPath
          verbose := machine.verbose || overrides.verbose } }
  match Options.ofPairs overrides.options with
  | .ok options => ({ session with options := session.options.merge options }, none)
  | .error error => (session, some error)

/-- Refuses a backend that is not part of the library. -/
def available (session : Session) : Except ToolError Unit :=
  match session.backend with
  | .memory => .ok ()
  | .machine => .error (.unavailable session.backend.name)

end Session

end ColumnStore
