import ColumnStore.Options

/-!
# Settings of the embedded virtual machine

`MachineSettings` say where the managed classes are found and which options the virtual machine
gets. `MachineSettings.ofEnvironment` takes the defaults and lets three environment variables
override them.
-/

set_option autoImplicit false

namespace ColumnStore

/-- How an embedded virtual machine is started. -/
structure MachineSettings where
  /-- The archives and folders that hold managed classes. -/
  classPath : List String
  /-- Report every call between the two sides. -/
  verbose : Bool
  /-- Only interpret managed code. -/
  disableCompiler : Bool
  /-- More options, handed over as they are. -/
  extraOptions : List String
  ignoreUnrecognized : Bool
  deriving DecidableEq, Repr

namespace MachineSettings

/-- Where the managed classes are if nothing else is said. -/
def defaultClassPath : String := "../../sdk/target/carbondata-sdk.jar"

/-- The settings if nothing is said. -/
def default : MachineSettings := ⟨[defaultClassPath], false, false, [], false⟩

/-- The values of a variable that turn a switch on. -/
def isYes (text : String) : Bool :=
  text == "1" || text == "true" || text == "yes"

/-- The default settings with what the environment overrides. A class path without entries does not
count. -/
def ofEnvironment (environment : Options) : MachineSettings :=
  let entries := match environment.get? "CARBONR_CLASSPATH" with
    | some text => (Text.splitAll ':' text).filter fun entry ↦ !entry.isEmpty
    | none => []
  { default with
    classPath := if entries.isEmpty then default.classPath else entries
    extraOptions := ((environment.get? "CARBONR_JVM_OPTS").map Text.words).getD []
    verbose := ((environment.get? "CARBONR_VERBOSE_JNI").map isYes).getD false }

/-- Refuses settings without a class path and options that do not begin with a dash. -/
def check (settings : MachineSettings) : Except Error Unit :=
  if settings.classPath.all Text.isAllBlank then .error (.config "classpath is empty")
  else
    match settings.extraOptions.find? fun option ↦ !Text.beginsWith "-" option with
    | some option => .error (.config ("JVM option '" ++ option ++ "' must start with '-'"))
    | none => .ok ()

/-- The class path as one text. -/
def classPathText (settings : MachineSettings) : String :=
  Text.joinWith ":" (settings.classPath.filter fun entry ↦ !Text.isAllBlank entry)

/-- The options in the order in which the virtual machine gets them. -/
def options (settings : MachineSettings) : List String :=
  ["-Djava.class.path=" ++ settings.classPathText]
    ++ (if settings.verbose then ["-verbose:jni"] else [])
    ++ (if settings.disableCompiler then ["-Djava.compiler=NONE"] else [])
    ++ settings.extraOptions

end MachineSettings

end ColumnStore
