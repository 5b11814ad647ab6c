import ColumnStore.Scenario.Demo
import ColumnStore.Text.Numeral
import ColumnStore.Tool.Session

/-!
# The command line

A command line has options, the name of a command, and the options and operands of the command.
Options with a value take it from behind an equals sign, from the rest of a cluster of one-letter
options or from the next word, which must not begin with a dash then. Options that are known in
front of the command are known behind it too; the value that stands behind it wins. Words are read
from the left, and the first one that does not fit, or that asks for help, settles what comes of it.
-/

set_option autoImplicit false

namespace ColumnStore

/-- An option of a command line. -/
structure OptionRule where
  name : String
  letter : Option Char
  takesValue : Bool
  /-- May the option be given more than once? -/
  repeatable : Bool
  /-- The values that the option takes. -/
  accepts : String → Bool
  /-- What the option is for. -/
  purpose : String
  /-- Must the option be given? -/
  required : Bool
  /-- What stands for the value if the option is not given. -/
  standard : Option String
  /-- The values to choose from, with what each of them means. -/
  choices : List (String × String)

/-- An operand of a command. -/
structure OperandRule where
  name : String
  /-- What stands for the operand, if it may be left out. -/
  standard : Option String
  deriving DecidableEq, Repr

/-- A command of the tool. -/
structure CommandRule where
  name : String
  /-- What the command does. -/
  purpose : String
  operands : List OperandRule
  options : List OptionRule

/-- The options and operands on one side of the name of the command. -/
structure ArgumentGroup where
  /-- The names and values of the options, last one first. -/
  uses : List (String × String)
  /-- The operands, last one first. -/
  operands : List String

/-- Why a command line is not carried out. -/
inductive Refusal where
  | usage
  /-- Help was asked for, about a command or the tool itself, and maybe only in brief. -/
  | help (command : Option String) (brief : Bool)
  deriving DecidableEq, Repr

/-- A refusal that a command met. -/
def Refusal.about (command : String) : Refusal → Refusal
  | usage => usage
  | help _ brief => help (some command) brief

namespace ArgumentGroup

/-- Nothing. -/
def empty : ArgumentGroup := ⟨[], []⟩

/-- Notes an option. -/
def use (group : ArgumentGroup) (rule : OptionRule) (value : String) :
    Except Refusal ArgumentGroup :=
  let isKnown := group.uses.any fun entry ↦ entry.1 == rule.name
  if !rule.accepts value || (isKnown && !rule.repeatable) then .error .usage
  else .ok { group with uses := (rule.name, value) :: group.uses }

/-- The values of an option, in their order. -/
def values (group : ArgumentGroup) (name : String) : List String :=
  ((group.uses.filter fun entry ↦ entry.1 == name).map Prod.snd).reverse

/-- The value of an option that is given once at most. -/
def value? (group : ArgumentGroup) (name : String) : Option String :=
  (group.values name).head?

end ArgumentGroup

/-- The option, and the command, that asks for help. -/
def helpName : String := "help"

/-- Reads a cluster of one-letter options. The result holds an option that still lacks its
value. -/
def readLetters (rules : List OptionRule) (group : ArgumentGroup) :
    List Char → Except Refusal (ArgumentGroup × Option OptionRule)
  | [] => .ok (group, none)
  | letter :: rest =>
    match rules.find? fun rule ↦ rule.letter == some letter with
    | none => .error .usage
    | some rule =>
      if rule.takesValue then
        match rest with
        | [] => .ok (group, some rule)
        | '=' :: value => do pure (← group.use rule (String.ofList value), none)
        | value => do pure (← group.use rule (String.ofList value), none)
      else if rule.name == helpName then .error (.help none true)
      else do
        let group ← group.use rule ""
        readLetters rules group rest

/-- Reads an option that is written out, without its two dashes. The result holds the option if it
still lacks its value. -/
def readLong (rules : List OptionRule) (group : ArgumentGroup) (word : String) :
    Except Refusal (ArgumentGroup × Option OptionRule) :=
  let (name, value) : String × Option String :=
    match Text.splitFirst '=' word with
    | some (name, value) => (name, some value)
    | none => (word, none)
  match rules.find? fun rule ↦ rule.name == name with
  | none => .error .usage
  | some rule =>
    match rule.takesValue, value with
    | true, none => .ok (group, some rule)
    | true, some value => do pure (← group.use rule value, none)
    | false, some _ => .error .usage
    | false, none =>
      if rule.name == helpName then .error (.help none false)
      else do pure (← group.use rule "", none)

/-- Reads the words of a group with `room` for so many operands; an option in front may still have
to get its value. Where a command is expected, the first operand ends the group; the words behind
the group are left. -/
def readGroup (rules : List OptionRule) (expectsCommand : Bool) (room : Nat) :
    Option OptionRule → ArgumentGroup → List String → Except Refusal (ArgumentGroup × List String)
  | none, group, [] => .ok (group, [])
  | some _, _, [] => .error .usage
  | some rule, group, word :: rest =>
    if Text.beginsWith "-" word && word ≠ "-" then .error .usage
    else do
      let group ← group.use rule word
      readGroup rules expectsCommand room none group rest
  | none, group, word :: rest =>
    if word = "--" then
      if expectsCommand || room < group.operands.length + rest.length then .error .usage
      else .ok ({ group with operands := rest.reverse ++ group.operands }, [])
    else if Text.beginsWith "--" word then do
      let (group, lacking) ← readLong rules group (String.ofList (word.toList.drop 2))
      readGroup rules expectsCommand room lacking group rest
    else if Text.beginsWith "-" word && word ≠ "-" then do
      let (group, lacking) ← readLetters rules group (word.toList.drop 1)
      readGroup rules expectsCommand room lacking group rest
    else if expectsCommand then .ok (group, word :: rest)
    else if room ≤ group.operands.length then .error .usage
    else
      let group := { group with operands := word :: group.operands }
      readGroup rules expectsCommand room none group rest

/-- What the tool is asked to do. -/
inductive ToolCommand where
  | readAll (path : String)
  | readColumns (path table : String) (columns : List String)
  | readRemote (path access secret endpoint : String)
  | benchRows (path : String) (every : Nat)
  | benchBatches (path : String) (size every : Nat)
  | importCsv (input path : String) (schema : Option String)
  | showSchema (path : String)
  | handleMissing
  /-- All scenarios on the demo tables. -/
  | demo
  deriving DecidableEq, Repr

/-- What a command line says. -/
structure Invocation where
  command : ToolCommand
  backend : Option BackendKind
  /-- The path of the session file. -/
  session : Option String
  classPath : List String
  options : List String
  verbose : Bool
  /-- The count of rows in the large demo table. -/
  demoRows : Nat

namespace Invocation

/-- The greatest count, which is a number of 64 bits. -/
def greatestCount : Nat := 18446744073709551615

/-- A count as it is written on a command line. -/
def readCount (text : String) : Option Nat :=
  let cs := text.toList
  let digits := if cs.head? == some '+' then cs.tail else cs
  (Text.readNat digits).filter fun n ↦ decide (n ≤ greatestCount)

/-- The count of rows between two lines of a benchmark, and of rows in a batch, if nothing is
said. -/
def defaultStretch : Nat := 100000

/-- The count of rows in the large demo table if nothing is said. -/
def defaultDemoRows : Nat := 200000

/-- The table that is read through a projection if nothing is said. -/
def defaultTable : String := "test"

/-- An option with any value. -/
def textRule (name : String) (letter : Option Char) (purpose : String) : OptionRule :=
  ⟨name, letter, true, false, fun _ ↦ true, purpose, false, none, []⟩

/-- An option with a path. -/
def pathRule (name : String) (letter : Option Char) (purpose : String) : OptionRule :=
  { textRule name letter purpose with accepts := fun value ↦ !value.isEmpty }

/-- An option with a count. -/
def countRule (name : String) (standard : Nat) (purpose : String) : OptionRule :=
  { textRule name none purpose with
    accepts := fun value ↦ (readCount value).isSome, standard := some (toString standard) }

/-- An option without a value. -/
def flagRule (name : String) (letter : Char) (purpose : String) : OptionRule :=
  { textRule name (some letter) purpose with takesValue := false }

/-- An option that must be given. -/
def needed (rule : OptionRule) : OptionRule := { rule with required := true }

/-- An option that may be given more than once. -/
def repeated (rule : OptionRule) : OptionRule := { rule with repeatable := true }

/-- The option that names the backend. -/
def backendRule : OptionRule :=
  { textRule "backend" none "Backend to run against (overrides the session file)" with
    accepts := fun value ↦ (BackendKind.ofName? value).isSome,
    choices :=
      [(BackendKind.memory.name, "In-process backend seeded with a demo table"),
        (BackendKind.machine.name, "Embedded JVM running the CarbonData SDK")] }

/-- The options that are known everywhere, but for the one that asks for help. -/
def sharedRules : List OptionRule :=
  [backendRule,
    pathRule "config" none "YAML session file with `runtime` and `backend` sections",
    repeated (textRule "classpath" none "Classpath entry for the JVM backend; repeatable"),
    repeated (textRule "conf" (some 'D') "Backend option as key=value; repeatable"),
    flagRule "verbose" 'v' "Debug logging and -verbose:jni",
    countRule "bench-rows" defaultDemoRows
      "Rows in the seeded benchmark table (memory backend)"]

/-- The option that asks for help. -/
def helpRule : OptionRule := flagRule helpName 'h' "Print help"

/-- The options that are known everywhere. -/
def commonRules : List OptionRule := sharedRules ++ [helpRule]

/-- The path that a command reads. -/
def pathOperand (standard : String) : OperandRule := ⟨"PATH", some standard⟩

/-- The commands. -/
def commandRules : List CommandRule :=
  [⟨"read-local", "Read every column of a local table", [pathOperand Demo.smallPath], []⟩,
    ⟨"read-projection", "Read a local table through a projection", [pathOperand Demo.smallPath],
      [{ textRule "table" none "" with standard := some defaultTable },
        repeated (textRule "columns" none
          "Comma-separated columns; defaults to all twelve demo columns")]⟩,
    ⟨"read-s3", "Read a remote table with explicit credentials",
      [⟨"ACCESS_KEY", none⟩, ⟨"SECRET_KEY", none⟩, ⟨"ENDPOINT", none⟩],
      [{ textRule "path" none "" with standard := some Demo.remotePath }]⟩,
    ⟨"bench-row", "Row-at-a-time throughput", [pathOperand Demo.largePath],
      [countRule "print-every" defaultStretch ""]⟩,
    ⟨"bench-batch", "Batched throughput", [pathOperand Demo.largePath],
      [countRule "batch" defaultStretch "", countRule "print-every" defaultStretch ""]⟩,
    ⟨"write", "Write a headed CSV file into a table", [],
      [needed (pathRule "input" (some 'i') ""), needed (textRule "output" (some 'o') ""),
        textRule "schema" none "JSON schema, e.g. [\x7bname:string\x7d,\x7bage:int\x7d]"]⟩,
    ⟨"schema", "Print the schema of a table or data file", [pathOperand Demo.smallPath], []⟩,
    ⟨"try-catch", "Build over a missing path and handle the error", [], []⟩,
    ⟨"demo", "try-catch, both local reads, schema and both benchmarks", [], []⟩]

/-- The command of a name. -/
def commandRule? (name : String) : Option CommandRule :=
  commandRules.find? fun rule ↦ rule.name == name

/-- The help that the words behind the help command ask for. -/
def readHelp : List String → Refusal
  | [] => .help none false
  | [name] =>
    if name = helpName ∨ (commandRule? name).isSome then .help (some name) false else .usage
  | _ => .usage

/-- The only operand, or what stands for it. -/
def operand (default : String) : List String → Except Refusal String
  | [] => .ok default
  | [operand] => .ok operand
  | _ => .error .usage

/-- The command of a name with its options and operands. -/
def commandOf (name : String) (group : ArgumentGroup) : Except Refusal ToolCommand := do
  let operands := group.operands.reverse
  let count (option : String) : Nat :=
    ((group.value? option).bind readCount).getD defaultStretch
  match name, operands with
  | "read-local", _ => pure (.readAll (← operand Demo.smallPath operands))
  | "read-projection", _ =>
    pure (.readColumns (← operand Demo.smallPath operands)
      ((group.value? "table").getD defaultTable)
      ((group.values "columns").map (Text.splitAll ',')).flatten)
  | "read-s3", [access, secret, endpoint] =>
    pure (.readRemote ((group.value? "path").getD Demo.remotePath) access secret endpoint)
  | "bench-row", _ =>
    pure (.benchRows (← operand Demo.largePath operands) (count "print-every"))
  | "bench-batch", _ =>
    pure (.benchBatches (← operand Demo.largePath operands) (count "batch") (count "print-every"))
  | "write", [] =>
    match group.value? "input", group.value? "output" with
    | some input, some output => pure (.importCsv input output (group.value? "schema"))
    | _, _ => .error .usage
  | "schema", _ => pure (.showSchema (← operand Demo.smallPath operands))
  | "try-catch", [] => pure .handleMissing
  | "demo", [] => pure .demo
  | _, _ => .error .usage

/-- Reads the options and operands of a command. -/
def readCommand (rule : CommandRule) (words : List String) :
    Except Refusal (ArgumentGroup × ToolCommand) := do
  let (group, _) ← readGroup (commonRules ++ rule.options) false rule.operands.length none .empty
    words
  pure (group, ← commandOf rule.name group)

/-- Reads a command line. -/
def read (words : List String) : Except Refusal Invocation := do
  let (outer, rest) ← readGroup commonRules true 0 none .empty words
  match rest with
  | [] => .error .usage
  | name :: rest =>
    match commandRule? name with
    | none => .error (if name = helpName then readHelp rest else .usage)
    | some rule =>
      let (inner, command) ← (readCommand rule rest).mapError (Refusal.about name)
      let values (option : String) : List String :=
        match inner.values option with
        | [] => outer.values option
        | values => values
      pure {
        command := command
        backend := (values "backend").head?.bind BackendKind.ofName?
        session := (values "config").head?
        classPath := values "classpath"
        options := values "conf"
        verbose := !(values "verbose").isEmpty
        demoRows := ((values "bench-rows").head?.bind readCount).getD defaultDemoRows }

end Invocation

end ColumnStore
