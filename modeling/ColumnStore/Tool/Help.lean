import ColumnStore.Text.Order
import ColumnStore.Tool.Arguments

/-!
# Help

`Help.text` tells how the tool, or one of its commands, is used. It shows what a call looks like,
then the commands, the operands and the options, each with what it is for. In brief, an explanation
stands on the line of what it explains, unless one in its section would not fit there.
-/

set_option autoImplicit false

namespace ColumnStore

namespace Help

/-- The name of the tool. -/
def toolName : String := "carbonr"

/-- What the tool is for. -/
def toolPurpose : String := "Read, write and benchmark CarbonData tables from native code"

/-- What the help command does. -/
def helpPurpose : String := "Print this message or the help of the given subcommand(s)"

/-- The count of characters in a line. -/
def lineWidth : Nat := 100

/-- A line of blanks. -/
def blanks (count : Nat) : String := String.ofList (List.replicate count ' ')

/-- The blanks in front of an explanation with a line of its own. -/
def margin : String := blanks 10

/-- Something that is explained. -/
structure Item where
  /-- What is explained, as it is written. -/
  label : String
  explanation : String
  /-- What stands for a value that is not given. -/
  standard : Option String
  /-- The values to choose from, with what each of them means. -/
  choices : List (String × String)
  deriving DecidableEq, Repr

namespace Item

/-- The remarks that follow the explanation. -/
def remarks (brief : Bool) (item : Item) : List String :=
  (item.standard.map fun value ↦ "[default: " ++ value ++ "]").toList
    ++ if brief && !item.choices.isEmpty then
        ["[possible values: " ++ Text.joinWith ", " (item.choices.map Prod.fst) ++ "]"]
      else []

/-- The explanation with the remarks, all in one line. -/
def inBrief (item : Item) : String :=
  Text.joinWith " " ((item.explanation :: item.remarks true).filter fun part ↦ !part.isEmpty)

/-- The list of the values to choose from. -/
def choiceLines (item : Item) : List String :=
  let width := item.choices.foldl (fun width choice ↦ max width choice.1.length) 0
  item.choices.map fun choice ↦
    margin ++ "- " ++ choice.1 ++ ": " ++ blanks (width - choice.1.length) ++ choice.2

/-- The explanation and the remarks, with a line between them. -/
def explained (item : Item) : List String :=
  match (item.explanation :: item.remarks false).filter fun part ↦ !part.isEmpty with
  | [] => [margin]
  | first :: rest => (margin ++ first) :: rest.flatMap fun part ↦ [margin, margin ++ part]

/-- The explanation, the remarks and the values to choose from, all below each other. -/
def inFull (item : Item) : List String :=
  item.explained
    ++ if item.choices.isEmpty then [] else ["", margin ++ "Possible values:"] ++ item.choiceLines

/-- Would the explanation be cut off behind labels of the given width? -/
def overflows (width : Nat) (item : Item) : Bool :=
  let taken := width + 12
  let text := item.explanation ++ Text.joinWith " " (item.remarks true)
  decide (taken ≤ lineWidth ∧ 40 < taken ∧ lineWidth - taken < text.length)

end Item

/-- The items of a section in brief. -/
def briefItems (items : List Item) : String :=
  let width := items.foldl (fun width item ↦ max width item.label.length) 2
  if items.any (Item.overflows width) then
    Text.joinWith "\n" (items.map fun item ↦ "  " ++ item.label ++ "\n" ++ margin ++ item.inBrief)
  else
    Text.joinWith "\n" (items.map fun item ↦
      "  " ++ item.label ++ blanks (width + 2 - item.label.length) ++ item.inBrief)

/-- The items of a section in full. -/
def fullItems (items : List Item) : String :=
  Text.joinWith "\n\n" (items.map fun item ↦
    Text.joinWith "\n" (("  " ++ item.label) :: item.inFull))

/-- How the value of an option is called. -/
def valueName (rule : OptionRule) : String :=
  rule.name.map fun c ↦ if c = '-' then '_' else c.toUpper

/-- An option as it is written out. -/
def spelling (rule : OptionRule) : String :=
  "--" ++ rule.name ++ if rule.takesValue then " <" ++ valueName rule ++ ">" else ""

/-- An option as an item. -/
def optionItem (rule : OptionRule) : Item :=
  let letter : String := (rule.letter.map fun c ↦ String.ofList ['-', c, ',', ' ']).getD (blanks 4)
  ⟨letter ++ spelling rule, rule.purpose, rule.standard, rule.choices⟩

/-- An operand as it stands in a call. -/
def operandText (rule : OperandRule) : String :=
  match rule.standard with
  | some _ => "[" ++ rule.name ++ "]"
  | none => "<" ++ rule.name ++ ">"

/-- An operand as an item. -/
def operandItem (rule : OperandRule) : Item := ⟨operandText rule, "", rule.standard, []⟩

/-- What options of the same rank are ordered by. -/
def sortKey (rule : OptionRule) : String :=
  match rule.letter with
  | some letter =>
    String.ofList [letter.toLower, if 'a' ≤ letter ∧ letter ≤ 'z' then '0' else '1']
  | none => rule.name

/-- Options of two lists, the first ones of both in front, then the second ones and so on. -/
def merge : List OptionRule → List OptionRule → List OptionRule
  | [], rules => rules
  | rules, [] => rules
  | first :: rest, other :: others =>
    if (Text.compareTexts (sortKey first) (sortKey other)).isLE then
      first :: other :: merge rest others
    else other :: first :: merge rest others

/-- The option that asks for help, as it is explained. -/
def helpItem (brief : Bool) : Item :=
  let item := optionItem Invocation.helpRule
  { item with
    explanation := item.explanation
      ++ if brief then " (see more with '--help')" else " (see a summary with '-h')" }

/-- A section, unless it has no items. -/
def part? (title : String) (layOut : List Item → String) (items : List Item) :
    Option String :=
  if items.isEmpty then none else some (title ++ ":\n" ++ layOut items)

/-- A text of help: what something is for, what a call looks like, and the sections. -/
def page (purpose call : String) (sections : List (Option String)) : String :=
  Text.joinWith "\n\n" ([purpose, "Usage: " ++ toolName ++ " " ++ call] ++ sections.filterMap id)
    ++ "\n"

/-- How items are laid out. -/
def layOut (brief : Bool) : List Item → String :=
  if brief then briefItems else fullItems

/-- Help about the tool. -/
def ofTool (brief : Bool) : String :=
  let commands : List Item :=
    Invocation.commandRules.map fun rule ↦ ⟨rule.name, rule.purpose, none, []⟩
  page toolPurpose "[OPTIONS] <COMMAND>"
    [part? "Commands" briefItems (commands ++ [⟨helpName, helpPurpose, none, []⟩]),
      part? "Options" (layOut brief)
        (Invocation.sharedRules.map optionItem ++ [helpItem brief])]

/-- Help about a command. -/
def ofCommand (rule : CommandRule) (brief : Bool) : String :=
  let needed := (rule.options.filter OptionRule.required).map spelling
  let call := [rule.name, "[OPTIONS]"] ++ needed ++ rule.operands.map operandText
  page rule.purpose (Text.joinWith " " call)
    [part? "Arguments" (layOut brief) (rule.operands.map operandItem),
      part? "Options" (layOut brief)
        ((merge Invocation.sharedRules rule.options).map optionItem ++ [helpItem brief])]

/-- Help about the help command. -/
def ofHelp : String :=
  page helpPurpose (helpName ++ " [COMMAND]...")
    [part? "Arguments" briefItems [⟨"[COMMAND]...", "Print help for the subcommand(s)", none, []⟩]]

/-- Help about a command, or about the tool if there is no such command. -/
def text (command : Option String) (brief : Bool) : String :=
  match command with
  | none => ofTool brief
  | some name =>
    match Invocation.commandRule? name with
    | some rule => ofCommand rule brief
    | none => if name = helpName then ofHelp else ofTool brief

end Help

end ColumnStore
