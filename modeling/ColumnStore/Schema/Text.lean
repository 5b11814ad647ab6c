import ColumnStore.Json.Reader
import ColumnStore.Json.Writer
import ColumnStore.Schema.Basic
import ColumnStore.Text.Dictionary

/-!
# Schema texts

A schema is written as a JSON array of objects, one for each column, with the name as the key and
the type as the item. `Schema.read` also accepts a spelling with bare words or single quotes around
names and types. Both lead to pairs of a name and a type text, which `Field.read` turns into
columns. In the strict spelling the members of one object are taken in the order of their names,
and of two members with one name the later one counts.
-/

set_option autoImplicit false

namespace ColumnStore

/-- Reads the type of a column. Behind an opening parenthesis stand precision and scale, which are
skipped. -/
def Field.read (name typeText : String) : Except Error Field :=
  let cs := (Text.trimChars typeText.toList).map Char.toLower
  let opening := "array<".toList
  if opening.isPrefixOf cs && opening.length < cs.length && cs.getLast? = some '>' then do
    let element ← DataType.read (String.ofList (cs.drop opening.length).dropLast)
    if element = .array then .error (.schema ("nested array in column '" ++ name ++ "'"))
    else .ok (.array name element)
  else do
    let type ← DataType.read (String.ofList (cs.takeWhile (· != '(')))
    if type = .array then .ok (.array name .string) else .ok (.scalar name type)

namespace Schema

/-- The text of a schema. -/
def text (schema : Schema) : String :=
  Json.arrayText (schema.fields.map fun field ↦
    Json.objectText [(field.name, Json.quoted field.typeText)])

/-- A member of a JSON object, if its key has content. -/
def entry? (member : Option String × Json) : Option (String × Json) :=
  member.1.map fun name ↦ (name, member.2)

/-- The members of a JSON object by name, if every key has content. -/
def dictionary? (members : List (Option String × Json)) : Option (Dictionary Json) :=
  (members.mapM entry?).map Dictionary.ofEntries

/-- The objects of a strict schema text. -/
def objects? (text : String) : Option (List (Dictionary Json)) :=
  match Json.readSound text with
  | some (.array items) => items.mapM fun
    | .object members => dictionary? members
    | _ => none
  | _ => none

/-- The name and the type text of a member. -/
def strictPair : String × Json → Except Error (String × String)
  | (name, .text (some typeText)) => .ok (name, typeText)
  | (name, _) => .error (.schema ("type of column '" ++ name ++ "' must be a string"))

/-- A name or type of the bare spelling without the blanks and quotes around it. -/
def unquoted (cs : List Char) : String :=
  let isQuote (c : Char) : Bool := c == '"' || c == '\''
  let front := (Text.trimChars cs).dropWhile isQuote
  String.ofList (front.reverse.dropWhile isQuote).reverse

/-- The name and the type text of an entry in the bare spelling. -/
def barePair (entry : List Char) : Except Error (String × String) :=
  match Text.cutFirst ':' entry with
  | none =>
    .error (.schema ("expected name:type, got '" ++ String.ofList (Text.trimChars entry) ++ "'"))
  | some (name, typeText) =>
    if unquoted name = "" then .error (.schema "empty column name in JSON schema")
    else .ok (unquoted name, unquoted typeText)

/-- The entries in braces of a text in the bare spelling; what stands between them is skipped. -/
def bareEntries (cs : List Char) : Except Error (List (String × String)) :=
  match _hopen : Text.cutFirst '\x7b' cs with
  | none => .ok []
  | some (_, inside) =>
    match _hclose : Text.cutFirst '\x7d' inside with
    | none => .error (.schema "unterminated '\x7b' in JSON schema")
    | some (entry, rest) => do
      let pair ← barePair entry
      let others ← bareEntries rest
      .ok (pair :: others)
termination_by cs.length
decreasing_by
  exact Nat.lt_trans (Text.length_lt_of_cutFirst _hclose) (Text.length_lt_of_cutFirst _hopen)

/-- The pairs of a text in the bare spelling, which stands in brackets. -/
def barePairs (text : String) : Except Error (List (String × String)) :=
  match Text.trimChars text.toList with
  | '[' :: c :: rest =>
    if (c :: rest).getLast? = some ']' then bareEntries (c :: rest).dropLast
    else .error (.schema "JSON schema must be an array of \x7bname:type\x7d objects")
  | _ => .error (.schema "JSON schema must be an array of \x7bname:type\x7d objects")

/-- The pairs of a name and a type text, in column order. -/
def pairs (text : String) : Except Error (List (String × String)) :=
  match objects? text with
  | some objects => objects.flatten.mapM strictPair
  | none => barePairs text

/-- The schema of a list of pairs. -/
def ofPairs (pairs : List (String × String)) : Except Error Schema :=
  if pairs.isEmpty then .error (.schema "schema has no columns")
  else do
    let fields ← pairs.mapM fun (name, typeText) ↦ Field.read name typeText
    match duplicate? ⟨fields⟩ with
    | some name => .error (.schema ("duplicate column '" ++ name ++ "'"))
    | none => .ok ⟨fields⟩

/-- Reads a schema text in either spelling. -/
def read (text : String) : Except Error Schema := do
  ofPairs (← pairs text)

end Schema

end ColumnStore
