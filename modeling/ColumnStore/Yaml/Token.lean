import ColumnStore.Yaml.Scalar

/-!
# Tokens of YAML text

A text is read as tokens, among them the beginnings and ends of the blocks that its indentation
means. Whether a scalar is a key shows only at the colon behind it, so every token that may begin a
key has a `slot` in front. A colon that follows on the same line fills the slot with the tokens of a
key; all other slots stay empty and vanish in the end.
-/

set_option autoImplicit false

namespace ColumnStore

namespace Yaml

/-- A unit of YAML text. -/
inductive Token where
  /-- A line about the version. -/
  | version
  /-- A line that declares a handle for tags. -/
  | tagHandle (handle : String)
  | documentStart
  | documentEnd
  | blockSequenceStart
  | blockMappingStart
  | blockEnd
  | flowSequenceStart
  | flowSequenceEnd
  | flowMappingStart
  | flowMappingEnd
  | blockEntry
  | flowEntry
  | key
  | value
  | alias (name : String)
  | anchor (name : String)
  /-- A tag, by its handle; a tag that is written out has none. -/
  | tag (handle : Option String)
  | scalar (text : String) (plain : Bool)
  deriving DecidableEq, Repr

/-- A token, or a place where a key may begin. -/
inductive Item where
  | token (token : Token)
  | slot (number : Nat)

/-- Where a key may have begun. -/
structure PossibleKey where
  slot : Nat
  cursor : Cursor
  /-- Does something else than a key break the rules here? -/
  required : Bool

/-- How far a text has been read. -/
structure Scanner where
  cursor : Cursor
  /-- The column that the content of the current block has to reach, and that of outer blocks. -/
  depth : Nat
  outer : List Nat
  /-- May a key begin here? -/
  keyAllowed : Bool
  /-- Where a key may have begun, for each flow collection around and for the block below. -/
  keys : List (Option PossibleKey)
  /-- The count of slots. -/
  slots : Nat
  /-- The slots that have been filled. -/
  filled : List (Nat × List Token)
  /-- What has been read, last item first. -/
  items : List Item

namespace Scanner

/-- The start of a text. -/
def start (cs : List Char) : Scanner :=
  ⟨.start cs, 0, [], true, [none], 0, [], []⟩

/-- Is a flow collection open? -/
def inFlow (scanner : Scanner) : Bool := 1 < scanner.keys.length

/-- Adds a token. -/
def add (scanner : Scanner) (token : Token) : Scanner :=
  { scanner with items := .token token :: scanner.items }

/-- Passes characters of a line. -/
def pass (scanner : Scanner) (count : Nat) : Scanner :=
  { scanner with cursor := scanner.cursor.advance count }

/-- Says whether a key may begin. -/
def allowKey (scanner : Scanner) (allowed : Bool) : Scanner :=
  { scanner with keyAllowed := allowed }

/-- Gives up the hope for a key. -/
def forgetKey (scanner : Scanner) : Option Scanner :=
  match scanner.keys with
  | some key :: rest => if key.required then none else some { scanner with keys := none :: rest }
  | _ => some scanner

/-- Leaves a slot for a key, if one may begin here. -/
def saveKey (scanner : Scanner) : Option Scanner :=
  if scanner.keyAllowed then do
    let scanner ← scanner.forgetKey
    let required := !scanner.inFlow && scanner.depth == scanner.cursor.column + 1
    pure { scanner with
      keys := some ⟨scanner.slots, scanner.cursor, required⟩ :: scanner.keys.tail
      slots := scanner.slots + 1
      items := .slot scanner.slots :: scanner.items }
  else some scanner

/-- Opens a block at a column, unless a flow collection is open or the block around has reached
the column. The result says whether a block was opened. -/
def openBlock (scanner : Scanner) (column : Nat) : Bool × Scanner :=
  if !scanner.inFlow && scanner.depth ≤ column then
    (true, { scanner with depth := column + 1, outer := scanner.depth :: scanner.outer })
  else (false, scanner)

/-- Opens a block with a token in front. -/
def openWith (scanner : Scanner) (token : Token) : Scanner :=
  match scanner.openBlock scanner.cursor.column with
  | (true, scanner) => scanner.add token
  | (false, scanner) => scanner

/-- Closes one block after the other while `tooDeep` holds of the depth. -/
def closeWhile (tooDeep : Nat → Bool) (depth : Nat) :
    List Nat → List Item → Nat × List Nat × List Item
  | [], items => (depth, [], items)
  | next :: outer, items =>
    if tooDeep depth then closeWhile tooDeep next outer (.token .blockEnd :: items)
    else (depth, next :: outer, items)

/-- Closes the blocks while `tooDeep` holds of their depth, unless a flow collection is open. -/
def closeBlocks (scanner : Scanner) (tooDeep : Nat → Bool) : Scanner :=
  if scanner.inFlow then scanner
  else
    let (depth, outer, items) :=
      closeWhile tooDeep scanner.depth scanner.outer scanner.items
    { scanner with depth := depth, outer := outer, items := items }

/-- Closes all blocks in front of a mark between documents or at the end. -/
def closeAll (scanner : Scanner) : Option Scanner := do
  let scanner ← (scanner.closeBlocks fun _ ↦ true).forgetKey
  pure (scanner.allowKey false)

/-- Passes blanks, comments and line ends in front of a token. Tabs are blanks only where no key
may begin. -/
def passGap : Nat → Scanner → Scanner
  | 0, scanner => scanner
  | fuel + 1, scanner =>
    let blanks := scanner.inFlow || !scanner.keyAllowed
    let isSpace (c : Char) : Bool := c == ' ' || c == '\ufeff' || (blanks && c == '\t')
    let cursor := scanner.cursor.passWhile isSpace
    let cursor :=
      if cursor.rest.head? == some '#' then cursor.passWhile fun c ↦ !isBreak c else cursor
    if cursor.rest.head?.any isBreak then
      passGap fuel { scanner with
        cursor := cursor.passBreak, keyAllowed := scanner.keyAllowed || !scanner.inFlow }
    else { scanner with cursor := cursor }

/-- Reads a line that begins with a percent sign. -/
def readDirective (scanner : Scanner) : Option Scanner := do
  let scanner ← scanner.closeAll
  let words := (scanner.cursor.rest.takeWhile fun c ↦ !isBreak c).drop 1
  let cursor := scanner.cursor.passWhile fun c ↦ !isBreak c
  let isWord (word : List Char) : Bool := !word.isEmpty
  let words := ((words.splitBy fun c d ↦ isBlank c == isBlank d).filter fun word ↦
    word.head?.any fun c ↦ !isBlank c).filter isWord
  let words := words.takeWhile fun word ↦ word.head? ≠ some '#'
  let token ←
    match words.map String.ofList with
    | ["YAML", "1.1"] | ["YAML", "1.2"] => some Token.version
    | ["TAG", handle, _] => some (Token.tagHandle handle)
    | _ => none
  pure ({ scanner with cursor := cursor }.add token)

/-- Reads a mark of three characters between documents. -/
def readMark (scanner : Scanner) (token : Token) : Option Scanner := do
  let scanner ← scanner.closeAll
  pure ((scanner.pass 3).add token)

/-- Reads the bracket that opens a flow collection. -/
def openFlow (scanner : Scanner) (token : Token) : Option Scanner := do
  let scanner ← scanner.saveKey
  let scanner := (scanner.pass 1).add token
  pure { scanner with keys := none :: scanner.keys, keyAllowed := true }

/-- Reads a bracket that closes a flow collection. -/
def closeFlow (scanner : Scanner) (token : Token) : Option Scanner := do
  let scanner ← scanner.forgetKey
  let keys :=
    match scanner.keys with
    | _ :: next :: rest => next :: rest
    | keys => keys
  pure ({ scanner with keys := keys, keyAllowed := false }.pass 1 |>.add token)

/-- Reads a comma in a flow collection. -/
def readFlowEntry (scanner : Scanner) : Option Scanner := do
  let scanner ← scanner.forgetKey
  pure (((scanner.allowKey true).pass 1).add .flowEntry)

/-- Opens a block for a sign that stands in front of an entry or a key. -/
def openFor (scanner : Scanner) (token : Token) : Option Scanner :=
  if scanner.inFlow then some scanner
  else if scanner.keyAllowed then some (scanner.openWith token)
  else none

/-- Reads the dash in front of an entry of a block. -/
def readBlockEntry (scanner : Scanner) : Option Scanner := do
  let scanner ← scanner.openFor .blockSequenceStart
  let scanner ← scanner.forgetKey
  pure (((scanner.allowKey true).pass 1).add .blockEntry)

/-- Reads the question mark in front of a key. -/
def readKey (scanner : Scanner) : Option Scanner := do
  let scanner ← scanner.openFor .blockMappingStart
  let scanner ← scanner.forgetKey
  pure (((scanner.allowKey !scanner.inFlow).pass 1).add .key)

/-- The greatest distance between the beginning of a key and its colon. -/
def longestKey : Nat := 1024

/-- Can what began there still be a key here? -/
def reaches (key : PossibleKey) (cursor : Cursor) : Bool :=
  key.cursor.line == cursor.line && cursor.index ≤ key.cursor.index + longestKey

/-- Reads a colon: it makes a key of what a key may have begun with, and otherwise stands in front
of the value of an empty key. -/
def readValue (scanner : Scanner) : Option Scanner := do
  let possible :=
    match scanner.keys with
    | some key :: _ => if reaches key scanner.cursor then some key else none
    | _ => none
  match possible with
  | some key =>
    let (opened, scanner) := scanner.openBlock key.cursor.column
    let tokens : List Token := if opened then [.blockMappingStart, .key] else [.key]
    let scanner := { scanner with
      keys := none :: scanner.keys.tail
      filled := (key.slot, tokens) :: scanner.filled
      keyAllowed := false }
    pure ((scanner.pass 1).add .value)
  | none =>
    let scanner ← scanner.forgetKey
    let scanner ← scanner.openFor .blockMappingStart
    pure (((scanner.allowKey !scanner.inFlow).pass 1).add .value)

/-- Reads a name behind the sign of an anchor or an alias. -/
def readName (scanner : Scanner) (token : String → Token) : Option Scanner := do
  let scanner ← scanner.saveKey
  let scanner := (scanner.allowKey false).pass 1
  let name := scanner.cursor.rest.takeWhile isNameChar
  let scanner := scanner.pass name.length
  let ends := endsWord scanner.cursor.rest
    || scanner.cursor.rest.head?.any fun c ↦
      ['?', ':', ',', ']', '\x7d', '%', '@', '\x60'].contains c
  if name.isEmpty || !ends then none else pure (scanner.add (token (String.ofList name)))

/-- A character of a tag. -/
def isTagChar (c : Char) : Bool :=
  isNameChar c || [';', '/', '?', ':', '@', '&', '=', '+', '$', '.', '!', '~', '*', '\'', '(', ')',
    '%'].contains c

/-- The handle of a tag and the length of the tag, from its exclamation mark on. -/
def tagParts (cs : List Char) : Option (Option String × Nat) :=
  match cs with
  | '!' :: '<' :: rest =>
    let inner := rest.takeWhile fun c ↦ isTagChar c || ['[', ']', ','].contains c
    if !inner.isEmpty && (rest.drop inner.length).head? == some '>' then
      some (none, inner.length + 3)
    else none
  | _ :: rest =>
    let name := rest.takeWhile isNameChar
    let body := rest.takeWhile isTagChar
    if (rest.drop name.length).head? == some '!' then
      if body.length ≤ name.length + 1 then none
      else some (some (String.ofList (('!' :: name) ++ ['!'])), 1 + body.length)
    else some (some "!", 1 + body.length)
  | [] => none

/-- Reads a tag. -/
def readTag (scanner : Scanner) : Option Scanner := do
  let scanner ← scanner.saveKey
  let (handle, length) ← tagParts scanner.cursor.rest
  let scanner := ((scanner.allowKey false).pass length)
  let ends := endsWord scanner.cursor.rest
    || (scanner.inFlow && scanner.cursor.rest.head? == some ',')
  if ends then pure (scanner.add (.tag handle)) else none

/-- Reads a block scalar. -/
def readBlockScalar (scanner : Scanner) : Option Scanner := do
  let scanner ← scanner.forgetKey
  let (text, cursor) ← readBlock scanner.depth scanner.cursor
  pure ({ scanner with cursor := cursor, keyAllowed := true }.add
    (.scalar (String.ofList text) false))

/-- Reads a quoted scalar. -/
def readQuotedScalar (scanner : Scanner) : Option Scanner := do
  let scanner ← scanner.saveKey
  let (text, cursor) ← readQuoted scanner.cursor
  pure ({ scanner with cursor := cursor, keyAllowed := false }.add
    (.scalar (String.ofList text) false))

/-- Reads a plain scalar. A key may begin behind it if it ended behind a line end. -/
def readPlainScalar (scanner : Scanner) : Option Scanner := do
  let scanner ← scanner.saveKey
  let (text, broken, cursor) ← readPlain scanner.inFlow scanner.depth scanner.cursor
  pure ({ scanner with cursor := cursor, keyAllowed := broken }.add
    (.scalar (String.ofList text) true))

/-- A character that has a meaning of its own in front of a word. -/
def isIndicator (c : Char) : Bool :=
  [',', '[', ']', '\x7b', '\x7d', '#', '&', '*', '!', '|', '>', '\'', '"', '%', '@',
    '\x60'].contains c

/-- Can a plain scalar begin like this? -/
def beginsPlain (inFlow : Bool) (c : Char) (rest : List Char) : Bool :=
  if c == '-' then !rest.head?.any isBlank
  else if c == '?' || c == ':' then !inFlow && !endsWord rest
  else !(isGap c || isIndicator c)

/-- Reads the token that begins here. -/
def readToken (scanner : Scanner) (c : Char) (rest : List Char) : Option Scanner :=
  if scanner.cursor.column == 0 && c == '%' then scanner.readDirective
  else if scanner.cursor.atMark '-' then scanner.readMark .documentStart
  else if scanner.cursor.atMark '.' then scanner.readMark .documentEnd
  else if c == '[' then scanner.openFlow .flowSequenceStart
  else if c == '\x7b' then scanner.openFlow .flowMappingStart
  else if c == ']' then scanner.closeFlow .flowSequenceEnd
  else if c == '\x7d' then scanner.closeFlow .flowMappingEnd
  else if c == ',' then scanner.readFlowEntry
  else if c == '-' && endsWord rest then scanner.readBlockEntry
  else if c == '?' && (scanner.inFlow || endsWord rest) then scanner.readKey
  else if c == ':' && (scanner.inFlow || endsWord rest) then scanner.readValue
  else if c == '*' then scanner.readName .alias
  else if c == '&' then scanner.readName .anchor
  else if c == '!' then scanner.readTag
  else if (c == '|' || c == '>') && !scanner.inFlow then scanner.readBlockScalar
  else if c == '\'' || c == '"' then scanner.readQuotedScalar
  else if beginsPlain scanner.inFlow c rest then scanner.readPlainScalar
  else none

/-- Reads tokens to the end. -/
def readAll : Nat → Scanner → Option Scanner
  | 0, _ => none
  | fuel + 1, scanner => do
    let scanner := passGap (scanner.cursor.rest.length + 1) scanner
    let column := scanner.cursor.column
    let scanner := scanner.closeBlocks fun depth ↦ column + 1 < depth
    match scanner.cursor.rest with
    | [] => scanner.closeAll
    | c :: rest => readAll fuel (← scanner.readToken c rest)

/-- The tokens that have been read, with those of the keys in their places. -/
def tokens (scanner : Scanner) : List Token :=
  (scanner.items.reverse.map fun
    | .token token => [token]
    | .slot number => (scanner.filled.lookup number).getD []).flatten

end Scanner

/-- Is this a character of YAML text? -/
def isTextChar (c : Char) : Bool :=
  c == '\t' || c == '\n' || c == '\r' || (' ' ≤ c && c ≤ '~') || c == '\u0085'
    || ('\u00a0' ≤ c && c != '\ufffe' && c != '\uffff')

/-- The tokens of a text, or nothing if it breaks a rule. -/
def Token.ofText? (text : String) : Option (List Token) :=
  let cs := text.toList
  let cs := if cs.head? == some '\ufeff' then cs.tail else cs
  if cs.all isTextChar then
    (Scanner.readAll (cs.length + 1) (.start cs)).map Scanner.tokens
  else none

end Yaml

end ColumnStore
