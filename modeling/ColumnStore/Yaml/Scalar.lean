import ColumnStore.Text.Numeral
import ColumnStore.Yaml.Cursor

/-!
# Scalars of YAML text

A scalar is written plainly, in single or double quotes, or as a block of lines. Plain and quoted
scalars fold their lines: a single line end counts as a space, and of several line ends the first
one is lost. A block keeps its lines, or folds those that do not begin with a blank. Each reader
gives the text of the scalar and the place behind it, or nothing if the text breaks a rule.
-/

set_option autoImplicit false

namespace ColumnStore

namespace Yaml

/-- Blanks and line ends between two words of a scalar. -/
structure Gap where
  /-- The blanks, if there is no line end. -/
  blanks : List Char
  broken : Bool
  /-- The first line end. -/
  first : List Char
  /-- The line ends behind the first one. -/
  further : List Char

namespace Gap

/-- Nothing. -/
def empty : Gap := ⟨[], false, [], []⟩

/-- What a gap counts as in a text with folded lines. -/
def folded (gap : Gap) : List Char :=
  if !gap.broken then gap.blanks
  else if gap.first == ['\n'] then
    if gap.further.isEmpty then [' '] else gap.further
  else gap.first ++ gap.further

/-- Adds a line end. -/
def addBreak (gap : Gap) (c : Char) : Gap :=
  if gap.broken then { gap with further := gap.further ++ [keptBreak c] }
  else ⟨[], true, [keptBreak c], []⟩

/-- Reads on through blanks and line ends. Behind a line end no tab may stand in front of the
column `depth`. -/
def read (depth : Nat) : Nat → Gap → Cursor → Option (Gap × Cursor)
  | 0, gap, cursor => some (gap, cursor)
  | fuel + 1, gap, cursor =>
    match cursor.rest with
    | [] => some (gap, cursor)
    | c :: _ =>
      if isBreak c then read depth fuel (gap.addBreak c) cursor.passBreak
      else if !isBlank c then some (gap, cursor)
      else if !gap.broken then
        read depth fuel { gap with blanks := gap.blanks ++ [c] } (cursor.advance 1)
      else if c == '\t' && cursor.column < depth then none
      else read depth fuel gap (cursor.advance 1)

end Gap

/-- A character that has a meaning of its own in a flow collection. -/
def isFlowMark (c : Char) : Bool :=
  c == ',' || c == '[' || c == ']' || c == '\x7b' || c == '\x7d'

/-- A word of a plain scalar: it ends at a gap, at a colon in front of a gap and, in a flow
collection, at a mark. There a colon must not stand in front of a mark. -/
def plainWord (inFlow : Bool) : List Char → Option (List Char)
  | [] => some []
  | c :: rest =>
    if isGap c then some []
    else if inFlow && c == ':' && rest.head?.any (fun d ↦ isFlowMark d || d == '?') then none
    else if c == ':' && endsWord rest then some []
    else if inFlow && isFlowMark c then some []
    else (plainWord inFlow rest).map (c :: ·)

/-- Reads on in a plain scalar behind a gap. The flag says whether the scalar ended behind a line
end. -/
def plainFrom (inFlow : Bool) (depth : Nat) :
    Nat → List Char → Gap → Cursor → Option (List Char × Bool × Cursor)
  | 0, text, gap, cursor => some (text, gap.broken, cursor)
  | fuel + 1, text, gap, cursor =>
    if cursor.atDocumentMark || cursor.rest.head? == some '#' then
      some (text, gap.broken, cursor)
    else do
      let word ← plainWord inFlow cursor.rest
      let cursor := cursor.advance word.length
      let (text, gap) :=
        if word.isEmpty then (text, gap) else (text ++ gap.folded ++ word, Gap.empty)
      if cursor.rest.head?.any isGap then
        let (gap, cursor) ← Gap.read depth (cursor.rest.length + 1) gap cursor
        if !inFlow && cursor.column < depth then some (text, gap.broken, cursor)
        else plainFrom inFlow depth fuel text gap cursor
      else some (text, gap.broken, cursor)

/-- Reads a plain scalar whose further lines reach the column `depth`. -/
def readPlain (inFlow : Bool) (depth : Nat) (cursor : Cursor) :
    Option (List Char × Bool × Cursor) :=
  plainFrom inFlow depth (cursor.rest.length + 1) [] Gap.empty cursor

/-- What stands for a single character behind a backslash. -/
def shortEscapes : List (Char × Char) :=
  [('0', '\x00'), ('a', '\x07'), ('b', '\x08'), ('t', '\t'), ('\t', '\t'), ('n', '\n'),
    ('v', '\x0b'), ('f', '\x0c'), ('r', '\r'), ('e', '\x1b'), (' ', ' '), ('"', '"'), ('/', '/'),
    ('\\', '\\'), ('N', '\u0085'), ('_', '\u00a0'), ('L', '\u2028'), ('P', '\u2029')]

/-- How many digits follow behind a backslash and a letter. -/
def escapeDigits : Char → Nat
  | 'x' => 2
  | 'u' => 4
  | 'U' => 8
  | _ => 0

/-- The character that is written behind a backslash, and the length of that. -/
def readEscape : List Char → Option (Char × Nat)
  | [] => none
  | c :: rest =>
    match shortEscapes.lookup c with
    | some meant => some (meant, 1)
    | none => do
      let count := escapeDigits c
      let digits := rest.take count
      if count = 0 || digits.length ≠ count then none
      else
        let code ← Text.readHex digits
        if code.isValidChar then some (Char.ofNat code, 1 + count) else none

/-- A word of a quoted scalar, up to a gap or the end. -/
structure QuotedWord where
  text : List Char
  cursor : Cursor
  /-- Did the word end with an escaped line end? -/
  joined : Bool

/-- Reads a word of a quoted scalar, whose characters so far are given last one first. -/
def quotedWord (single : Bool) : Nat → List Char → Cursor → Option QuotedWord
  | 0, read, cursor => some ⟨read.reverse, cursor, false⟩
  | fuel + 1, read, cursor =>
    match cursor.rest with
    | [] => some ⟨read.reverse, cursor, false⟩
    | c :: rest =>
      if isGap c then some ⟨read.reverse, cursor, false⟩
      else if single && c == '\'' then
        if rest.head? == some '\'' then quotedWord single fuel ('\'' :: read) (cursor.advance 2)
        else some ⟨read.reverse, cursor, false⟩
      else if !single && c == '"' then some ⟨read.reverse, cursor, false⟩
      else if !single && c == '\\' then
        if rest.head?.any isBreak then
          some ⟨read.reverse, (cursor.advance 1).passBreak, true⟩
        else do
          let (meant, length) ← readEscape rest
          quotedWord single fuel (meant :: read) (cursor.advance (1 + length))
      else quotedWord single fuel (c :: read) (cursor.advance 1)

/-- Reads on in a quoted scalar. -/
def quotedFrom (single : Bool) : Nat → List Char → Cursor → Option (List Char × Cursor)
  | 0, _, _ => none
  | fuel + 1, text, cursor =>
    if cursor.atDocumentMark || cursor.rest.isEmpty then none
    else do
      let word ← quotedWord single (cursor.rest.length + 1) [] cursor
      let text := text ++ word.text
      if word.cursor.rest.head? == some (if single then '\'' else '"') then
        some (text, word.cursor.advance 1)
      else
        let gap : Gap := if word.joined then ⟨[], true, [], []⟩ else Gap.empty
        let (gap, cursor) ← Gap.read 0 (word.cursor.rest.length + 1) gap word.cursor
        quotedFrom single fuel (text ++ gap.folded) cursor

/-- Reads a quoted scalar from its first quote on. -/
def readQuoted (cursor : Cursor) : Option (List Char × Cursor) :=
  quotedFrom (cursor.rest.head? == some '\'') (cursor.rest.length + 1) [] (cursor.advance 1)

/-- What becomes of the line ends at the end of a block. -/
inductive Chomping where
  | strip
  | clip
  | keep
  deriving DecidableEq, Repr

/-- The signs behind the mark of a block. -/
structure BlockHeader where
  chomping : Chomping
  /-- How much further the block is indented, if that is said. -/
  increment : Option Nat

/-- Reads one of the signs behind the mark of a block. -/
def BlockHeader.readSign (header : BlockHeader) (c : Char) : Option BlockHeader :=
  if c == '+' then some { header with chomping := .keep }
  else if c == '-' then some { header with chomping := .strip }
  else if c.isDigit then some { header with increment := some (c.toNat - '0'.toNat) }
  else none

/-- Reads the signs behind the mark of a block: at most one of each kind, in any order. -/
def BlockHeader.read (cs : List Char) : Option (BlockHeader × Nat) :=
  let plain : BlockHeader := ⟨.clip, none⟩
  let isSign (c : Char) : Bool := c == '+' || c == '-'
  let signs := (cs.take 2).takeWhile fun c ↦ isSign c || c.isDigit
  let signs :=
    match signs with
    | [c, d] => if isSign c == isSign d then [c] else signs
    | _ => signs
  if signs.contains '0' then none
  else (signs.foldlM BlockHeader.readSign plain).map fun header ↦ (header, signs.length)

/-- Reads empty lines of a block and the spaces in front of the next line, as far as the column
`depth`, which is zero as long as it is not known. The result holds the line ends, the greatest
column that was met, and the place behind. -/
def blockGap (depth : Nat) :
    Nat → List Char → Nat → Cursor → Option (List Char × Nat × Cursor)
  | 0, breaks, widest, cursor => some (breaks, widest, cursor)
  | fuel + 1, breaks, widest, cursor =>
    let inside (cursor : Cursor) : Bool := depth == 0 || cursor.column < depth
    let spaces := (cursor.rest.takeWhile (· == ' ')).length
    let spaces := if depth = 0 then spaces else min spaces (depth - cursor.column)
    let cursor := cursor.advance spaces
    let widest := max widest cursor.column
    match cursor.rest with
    | [] => some (breaks, widest, cursor)
    | c :: _ =>
      if inside cursor && c == '\t' then none
      else if isBreak c then
        blockGap depth fuel (breaks ++ [keptBreak c]) widest cursor.passBreak
      else some (breaks, widest, cursor)

/-- A block that is being read. -/
structure BlockText where
  text : List Char
  /-- The line end of the last line, which has not been added yet. -/
  pending : List Char
  /-- The line ends behind that one. -/
  further : List Char
  /-- Did the last line begin with a blank? -/
  indented : Bool

/-- Adds a line. Where lines are folded, a single line end between two lines without a blank in
front becomes a space, and of several ones the first is lost. -/
def BlockText.addLine (block : BlockText) (literal : Bool) (line : List Char) : BlockText :=
  let indented := line.head?.any isBlank
  let foldsHere := !literal && block.pending == ['\n'] && !block.indented && !indented
  let between :=
    if !foldsHere then block.pending ++ block.further
    else if block.further.isEmpty then [' ']
    else block.further
  ⟨block.text ++ between ++ line, [], [], indented⟩

/-- Reads the lines of a block at the column `depth`. -/
def blockLines (literal : Bool) (depth : Nat) :
    Nat → BlockText → Cursor → Option (BlockText × Cursor)
  | 0, block, cursor => some (block, cursor)
  | fuel + 1, block, cursor =>
    if cursor.column ≠ depth || cursor.rest.isEmpty then some (block, cursor)
    else do
      let line := cursor.rest.takeWhile fun c ↦ !isBreak c
      let block := block.addLine literal line
      let cursor := cursor.advance line.length
      let pending := (cursor.rest.head?.map keptBreak).toList
      let (breaks, _, cursor) ←
        blockGap depth (cursor.rest.length + 1) [] 0 cursor.passBreak
      blockLines literal depth fuel { block with pending := pending, further := breaks } cursor

/-- Reads a block from its mark on, inside of blocks that reach up to the column `depth`. -/
def readBlock (depth : Nat) (cursor : Cursor) : Option (List Char × Cursor) := do
  let literal := cursor.rest.head? == some '|'
  let cursor := cursor.advance 1
  let (header, length) ← BlockHeader.read cursor.rest
  let cursor ← (cursor.advance length).passLineEnd
  let fuel := cursor.rest.length + 1
  let known : Nat :=
    match header.increment with
    | some increment => (depth - 1) + increment
    | none => 0
  let (breaks, widest, cursor) ← blockGap known fuel [] 0 cursor
  let blockDepth := if known = 0 then max (max widest depth) 1 else known
  let (block, cursor) ← blockLines literal blockDepth fuel ⟨[], [], breaks, false⟩ cursor
  let text :=
    match header.chomping with
    | .strip => block.text
    | .clip => block.text ++ block.pending
    | .keep => block.text ++ block.pending ++ block.further
  pure (text, cursor)

end Yaml

end ColumnStore
