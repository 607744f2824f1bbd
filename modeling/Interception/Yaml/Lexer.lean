import Interception.Yaml.BlockScalar
import Interception.Yaml.Directive
import Interception.Yaml.PlainScalar

/-!
# From text to tokens

Tokens are read one after the other. Two things are only known later and are then
inserted before tokens already read: that a node was the key of a mapping, and
that a mapping began with it. The nodes which could still turn out to be keys are
remembered for every open flow collection and for the block around them.
-/

set_option autoImplicit false

namespace Interception.Yaml

/-- A node that may be a key. It is `required` to be one where a block mapping can
only go on with a key. -/
structure KeyCandidate where
  possible : Bool := false
  required : Bool := false
  position : Nat := 0
  index : Nat := 0
  line : Nat := 0
  column : Nat := 0

/-- A column of indentation; some only keep what follows an entry or a key apart and
begin no block. -/
structure Indent where
  column : Int
  beginsBlock : Bool

structure Lexer where
  cursor : Cursor
  tokens : Array Token := #[]
  /-- The column of the last token, if that is an anchor or a tag. -/
  propertyColumn : Option Nat := none
  /-- The current indentation comes first. -/
  indents : List Indent := []
  /-- One for each open flow collection, innermost first, and one for the block. -/
  candidates : List KeyCandidate := [{}]
  keyAllowed : Bool := true
  flowLevel : Nat := 0
  /-- Where a value may follow its key without a blank. -/
  adjacentAt : Nat := 0
  flowMappingStarted : Bool := false
  pairOpen : Bool := false
  ended : Bool := false

namespace Lexer

/-- As many flow collections may be open at a time. -/
def maxFlowLevel : Nat := 255

/-- So far from its beginning a block key has to have ended. -/
def maxKeyLength : Nat := 1024

def inFlow (l : Lexer) : Bool :=
  l.flowLevel != 0

def indent (l : Lexer) : Int :=
  match l.indents with
  | [] => -1
  | i :: _ => i.column

def column (l : Lexer) : Int :=
  l.cursor.column

def emit (l : Lexer) (t : Token) : Lexer :=
  { l with tokens := l.tokens.push t, propertyColumn := none }

def insert (l : Lexer) (position : Nat) (t : Token) : Lexer :=
  { l with tokens := l.tokens.insertIdxIfInBounds position t }

def moveTo (l : Lexer) (c : Cursor) : Lexer :=
  { l with cursor := c }

def candidate (l : Lexer) : KeyCandidate :=
  l.candidates.headD {}

def setCandidate (l : Lexer) (k : KeyCandidate) : Lexer :=
  { l with candidates := k :: l.candidates.tail }

/-- Moves over blanks and a comment on the line. -/
def passInline (l : Lexer) (tabs : Bool) : Except Fault Lexer :=
  (l.cursor.skipInline tabs).map fun line => l.moveTo line.cursor

/-! ## Indentation -/

/-- Closes the blocks that are indented further than `column`. -/
def closeBlocks (l : Lexer) (column : Int) : Lexer :=
  if l.inFlow then l
  else
    let closed := l.indents.takeWhile (column < ·.column)
    let l := { l with indents := l.indents.dropWhile (column < ·.column) }
    (closed.filter (·.beginsBlock)).foldl (fun l _ => l.emit .blockEnd) l

/-- Drops the indentation that begins no block. -/
def dropSoftIndents (l : Lexer) : Lexer :=
  { l with indents := l.indents.dropWhile (!·.beginsBlock) }

/-- Keeps what follows one column further in than the block. -/
def softIndent (l : Lexer) : Lexer :=
  match l.indents with
  | i :: _ =>
    if !l.inFlow && i.beginsBlock then
      { l with indents := ⟨i.column + 1, false⟩ :: l.indents }
    else l
  | [] => l

/-- Begins a block at `column` unless one is open there; its token goes to `position`,
or behind the tokens read so far. -/
def openBlock (l : Lexer) (column : Nat) (position : Option Nat) (t : Token) : Lexer :=
  if l.inFlow then l
  else
    let l := match l.indents with
      | i :: rest =>
        if i.column ≤ (column : Int) && !i.beginsBlock then { l with indents := rest } else l
      | [] => l
    if l.indent < (column : Int) then
      let l := { l with indents := ⟨column, true⟩ :: l.indents }
      match position with
      | some n => l.insert n t
      | none => l.emit t
    else l

/-! ## Keys -/

/-- A key of a block stands on one line and is not too long. -/
def expireKeys (l : Lexer) : Except Fault Lexer :=
  let stale (k : KeyCandidate) : Bool :=
    k.possible && !l.inFlow
      && (k.line < l.cursor.line || k.index + maxKeyLength < l.cursor.index)
  if l.candidates.any fun k => stale k && k.required then .error .misplacedKey
  else .ok { l with
    candidates := l.candidates.map fun k => if stale k then { k with possible := false } else k }

/-- Remembers that the token about to be read may be a key. -/
def noteKey (l : Lexer) : Lexer :=
  if l.keyAllowed then
    l.setCandidate {
      possible := true
      required := !l.inFlow && l.indent == l.column
        && ((l.indents.head?.map (·.beginsBlock)).getD false)
      position := l.tokens.size
      index := l.cursor.index
      line := l.cursor.line
      column := l.cursor.column }
  else l

/-- What was remembered is no key after all. -/
def forgetKey (l : Lexer) : Except Fault Lexer :=
  let k := l.candidate
  if k.possible && k.required then .error .misplacedKey
  else .ok (l.setCandidate { k with possible := false })

def allowKey (l : Lexer) (allowed : Bool) : Lexer :=
  { l with keyAllowed := allowed }

/-! ## Tokens -/

/-- Ends a mapping that a flow sequence holds without braces. -/
def closePair (l : Lexer) : Lexer :=
  if l.pairOpen then
    { l with pairOpen := false, flowMappingStarted := false }.emit .flowMappingEnd
  else l

def readEnd (l : Lexer) : Except Fault Lexer := do
  if l.candidates.any fun k => k.required && k.possible then .error .misplacedKey
  else
    let settled := l.candidates.map fun (k : KeyCandidate) => { k with possible := false }
    let l := { l with candidates := settled }
    let l := ((l.closeBlocks (-1)).allowKey false).emit .streamEnd
    .ok { l with ended := true }

def readDirective (l : Lexer) : Except Fault Lexer := do
  let l ← (l.closeBlocks (-1)).forgetKey
  let (t, c) ← scanDirective l.cursor
  .ok (((l.allowKey false).moveTo c).emit t)

def readDocumentMark (t : Token) (l : Lexer) : Except Fault Lexer := do
  let l ← (l.closeBlocks (-1)).forgetKey
  .ok (((l.allowKey false).moveTo (l.cursor.steps 3)).emit t)

/-- Nothing but a comment may follow the end of a document on its line. -/
def readDocumentEnd (l : Lexer) : Except Fault Lexer := do
  let l ← l.readDocumentMark .documentEnd
  let l ← l.passInline true
  if isBreakOrEnd l.cursor.peek then .ok l else .error .unexpectedCharacter

def readFlowStart (t : Token) (l : Lexer) : Except Fault Lexer := do
  let l := l.noteKey.softIndent
  if l.flowLevel = maxFlowLevel then .error .tooDeep
  else
    let l := { l with
      flowLevel := l.flowLevel + 1
      candidates := {} :: l.candidates
      keyAllowed := true
      flowMappingStarted := l.flowMappingStarted || t == Token.flowMappingStart }
    let l ← (l.moveTo l.cursor.step).passInline true
    .ok (l.emit t)

def readFlowEnd (t : Token) (l : Lexer) : Except Fault Lexer := do
  let l ← l.forgetKey
  let l := if l.inFlow then
    { l with flowLevel := l.flowLevel - 1, candidates := l.candidates.tail } else l
  let l := l.allowKey false
  let l := if t == Token.flowSequenceEnd then l.closePair else l
  let l ← (l.moveTo l.cursor.step).passInline true
  let l := if l.inFlow then { l with adjacentAt := l.cursor.index } else l
  .ok (l.emit t)

def readFlowEntry (l : Lexer) : Except Fault Lexer := do
  let l ← l.forgetKey
  let l := (l.allowKey true).closePair
  let l ← (l.moveTo l.cursor.step).passInline true
  .ok (l.emit .flowEntry)

def readBlockEntry (l : Lexer) : Except Fault Lexer := do
  if l.inFlow || !l.keyAllowed then .error .misplacedEntry
  else if l.propertyColumn == some 0 && l.cursor.column == 0 && -1 < l.indent then
    .error .indentation
  else
    let l := (l.moveTo l.cursor.step).openBlock l.cursor.column none .blockSequenceStart
    let line ← l.cursor.skipInline true
    let c := line.cursor
    if line.sawTab && c.peek == '-' && isSpace (c.peek 1) then .error .tab
    else
      let l ← (l.moveTo c).passInline false
      let next := l.cursor.peek
      let l := if isBreak next || isFlowMark next then l.softIndent else l
      let l ← l.forgetKey
      .ok ((l.allowKey true).emit .blockEntry)

/-- A key that is marked as such. -/
def readKey (l : Lexer) : Except Fault Lexer := do
  if !l.inFlow && !l.keyAllowed then .error .misplacedKey
  else
    let l := if l.inFlow then { l with flowMappingStarted := true }
      else l.openBlock l.cursor.column none .blockMappingStart
    let l ← l.forgetKey
    let l := l.allowKey !l.inFlow
    let (c, allowed, passed) := l.cursor.step.skipSeparation l.inFlow l.keyAllowed false
    if !passed then .error .unexpectedCharacter
    else if c.peek == '\t' then .error .tab
    else .ok (((l.moveTo c).allowKey allowed).emit .key)

/-- The value of the node that was remembered as a possible key. -/
def readValueOf (k : KeyCandidate) (start : Cursor) (l : Lexer) : Except Fault Lexer :=
  if l.pairOpen && k.line < start.line then .error .misplacedKey
  else
    let l := l.insert k.position .key
    let l := if l.pairOpen then l.insert k.position .flowMappingStart else l
    let l := (l.openBlock k.column (some k.position) .blockMappingStart).softIndent
    .ok ((l.setCandidate { k with possible := false }).allowKey false)

/-- A value whose key was marked as such, or which has none. -/
def readLoneValue (start : Cursor) (l : Lexer) : Except Fault Lexer :=
  let l := if l.pairOpen then l.emit .flowMappingStart else l
  if l.inFlow then .ok (l.softIndent.allowKey false)
  else if !l.keyAllowed then .error .misplacedKey
  else .ok ((l.openBlock start.column none .blockMappingStart).softIndent.allowKey true)

def readValue (l : Lexer) : Except Fault Lexer := do
  let k := l.candidate
  let start := l.cursor
  let l := { l with pairOpen := l.inFlow && !l.flowMappingStarted }.moveTo start.step
  let l ← if l.cursor.peek == '\t' then do
      let line ← l.cursor.skipInline true
      let next := line.cursor.peek
      if !line.sawBlank && (next == '-' || isWordChar next) then .error .tab
      else .ok (l.moveTo line.cursor)
    else .ok l
  let l ← if k.possible then l.readValueOf k start else l.readLoneValue start
  .ok (l.emit .value)

def readName (token : String → Token) (isAnchor : Bool) (l : Lexer) : Except Fault Lexer := do
  let l := l.noteKey.allowKey false
  let (name, c) ← scanName l.cursor
  let propertyColumn := if isAnchor then some l.cursor.column else none
  .ok { (l.moveTo c).emit (token name) with propertyColumn }

def readTag (l : Lexer) : Except Fault Lexer := do
  let l := l.noteKey.allowKey false
  let (t, c) ← scanTag l.inFlow l.cursor
  .ok { (l.moveTo c).emit t with propertyColumn := some l.cursor.column }

def readBlockScalar (literal : Bool) (l : Lexer) : Except Fault Lexer := do
  let l := (l.noteKey.allowKey true).dropSoftIndents
  let (text, c) ← scanBlock literal l.indent l.cursor
  .ok ((l.moveTo c).emit (.scalar .block text))

def surroundings (l : Lexer) : Surroundings :=
  ⟨!l.indents.isEmpty, l.inFlow, l.indent⟩

def moveToToken (l : Lexer) : Except Fault Lexer :=
  (l.cursor.skipToToken l.surroundings l.keyAllowed).map fun (c, allowed) =>
    (l.moveTo c).allowKey allowed

/-- In a flow collection a value may follow a quoted key at once. -/
def readQuotedScalar (single : Bool) (l : Lexer) : Except Fault Lexer := do
  let l := l.noteKey.allowKey false
  let (text, c) ← scanQuoted single l.inFlow l.indent l.cursor
  let l ← (l.moveTo c).moveToToken
  .ok ({ l with adjacentAt := l.cursor.index }.emit (.scalar .quoted text))

def readPlainScalar (l : Lexer) : Except Fault Lexer := do
  let l := (l.noteKey.allowKey false).dropSoftIndents
  let read ← scanPlain l.inFlow l.indent l.cursor
  let l := (l.moveTo read.cursor).allowKey read.brokeLine
  .ok (l.emit (.scalar .plain (String.ofList read.text.reverse)))

/-- Whether a colon that is followed by `next` ends a key. -/
def isValueMark (l : Lexer) (next : Char) : Bool :=
  isSpace next || (l.inFlow && (isFlowMark next || l.cursor.index == l.adjacentAt))

/-- Reads the token at the cursor, which is told by its first characters. -/
def readToken (l : Lexer) : Except Fault Lexer :=
  let next := l.cursor.peek 1
  match l.cursor.peek with
  | '[' => l.readFlowStart .flowSequenceStart
  | '\x7b' => l.readFlowStart .flowMappingStart
  | ']' => l.readFlowEnd .flowSequenceEnd
  | '\x7d' => l.readFlowEnd .flowMappingEnd
  | ',' => l.readFlowEntry
  | '-' => if isSpace next then l.readBlockEntry else l.readPlainScalar
  | '?' => if isSpace next then l.readKey else l.readPlainScalar
  | ':' => if l.isValueMark next then l.readValue else l.readPlainScalar
  | '*' => l.readName .alias false
  | '&' => l.readName .anchor true
  | '!' => l.readTag
  | '|' => if l.inFlow then l.readPlainScalar else l.readBlockScalar true
  | '>' => if l.inFlow then l.readPlainScalar else l.readBlockScalar false
  | '\'' => l.readQuotedScalar true
  | '"' => l.readQuotedScalar false
  | '%' | '@' | '`' => .error .unexpectedCharacter
  | _ => l.readPlainScalar

/-- Moves to the next token and reads it. -/
def next (l : Lexer) : Except Fault Lexer := do
  let l ← l.moveToToken
  let l ← l.expireKeys
  let l := l.closeBlocks l.column
  if isEnd l.cursor.peek then l.readEnd
  else if l.cursor.column == 0 && l.cursor.peek == '%' then l.readDirective
  else if l.cursor.atDocumentStart then l.readDocumentMark .documentStart
  else if l.cursor.atDocumentEnd then l.readDocumentEnd
  else if l.column < l.indent then .error .indentation
  else l.readToken

/-- Reads up to `count` tokens, until the text ends. -/
def readTokens : Nat → Lexer → Except Fault (List Token)
  | 0, _ => .error .unexpectedCharacter
  | count + 1, l => do
    let l ← l.next
    if l.ended then .ok l.tokens.toList else readTokens count l

end Lexer

/-- All tokens of a text. Every token but the last one takes a character at least. -/
def tokensOf (text : String) : Except Fault (List Token) :=
  let cursor := Cursor.ofText text
  Lexer.readTokens (cursor.rest.length + 1) { cursor }

end Interception.Yaml
