import Interception.Yaml.QuotedScalar

/-!
# Properties of nodes

Anchors, aliases and tags. A tag is a handle and a suffix; both may come with
escaped octets.
-/

set_option autoImplicit false

namespace Interception.Yaml

def isWordChar (c : Char) : Bool :=
  ('0' ≤ c && c ≤ '9') || ('a' ≤ c && c ≤ 'z') || ('A' ≤ c && c ≤ 'Z') || c == '_' || c == '-'

def isUriChar (c : Char) : Bool :=
  isWordChar c || "#;/?:@&=+$,.!~*'()[]%".toList.contains c

def isTagChar (c : Char) : Bool :=
  isUriChar c && !isFlowMark c && c != '!'

/-- A byte order mark ends a name. -/
def isAnchorChar (c : Char) : Bool :=
  !isSpace c && !isFlowMark c && c != '\ufeff'

def octet? : List Char → Option Nat
  | '%' :: a :: b :: _ => do return (← hexValue? a) * 16 + (← hexValue? b)
  | _ => none

/-- How many octets belong to a character that begins with `first`. -/
def octetCount? (first : Nat) : Option Nat :=
  if first < 0x80 then some 1
  else if first < 0xC0 then none
  else if first < 0xE0 then some 2
  else if first < 0xF0 then some 3
  else if first < 0xF8 then some 4
  else none

/-- The octets of one character are put side by side, and the number that results
has to be that of a character. -/
def escapedChar? (cs : List Char) : Option (Char × Nat) := do
  let first ← octet? cs
  let count ← octetCount? first
  let number ← (List.range (count - 1)).foldlM (fun n i => do
    let next ← octet? (cs.drop (3 * (i + 1)))
    if next / 64 = 2 then some (n * 256 + next) else none) first
  return (← charOf? number, 3 * count)

/-- Replaces escaped octets by their characters. -/
def unescapeUri (cs : List Char) : Except Fault (List Char) :=
  match _ : cs with
  | [] => .ok []
  | c :: rest =>
    if c = '%' then
      match escapedChar? (c :: rest) with
      | some (value, width) => (unescapeUri (rest.drop (width - 1))).map (value :: ·)
      | none => .error .badTag
    else (unescapeUri rest).map (c :: ·)
termination_by cs.length
decreasing_by
  · exact Nat.lt_succ_of_le (List.drop_sublist _ _).length_le
  · exact Nat.lt_succ_self _

/-- Reads the run of characters that satisfy `p`, escapes resolved. -/
def readUri (p : Char → Bool) (c : Cursor) : Except Fault (List Char × Cursor) :=
  (unescapeUri (c.run p)).map (·, c.skipWhile p)

/-- `!`, `!word` or `!word!`. In a directive only the first and the last are handles. -/
def readHandle (inDirective : Bool) (c : Cursor) : Except Fault (List Char × Cursor) :=
  if c.peek != '!' then .error .badTag
  else
    let word := c.step.run isWordChar
    let after := c.step.skipWhile isWordChar
    if after.peek == '!' then .ok ('!' :: word ++ ['!'], after.step)
    else if inDirective && !word.isEmpty then .error .badTag
    else .ok ('!' :: word, after)

def readVerbatim (c : Cursor) : Except Fault (List Char × Cursor) := do
  let (text, after) ← readUri isUriChar c.step.step
  if after.peek == '>' then .ok (text, after.step) else .error .badTag

/-- A handle that turns out to be none is the start of the suffix of a local tag; the
mark alone is a suffix without handle. -/
def readShorthand (c : Cursor) : Except Fault (List Char × List Char × Cursor) := do
  let (handle, after) ← readHandle false c
  let (suffix, last) ← readUri isTagChar after
  if 2 ≤ handle.length && handle.getLast? == some '!' then
    if suffix.isEmpty then .error .badTag else .ok (handle, suffix, last)
  else
    let suffix := handle.drop 1 ++ suffix
    if suffix.isEmpty then .ok ([], ['!'], last) else .ok (['!'], suffix, last)

/-- Reads a tag from its mark on. -/
def scanTag (inFlow : Bool) (c : Cursor) : Except Fault (Token × Cursor) := do
  let (handle, suffix, after) ←
    if c.peek 1 == '<' then (readVerbatim c).map fun (text, after) => ([], text, after)
    else readShorthand c
  if isSpace after.peek || (inFlow && isFlowMark after.peek) then
    .ok (.tag (String.ofList handle) (String.ofList suffix), after)
  else .error .badTag

/-- Reads the name behind the mark of an anchor or an alias. -/
def scanName (c : Cursor) : Except Fault (String × Cursor) :=
  let name := c.step.run isAnchorChar
  if name.isEmpty then .error .badAnchor
  else .ok (String.ofList name, c.step.skipWhile isAnchorChar)

end Interception.Yaml
