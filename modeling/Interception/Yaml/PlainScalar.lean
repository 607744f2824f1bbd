import Interception.Yaml.Gap
import Interception.Yaml.Space

/-!
# Plain scalars

Text without quotes. It goes on over lines that are indented more than the block
around it, and ends before what could be read as structure.
-/

set_option autoImplicit false

namespace Interception.Yaml

/-- Whether `c` can be part of a plain scalar when `next` follows it. -/
def isPlain (inFlow : Bool) (c next : Char) : Bool :=
  !isSpace c && !(c == ':' && (isSpace next || (inFlow && isFlowMark next)))
    && !(inFlow && isFlowMark c)

/-- Where a plain scalar ended: its text, and whether a line break was the last
thing passed that is no blank. -/
structure PlainRead where
  text : List Char
  cursor : Cursor
  brokeLine : Bool

/-- `text` is kept backwards; `indent` is the least column of a further line. A gap
at the end is not part of the text. A line whose comment stands behind a tab may
lie in the gap, and its break does not count. -/
def readPlain (inFlow : Bool) (indent : Int) (text : List Char) (gap : Gap) (inRun : Bool)
    (c : Cursor) : Except Fault PlainRead :=
  let stop : Except Fault PlainRead := .ok ⟨text, c, gap.folded⟩
  match _ : c.rest with
  | [] => stop
  | x :: _ =>
    if isBlank x then
      if gap.folded && x == '\t' && (c.column : Int) < indent then
        match _ : c.skipInline true with
        | .error e => .error e
        | .ok line =>
          if isBreakOrEnd line.cursor.peek then
            readPlain inFlow indent text gap false line.cursor
          else .error .tab
      else readPlain inFlow indent text (gap.addBlank x) false c.step
    else if _ : isBreak x then
      let gap := if gap.folded && !c.fresh then gap else gap.addBreak
      readPlain inFlow indent text gap false c.cross
    else if inRun then
      if isPlain inFlow x (c.peek 1) then readPlain inFlow indent (x :: text) {} true c.step
      else stop
    else if !inFlow && gap.folded && (c.column : Int) < indent then stop
    else if (c.fresh && c.atDocumentMark) || x == '#' then stop
    else if inFlow && x == '-' && isFlowMark (c.peek 1) then .error .unexpectedCharacter
    else if isPlain inFlow x (c.peek 1) then
      readPlain inFlow indent (x :: gap.text ++ text) {} true c.step
    else stop
termination_by c.rest.length
decreasing_by
  · have isTab : x = '\t' := by simp_all
    subst isTab
    exact Cursor.length_skipInline_lt (by assumption) (by assumption)
  · exact Cursor.length_step_lt (by assumption)
  · exact Cursor.length_cross_lt (by assumption) (by assumption)
  · exact Cursor.length_step_lt (by assumption)
  · exact Cursor.length_step_lt (by assumption)

/-- `indent` is the indentation of the block around the scalar. -/
def scanPlain (inFlow : Bool) (indent : Int) (c : Cursor) : Except Fault PlainRead := do
  if inFlow && (c.column : Int) < indent + 1 then .error .indentation
  else
    let read ← readPlain inFlow (indent + 1) [] {} false c
    if read.text.isEmpty then .error .unexpectedCharacter else .ok read

end Interception.Yaml
