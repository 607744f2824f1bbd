import Interception.Yaml.Gap
import Interception.Yaml.Space

/-!
# Quoted scalars

Between single quotes only the quote itself is written twice. Between double
quotes a backslash starts an escape, also that of a line break.
-/

set_option autoImplicit false

namespace Interception.Yaml

def hexValue? (c : Char) : Option Nat :=
  if c.isDigit then some (c.toNat - '0'.toNat)
  else if 'a' ≤ c ∧ c ≤ 'f' then some (c.toNat - 'a'.toNat + 10)
  else if 'A' ≤ c ∧ c ≤ 'F' then some (c.toNat - 'A'.toNat + 10)
  else none

/-- The character with number `n`, if there is one. -/
def charOf? (n : Nat) : Option Char :=
  if h : n.isValidChar then some (Char.ofNatAux n h) else none

/-- The number that `count` hexadecimal digits write. -/
def hexNumber? (count : Nat) (cs : List Char) : Option Nat :=
  let digits := cs.take count
  if digits.length < count then none
  else digits.foldlM (fun n c => (hexValue? c).map (n * 16 + ·)) 0

/-- The character that an escape stands for, and how many characters follow the
letter that names it. -/
def escape? (letter : Char) (rest : List Char) : Option (Char × Nat) :=
  let numbered (count : Nat) : Option (Char × Nat) :=
    ((hexNumber? count rest).bind charOf?).map (·, count)
  match letter with
  | '0' => some ('\x00', 0)
  | 'a' => some ('\x07', 0)
  | 'b' => some ('\x08', 0)
  | 't' | '\t' => some ('\t', 0)
  | 'n' => some ('\n', 0)
  | 'v' => some ('\x0b', 0)
  | 'f' => some ('\x0c', 0)
  | 'r' => some ('\r', 0)
  | 'e' => some ('\x1b', 0)
  | ' ' => some (' ', 0)
  | '"' => some ('"', 0)
  | '/' => some ('/', 0)
  | '\\' => some ('\\', 0)
  | 'N' => some ('\u0085', 0)
  | '_' => some ('\u00a0', 0)
  | 'L' => some ('\u2028', 0)
  | 'P' => some ('\u2029', 0)
  | 'x' => numbered 2
  | 'u' => numbered 4
  | 'U' => numbered 8
  | _ => none

theorem Cursor.length_steps_le (n : Nat) (c : Cursor) :
    (c.steps n).rest.length ≤ c.rest.length := by
  induction n generalizing c with
  | zero => exact Nat.le_refl _
  | succ n ih =>
    exact Nat.le_trans (ih c.step) (by simp)

/-- Reads up to the closing quote. `text` is kept backwards. At the start of a run
of text, after a gap, the indentation is checked and a document may not end. -/
def readQuoted (single : Bool) (indent : Int) (text : List Char) (gap : Gap) (inRun : Bool)
    (c : Cursor) : Except Fault (List Char × Cursor) :=
  match _ : c.rest with
  | [] => .error .unterminated
  | x :: rest =>
    if isBlank x then
      if gap.folded && x == '\t' && (c.column : Int) < indent then .error .tab
      else readQuoted single indent text (gap.addBlank x) false c.step
    else if _ : isBreak x then readQuoted single indent text gap.addBreak false c.cross
    else if !inRun && c.atDocumentMark then .error .unterminated
    else if !inRun && (c.column : Int) < indent then .error .indentation
    else
      let text := gap.text ++ text
      if single then
        if x = '\'' then
          if rest.head? = some '\'' then
            readQuoted single indent ('\'' :: text) {} true c.step.step
          else .ok (text, c.step)
        else readQuoted single indent (x :: text) {} true c.step
      else if x = '"' then .ok (text, c.step)
      else if x = '\\' then
        match _ : rest with
        | [] => .error .badEscape
        | letter :: tail =>
          if _ : isBreak letter then
            let after := c.step.cross
            readQuoted single indent text .afterEscape (after.peek == '"') after
          else match escape? letter tail with
            | none => .error .badEscape
            | some (value, digits) =>
              readQuoted single indent (value :: text) {} true ((c.step.step).steps digits)
      else readQuoted single indent (x :: text) {} true c.step
termination_by c.rest.length
decreasing_by
  · exact Cursor.length_step_lt (by assumption)
  · exact Cursor.length_cross_lt (by assumption) (by assumption)
  · exact Nat.lt_of_le_of_lt (Cursor.length_step_le _) (Cursor.length_step_lt (by assumption))
  · exact Cursor.length_step_lt (by assumption)
  · refine Nat.lt_trans (Cursor.length_cross_lt (?_ : _ = letter :: tail) (by assumption)) ?_
    · simp_all
    · simp_all
  · refine Nat.lt_of_le_of_lt (Cursor.length_steps_le _ _) ?_
    exact Nat.lt_of_le_of_lt (Cursor.length_step_le _) (Cursor.length_step_lt (by assumption))
  · exact Cursor.length_step_lt (by assumption)

/-- What may follow a quoted scalar on its line. -/
def endsQuoted (inFlow sameLine : Bool) (c : Char) : Bool :=
  isBreakOrEnd c || (inFlow && (c == ',' || c == '\x7d' || c == ']'))
    || (c == ':' && (inFlow || sameLine))

/-- Reads a quoted scalar from its opening quote on. -/
def scanQuoted (single inFlow : Bool) (indent : Int) (c : Cursor) :
    Except Fault (String × Cursor) := do
  let (text, after) ← readQuoted single indent [] {} false c.step
  let line ← after.skipInline true
  if endsQuoted inFlow (c.line == line.cursor.line) line.cursor.peek then
    .ok (String.ofList text.reverse, line.cursor)
  else .error .unexpectedCharacter

end Interception.Yaml
