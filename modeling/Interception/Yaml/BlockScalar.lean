import Interception.Yaml.QuotedScalar

/-!
# Block scalars

Literal and folded text that is delimited by its indentation. The indentation is
that of the first line with content, unless the header gives it.
-/

set_option autoImplicit false

namespace Interception.Yaml

/-- What becomes of the line breaks at the end. -/
inductive Chomping where
  | strip
  | clip
  | keep
  deriving DecidableEq

structure BlockHeader where
  chomping : Chomping := .clip
  increment : Option Nat := none

def chomping? (c : Char) : Option Chomping :=
  if c == '+' then some .keep else if c == '-' then some .strip else none

/-- A digit that gives the indentation; zero is none. -/
def readIncrement (h : BlockHeader) (c : Cursor) : Except Fault (BlockHeader × Cursor) :=
  let x := c.peek
  if x == '0' then .error .indentation
  else if x.isDigit then .ok ({ h with increment := some (x.toNat - '0'.toNat) }, c.step)
  else .ok (h, c)

def readChomping (h : BlockHeader) (c : Cursor) : BlockHeader × Cursor :=
  match chomping? c.peek with
  | some chomping => ({ h with chomping }, c.step)
  | none => (h, c)

/-- The two indicators come in either order. -/
def readHeader (c : Cursor) : Except Fault (BlockHeader × Cursor) :=
  match chomping? c.peek with
  | some chomping => readIncrement { chomping } c.step
  | none => do
    let (h, c) ← readIncrement {} c
    if h.increment.isSome then .ok (readChomping h c) else .ok (h, c)

namespace Cursor

/-- Moves over blanks up to column `limit`. -/
def indentTo (limit : Nat) (c : Cursor) : Cursor :=
  match _ : c.rest with
  | [] => c
  | x :: _ => if x = ' ' ∧ c.column < limit then indentTo limit c.step else c
termination_by c.rest.length
decreasing_by exact length_step_lt (by assumption)

theorem length_indentTo_le (limit : Nat) (c : Cursor) :
    (c.indentTo limit).rest.length ≤ c.rest.length := by
  fun_induction indentTo limit c with
  | case1 => exact Nat.le_refl _
  | case2 c x rest h _ ih => exact Nat.le_trans ih (Nat.le_of_lt (length_step_lt h))
  | case3 => exact Nat.le_refl _

/-- Moves over empty lines and then to column `limit`, or to content before it.
Counts the lines. -/
def skipEmptyLines (limit breaks : Nat) (c : Cursor) : Nat × Cursor :=
  let line := c.indentTo limit
  match _ : line.rest with
  | [] => (breaks, line)
  | x :: _ => if _ : isBreak x then skipEmptyLines limit (breaks + 1) line.cross else (breaks, line)
termination_by c.rest.length
decreasing_by
  exact Nat.lt_of_lt_of_le (length_cross_lt (by assumption) (by assumption))
    (length_indentTo_le limit c)

theorem length_skipEmptyLines_le (limit breaks : Nat) (c : Cursor) :
    (c.skipEmptyLines limit breaks).2.rest.length ≤ c.rest.length := by
  fun_induction skipEmptyLines limit breaks c with
  | case1 breaks c => exact length_indentTo_le limit c
  | case2 breaks c line x rest h hx ih =>
    exact Nat.le_trans ih (Nat.le_trans (Nat.le_of_lt (length_cross_lt h hx))
      (length_indentTo_le limit c))
  | case3 breaks c => exact length_indentTo_le limit c

/-- As `skipEmptyLines` without a limit; finds the widest indentation met. -/
def measureIndent (breaks widest : Nat) (c : Cursor) : Nat × Nat × Cursor :=
  let line := c.skipWhile (· == ' ')
  let widest := max widest line.column
  match _ : line.rest with
  | [] => (breaks, widest, line)
  | x :: _ =>
    if _ : isBreak x then measureIndent (breaks + 1) widest line.cross
    else (breaks, widest, line)
termination_by c.rest.length
decreasing_by
  exact Nat.lt_of_lt_of_le (length_cross_lt (by assumption) (by assumption))
    (length_skipWhile_le _ c)

end Cursor

/-- Text read so far, backwards, and what stands behind it: whether the last line
was ended by a break, whether it began with a blank, and how many empty lines
follow. -/
structure BlockText where
  text : List Char := []
  ended : Bool := false
  indented : Bool := false
  breaks : Nat := 0

/-- Joins the next line. Folding turns the break between two lines into a blank,
unless one of them begins with a blank. -/
def BlockText.join (literal startsBlank : Bool) (b : BlockText) : List Char :=
  let empty := List.replicate b.breaks '\n'
  if !literal && b.ended && !b.indented && !startsBlank then
    (if b.breaks = 0 then [' '] else empty) ++ b.text
  else empty ++ (if b.ended then ['\n'] else []) ++ b.text

/-- Reads content lines, each of which starts at column `indent`. -/
def readBlock (literal : Bool) (indent : Nat) (b : BlockText) (c : Cursor) :
    BlockText × Cursor :=
  match _ : c.rest with
  | [] => (b, c)
  | x :: _ =>
    if c.column ≠ indent ∨ (indent = 0 ∧ c.atDocumentEnd) then (b, c)
    else
      let startsBlank := isBlank x
      let text := (c.run (!isBreak ·)).reverse ++ b.join literal startsBlank
      let line := c.skipLine
      match _ : line.rest with
      | [] => ({ text, indented := startsBlank }, line)
      | y :: _ =>
        if _ : isBreak y then
          let next := line.cross.skipEmptyLines indent 0
          readBlock literal indent
            { text, ended := true, indented := startsBlank, breaks := next.1 } next.2
        else ({ text, indented := startsBlank }, line)
termination_by c.rest.length
decreasing_by
  exact Nat.lt_of_le_of_lt (Cursor.length_skipEmptyLines_le indent 0 _)
    (Nat.lt_of_lt_of_le (Cursor.length_cross_lt (by assumption) (by assumption))
      (Cursor.length_skipWhile_le _ c))

/-- What remains of the end of a scalar that is followed by the place `c`. Text that
ends without a break gets one. -/
def BlockText.finish (h : BlockHeader) (indent : Nat) (b : BlockText) (c : Cursor) : List Char :=
  let atEnd := isEnd c.peek && max indent 1 ≤ c.column
  let last := (if atEnd then ['\n'] else []) ++ (if b.ended then ['\n'] else [])
  match h.chomping with
  | .strip => b.text
  | .clip => last ++ b.text
  | .keep => List.replicate b.breaks '\n' ++ last ++ b.text

/-- The text of a scalar without content, when `breaks` empty lines follow its header. -/
def emptyBlock (h : BlockHeader) (broken sameLine : Bool) (breaks : Nat) : List Char :=
  let one := if broken then ['\n'] else []
  match h.chomping with
  | .strip => []
  | .clip => if sameLine then [] else one
  | .keep =>
    if sameLine then []
    else if breaks = 0 then one
    else List.replicate breaks '\n'

/-- Reads a block scalar from its indicator on; `outer` is the indentation of the
block around it. -/
def scanBlock (literal : Bool) (outer : Int) (c : Cursor) : Except Fault (String × Cursor) := do
  let (h, afterHeader) ← readHeader c.step
  let line ← afterHeader.skipInline true
  if !isBreakOrEnd line.cursor.peek then .error .unexpectedCharacter
  else
    let broken := isBreak line.cursor.peek
    let start := line.cursor.cross
    if start.peek == '\t' then .error .tab
    else
      let (breaks, indent, first) := match h.increment with
        | some n =>
          let indent := if 0 ≤ outer then (outer + n).toNat else n
          let (breaks, first) := start.skipEmptyLines indent 0
          (breaks, indent, first)
        | none =>
          let (breaks, widest, first) := start.measureIndent 0 0
          let least := max widest (outer + 1).toNat
          (breaks, if 0 < outer then max least 1 else least, first)
      if isEnd first.peek then
        .ok (String.ofList (emptyBlock h broken (first.line == c.line) breaks), first)
      else if first.column < indent ∧ outer < first.column then .error .indentation
      else
        let (b, after) := readBlock literal indent { breaks } first
        .ok (String.ofList (b.finish h indent after).reverse, after)

end Interception.Yaml
