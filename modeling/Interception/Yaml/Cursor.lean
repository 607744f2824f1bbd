/-!
# Places in a text

What is left to read and where it stands. The text ends at its end or at its
first null character, and beyond the end one reads nulls.
-/

set_option autoImplicit false

namespace Interception.Yaml

def isBreak (c : Char) : Bool := c == '\n' || c == '\r'
def isBlank (c : Char) : Bool := c == ' ' || c == '\t'
def isEnd (c : Char) : Bool := c == '\x00'
def isBreakOrEnd (c : Char) : Bool := isBreak c || isEnd c
def isSpace (c : Char) : Bool := isBlank c || isBreakOrEnd c

/-- The characters that structure flow collections. -/
def isFlowMark (c : Char) : Bool :=
  c == ',' || c == '[' || c == ']' || c == '\x7b' || c == '\x7d'

/-- Lines count from one, columns from zero. `fresh` holds as long as only blanks
were read on the line. -/
structure Cursor where
  rest : List Char
  index : Nat := 0
  line : Nat := 1
  column : Nat := 0
  fresh : Bool := true

namespace Cursor

def ofText (text : String) : Cursor :=
  { rest := text.toList.takeWhile (!isEnd ·) }

/-- The character `n` places ahead. -/
def peek (c : Cursor) (n : Nat := 0) : Char :=
  c.rest[n]?.getD '\x00'

/-- Moves over one character of the line. -/
def step (c : Cursor) : Cursor :=
  match c.rest with
  | [] => c
  | x :: rest =>
    { c with rest, index := c.index + 1, column := c.column + 1, fresh := c.fresh && isBlank x }

def steps : Nat → Cursor → Cursor
  | 0, c => c
  | n + 1, c => steps n c.step

/-- The start of the next line, `width` characters ahead. -/
def nextLine (c : Cursor) (rest : List Char) (width : Nat) : Cursor :=
  { rest, index := c.index + width, line := c.line + 1, column := 0, fresh := true }

/-- Moves over a line break; two characters make one break when the second belongs
to the first. -/
def cross (c : Cursor) : Cursor :=
  match c.rest with
  | '\r' :: '\n' :: rest => c.nextLine rest 2
  | x :: rest => if isBreak x then c.nextLine rest 1 else c
  | [] => c

@[simp] theorem rest_step (c : Cursor) : c.step.rest = c.rest.tail := by
  unfold step
  split <;> simp_all

theorem length_step_le (c : Cursor) : c.step.rest.length ≤ c.rest.length := by
  rw [rest_step]
  exact (List.tail_sublist _).length_le

theorem length_step_lt {c : Cursor} {x : Char} {rest : List Char} (h : c.rest = x :: rest) :
    c.step.rest.length < c.rest.length := by
  simp [h]

theorem length_cross_lt {c : Cursor} {x : Char} {rest : List Char} (h : c.rest = x :: rest)
    (hx : isBreak x = true) : c.cross.rest.length < c.rest.length := by
  unfold cross
  split
  · rename_i tail e
    simp only [e, nextLine, List.length_cons]
    omega
  · rename_i y tail _ e
    have : y = x := by simp_all
    simp [e, this, hx, nextLine]
  · simp_all

/-- Moves on while `p` holds, within the line. -/
def skipWhile (p : Char → Bool) (c : Cursor) : Cursor :=
  match _ : c.rest with
  | [] => c
  | x :: _ => if p x then skipWhile p c.step else c
termination_by c.rest.length
decreasing_by exact length_step_lt (by assumption)

theorem length_skipWhile_le (p : Char → Bool) (c : Cursor) :
    (c.skipWhile p).rest.length ≤ c.rest.length := by
  fun_induction skipWhile p c with
  | case1 => exact Nat.le_refl _
  | case2 c x rest h _ ih =>
    exact Nat.le_trans ih (Nat.le_of_lt (length_step_lt h))
  | case3 => exact Nat.le_refl _

theorem length_skipWhile_lt {p : Char → Bool} {c : Cursor} {x : Char} {rest : List Char}
    (h : c.rest = x :: rest) (hx : p x = true) :
    (c.skipWhile p).rest.length < c.rest.length := by
  rw [skipWhile]
  split
  · simp_all
  · rename_i y _ hy
    have : y = x := by simp_all
    simp only [this, hx, if_true]
    exact Nat.lt_of_le_of_lt (length_skipWhile_le p _) (length_step_lt h)

/-- The characters ahead for which `p` holds. -/
def run (p : Char → Bool) (c : Cursor) : List Char :=
  c.rest.takeWhile p

def skipLine (c : Cursor) : Cursor :=
  c.skipWhile (!isBreak ·)

/-- Whether the line starts with three times `mark` and then a space or nothing. -/
def startsWithMark (c : Cursor) (mark : Char) : Bool :=
  c.peek == mark && c.peek 1 == mark && c.peek 2 == mark && isSpace (c.peek 3)

def atDocumentStart (c : Cursor) : Bool :=
  c.column == 0 && c.startsWithMark '-'

def atDocumentEnd (c : Cursor) : Bool :=
  c.column == 0 && c.startsWithMark '.'

def atDocumentMark (c : Cursor) : Bool :=
  c.atDocumentStart || c.atDocumentEnd

end Cursor

end Interception.Yaml
