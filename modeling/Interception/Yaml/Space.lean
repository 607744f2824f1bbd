import Interception.Yaml.Cursor
import Interception.Yaml.Token

/-!
# Space between tokens

Blanks, comments and line breaks. A comment needs a blank in front of it. Tabs
do not indent blocks.
-/

set_option autoImplicit false

namespace Interception.Yaml

/-- Blanks and perhaps a comment were passed, up to the end of the line or to the
next token on it. -/
structure Inline where
  cursor : Cursor
  sawTab : Bool
  sawBlank : Bool

/-- The surroundings of a token that decide how space before it is read. -/
structure Surroundings where
  inBlock : Bool
  inFlow : Bool
  indent : Int

namespace Cursor

def skipInline (tabs : Bool) (c : Cursor) : Except Fault Inline :=
  let passed (x : Char) : Bool := x == ' ' || (tabs && x == '\t')
  let blanks := c.run passed
  let after := c.skipWhile passed
  let done (c : Cursor) : Inline := ⟨c, blanks.contains '\t', blanks.contains ' '⟩
  if after.peek == '#' then
    if blanks.isEmpty then .error .comment else .ok (done after.skipLine)
  else .ok (done after)

theorem length_skipInline_lt {c : Cursor} {rest : List Char} {i : Inline}
    (h : c.rest = '\t' :: rest) (hi : c.skipInline true = .ok i) :
    i.cursor.rest.length < c.rest.length := by
  have shorter : (c.skipWhile fun x => x == ' ' || (true && x == '\t')).rest.length
      < c.rest.length := length_skipWhile_lt h (by decide)
  unfold skipInline at hi
  dsimp only at hi
  split at hi
  · split at hi
    · simp at hi
    · cases hi
      exact Nat.lt_of_le_of_lt (length_skipWhile_le _ _) shorter
  · cases hi
    exact shorter

/-- A tab that stands in for indentation is only allowed on an empty line. -/
def tabAllowed (s : Surroundings) (c : Cursor) : Except Fault Unit :=
  if s.inBlock && c.fresh && (c.column : Int) < s.indent then do
    let line ← c.skipInline true
    if isBreakOrEnd line.cursor.peek then .ok () else .error .tab
  else .ok ()

/-- Moves to the next token. Outside of flow collections a line break makes room
for a key; whether there is room is handed on in `keyAllowed`. -/
def skipToToken (s : Surroundings) (keyAllowed : Bool) (c : Cursor) :
    Except Fault (Cursor × Bool) :=
  match _ : c.rest with
  | [] => .ok (c, keyAllowed)
  | x :: _ =>
    if x = '\t' then do
      c.tabAllowed s
      skipToToken s keyAllowed c.step
    else if x = ' ' then skipToToken s keyAllowed c.step
    else if _ : isBreak x then skipToToken s (keyAllowed || !s.inFlow) c.cross
    else if x = '#' then skipToToken s keyAllowed c.skipLine
    else .ok (c, keyAllowed)
termination_by c.rest.length
decreasing_by
  · exact length_step_lt (by assumption)
  · exact length_step_lt (by assumption)
  · exact length_cross_lt (by assumption) (by assumption)
  · exact length_skipWhile_lt (by assumption) (by simp_all)

/-- As `skipToToken`, without tabs; tells also whether a blank or a break was passed. -/
def skipSeparation (inFlow keyAllowed passed : Bool) (c : Cursor) : Cursor × Bool × Bool :=
  match _ : c.rest with
  | [] => (c, keyAllowed, passed)
  | x :: _ =>
    if x = ' ' then skipSeparation inFlow keyAllowed true c.step
    else if _ : isBreak x then skipSeparation inFlow (keyAllowed || !inFlow) true c.cross
    else if x = '#' then skipSeparation inFlow keyAllowed passed c.skipLine
    else (c, keyAllowed, passed)
termination_by c.rest.length
decreasing_by
  · exact length_step_lt (by assumption)
  · exact length_cross_lt (by assumption) (by assumption)
  · exact length_skipWhile_lt (by assumption) (by simp_all)

end Cursor

end Interception.Yaml
