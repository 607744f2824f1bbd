import Interception.Yaml.Cursor

/-!
# Gaps in folded text

White space inside a scalar that may go over several lines. Blanks on one line
stay as they are. A line break becomes a blank, and every further one a line
break; a break that was escaped becomes nothing.
-/

set_option autoImplicit false

namespace Interception.Yaml

/-- `blanks` is kept backwards; `breaks` counts the breaks after the first. -/
structure Gap where
  blanks : List Char := []
  folded : Bool := false
  escaped : Bool := false
  breaks : Nat := 0

namespace Gap

/-- The gap that an escaped line break leaves. -/
def afterEscape : Gap :=
  { folded := true, escaped := true }

/-- Blanks at the start of a further line do not count. -/
def addBlank (g : Gap) (c : Char) : Gap :=
  if g.folded then g else { g with blanks := c :: g.blanks }

def addBreak (g : Gap) : Gap :=
  if g.folded then { g with breaks := g.breaks + 1 } else { folded := true }

/-- The text of the gap, backwards. -/
def text (g : Gap) : List Char :=
  if !g.folded then g.blanks
  else if g.breaks = 0 && !g.escaped then [' ']
  else List.replicate g.breaks '\n'

end Gap

end Interception.Yaml
