import Interception.Yaml.Property

/-!
# Directives

Lines before a document that give its version or expand tag handles. Others are
passed over.
-/

set_option autoImplicit false

namespace Interception.Yaml

/-- A part of a version has one to nine digits. -/
def readVersionPart (c : Cursor) : Except Fault Cursor :=
  let digits := c.run Char.isDigit
  if digits.isEmpty || 9 < digits.length then .error .badDirective
  else .ok (c.skipWhile Char.isDigit)

def readVersion (c : Cursor) : Except Fault (Token × Cursor) := do
  let major ← readVersionPart (c.skipWhile isBlank)
  if major.peek != '.' then .error .badDirective
  else
    let minor ← readVersionPart major.step
    .ok (.versionDirective, minor)

/-- What a handle expands to begins with `!` or with a character of a tag. -/
def readExpansion (c : Cursor) : Except Fault (List Char × Cursor) :=
  if c.peek == '!' then (readUri isUriChar c.step).map fun (text, after) => ('!' :: text, after)
  else if isTagChar c.peek then readUri isUriChar c
  else .error .badTag

def readExpandedHandle (c : Cursor) : Except Fault (Token × Cursor) := do
  let (handle, afterHandle) ← readHandle true (c.skipWhile isBlank)
  let (expansion, after) ← readExpansion (afterHandle.skipWhile isBlank)
  if isSpace after.peek then
    .ok (.tagDirective (String.ofList handle) (String.ofList expansion), after)
  else .error .badTag

/-- Reads a directive with the end of its line. -/
def scanDirective (c : Cursor) : Except Fault (Token × Cursor) := do
  let name := String.ofList (c.step.run isWordChar)
  let after := c.step.skipWhile isWordChar
  if name.isEmpty || !isSpace after.peek then .error .badDirective
  else
    let (token, last) ←
      if name = "YAML" then readVersion after
      else if name = "TAG" then readExpandedHandle after
      else .ok (.tagDirective "" "", after.skipLine)
    let line ← last.skipInline true
    if isBreakOrEnd line.cursor.peek then .ok (token, line.cursor.cross) else .error .badDirective

end Interception.Yaml
