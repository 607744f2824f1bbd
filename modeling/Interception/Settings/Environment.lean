import Interception.Number.Integer
import Interception.Settings.Setting
import Interception.Text.Lower

/-!
# Settings in the environment

Variables whose names begin with a prefix, in any case of letters. Two underscores
stand for the point of a path. A value is the most special thing it can be read as.
-/

set_option autoImplicit false

namespace Interception.Settings

open Number Text

/-- Variables with their values. -/
abbrev Environment := List (String × String)

/-- Two underscores in a row become a point. -/
def pointed : List Char → List Char
  | '_' :: '_' :: rest => '.' :: pointed rest
  | c :: rest => c :: pointed rest
  | [] => []

/-- The key that a variable sets, if its name begins with `stem`. -/
def variableKey? (stem name : String) : Option String :=
  let name := lower name
  if name.startsWith stem then
    some (String.ofList (pointed (name.toList.drop stem.length)))
  else none

/-- A boolean, else an integer, else a real number, else text. -/
def variableValue (text : String) : Scalar :=
  if lower text = "true" then .boolean true
  else if lower text = "false" then .boolean false
  else match readDecimal text with
    | .ok n => .integer n
    | .error _ => match Binary64.read? text with
      | some x => .real x
      | none => .text text

def environmentOrigin : String := "the environment"

def Environment.fields (env : Environment) (stem : String) : Fields :=
  env.filterMap fun (name, text) =>
    (variableKey? stem name).map (·, .scalar (some environmentOrigin) (variableValue text))

end Interception.Settings
