import Interception.Configuration.Error
import Interception.Table

/-!
# Settings

Values with the place they came from. A table made to hold others came from nowhere.
-/

set_option autoImplicit false

namespace Interception.Settings

open Number

inductive Scalar where
  | nil
  | boolean (b : Bool)
  | integer (n : Int)
  | real (x : Binary64)
  | text (s : String)
  deriving DecidableEq, Inhabited

inductive Setting where
  | scalar (origin : Option String) (s : Scalar)
  | list (origin : Option String) (items : List Setting)
  | table (origin : Option String) (fields : Table Setting)

/-- What a source sets, in order. -/
abbrev Fields := Entries Setting

namespace Setting

instance : Inhabited Setting := ⟨scalar none .nil⟩

def nil : Setting := scalar none .nil
def emptyTable : Setting := table none {}

def origin : Setting → Option String
  | scalar origin _ | list origin _ | table origin _ => origin

def fields : Setting → Table Setting
  | table _ fields => fields
  | _ => {}

def items : Setting → List Setting
  | list _ items => items
  | _ => []

def found : Setting → Found
  | scalar _ .nil => .unit
  | scalar _ (.boolean b) => .boolean b
  | scalar _ (.integer n) => .integer n
  | scalar _ (.real x) => .real x
  | scalar _ (.text s) => .text s
  | list .. => .sequence
  | table .. => .map

/-- Itself if it is a table, else a new one. -/
def asTable : Setting → Setting
  | table origin fields => table origin fields
  | _ => emptyTable

/-- Itself if it is a list, else a new one. -/
def asList : Setting → Setting
  | list origin items => list origin items
  | _ => list none []

def updateField (target : Setting) (key : String) (initial : Setting)
    (f : Setting → Setting) : Setting :=
  match target with
  | table origin fields => table origin (fields.update key initial f)
  | other => other

/-- Changes the item at `index`; places that are missing up to there are filled with
nothing. A negative index counts from the end. -/
def updateItem (target : Setting) (index : Int) (f : Setting → Setting) : Setting :=
  match target with
  | list origin items =>
    let place := if index < 0 then ((items.length : Int) + index).toNat else index.toNat
    let filled := items ++ List.replicate (place + 1 - items.length) nil
    list origin (filled.modify place f)
  | other => other

end Setting

end Interception.Settings
