import Interception.Settings.Setting
import Interception.Yaml.Document

/-!
# Settings in a document

A text has to hold one document at most, and that has to be a map.
-/

set_option autoImplicit false

namespace Interception.Settings

open Number Yaml

/-- Text and integers name fields. -/
def fieldName? : Node → Option String
  | .text s => some s
  | .integer n => some (toString n)
  | _ => none

mutual

/-- A real number is read from its text here; the special ways to write infinity and
no number are refused. -/
def ofNode (origin : Option String) : Node → Except DocumentFault Setting
  | .null | .invalid => .ok (.scalar origin .nil)
  | .boolean b => .ok (.scalar origin (.boolean b))
  | .integer n => .ok (.scalar origin (.integer n))
  | .text s => .ok (.scalar origin (.text s))
  | .real s => match Binary64.read? s with
    | some x => .ok (.scalar origin (.real x))
    | none => .error (.badReal s)
  | .sequence items => (ofNodes origin items).map (.list origin)
  | .mapping pairs => (ofPairs origin {} pairs).map (.table origin)

def ofNodes (origin : Option String) : List Node → Except DocumentFault (List Setting)
  | [] => .ok []
  | n :: rest => do
    let s ← ofNode origin n
    return s :: (← ofNodes origin rest)

/-- A key that names no field is passed over with its value. -/
def ofPairs (origin : Option String) (fields : Table Setting) :
    List (Node × Node) → Except DocumentFault (Table Setting)
  | [] => .ok fields
  | (key, value) :: rest =>
    match fieldName? key with
    | none => ofPairs origin fields rest
    | some name => do
      let s ← ofNode origin value
      ofPairs origin (fields.set name s) rest

end

/-- The document that counts; an empty text is an empty map. -/
def onlyDocument : List Node → Except DocumentFault Node
  | [] => .ok (.mapping [])
  | [n] => .ok n
  | ns => .error (.manyDocuments ns.length)

def rootFields : Setting → Except DocumentFault Fields
  | .table _ fields => .ok fields.entries
  | s => .error (.rootNotMap s.found)

def fieldsOfDocuments (origin : Option String) (ns : List Node) :
    Except DocumentFault Fields := do
  rootFields (← ofNode origin (← onlyDocument ns))

/-- The settings that a text holds; `origin` is where the text is from. -/
def readDocument (origin : Option String) (text : String) : Except ConfigError Fields :=
  match documents text with
  | .error _ => .error .malformed
  | .ok ns => (fieldsOfDocuments origin ns).mapError (.document · origin)

end Interception.Settings
