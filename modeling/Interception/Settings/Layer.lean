import Interception.Settings.Path
import Interception.Settings.Setting
import Interception.Text.Lower

/-!
# Layers

Settings from several sources, laid over each other. Names that are set through a
key are in small letters. A table is merged into what is there, field by field;
everything else takes its place.
-/

set_option autoImplicit false

namespace Interception.Settings

open Text

namespace Setting

/-- Sets the field `key` of `target` to a value, a table field by field. -/
def assign (key : String) (target : Setting) : Setting → Setting
  | table _ ⟨names, _, value⟩ =>
    target.asTable.updateField (lower key) emptyTable fun inner =>
      names.attach.foldl (fun inner name => assign name.1 inner (value name)) inner
  | scalar origin s =>
    target.asTable.updateField (lower key) nil fun _ => scalar origin s
  | list origin items =>
    target.asTable.updateField (lower key) nil fun _ => list origin items

/-- Sets what a path leads to. What is missing on the way is made, and what is in the
way is replaced. -/
def put (value : Setting) : Path → Setting → Setting
  | [], target => target
  | [.name key], target => assign key target value
  | [.index i], target => target.asList.updateItem i fun _ => value
  | .name key :: rest, target => target.asTable.updateField (lower key) nil (put value rest)
  | .index i :: rest, target => target.asList.updateItem i (put value rest)

/-- Lays one source over the settings so far. -/
def overlay (target : Setting) (source : Fields) : Setting :=
  source.foldl (fun target field => put field.2 (.ofKey field.1) target) target

end Setting

/-- The settings of several sources, the last of which counts most. -/
def merge (sources : List Fields) : Setting :=
  sources.foldl Setting.overlay .emptyTable

end Interception.Settings
