import Interception.Chain
import Interception.Configuration

/-!
# Registries

Factories under names, and chains built from a configuration. Each entry of a
configuration gets an instance of its own, made by the factory that was last
registered under its name and configured once with the properties of the entry.
-/

set_option autoImplicit false

namespace Interception

/-- An instance as its factory hands it over. Configuring takes place once. -/
structure Draft (σ : Type) (κ : Type := Kind) [Kinds κ] where
  configure : Properties → σ → Except PluginError (Interceptor σ κ) × σ

abbrev Factory (σ : Type) (κ : Type := Kind) [Kinds κ] := σ → Draft σ κ × σ

structure Registry (σ : Type) (κ : Type := Kind) [Kinds κ] where
  factories : List (String × Factory σ κ) := []

/-- A chain under construction, or why there is none; the state and the report are
kept in either case. -/
structure BuildResult (σ : Type) (κ : Type := Kind) [Kinds κ] where
  answer : Except PluginError (Chain σ κ)
  state : σ
  journal : Journal

namespace Registry

variable {σ κ : Type} [Kinds κ]

/-- A later registration under the same name takes the place of an earlier one. -/
def register (r : Registry σ κ) (name : String) (f : Factory σ κ) : Registry σ κ :=
  ⟨(name, f) :: r.factories⟩

def find? (r : Registry σ κ) (name : String) : Option (Factory σ κ) :=
  r.factories.lookup name

def contains (r : Registry σ κ) (name : String) : Bool :=
  (r.find? name).isSome

@[simp] theorem find?_register (r : Registry σ κ) (name other : String) (f : Factory σ κ) :
    (r.register name f).find? other = if other = name then some f else r.find? other := by
  simp only [find?, register]
  exact Entries.lookup_entry name other f r.factories

/-- Makes and configures one instance. No factory runs for an unknown name. -/
def create (r : Registry σ κ) (name : String) (properties : Properties) (s : σ) :
    Except PluginError (Interceptor σ κ) × σ :=
  match r.find? name with
  | none => (.error (.unknownInterceptor name), s)
  | some factory =>
    let (draft, s) := factory s
    draft.configure properties s

/-- Appends an instance for each setting and stops at the first that cannot be made. -/
def assemble (r : Registry σ κ) : List PluginSetting → Chain σ κ → σ → BuildResult σ κ
  | [], chain, s => ⟨.ok chain, s, {}⟩
  | setting :: rest, chain, s =>
    match r.create setting.interceptor setting.properties s with
    | (.error e, s) => ⟨.error e, s, {}⟩
    | (.ok i, s) =>
      let (chain, appended) := chain.append i
      let result := r.assemble rest chain s
      { result with
        journal := .event (.registered setting.interceptor setting.properties.size)
          ++ appended ++ result.journal }

/-- Everything is made before anything is resolved. -/
def build (r : Registry σ κ) (config : Configuration) (s : σ) : BuildResult σ κ :=
  let result := r.assemble config.plugins {} s
  match result.answer with
  | .error _ => result
  | .ok chain =>
    if config.eagerValidation then
      let checked := chain.validate
      { result with
        answer := checked.answer.map fun _ => checked.chain
        journal := result.journal ++ checked.journal }
    else result

end Registry

end Interception
