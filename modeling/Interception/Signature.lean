import Interception.Error
import Interception.Interface

/-!
# Signatures

An interceptor declares the methods that it wants to see: the interface on which
it looks for a method, and the name and the parameter types to look for.
Resolving finds the methods meant. They stay filed under the interface that was
declared, also when another one declares the method.
-/

set_option autoImplicit false

namespace Interception

structure Signature where
  interface : Interface
  method : String
  params : List String

def Signature.find? (s : Signature) : Option Method :=
  s.interface.findMethod? s.method s.params

/-- The declared interface and the method found, or the complaint of `owner`. -/
def Signature.resolve (owner : String) (s : Signature) : Except PluginError (String × Method) :=
  match s.find? with
  | some m => .ok (s.interface.name, m)
  | none => .error (.methodNotFound owner s.interface.name s.method (paramText s.params))

/-- The methods asked for, each with the name of the interface it was declared
under. -/
structure SignatureMap where
  routes : List (String × Method) := []
  nodup : routes.Nodup := by simp

namespace SignatureMap

theorem nodup_concat (map : SignatureMap) {route : String × Method} (fresh : route ∉ map.routes) :
    (map.routes ++ [route]).Nodup := by
  refine List.nodup_append.mpr ⟨map.nodup, by simp, ?_⟩
  rintro a filed b added rfl
  exact fresh (List.mem_singleton.mp added ▸ filed)

def insert (map : SignatureMap) (route : String × Method) : SignatureMap :=
  if fresh : route ∈ map.routes then map else ⟨map.routes ++ [route], map.nodup_concat fresh⟩

@[simp] theorem mem_routes_insert (map : SignatureMap) (a b : String × Method) :
    a ∈ (map.insert b).routes ↔ a ∈ map.routes ∨ a = b := by
  unfold insert
  split <;> simp_all

/-- Takes the signatures in order and stops at the first that is not found. -/
def resolve (owner : String) (signatures : List Signature) : Except PluginError SignatureMap :=
  signatures.foldlM (fun map s => (s.resolve owner).map map.insert) {}

def isEmpty (map : SignatureMap) : Bool :=
  map.routes.isEmpty

/-- Whether something was declared under `interface`. -/
def covers (map : SignatureMap) (interface : String) : Bool :=
  map.routes.any (·.1 == interface)

def intercepts (map : SignatureMap) (interface : String) (m : Method) : Bool :=
  map.routes.contains (interface, m)

/-- The methods declared under `interface`, if there are any. -/
def methods? (map : SignatureMap) (interface : String) : Option (List Method) :=
  if map.covers interface then
    some (map.routes.filterMap fun r => if r.1 == interface then some r.2 else none)
  else none

end SignatureMap

end Interception
