import Interception.Method

/-!
# Interfaces

An interface lists its own methods and the interfaces it extends. Identity is
by name. Searching goes depth first: an interface before the interfaces it
extends, and those in the order they are listed.
-/

set_option autoImplicit false

namespace Interception

structure Interface where
  name : String
  methods : List Method
  supers : List Interface

namespace Interface

mutual

/-- The interface and everything it extends, depth first. An interface that is
reached along several ways is listed once for each. -/
def hierarchy : Interface → List Interface
  | ⟨name, methods, supers⟩ => ⟨name, methods, supers⟩ :: hierarchies supers

def hierarchies : List Interface → List Interface
  | [] => []
  | i :: rest => i.hierarchy ++ hierarchies rest

end

mutual

/-- An own method comes before an inherited one. -/
def findMethod? (name : String) (params : List String) : Interface → Option Method
  | ⟨_, methods, supers⟩ =>
    match methods.find? (·.fits name params) with
    | some m => some m
    | none => findMethodAmong? name params supers

def findMethodAmong? (name : String) (params : List String) : List Interface → Option Method
  | [] => none
  | i :: rest =>
    match findMethod? name params i with
    | some m => some m
    | none => findMethodAmong? name params rest

end

mutual

def isOrExtends (name : String) : Interface → Bool
  | ⟨own, _, supers⟩ => own == name || anyIsOrExtends name supers

def anyIsOrExtends (name : String) : List Interface → Bool
  | [] => false
  | i :: rest => isOrExtends name i || anyIsOrExtends name rest

end

/-- Two interfaces are one when their names agree, whatever they list. -/
def same (i j : Interface) : Bool :=
  i.name == j.name

mutual

/-- Adds an interface and what it extends behind `seen`. A name that is already
listed stops the walk there, together with everything below it. -/
def visit (seen : List Interface) : Interface → List Interface
  | ⟨name, methods, supers⟩ =>
    if seen.any (·.name == name) then seen
    else visitAll (seen ++ [⟨name, methods, supers⟩]) supers

def visitAll (seen : List Interface) : List Interface → List Interface
  | [] => seen
  | i :: rest => visitAll (visit seen i) rest

end

/-- `j` is `i` or is extended by it, at any depth. -/
inductive Reaches : Interface → Interface → Prop where
  | refl (i : Interface) : Reaches i i
  | step {i j k : Interface} : j ∈ i.supers → Reaches j k → Reaches i k

end Interface

end Interception
