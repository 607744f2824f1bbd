import Interception.Script.Interceptor
import Interception.Script.Target

/-!
# Casts

The objects that a session starts with, each under an id. They are declared in
terms of ids of objects declared before them; a declaration that speaks of an
unknown id leaves no cast at all.
-/

set_option autoImplicit false

namespace Interception.Script

/-- Without a declaring interface of its own a method belongs to the interface that
lists it. -/
structure MethodDeclaration where
  interface : Option String := none
  name : String
  params : List String := []

/-- The id is the name unless another one is given. -/
structure InterfaceDeclaration where
  id : Option String := none
  name : String
  methods : List MethodDeclaration := []
  supers : List String := []

/-- The id is the name unless another one is given. -/
structure TypeDeclaration where
  id : Option String := none
  name : String
  interfaces : List String := []
  parent : Option String := none

structure TargetDeclaration where
  id : String
  type : String
  actions : List (Method × Action) := []

structure SignatureDeclaration where
  interface : String
  method : String
  params : List String := []

structure InterceptorDeclaration where
  id : String
  name : Option String := none
  signatures : List SignatureDeclaration := []
  routine : Routine := {}
  integerProperties : List String := []

structure CastDeclaration where
  interfaces : List InterfaceDeclaration := []
  types : List TypeDeclaration := []
  targets : List TargetDeclaration := []
  interceptors : List InterceptorDeclaration := []

structure Cast where
  interfaces : Table Interface := {}
  types : Table TypeDescriptor := {}
  targets : Table TargetDefinition := {}
  interceptors : Table InterceptorDefinition := {}

def MethodDeclaration.method (d : MethodDeclaration) (owner : String) : Method :=
  ⟨d.interface.getD owner, d.name, d.params⟩

namespace Cast

def interface? (c : Cast) (id : String) : Option Interface :=
  c.interfaces.get? id

def addInterface (c : Cast) (d : InterfaceDeclaration) : Option Cast := do
  let supers ← d.supers.mapM c.interface?
  let interface : Interface := ⟨d.name, d.methods.map (·.method d.name), supers⟩
  return { c with interfaces := Table.set (d.id.getD d.name) interface c.interfaces }

def parent? (c : Cast) : Option String → Option (Option TypeDescriptor)
  | none => some none
  | some id => (c.types.get? id).map some

def addType (c : Cast) (d : TypeDeclaration) : Option Cast := do
  let interfaces ← d.interfaces.mapM c.interface?
  let parent ← c.parent? d.parent
  let descriptor : TypeDescriptor := .below parent ⟨d.name, interfaces⟩
  return { c with types := Table.set (d.id.getD d.name) descriptor c.types }

def addTarget (c : Cast) (d : TargetDeclaration) : Option Cast := do
  let descriptor ← c.types.get? d.type
  return { c with targets := Table.set d.id ⟨d.id, descriptor, d.actions⟩ c.targets }

def signature? (c : Cast) (d : SignatureDeclaration) : Option Signature :=
  (c.interface? d.interface).map (⟨·, d.method, d.params⟩)

def addInterceptor (c : Cast) (d : InterceptorDeclaration) : Option Cast := do
  let signatures ← d.signatures.mapM c.signature?
  let definition : InterceptorDefinition :=
    ⟨d.id, d.name, signatures, d.routine, d.integerProperties⟩
  return { c with interceptors := Table.set d.id definition c.interceptors }

def ofDeclaration? (d : CastDeclaration) : Option Cast := do
  let c ← d.interfaces.foldlM addInterface {}
  let c ← d.types.foldlM addType c
  let c ← d.targets.foldlM addTarget c
  d.interceptors.foldlM addInterceptor c

end Cast

end Interception.Script
