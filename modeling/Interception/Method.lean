/-!
# Methods

A method is known by the interface that declares it, by its name and by the
names of its parameter types. Two methods are the same when all three agree.
-/

set_option autoImplicit false

namespace Interception

structure Method where
  interface : String
  name : String
  params : List String
  deriving DecidableEq, Inhabited

/-- Overloads share a name and differ in their parameter types. -/
def Method.fits (m : Method) (name : String) (params : List String) : Bool :=
  m.name == name && m.params == params

@[simp] theorem Method.fits_iff {m : Method} {name : String} {params : List String} :
    m.fits name params = true ↔ m.name = name ∧ m.params = params := by
  simp [Method.fits]

/-- Parameter types are listed with a comma and a blank between them. -/
def paramText (params : List String) : String :=
  ", ".intercalate params

def Method.display (m : Method) : String :=
  m.interface ++ "." ++ m.name ++ "(" ++ paramText m.params ++ ")"

end Interception
