import Interception.Interface

/-!
# Type descriptors

What a type realizes: the interfaces it lists itself, then those of each of its
ancestors, nearest first, with everything these interfaces extend.
-/

set_option autoImplicit false

namespace Interception

/-- A type by itself, without its ancestors. -/
structure TypeLevel where
  name : String
  interfaces : List Interface

structure TypeDescriptor extends TypeLevel where
  ancestors : List TypeLevel := []

namespace TypeDescriptor

def levels (d : TypeDescriptor) : List TypeLevel :=
  d.toTypeLevel :: d.ancestors

/-- The interfaces listed directly, own level first. -/
def declared (d : TypeDescriptor) : List Interface :=
  d.levels.flatMap (·.interfaces)

/-- Every interface realized, in the order of discovery and once for each name. -/
def allInterfaces (d : TypeDescriptor) : List Interface :=
  Interface.visitAll [] d.declared

def realizes (d : TypeDescriptor) (name : String) : Bool :=
  d.allInterfaces.any (·.name == name)

/-- A new level below `parent`. -/
def below (parent : Option TypeDescriptor) (level : TypeLevel) : TypeDescriptor :=
  { level with ancestors := (parent.map levels).getD [] }

end TypeDescriptor

end Interception
