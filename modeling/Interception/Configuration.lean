import Interception.Table

/-!
# Configurations

Which interceptors to register, in which order and with which properties, and
whether to resolve what they declare at once.
-/

set_option autoImplicit false

namespace Interception

/-- Names with their values. -/
structure Properties where
  table : Table String := {}
  deriving DecidableEq, Inhabited

namespace Properties

def entries (p : Properties) : Entries String :=
  p.table.entries

def get? (p : Properties) (key : String) : Option String :=
  p.table.get? key

/-- The last value given to a name counts. -/
def ofList (entries : Entries String) : Properties :=
  ⟨.ofEntries entries⟩

def size (p : Properties) : Nat :=
  p.table.names.length

end Properties

structure PluginSetting where
  interceptor : String
  properties : Properties := {}
  deriving DecidableEq, Inhabited

structure Configuration where
  plugins : List PluginSetting := []
  eagerValidation : Bool := false
  deriving DecidableEq, Inhabited

end Interception
