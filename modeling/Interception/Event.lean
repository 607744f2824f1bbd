import Interception.Error

/-!
# Events

What chains, registries and configurations report while they work. Every field
of an event is text.
-/

set_option autoImplicit false

namespace Interception

inductive Event where
  | appending (interceptor : String) (position : Nat)
  | resolved (interceptor : String)
  | resolutionFailed (interceptor : String) (e : PluginError)
  | registered (interceptor : String) (properties : Nat)
  | loaded (plugins : Nat) (eagerValidation : Bool)
  deriving DecidableEq

namespace Event

def level : Event → String
  | appending .. | resolved .. => "DEBUG"
  | resolutionFailed .. => "ERROR"
  | registered .. | loaded .. => "INFO"

def message : Event → String
  | appending .. => "Appending interceptor"
  | resolved .. => "Resolved interceptor signatures"
  | resolutionFailed .. => "Signature resolution failed"
  | registered .. => "Registered interceptor"
  | loaded .. => "Loaded plugin configuration"

def fields : Event → List (String × String)
  | appending interceptor position =>
    [("interceptor", interceptor), ("position", toString position)]
  | resolved interceptor => [("interceptor", interceptor)]
  | resolutionFailed interceptor e => [("interceptor", interceptor), ("error", e.message)]
  | registered interceptor properties =>
    [("interceptor", interceptor), ("properties", toString properties)]
  | loaded plugins eagerValidation =>
    [("plugins", toString plugins), ("eager_validation", Found.boolText eagerValidation)]

end Event

/-- One look at what an interceptor declares: the place of its entry in the chain
and the definition it was made from. -/
structure Reading where
  position : Nat
  origin : String
  deriving DecidableEq

/-- What an operation reports beside its answer. -/
structure Journal where
  events : List Event := []
  readings : List Reading := []
  deriving DecidableEq

namespace Journal

def append (a b : Journal) : Journal :=
  ⟨a.events ++ b.events, a.readings ++ b.readings⟩

instance : Append Journal := ⟨append⟩

def event (e : Event) : Journal :=
  { events := [e] }

/-- The definitions that were looked at, in order. -/
def origins (j : Journal) : List String :=
  j.readings.map (·.origin)

@[simp] theorem events_append (a b : Journal) : (a ++ b).events = a.events ++ b.events := rfl

@[simp] theorem readings_append (a b : Journal) : (a ++ b).readings = a.readings ++ b.readings :=
  rfl

end Journal

end Interception
