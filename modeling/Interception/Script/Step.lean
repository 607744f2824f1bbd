import Interception.Args
import Interception.Configuration
import Interception.Error
import Interception.Script.World
import Interception.Signature
import Interception.TypeDescriptor

/-!
# Steps of a session

What can be asked for, in terms of handles, and how it is answered. A step that
makes something names the handle under which it is kept.
-/

set_option autoImplicit false

namespace Interception.Script

/-- Where the plan of a chain comes from. -/
inductive Plan where
  | text (text : String)
  | given (config : Configuration)

inductive Step where
  | wrap (target interceptor result : String)
  | resolve (interceptor result : String)
  | wrapResolved (target interceptor map result : String)
  | showMap (map interface : String)
  | intercepts (map interface : String) (m : Method)
  | newChain (chain : String)
  | append (interceptor chain : String) (times : Nat)
  | apply (target chain result : String)
  | validate (chain : String)
  | list (chain : String)
  | invoke (target : String) (m : Method) (args : Args)
  | call (target : String) (m : Method) (args : Args) (kind : Kind)
  | invocation (target : String) (m : Method) (args : Args) (pushed : List Value)
  | describe (target : String)
  | realizes (target interface : String)
  | same (a b : String)
  | findMethod (interface name : String) (params : List String)
  | isOrExtends (interface name : String)
  | sameInterface (a b : String)
  | sameMethod (a b : Method)
  | calls (target : String)
  | stats (interceptor : String)
  | newRegistry (registry : String)
  | register (interceptor registry name : String)
  | contains (registry name : String)
  | create (registry interceptor : String) (properties : Properties) (result : String)
  | buildChain (registry chain : String) (plan : Plan)

/-- What a type descriptor says, in names. -/
structure Description where
  name : String
  interfaces : List String
  all : List String
  parents : List String
  deriving DecidableEq

def Description.of (d : TypeDescriptor) : Description where
  name := d.name
  interfaces := d.interfaces.map (·.name)
  all := d.allInterfaces.map (·.name)
  parents := d.ancestors.map (·.name)

inductive Answer where
  | unbound (handle : String)
  | refused (e : PluginError)
  | outcome (o : Outcome)
  | done
  | truth (b : Bool)
  | described (d : Description)
  | wrapped (d : Description) (same : Bool)
  | resolved (isEmpty : Bool)
  | routes (methods : Option (List String))
  | length (n : Nat)
  | names (names : List String)
  | listed (names : List String)
  | method (m : Option Method)
  | calls (n : Nat)
  | counts (c : Counts)
  | named (name : String)

/-- The displays of methods in ascending order. -/
def displays (methods : List Method) : List String :=
  (methods.map (·.display)).mergeSort fun a b => decide (a ≤ b)

end Interception.Script
