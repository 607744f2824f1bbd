import Interception.Configuration.Error

/-!
# Errors

A call fails because of the dispatch itself or because someone who took part in
it reported a failure of their own. Everything that fails before a call is made
is a plugin error.
-/

set_option autoImplicit false

namespace Interception

inductive DispatchError where
  | notExposed (typeName interface method : String)
  | unsupported (typeName interface method : String)
  | missingArgument (index : Nat)
  | argumentType (index : Nat) (expected : String)
  | returnType (expected : String)
  deriving DecidableEq

namespace DispatchError

def kind : DispatchError → String
  | notExposed .. => "NotExposed"
  | unsupported .. => "Unsupported"
  | missingArgument .. => "MissingArgument"
  | argumentType .. => "ArgumentType"
  | returnType .. => "ReturnType"

def message : DispatchError → String
  | notExposed typeName interface method =>
    typeName ++ " does not expose " ++ interface ++ "." ++ method
  | unsupported typeName interface method =>
    typeName ++ " has no implementation for " ++ interface ++ "." ++ method
  | missingArgument index => "Missing argument at position " ++ toString index
  | argumentType index expected =>
    "Argument at position " ++ toString index ++ " is not a " ++ expected
  | returnType expected => "Return value is not a " ++ expected

end DispatchError

/-- Why a call did not return a value. -/
inductive CallError where
  | dispatch (e : DispatchError)
  | failure (kind message : String)
  deriving DecidableEq

namespace CallError

def kind : CallError → String
  | dispatch e => e.kind
  | failure kind _ => kind

def message : CallError → String
  | dispatch e => e.message
  | failure _ message => message

end CallError

inductive PluginError where
  | methodNotFound (interceptor interface method params : String)
  | unknownInterceptor (name : String)
  | invalidProperty (interceptor key text : String)
  | config (e : ConfigError)
  deriving DecidableEq

namespace PluginError

def kind : PluginError → String
  | methodNotFound .. => "MethodNotFound"
  | unknownInterceptor .. => "UnknownInterceptor"
  | invalidProperty .. => "InvalidProperty"
  | config .. => "Config"

def message : PluginError → String
  | methodNotFound interceptor interface method params =>
    "Interceptor " ++ interceptor ++ " declares " ++ interface ++ "." ++ method ++ "(" ++ params
      ++ "), but no such method exists on " ++ interface
  | unknownInterceptor name => "Unknown interceptor: " ++ name
  | invalidProperty interceptor key text =>
    "Invalid property '" ++ key ++ "' for interceptor " ++ interceptor ++ ": " ++ text
  | config e => "Configuration error: " ++ e.message

end PluginError

end Interception
