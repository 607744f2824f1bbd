import Interception.Number.Shortest
import Interception.Text.Quoted

/-!
# Configuration errors

What can go wrong between a text and a configuration. A mismatch of types knows
the key under which it was met and where the value came from; both are filled in
on the way out.
-/

set_option autoImplicit false

namespace Interception

open Number Text

/-- What stands where something else was wanted. -/
inductive Found where
  | unit
  | boolean (b : Bool)
  | integer (n : Int)
  | real (x : Binary64)
  | text (s : String)
  | sequence
  | map
  deriving DecidableEq

namespace Found

def boolText (b : Bool) : String :=
  if b then "true" else "false"

/-- A number that is no integer shows its point. -/
def describe : Found → String
  | unit => "unit value"
  | boolean b => "boolean `" ++ boolText b ++ "`"
  | integer n => "integer `" ++ toString n ++ "`"
  | real x => "floating point `" ++ x.textWithPoint ++ "`"
  | text s => "string " ++ quote s
  | sequence => "sequence"
  | map => "map"

/-- As `describe`, with the width of an integer and without an added point. -/
def describeRoot : Found → String
  | integer n => "64-bit integer `" ++ toString n ++ "`"
  | real x => "floating point `" ++ x.text ++ "`"
  | found => found.describe

end Found

/-- What is wrong with a text whose form is right. -/
inductive DocumentFault where
  | manyDocuments (count : Nat)
  | badReal (text : String)
  | rootNotMap (found : Found)
  deriving DecidableEq

inductive ConfigError where
  | malformed
  | document (fault : DocumentFault) (origin : Option String)
  | mistyped (found : Found) (wanted : String) (key origin : Option String)
  | unfit (found : Found) (wanted : String)
  | missingField (name : String)
  | tooShort (length : Nat) (wanted : String)
  | custom (text : String)
  | fileNotFound (name : String)
  | notUtf8
  deriving DecidableEq

namespace ConfigError

def originText : Option String → String
  | some origin => " in " ++ origin
  | none => ""

def keyText : Option String → String
  | some key => " for key `" ++ key ++ "`"
  | none => ""

def mismatch (found wanted : String) : String :=
  "invalid type: " ++ found ++ ", expected " ++ wanted

/-- A wrong root names its origin itself, before the origin of the whole text. -/
def faultText (origin : Option String) : DocumentFault → String
  | .manyDocuments n => "Got " ++ toString n ++ " YAML documents, expected 1"
  | .badReal text => "Parsing " ++ text ++ " as floating point number failed"
  | .rootNotMap found => mismatch found.describeRoot "a map" ++ originText origin

def message : ConfigError → String
  | malformed => "malformed document"
  | document fault origin => faultText origin fault ++ originText origin
  | mistyped found wanted key origin =>
    mismatch found.describe wanted ++ keyText key ++ originText origin
  | unfit found wanted => mismatch found.describe wanted
  | missingField name => "missing field `" ++ name ++ "`"
  | tooShort length wanted => "invalid length " ++ toString length ++ ", expected " ++ wanted
  | custom text => text
  | fileNotFound name => "configuration file \"" ++ name ++ "\" not found"
  | notUtf8 => "stream did not contain valid UTF-8"

/-- The family that an error belongs to. -/
def family : ConfigError → String
  | malformed => "Syntax"
  | document .. => "FileParse"
  | mistyped .. => "Type"
  | unfit .. | missingField .. | tooShort .. | custom .. => "Message"
  | fileNotFound .. | notUtf8 => "Foreign"

/-- Puts `segment` in front of the key, with a dot between two names. -/
def under (segment : String) (dotted : Bool) : ConfigError → ConfigError
  | mistyped found wanted key origin =>
    let rest := key.getD ""
    let dot := if dotted && !rest.isEmpty && !rest.startsWith "[" then "." else ""
    mistyped found wanted (some (segment ++ dot ++ rest)) origin
  | e => e

def underKey (key : String) (e : ConfigError) : ConfigError :=
  e.under key true

def underIndex (index : Nat) (e : ConfigError) : ConfigError :=
  e.under ("[" ++ toString index ++ "]") false

end ConfigError

end Interception
