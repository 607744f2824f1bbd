import Interception.Configuration.Decode
import Interception.Event
import Interception.Settings.Document
import Interception.Settings.Environment
import Interception.Settings.FileSystem
import Interception.Settings.Layer

/-!
# Loading configurations

From a text alone, or from layers, each of which overrides those before it: the
default file, a file that is asked for, a file that the environment names, and the
environment itself.
-/

set_option autoImplicit false

namespace Interception

open Settings

namespace Configuration

def defaultFile : String := "weave.yaml"

/-- The variable that names a file. -/
def fileVariable : String := "WEAVE_CONFIG"

/-- How the names of variables that set something begin, in small letters. -/
def variableStem : String := "weave__"

def ofSources (sources : List Fields) : Except ConfigError Configuration :=
  decode (merge sources)

/-- The configuration that a text describes. -/
def ofText (text : String) : Except ConfigError Configuration := do
  ofSources [← readDocument none text]

def readFound (file : FoundFile) : Except ConfigError Fields :=
  match file.text with
  | some text => readDocument (some file.name) text
  | none => .error .notUtf8

/-- A file that has to be there. -/
def requiredSource (fs : FileSystem) (here : Place) (name : String) :
    Except ConfigError Fields :=
  match fs.find? here name with
  | some file => readFound file
  | none => .error (.fileNotFound name)

/-- A file that may be missing or unreadable, but not malformed. -/
def optionalSource (fs : FileSystem) (here : Place) (name : String) :
    Except ConfigError Fields :=
  match fs.find? here name with
  | some ⟨name, some text⟩ => readDocument (some name) text
  | _ => .ok []

/-- The files that have to be there, in the order of their layers. -/
def requestedFiles (path : Option String) (env : Environment) : List String :=
  path.toList ++ (env.lookup fileVariable).toList

/-- All layers, the one that counts most last. -/
def sources (fs : FileSystem) (path : Option String) (env : Environment) (here : Place) :
    Except ConfigError (List Fields) := do
  let base ← optionalSource fs here defaultFile
  let files ← (requestedFiles path env).mapM (requiredSource fs here)
  return base :: files ++ [env.fields variableStem]

structure LoadResult where
  answer : Except ConfigError Configuration
  events : List Event

/-- Success is reported, failure is not. -/
def load (fs : FileSystem) (path : Option String) (env : Environment)
    (here : Place := .usual) : LoadResult :=
  match (sources fs path env here).bind ofSources with
  | .error e => ⟨.error e, []⟩
  | .ok config => ⟨.ok config, [.loaded config.plugins.length config.eagerValidation]⟩

end Configuration

end Interception
