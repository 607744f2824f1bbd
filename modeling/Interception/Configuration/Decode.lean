import Interception.Configuration
import Interception.Settings.Setting
import Interception.Text.Lower

/-!
# Configurations from settings

Fields with unknown names are passed over. A plugin is a table, or a list of its
name and its properties. Words, numbers and booleans are taken for each other
where that is unmistakable.
-/

set_option autoImplicit false

namespace Interception

open Settings Text

namespace Configuration

def mistyped (s : Setting) (wanted : String) : ConfigError :=
  .mistyped s.found wanted none s.origin

def trueWords : List String := ["1", "true", "on", "yes"]
def falseWords : List String := ["0", "false", "off", "no"]

/-- A word is taken in any case of letters, and complained of in small ones. -/
def decodeFlag (s : Setting) : Except ConfigError Bool :=
  match s with
  | .scalar _ (.boolean b) => .ok b
  | .scalar _ (.integer n) => .ok (n != 0)
  | .scalar _ (.real x) => .ok !x.isZero
  | .scalar origin (.text word) =>
    let small := lower word
    if trueWords.contains small then .ok true
    else if falseWords.contains small then .ok false
    else .error (.mistyped (.text small) "a boolean" none origin)
  | s => .error (mistyped s "a boolean")

def decodeText (s : Setting) : Except ConfigError String :=
  match s with
  | .scalar _ (.text text) => .ok text
  | .scalar _ (.boolean b) => .ok (Found.boolText b)
  | .scalar _ (.integer n) => .ok (toString n)
  | .scalar _ (.real x) => .ok x.text
  | s => .error (mistyped s "a string")

def decodeProperties (s : Setting) : Except ConfigError Properties :=
  match s with
  | .table _ fields => do
    let entries ← fields.entries.mapM fun (key, value) =>
      ((decodeText value).map (key, ·)).mapError (·.underKey key)
    return .ofList entries
  | s => .error (.unfit s.found "a map")

/-- What was read of a plugin so far. -/
structure PluginFields where
  interceptor : Option String := none
  properties : Properties := {}

def takePluginField (soFar : PluginFields) (field : String × Setting) :
    Except ConfigError PluginFields :=
  let (key, value) := field
  if key = "interceptor" then
    ((decodeText value).map fun name => { soFar with interceptor := some name }).mapError
      (·.underKey key)
  else if key = "properties" then
    ((decodeProperties value).map fun properties => { soFar with properties }).mapError
      (·.underKey key)
  else .ok soFar

def pluginText : String := "struct PluginConfig"

def decodePlugin (s : Setting) : Except ConfigError PluginSetting :=
  match s with
  | .table _ fields => do
    let read ← fields.entries.foldlM takePluginField {}
    match read.interceptor with
    | some interceptor => .ok { interceptor, properties := read.properties }
    | none => .error (.missingField "interceptor")
  | .list _ [] => .error (.tooShort 0 (pluginText ++ " with 2 elements"))
  | .list _ (name :: rest) => do
    let interceptor ← (decodeText name).mapError (·.underIndex 0)
    match rest with
    | [] => .ok { interceptor }
    | properties :: _ =>
      let properties ← (decodeProperties properties).mapError (·.underIndex 1)
      .ok { interceptor, properties }
  | s => .error (.unfit s.found pluginText)

/-- Plugins in order; a mistake is placed by the number of its item. -/
def decodeItems : Nat → List Setting → Except ConfigError (List PluginSetting)
  | _, [] => .ok []
  | index, s :: rest => do
    let plugin ← (decodePlugin s).mapError (·.underIndex index)
    return plugin :: (← decodeItems (index + 1) rest)

def decodePlugins (s : Setting) : Except ConfigError (List PluginSetting) :=
  match s with
  | .list _ items => decodeItems 0 items
  | s => .error (.unfit s.found "a sequence")

def takeField (soFar : Configuration) (field : String × Setting) :
    Except ConfigError Configuration :=
  let (key, value) := field
  if key = "plugins" then
    ((decodePlugins value).map fun plugins => { soFar with plugins }).mapError (·.underKey key)
  else if key = "eager_validation" then
    ((decodeFlag value).map fun eagerValidation => { soFar with eagerValidation }).mapError
      (·.underKey key)
  else .ok soFar

/-- What is not set keeps its default. -/
def decode (s : Setting) : Except ConfigError Configuration :=
  s.fields.entries.foldlM takeField {}

end Configuration

end Interception
