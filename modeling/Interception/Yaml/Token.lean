/-!
# Tokens

The parts of a text, in the order in which they are read. Blocks that are only
shown by indentation begin and end with tokens of their own.
-/

set_option autoImplicit false

namespace Interception.Yaml

/-- Why a text is not well formed. -/
inductive Fault where
  | indentation
  | tab
  | comment
  | unexpectedCharacter
  | unterminated
  | badEscape
  | badTag
  | badAnchor
  | badDirective
  | misplacedKey
  | misplacedEntry
  | tooDeep
  | unexpectedToken
  | unknownAlias
  | duplicateKey
  deriving DecidableEq, Inhabited

inductive ScalarStyle where
  | plain
  | quoted
  | block
  deriving DecidableEq, Inhabited

inductive Token where
  | versionDirective
  | tagDirective (handle expansion : String)
  | documentStart
  | documentEnd
  | blockSequenceStart
  | blockMappingStart
  | blockEnd
  | flowSequenceStart
  | flowSequenceEnd
  | flowMappingStart
  | flowMappingEnd
  | blockEntry
  | flowEntry
  | key
  | value
  | alias (name : String)
  | anchor (name : String)
  | tag (handle suffix : String)
  | scalar (style : ScalarStyle) (text : String)
  | streamEnd
  deriving DecidableEq, Inhabited

end Interception.Yaml
