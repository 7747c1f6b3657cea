/-!
# Tokens of a YAML text

Besides the characters that have a meaning, the tokens hold the structure that indentation gives:
where a block collection starts and where it ends.
-/

namespace AspiManager

namespace Yaml

/-- How a scalar is written. -/
inductive Style where
  | plain
  | singleQuoted
  | doubleQuoted
  | literal
  | folded
  deriving DecidableEq, Repr

/-- A token. -/
inductive Token where
  | version (major minor : Nat)
  | tagHandle (handle stem : String)
  | documentStart
  | documentEnd
  | blockSequence
  | blockMapping
  | blockEnd
  | sequenceOpen
  | sequenceClose
  | mappingOpen
  | mappingClose
  /-- The comma between entries of a flow collection. -/
  | comma
  /-- The dash before an entry of a block sequence. -/
  | dash
  | key
  | value
  | aliasOf (name : String)
  | anchor (name : String)
  | tag (handle suffix : String)
  | scalar (style : Style) (text : String)
  deriving DecidableEq, Repr

end Yaml

end AspiManager
