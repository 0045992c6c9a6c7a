/-
**The tokens of YAML text.**

Blocks are told by indentation, which the lexer turns into tokens of its own, so that after it a
document is a sequence of tokens with brackets around every block.

Main definitions:

* `Cutover.Yaml.Style` — how a scalar is written;
* `Cutover.Yaml.Token` — the tokens.
-/

set_option autoImplicit false

namespace Cutover.Yaml

/-- How a scalar is written. -/
inductive Style
  | plain
  | singleQuoted
  | doubleQuoted
  | literal
  | folded
deriving DecidableEq

/-- The tokens of a document. -/
inductive Token
  | streamStart
  | streamEnd
  | versionDirective (major minor : Nat)
  | tagDirective (handle start : String)
  | documentStart
  | documentEnd
  | blockSequenceStart
  | blockMappingStart
  | blockEnd
  | flowSequenceStart
  | flowSequenceEnd
  | flowMappingStart
  | flowMappingEnd
  | blockEntry
  | flowEntry
  | key
  | value
  | alias (name : String)
  | anchor (name : String)
  | tag (handle suffix : String)
  | scalar (style : Style) (text : String)
deriving DecidableEq

end Cutover.Yaml
