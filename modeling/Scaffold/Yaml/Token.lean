/-!
# Yaml.Token — places in a YAML text, and its tokens

Some tokens are written in the text; others stand for a change of indentation or for the key that a colon reveals.
-/
namespace Scaffold.Yaml

/-- A place in a text: the number of bytes before it, the line, and the number of characters before it in that line, all
from 0. -/
structure Mark where
  index : Nat := 0
  line : Nat := 0
  column : Nat := 0
  deriving Repr, DecidableEq, Inhabited

namespace Mark

/-- Whether the place is the beginning of the text, as far as line and column tell. -/
def isOrigin (m : Mark) : Bool := m.line == 0 && m.column == 0

/-- The place as an error names it: line and column from 1, or the bare index at the origin. -/
def text (m : Mark) : String :=
  if m.isOrigin then "position " ++ toString m.index
  else "line " ++ toString (m.line + 1) ++ " column " ++ toString (m.column + 1)

/-- The place as the end of an error message; the origin is not mentioned. -/
def trailer (m : Mark) : String := if m.isOrigin then "" else " at " ++ m.text

end Mark

inductive ScalarStyle where
  | plain
  | singleQuoted
  | doubleQuoted
  | literal
  | folded
  deriving Repr, DecidableEq

/-- What a token is.  The suffix of a tag, and what a tag directive puts before one, may hold escaped octets and are
kept as bytes. -/
inductive TokenKind where
  | streamEnd
  | versionDirective (major minor : Nat)
  | tagDirective (handle : String) (head : ByteArray)
  | documentStart
  | documentEnd
  | blockSequenceStart
  | blockMappingStart
  | blockEnd
  | flowSequenceStart
  | flowSequenceEnd
  | flowMappingStart
  | flowMappingEnd
  | blockEntry
  | flowEntry
  | key
  | value
  | alias (name : String)
  | anchor (name : String)
  | tag (handle : String) (suffix : ByteArray)
  | scalar (text : String) (style : ScalarStyle)
  deriving BEq

structure Token where
  kind : TokenKind
  start : Mark
  stop : Mark
  deriving BEq

end Scaffold.Yaml
