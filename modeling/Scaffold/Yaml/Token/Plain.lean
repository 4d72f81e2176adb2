import Scaffold.Yaml.Token
import Scaffold.Yaml.Token.Gap
/-!
# Yaml.Token.Plain — scalars without quotes

A plain scalar goes on until a colon before a gap, a comment, a document indicator, a line that is not indented far
enough or, inside brackets, one of the bracket signs.
-/
namespace Scaffold.Yaml

/-- The brackets and the comma of flow collections. -/
def isFlowSign (c : Char) : Bool := c == ',' || c == '[' || c == ']' || c == '\x7b' || c == '\x7d'

def isGapOrEnd (c : Option Char) : Bool := c.all fun ch => isSpaceOrTab ch || isBreak ch

/-- The characters up to the next gap or the end of the scalar; the flag says that a colon stands there which touches
a sign of a flow collection. -/
def plainWord (flow : Bool) : List Char → List Char × Bool
  | [] => ([], false)
  | c :: rest =>
    if isGapOrEnd (some c) then ([], false)
    else if flow && c == ':' && rest.head?.any (fun d => isFlowSign d || d == '?') then ([], true)
    else if (c == ':' && isGapOrEnd rest.head?) || (flow && isFlowSign c) then ([], false)
    else
      let (word, touching) := plainWord flow rest
      (c :: word, touching)

/-- A plain scalar that has been read: its text, the place behind its last word, and whether a line break follows. -/
structure PlainScalar where
  text : List Char
  stop : Mark
  broken : Bool

/-- Reads words and gaps until the scalar ends.  `text` holds the characters read so far, the last one first; `gap` is
the gap before the cursor, which belongs to the scalar only if another word follows. -/
def readPlain (flow : Bool) (indent : Int) (start : Mark) (text : List Char) (gap : Gap) (stop : Mark) (c : Cursor) :
    Except Fault (PlainScalar × Cursor) :=
  if c.seesDocumentBoundary || c.sees '#' then .ok (⟨text.reverse, stop, gap.broken⟩, c)
  else
    let (word, touching) := plainWord flow c.rest
    let behind := c.skip word.length
    let (text, gap, stop) :=
      if word.isEmpty then (text, gap, stop) else (word.reverse ++ gap.folded.reverse ++ text, {}, behind.mark)
    if touching then .error (behind.fault .plainColon .plainScalar start)
    else if _more : behind.seesBlank || behind.seesBreak then
      match _read : Gap.read (some indent) start {} behind with
      | .error f => .error f
      | .ok (gap, c') =>
        if !flow && (c'.mark.column : Int) < indent then .ok (⟨text.reverse, stop, gap.broken⟩, c')
        else readPlain flow indent start text gap stop c'
    else .ok (⟨text.reverse, stop, gap.broken⟩, behind)
termination_by c.rest.length
decreasing_by exact Nat.lt_of_lt_of_le (Gap.length_of_read_lt _read _more) (c.length_skip_le _)

/-- Reads the plain scalar at the cursor; its lines must be indented at least as far as `indent`, except inside
brackets.  Beside the token stands whether a line break follows the scalar. -/
def scanPlain (flow : Bool) (indent : Int) (c : Cursor) : Except Fault (Token × Bool × Cursor) := do
  let (scalar, c') ← readPlain flow indent c.mark [] {} c.mark c
  return (⟨.scalar (String.ofList scalar.text) .plain, c.mark, scalar.stop⟩, scalar.broken, c')

end Scaffold.Yaml
