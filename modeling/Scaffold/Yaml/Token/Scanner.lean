import Scaffold.Yaml.Token.Block
import Scaffold.Yaml.Token.Directive
import Scaffold.Yaml.Token.Plain
/-!
# Yaml.Token.Scanner — a text as a queue of tokens

Tokens are read one after the other, but a key without a question mark is known as a key only when its colon is found.
So every place where such a key may begin is remembered, at most one for each level of brackets, and tokens wait in the
queue as long as the first of them may still turn out to begin a key.  A key must end on its line and within 1024
bytes; a remembered place that is overtaken is forgotten, or is a fault where nothing but a key could stand.

Outside brackets the columns of collections are a stack of indentations: a collection begins where a key or an entry
stands further right than the collection around it, and ends at the first token further left.
-/
namespace Scaffold.Yaml

/-- A place where a key may begin: the number of its token, and whether nothing but a key may stand there. -/
structure KeyPlace where
  number : Nat
  required : Bool
  mark : Mark

structure Scanner where
  cursor : Cursor
  queue : List Token := []
  /-- How many tokens have been handed out. -/
  handed : Nat := 0
  /-- The possible keys, that of the innermost brackets first; the last is that outside all brackets. -/
  keys : List (Option KeyPlace) := [none]
  keyAllowed : Bool := true
  /-- The column of the innermost collection outside brackets, -1 if there is none, and those around it. -/
  indent : Int := -1
  indents : List Int := []
  ended : Bool := false
  /-- How many characters are left where the part of the text begins that holds a forbidden character, and how many bytes
  stand before that character. -/
  barrier : Option (Nat × Nat) := none

namespace Scanner

def flowLevel (s : Scanner) : Nat := s.keys.length - 1

def inFlow (s : Scanner) : Bool := s.flowLevel != 0

def mark (s : Scanner) : Mark := s.cursor.mark

def push (s : Scanner) (t : Token) : Scanner := { s with queue := s.queue ++ [t] }

/-- Puts a token that takes no place before the token with the given number. -/
def insertAt (s : Scanner) (number : Nat) (kind : TokenKind) (mark : Mark) : Scanner :=
  { s with queue := s.queue.insertIdx (number - s.handed) ⟨kind, mark, mark⟩ }

/-- Skips a byte order mark at the beginning of a line. -/
def skipByteOrderMark (c : Cursor) : Cursor := if c.mark.column == 0 && c.sees '\ufeff' then c.skip else c

theorem length_skipByteOrderMark_le (c : Cursor) : (skipByteOrderMark c).rest.length ≤ c.rest.length := by
  unfold skipByteOrderMark
  split
  · simp [Cursor.skip]
  · exact Nat.le_refl _

/-- Skips blanks and a comment up to the end of the line.  Tabs count as blanks except where a block collection could
begin. -/
def skipLine (s : Scanner) : Cursor :=
  let c := (skipByteOrderMark s.cursor).skipWhile fun ch => ch == ' ' || ((s.inFlow || !s.keyAllowed) && ch == '\t')
  if c.sees '#' then c.skipWhile (!isBreak ·) else c

theorem length_skipLine_le (s : Scanner) : s.skipLine.rest.length ≤ s.cursor.rest.length := by
  refine Nat.le_trans ?_ (length_skipByteOrderMark_le s.cursor)
  unfold skipLine
  simp only
  split
  · exact Nat.le_trans (Cursor.length_skipWhile_le _ _) (Cursor.length_skipWhile_le _ _)
  · exact Cursor.length_skipWhile_le _ _

/-- Skips blanks, comments and line breaks.  Outside brackets a key may begin on every new line. -/
def skipGap (s : Scanner) : Scanner :=
  if _h : s.skipLine.seesBreak then
    skipGap { s with cursor := s.skipLine.skipBreak, keyAllowed := s.keyAllowed || !s.inFlow }
  else { s with cursor := s.skipLine }
termination_by s.cursor.rest.length
decreasing_by exact Nat.lt_of_lt_of_le (Cursor.length_skipBreak_lt _h) s.length_skipLine_le

def overtaken (s : Scanner) (k : KeyPlace) : Bool := k.mark.line < s.mark.line || k.mark.index + 1024 < s.mark.index

def forgetOvertaken (s : Scanner) : Except Fault Scanner :=
  match (s.keys.reverse.filterMap id).find? fun k => s.overtaken k && k.required with
  | some k => .error (s.cursor.fault .missingColon .simpleKey k.mark)
  | none => .ok { s with keys := s.keys.map fun k => k.filter (!s.overtaken ·) }

/-- Forgets the key place of the innermost brackets. -/
def forgetKey (s : Scanner) : Except Fault Scanner :=
  match s.keys with
  | some k :: _ =>
    if k.required then .error (s.cursor.fault .missingColon .simpleKey k.mark)
    else .ok { s with keys := none :: s.keys.drop 1 }
  | _ => .ok s

/-- Remembers the cursor as a place where a key may begin, if one may begin here. -/
def rememberKey (s : Scanner) : Except Fault Scanner :=
  if s.keyAllowed then do
    let place : KeyPlace :=
      ⟨s.handed + s.queue.length, !s.inFlow && s.indent == (s.mark.column : Int), s.mark⟩
    let s ← s.forgetKey
    return { s with keys := some place :: s.keys.drop 1 }
  else .ok s

/-- Begins a collection at a column further right than the innermost one; its token stands before the token with the
given number, or at the end of the queue. -/
def beginCollection (s : Scanner) (column : Nat) (before : Option Nat) (kind : TokenKind) (mark : Mark) : Scanner :=
  if s.inFlow || (column : Int) ≤ s.indent then s
  else
    let s := { s with indents := s.indent :: s.indents, indent := column }
    match before with
    | some number => s.insertAt number kind mark
    | none => s.push ⟨kind, mark, mark⟩

/-- Ends the collections whose column lies right of the given one. -/
def endCollections (s : Scanner) (column : Int) : Scanner :=
  if s.inFlow then s
  else
    let closed := (s.indent :: s.indents).takeWhile (column < ·)
    let left := (s.indent :: s.indents).drop closed.length
    { s with
      queue := s.queue ++ closed.map fun _ => ⟨.blockEnd, s.mark, s.mark⟩
      indent := left.headD (-1)
      indents := left.drop 1 }

/-- Reads signs that make a token of their own. -/
def takeSign (s : Scanner) (kind : TokenKind) (length : Nat := 1) : Scanner :=
  let c := s.cursor.skip length
  { s.push ⟨kind, s.mark, c.mark⟩ with cursor := c }

def takeEnd (s : Scanner) : Except Fault Scanner := do
  let m := s.mark
  let m := if m.column == 0 then m else { m with line := m.line + 1, column := 0 }
  let s := ({ s with cursor := { s.cursor with mark := m } }).endCollections (-1)
  let s ← s.forgetKey
  return { s.push ⟨.streamEnd, m, m⟩ with keyAllowed := false, ended := true }

/-- Leaves all collections outside brackets, as a directive or a document indicator does. -/
def leaveCollections (s : Scanner) : Except Fault Scanner := do
  let s ← (s.endCollections (-1)).forgetKey
  return { s with keyAllowed := false }

def takeIndicator (s : Scanner) (kind : TokenKind) : Except Fault Scanner :=
  return (← s.leaveCollections).takeSign kind 3

def openFlow (s : Scanner) (kind : TokenKind) : Except Fault Scanner := do
  let s ← s.rememberKey
  return { s with keys := none :: s.keys, keyAllowed := true }.takeSign kind

def closeFlow (s : Scanner) (kind : TokenKind) : Except Fault Scanner := do
  let s ← s.forgetKey
  let keys := if s.inFlow then s.keys.drop 1 else s.keys
  return { s with keys := keys, keyAllowed := false }.takeSign kind

def takeComma (s : Scanner) : Except Fault Scanner := do
  let s ← s.forgetKey
  return { s with keyAllowed := true }.takeSign .flowEntry

def takeDash (s : Scanner) : Except Fault Scanner := do
  if !s.inFlow && !s.keyAllowed then throw (.at_ .blockEntryPlace s.mark none)
  let s ← (s.beginCollection s.mark.column none .blockSequenceStart s.mark).forgetKey
  return { s with keyAllowed := true }.takeSign .blockEntry

def takeQuestion (s : Scanner) : Except Fault Scanner := do
  if !s.inFlow && !s.keyAllowed then throw (.at_ .keyPlace s.mark none)
  let s ← (s.beginCollection s.mark.column none .blockMappingStart s.mark).forgetKey
  return { s with keyAllowed := !s.inFlow }.takeSign .key

/-- Reads the colon of a value.  If a key may have begun in the innermost brackets, it did. -/
def takeColon (s : Scanner) : Except Fault Scanner := do
  match s.keys with
  | some place :: _ =>
    let s := s.insertAt place.number .key place.mark
    let s := s.beginCollection place.mark.column (some place.number) .blockMappingStart place.mark
    return { s with keys := none :: s.keys.drop 1, keyAllowed := false }.takeSign .value
  | _ =>
    if !s.inFlow && !s.keyAllowed then throw (.at_ .valuePlace s.mark none)
    let s := s.beginCollection s.mark.column none .blockMappingStart s.mark
    return { s with keyAllowed := !s.inFlow }.takeSign .value

/-- Reads an anchor, an alias, a tag or a quoted scalar, any of which may begin a key. -/
def takeNode (s : Scanner) (scan : Cursor → Except Fault (Token × Cursor)) : Except Fault Scanner := do
  let s ← s.rememberKey
  let (t, c) ← scan s.cursor
  return { s.push t with cursor := c, keyAllowed := false }

/-- Reads a block scalar, which begins no key. -/
def takeBlock (s : Scanner) (literal : Bool) : Except Fault Scanner := do
  let s ← s.forgetKey
  let (t, c) ← scanBlock literal s.indent s.cursor
  return { s.push t with cursor := c, keyAllowed := true }

/-- Reads a plain scalar.  A key may begin behind it only if a line break has been passed. -/
def takePlain (s : Scanner) : Except Fault Scanner := do
  let s ← s.rememberKey
  let (t, broken, c) ← scanPlain s.inFlow (s.indent + 1) s.cursor
  return { s.push t with cursor := c, keyAllowed := broken }

def takeDirective (s : Scanner) : Except Fault Scanner := do
  let s ← s.leaveCollections
  let (t, c) ← scanDirective s.cursor
  return { s.push t with cursor := c }

/-- The signs with which no plain scalar begins. -/
def isIndicator (c : Char) : Bool := "-?:,[]\x7b\x7d#&*!|>'\"%@\x60".toList.contains c

def beginsPlain (s : Scanner) : Bool :=
  let c := s.cursor
  (!c.seesGap && !(c.peek 0).any isIndicator) ||
  (c.sees '-' && !c.seesBlank 1) ||
  (!s.inFlow && (c.sees '?' || c.sees ':') && !c.seesGap 1)

/-- Reads the token at the cursor, in front of which no gap is left. -/
def take (s : Scanner) : Except Fault Scanner :=
  let c := s.cursor
  match c.peek 0 with
  | none => s.takeEnd
  | some ch =>
    if c.mark.column == 0 && ch == '%' then s.takeDirective
    else if c.seesIndicator '-' then s.takeIndicator .documentStart
    else if c.seesIndicator '.' then s.takeIndicator .documentEnd
    else if ch == '[' then s.openFlow .flowSequenceStart
    else if ch == '\x7b' then s.openFlow .flowMappingStart
    else if ch == ']' then s.closeFlow .flowSequenceEnd
    else if ch == '\x7d' then s.closeFlow .flowMappingEnd
    else if ch == ',' then s.takeComma
    else if ch == '-' && c.seesGap 1 then s.takeDash
    else if ch == '?' && (s.inFlow || c.seesGap 1) then s.takeQuestion
    else if ch == ':' && (s.inFlow || c.seesGap 1) then s.takeColon
    else if ch == '*' then s.takeNode (scanAnchor true)
    else if ch == '&' then s.takeNode (scanAnchor false)
    else if ch == '!' then s.takeNode (scanTag s.inFlow)
    else if ch == '|' && !s.inFlow then s.takeBlock true
    else if ch == '>' && !s.inFlow then s.takeBlock false
    else if ch == '\'' then s.takeNode (scanQuoted '\'')
    else if ch == '"' then s.takeNode (scanQuoted '"')
    else if s.beginsPlain then s.takePlain
    else .error (c.fault .noTokenStart .nextToken c.mark)

/-- Reads one more token, and with it the collections that begin or end there.  Nothing is read from the part of the
text that holds a forbidden character. -/
def fetch (s : Scanner) : Except Fault Scanner := do
  let s ← s.skipGap.forgetOvertaken
  let s := s.endCollections s.mark.column
  match s.barrier with
  | some (left, bytes) => if s.cursor.rest.length < left + 4 then throw (.unreadable bytes) else s.take
  | none => s.take

/-- Whether the first token in the queue, if there is one, may still turn out to begin a key. -/
def mustFetch (s : Scanner) : Bool :=
  s.queue.isEmpty || s.keys.any fun k => k.any (·.number == s.handed)

/-- Reads tokens until the first in the queue is settled. -/
def settle (s : Scanner) : Except Fault Scanner := do
  let s' ← if s.queue.isEmpty then pure s else s.forgetOvertaken
  if s'.mustFetch && !s'.ended then
    let s'' ← s'.fetch
    if s''.ended then s''.forgetOvertaken
    else if _h : s''.cursor.rest.length < s.cursor.rest.length then settle s''
    else return s''
  else return s'
termination_by s.cursor.rest.length

/-- The next token, which stays in the queue. -/
def next (s : Scanner) : Except Fault (Token × Scanner) := do
  let s ← s.settle
  match s.queue with
  | t :: _ => return (t, s)
  | [] => return (⟨.streamEnd, s.mark, s.mark⟩, s)

def drop (s : Scanner) : Scanner := { s with queue := s.queue.drop 1, handed := s.handed + 1 }

end Scanner

end Scaffold.Yaml
