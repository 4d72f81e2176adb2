import Scaffold.Json.Number
import Scaffold.Json.Text
/-!
# Json.Skip — passing over a value that nobody wants

The arrays and objects that are open are kept in a list, so a value may be nested to any depth.
-/
namespace Scaffold.Json

/-- What may be open around a value. -/
inductive Bracket where
  | array
  | object
  deriving DecidableEq

namespace Bracket

def closing : Bracket → Char
  | .array => ']'
  | .object => '\x7d'

def atEnd : Bracket → Cause
  | .array => .endInArray
  | .object => .endInObject

def noComma : Bracket → Cause
  | .array => .noArrayComma
  | .object => .noObjectComma

end Bracket

/-- What comes next while a value is skipped: a value, the first or a further member of what is open, or what follows
a value. -/
inductive Stage where
  | value
  | first
  | member
  | behind

def skipKey : Reader Unit := do
  match ← peek with
  | some '"' => do
    drop
    skipQuoted
    readColon
  | some _ => failAtNext .keyNotText
  | none => failAtNext .endInObject

/-- Skips a value up to the end of what is open around it, the innermost bracket first.  `fuel` bounds the number of
steps. -/
def skipFrom : Nat → Stage → List Bracket → Reader Unit
  | 0, _, _ => pure ()
  | fuel + 1, .value, opened => do
    match ← peek with
    | none => failAtNext .endBeforeValue
    | some '[' => do
      drop
      skipFrom fuel .first (.array :: opened)
    | some '\x7b' => do
      drop
      skipFrom fuel .first (.object :: opened)
    | some '"' => do
      drop
      skipQuoted
      skipFrom fuel .behind opened
    | some '-' => do
      drop
      skipNumber
      skipFrom fuel .behind opened
    | some 'n' => do
      drop
      readWord ['u', 'l', 'l']
      skipFrom fuel .behind opened
    | some 't' => do
      drop
      readWord ['r', 'u', 'e']
      skipFrom fuel .behind opened
    | some 'f' => do
      drop
      readWord ['a', 'l', 's', 'e']
      skipFrom fuel .behind opened
    | some c =>
      if c.isDigit then do
        skipNumber
        skipFrom fuel .behind opened
      else failAtNext .noValue
  | _ + 1, _, [] => pure ()
  | fuel + 1, .first, bracket :: outer => do
    match ← peek with
    | none => failAtNext bracket.atEnd
    | some c =>
      if c = bracket.closing then do
        drop
        skipFrom fuel .behind outer
      else skipFrom fuel .member (bracket :: outer)
  | fuel + 1, .member, .array :: outer => skipFrom fuel .value (.array :: outer)
  | fuel + 1, .member, .object :: outer => do
    skipKey
    skipFrom fuel .value (.object :: outer)
  | fuel + 1, .behind, bracket :: outer => do
    match ← peek with
    | none => failAtNext bracket.atEnd
    | some ',' => do
      drop
      skipFrom fuel .member (bracket :: outer)
    | some c =>
      if c = bracket.closing then do
        drop
        skipFrom fuel .behind outer
      else failAtNext bracket.noComma

def skipValue : Reader Unit := do skipFrom (4 * (← get).length + 4) .value []

end Scaffold.Json
