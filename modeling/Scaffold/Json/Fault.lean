import Scaffold.Decimal.Notation
import Scaffold.Text.Quoted
/-!
# Json.Fault — why a text is not the JSON that was asked for

A fault is placed by the number of bytes from it to the end of the text.  Faults about a whole object or array are
found before it is clear where they will be placed, and are placed by whoever reads that object or array.
-/
namespace Scaffold.Json

/-- What was found where something else was expected. -/
inductive Found where
  | null
  | boolean (b : Bool)
  | integer (n : Int)
  | float (x : Float)
  | text (s : String)
  | array
  | object

def Found.words : Found → String
  | .null => "null"
  | .boolean b => "boolean \x60" ++ toString b ++ "\x60"
  | .integer n => "integer \x60" ++ toString n ++ "\x60"
  | .float x => "floating point \x60" ++ Decimal.compact true x ++ "\x60"
  | .text s => "string " ++ Text.quoted s
  | .array => "sequence"
  | .object => "map"

/-- What is wrong with a text. -/
inductive Cause where
  | endInArray
  | endInObject
  | endInText
  | endBeforeValue
  | noColon
  | noArrayComma
  | noObjectComma
  | noWord
  | noValue
  | badEscape
  | badNumber
  | largeNumber
  | control
  | keyNotText
  | loneSurrogate
  | brokenSurrogate
  | trailingComma
  | trailingCharacters
  | wrongType (found : Found) (expected : String)
  | wrongValue (found : Found) (expected : String)
  | missingField (name : String)
  | repeatedField (name : String)
  | tooShort (length : Nat) (expected : String)

def Cause.words : Cause → String
  | .endInArray => "EOF while parsing a list"
  | .endInObject => "EOF while parsing an object"
  | .endInText => "EOF while parsing a string"
  | .endBeforeValue => "EOF while parsing a value"
  | .noColon => "expected \x60:\x60"
  | .noArrayComma => "expected \x60,\x60 or \x60]\x60"
  | .noObjectComma => "expected \x60,\x60 or \x60\x7d\x60"
  | .noWord => "expected ident"
  | .noValue => "expected value"
  | .badEscape => "invalid escape"
  | .badNumber => "invalid number"
  | .largeNumber => "number out of range"
  | .control => "control character (\\u0000-\\u001F) found while parsing a string"
  | .keyNotText => "key must be a string"
  | .loneSurrogate => "lone leading surrogate in hex escape"
  | .brokenSurrogate => "unexpected end of hex escape"
  | .trailingComma => "trailing comma"
  | .trailingCharacters => "trailing characters"
  | .wrongType found expected => "invalid type: " ++ found.words ++ ", expected " ++ expected
  | .wrongValue found expected => "invalid value: " ++ found.words ++ ", expected " ++ expected
  | .missingField name => "missing field \x60" ++ name ++ "\x60"
  | .repeatedField name => "duplicate field \x60" ++ name ++ "\x60"
  | .tooShort length expected => "invalid length " ++ toString length ++ ", expected " ++ expected

def Cause.isEnd : Cause → Bool
  | .endInArray | .endInObject | .endInText | .endBeforeValue => true
  | _ => false

/-- A fault, and how many bytes are left behind it. -/
structure Fault where
  cause : Cause
  left : Option Nat

/-- The line and the column, in bytes, of the place before which a text has that many bytes. -/
def placeAfter (bytes : Nat) (text : List Char) : Nat × Nat :=
  go bytes 1 0 text
where
  /-- Goes on from a line and a column. -/
  go (bytes line column : Nat) : List Char → Nat × Nat
    | [] => (line, column)
    | c :: rest =>
      if bytes < c.utf8Size then (line, column + bytes)
      else if c = '\n' then go (bytes - 1) (line + 1) 0 rest
      else go (bytes - c.utf8Size) line (column + c.utf8Size) rest

def Fault.message (text : String) (f : Fault) : String :=
  match f.left with
  | none => f.cause.words
  | some left =>
    let (line, column) := placeAfter (text.utf8ByteSize - left) text.toList
    f.cause.words ++ " at line " ++ toString line ++ " column " ++ toString column

end Scaffold.Json
