import Scaffold.Json.Reader
/-!
# Json.Text — texts between quotes, and the layout of JSON

Quotes, backslashes and controls are written as escapes; a control without a letter of its own is written by its code.
When reading, any character may be given by its code, those beyond the first 65536 by a pair of surrogates.

Every member of an array or object has a line of its own, two columns further in than what holds it; without members,
both brackets stand together.
-/
namespace Scaffold.Json

def hexDigit (n : Nat) : Char := Nat.digitChar n

def escape (c : Char) : List Char :=
  match c with
  | '"' => ['\\', '"']
  | '\\' => ['\\', '\\']
  | '\x08' => ['\\', 'b']
  | '\x0c' => ['\\', 'f']
  | '\n' => ['\\', 'n']
  | '\r' => ['\\', 'r']
  | '\t' => ['\\', 't']
  | c =>
    if c.toNat < 0x20 then ['\\', 'u', '0', '0', hexDigit (c.toNat / 16), hexDigit (c.toNat % 16)] else [c]

def quote (text : String) : List Char := '"' :: text.toList.flatMap escape ++ ['"']

/-- The character that a letter behind a backslash stands for. -/
def unescape? (c : Char) : Option Char :=
  match c with
  | '"' => some '"'
  | '\\' => some '\\'
  | '/' => some '/'
  | 'b' => some '\x08'
  | 'f' => some '\x0c'
  | 'n' => some '\n'
  | 'r' => some '\r'
  | 't' => some '\t'
  | _ => none

def hexValue? (c : Char) : Option Nat :=
  if '0' ≤ c ∧ c ≤ '9' then some (c.toNat - '0'.toNat)
  else if 'a' ≤ c ∧ c ≤ 'f' then some (c.toNat - 'a'.toNat + 10)
  else if 'A' ≤ c ∧ c ≤ 'F' then some (c.toNat - 'A'.toNat + 10)
  else none

/-- A fault that lies some bytes ahead of a rest of the text. -/
def faultAhead (bytes : Nat) (cause : Cause) (rest : List Char) : Fault := ⟨cause, some (bytesOf rest - bytes)⟩

def codeAt (cs : List Char) : Except Fault Nat :=
  if bytesOf cs < 4 then .error ⟨.endInText, some 0⟩
  else
    match (cs.take 4).mapM hexValue? with
    | some [a, b, c, d] => .ok (((a * 16 + b) * 16 + c) * 16 + d)
    | _ => .error (faultAhead 4 .badEscape cs)

/-- Reads the second half of a pair of surrogates, from its backslash on. -/
def secondHalf (cs : List Char) : Except Fault Nat :=
  match cs with
  | '\\' :: 'u' :: rest => codeAt rest
  | ['\\'] | [] => .error ⟨.endInText, some 0⟩
  | '\\' :: rest => .error (faultAhead 1 .brokenSurrogate rest)
  | cs => .error (faultAhead 1 .brokenSurrogate cs)

/-- Reads what a code stands for, from its first digit on: the character, and how many characters write it. -/
def decodeCode (cs : List Char) : Except Fault (Char × Nat) := do
  let n ← codeAt cs
  if 0xDC00 ≤ n ∧ n ≤ 0xDFFF then throw (faultAhead 4 .loneSurrogate cs)
  if n < 0xD800 ∨ 0xDBFF < n then return (Char.ofNat n, 4)
  let m ← secondHalf (cs.drop 4)
  if m < 0xDC00 ∨ 0xDFFF < m then throw (faultAhead 10 .loneSurrogate cs)
  return (Char.ofNat ((n - 0xD800) * 0x400 + (m - 0xDC00) + 0x10000), 10)

/-- Reads an escape behind its backslash: the character it stands for, and how many characters write it.  `code` reads
a code. -/
def decodeEscape (code : List Char → Except Fault (Char × Nat)) : List Char → Except Fault (Char × Nat)
  | [] => .error ⟨.endInText, some 0⟩
  | c :: rest =>
    match unescape? c with
    | some plain => .ok (plain, 1)
    | none => if c = 'u' then (code rest).map fun (plain, used) => (plain, used + 1)
      else .error (faultAhead 1 .badEscape (c :: rest))

/-- Reads a text up to the quote at its end.  The next `skip` characters belong to an escape already read, `chars` is
what has been read so far, from its end.  `code` reads the code of a character, and the fault of a control lies
`ahead` bytes ahead. -/
def readChars (code : List Char → Except Fault (Char × Nat)) (ahead : Nat) :
    Nat → List Char → List Char → EStateM.Result Fault (List Char) (List Char)
  | _, _, [] => .error ⟨.endInText, some 0⟩ []
  | skip + 1, chars, _ :: rest => readChars code ahead skip chars rest
  | 0, chars, c :: rest =>
    if c = '"' then .ok chars.reverse rest
    else if c = '\\' then
      match decodeEscape code rest with
      | .ok (plain, used) => readChars code ahead used (plain :: chars) rest
      | .error f => .error f rest
    else if c.toNat < 0x20 then .error (faultAhead ahead .control (c :: rest)) rest
    else readChars code ahead 0 (c :: chars) rest

def readQuoted : Reader String := do
  let chars ← readChars decodeCode 1 0 []
  return String.ofList chars

/-- Skips a text from its first character on.  A code in it need not stand for a character. -/
def skipQuoted : Reader Unit := do
  let _ ← readChars (fun cs => (codeAt cs).map fun _ => (' ', 4)) 0 0 []

/-! ## Layout -/

/-- A line break, and the indentation of a depth. -/
def lineAt (depth : Nat) : List Char := '\n' :: List.replicate (2 * depth) ' '

def lines (depth : Nat) : List (List Char) → List Char
  | [] => []
  | [member] => lineAt depth ++ member
  | member :: rest => lineAt depth ++ member ++ ',' :: lines depth rest

/-- The members between brackets, which stand at `depth`. -/
def bracketed (opening closing : Char) (depth : Nat) (members : List (List Char)) : List Char :=
  if members.isEmpty then [opening, closing]
  else opening :: lines (depth + 1) members ++ lineAt depth ++ [closing]

def array (depth : Nat) (elements : List (List Char)) : List Char := bracketed '[' ']' depth elements

def object (depth : Nat) (entries : List (String × List Char)) : List Char :=
  bracketed '\x7b' '\x7d' depth (entries.map fun (key, value) => quote key ++ [':', ' '] ++ value)

def number (n : Nat) : List Char := Nat.toDigits 10 n

end Scaffold.Json
