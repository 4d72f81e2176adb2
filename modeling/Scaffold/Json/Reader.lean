import Scaffold.Json.Fault
/-!
# Json.Reader — reading a JSON text from left to right

What reading carries along is the rest of the text.  A fault is placed where the rest begins, or behind the next byte
if it is the next character that is wrong.
-/
namespace Scaffold.Json

abbrev Reader := EStateM Fault (List Char)

def bytesOf : List Char → Nat
  | [] => 0
  | c :: rest => c.utf8Size + bytesOf rest

variable {α σ : Type}

/-- A fault that lies some bytes ahead, or at the end of the text if it has fewer. -/
def failAhead (bytes : Nat) (cause : Cause) : Reader α := fun cs => .error ⟨cause, some (bytesOf cs - bytes)⟩ cs

/-- A fault that lies some bytes behind, in what has been read. -/
def failBehind (bytes : Nat) (cause : Cause) : Reader α := fun cs => .error ⟨cause, some (bytesOf cs + bytes)⟩ cs

def failHere (cause : Cause) : Reader α := failAhead 0 cause

/-- A fault that is the next character's. -/
def failAtNext (cause : Cause) : Reader α := failAhead 1 cause

/-- A fault that is placed later. -/
def failUnplaced (cause : Cause) : Reader α := fun cs => .error ⟨cause, none⟩ cs

/-- Places a fault that is not placed yet, where reading stopped. -/
def placing (act : Reader α) : Reader α := fun cs =>
  match act cs with
  | .ok a rest => .ok a rest
  | .error f rest => .error ⟨f.cause, some (f.left.getD (bytesOf rest))⟩ rest

def isBlank (c : Char) : Bool := c == ' ' || c == '\n' || c == '\t' || c == '\r'

/-- Skips blanks and looks at the next character. -/
def peek : Reader (Option Char) := fun cs =>
  let rest := cs.dropWhile isBlank
  .ok rest.head? rest

def drop : Reader Unit := modify (·.drop 1)

def readWord : List Char → Reader Unit
  | [] => pure ()
  | letter :: letters => do
    match (← get).head? with
    | none => failHere .endBeforeValue
    | some c =>
      if c = letter then do
        drop
        readWord letters
      else failAhead 1 .noWord

def endArray : Reader Unit := do
  match ← peek with
  | some ']' => drop
  | some ',' => do
    drop
    match ← peek with
    | some ']' => failAtNext .trailingComma
    | _ => failAtNext .trailingCharacters
  | some _ => failAtNext .trailingCharacters
  | none => failAtNext .endInArray

def endObject : Reader Unit := do
  match ← peek with
  | some '\x7d' => drop
  | some ',' => failAtNext .trailingComma
  | some _ => failAtNext .trailingCharacters
  | none => failAtNext .endInObject

/-- Reads the inside of an array or object, and its end.  The end is also tried behind a fault of the inside, which
is then placed behind it. -/
def closedBy (close : Reader Unit) (inner : Reader α) : Reader α :=
  placing fun cs =>
    match inner cs with
    | .ok a rest => (do close; return a) rest
    | .error f rest =>
      match close rest with
      | .ok _ rest => .error f rest
      | .error _ rest => .error f rest

def hasElement (first : Bool) : Reader Bool := do
  match ← peek with
  | some ']' => return false
  | some c =>
    if first then return true
    else if c = ',' then do
      drop
      match ← peek with
      | some ']' => failAtNext .trailingComma
      | some _ => return true
      | none => failAtNext .endBeforeValue
    else failAtNext .noArrayComma
  | none => failAtNext .endInArray

/-- Whether an object goes on; if it does, the quote of the next key comes next. -/
def hasKey (first : Bool) : Reader Bool := do
  match ← peek with
  | some '\x7d' => return false
  | some c =>
    if first then
      if c = '"' then return true else failAtNext .keyNotText
    else if c = ',' then do
      drop
      match ← peek with
      | some '"' => return true
      | some '\x7d' => failAtNext .trailingComma
      | some _ => failAtNext .keyNotText
      | none => failAtNext .endBeforeValue
    else failAtNext .noObjectComma
  | none => failAtNext .endInObject

def readColon : Reader Unit := do
  match ← peek with
  | some ':' => drop
  | some _ => failAtNext .noColon
  | none => failAtNext .endInObject

/-- Reads the elements of an array.  `fuel` bounds their number. -/
def readElements (element : Reader α) : Nat → Bool → Reader (List α)
  | 0, _ => return []
  | fuel + 1, first => do
    if ← hasElement first then
      let head ← element
      let tail ← readElements element fuel false
      return head :: tail
    else return []

end Scaffold.Json
