import Scaffold.Json.Skip
/-!
# Json.Value — reading values of an expected sort

Each reader knows what it expects.  Where something else comes next, that is read first, as far as it takes to say
what it is.
-/
namespace Scaffold.Json

variable {α σ : Type}

def refuseNext (expected : String) : Reader α :=
  let wrong (found : Found) : Reader α := failUnplaced (.wrongType found expected)
  placing do
    match ← peek with
    | some 'n' => do
      drop
      readWord ['u', 'l', 'l']
      wrong .null
    | some 't' => do
      drop
      readWord ['r', 'u', 'e']
      wrong (.boolean true)
    | some 'f' => do
      drop
      readWord ['a', 'l', 's', 'e']
      wrong (.boolean false)
    | some '-' => do
      drop
      wrong (← readNumber true).found
    | some '"' => do
      drop
      wrong (.text (← readQuoted))
    | some '[' => wrong .array
    | some '\x7b' => wrong .object
    | some c => if c.isDigit then do wrong (← readNumber false).found else failAtNext .noValue
    | none => failAtNext .noValue

/-- Accepts an integer from 0 to 4294967295. -/
def acceptWord : Number → Reader UInt32
  | .integer n =>
    if 0 ≤ n ∧ n < 4294967296 then return UInt32.ofNat n.toNat
    else failUnplaced (.wrongValue (.integer n) "u32")
  | .float x => failUnplaced (.wrongType (.float x) "u32")

def readWord32 : Reader UInt32 :=
  placing do
    match ← peek with
    | none => failAtNext .endBeforeValue
    | some '-' => do
      drop
      acceptWord (← readNumber true)
    | some c => if c.isDigit then do acceptWord (← readNumber false) else refuseNext "u32"

def readText : Reader String :=
  placing do
    match ← peek with
    | none => failAtNext .endBeforeValue
    | some '"' => do
      drop
      readQuoted
    | some _ => refuseNext "a string"

def readArray (element : Reader α) : Reader (List α) :=
  placing do
    match ← peek with
    | none => failAtNext .endBeforeValue
    | some '[' => do
      drop
      closedBy endArray do readElements element ((← get).length + 1) true
    | some _ => refuseNext "a sequence"

/-- Reads the entries of an object: `entry` takes a key into what has been read so far, and reads the rest of the
entry from its colon on.  `fuel` bounds the number of entries. -/
def readEntries (entry : σ → String → Reader σ) : Nat → Bool → σ → Reader σ
  | 0, _, state => return state
  | fuel + 1, first, state => do
    if ← hasKey first then do
      drop
      let key ← readQuoted
      readEntries entry fuel false (← entry state key)
    else return state

def readObject (start : σ) (entry : σ → String → Reader σ) : Reader σ :=
  placing do
    match ← peek with
    | none => failAtNext .endBeforeValue
    | some '\x7b' => do
      drop
      closedBy endObject do readEntries entry ((← get).length + 1) true start
    | some _ => refuseNext "a map"

/-- Reads a record.  An array gives its fields in order, which `inOrder` reads.  In an object, `field` reads the value
of a field among the known ones; other fields are skipped, and no field may be given twice.  In the end, `finish` makes
the record from what has been read. -/
def readRecord (expected : String) (inOrder : Reader α) (known : List String) (start : σ)
    (field : σ → String → Reader σ) (finish : σ → Reader α) : Reader α :=
  placing do
    match ← peek with
    | none => failAtNext .endBeforeValue
    | some '[' => do
      drop
      closedBy endArray inOrder
    | some '\x7b' => do
      drop
      closedBy endObject do
        let entry (state : List String × σ) (key : String) : Reader (List String × σ) := do
          if known.contains key then do
            if state.1.contains key then failUnplaced (.repeatedField key)
            else do
              readColon
              return (key :: state.1, ← field state.2 key)
          else do
            readColon
            skipValue
            return state
        let (_, state) ← readEntries entry ((← get).length + 1) true ([], start)
        finish state
    | some _ => refuseNext expected

def readWhole (act : Reader α) (text : String) : Except Fault α :=
  let whole : Reader α := do
    let a ← act
    match ← peek with
    | none => return a
    | some _ => failAtNext .trailingCharacters
  match whole text.toList with
  | .ok a _ => .ok a
  | .error f _ => .error f

end Scaffold.Json
