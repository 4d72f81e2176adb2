import Scaffold.Yaml.Error
import Scaffold.Yaml.Event
/-!
# Yaml.Document — the nodes of one document

A document is the list of its events with every alias bound to the node that it repeats.  Reading stops at the first
fault, which stays with the document: what is read from the document may fail earlier, over one of its nodes.

Anchors are numbered by how many names have been given so far, so a name that is given a second time takes the number
that the next new name will take too, and that name then overrides it.
-/
namespace Scaffold.Yaml

/-- A node, or one end of a collection.  An empty text has one node, which is void. -/
inductive Item where
  | void
  | alias (anchor : Nat)
  | scalar (tag : Option ByteArray) (text : String) (style : ScalarStyle)
  | sequenceStart (tag : Option ByteArray)
  | sequenceEnd
  | mappingStart (tag : Option ByteArray)
  | mappingEnd
  deriving BEq

/-- A document: its items with their places, the items that the anchors stand for, the fault at which reading stopped,
and whether another document follows. -/
structure Document where
  items : Array (Item × Mark) := #[]
  anchored : List (Nat × Nat) := []
  fault : Option Error := none
  followed : Bool := false

namespace Document

abbrev Names := List (String × Nat)

/-- Gives an anchor's name to the item that comes next. -/
def bind (d : Document) (names : Names) (anchor : Option String) : Document × Names :=
  match anchor with
  | none => (d, names)
  | some name =>
    let number := names.length
    ({ d with anchored := (number, d.items.size) :: d.anchored },
      (name, number) :: names.filter (·.1 != name))

def push (d : Document) (item : Item) (mark : Mark) : Document := { d with items := d.items.push (item, mark) }

/-- Reads the items of the first document.  The reader that is left stands behind the document, and there is none if
the text ended first or a fault was found.  `fuel` bounds the number of events. -/
def readItems : Nat → Reader → Names → Document → Document × Option Reader
  | 0, _, _, d => (d, none)
  | fuel + 1, r, names, d =>
    match r.next with
    | .error f => ({ d with fault := some (.notYaml f) }, none)
    | .ok (e, r) =>
      match e.kind with
      | .streamEnd => (if d.items.isEmpty then d.push .void e.mark else d, none)
      | .documentStart => readItems fuel r names d
      | .documentEnd => (d, some r)
      | .alias name =>
        match names.lookup name with
        | some number => readItems fuel r names (d.push (.alias number) e.mark)
        | none => ({ d with fault := some (.unknownAnchor e.mark) }, none)
      | .scalar anchor tag text style =>
        let (d, names) := d.bind names anchor
        readItems fuel r names (d.push (.scalar tag text style) e.mark)
      | .sequenceStart anchor tag =>
        let (d, names) := d.bind names anchor
        readItems fuel r names (d.push (.sequenceStart tag) e.mark)
      | .mappingStart anchor tag =>
        let (d, names) := d.bind names anchor
        readItems fuel r names (d.push (.mappingStart tag) e.mark)
      | .sequenceEnd => readItems fuel r names (d.push .sequenceEnd e.mark)
      | .mappingEnd => readItems fuel r names (d.push .mappingEnd e.mark)

/-- Characters that a YAML text may hold. -/
def isAllowed (c : Char) : Bool :=
  let n := c.toNat
  n == 0x9 || n == 0xA || n == 0xD || (0x20 ≤ n && n ≤ 0x7E) || n == 0x85 || (0xA0 ≤ n && n ≤ 0xFFFD) ||
    0x10000 ≤ n

/-- The text is looked at in parts of at most this many bytes, each of whole characters. -/
def partSize : Nat := 16384

/-- Finds the first character that no YAML text may hold: how many characters are left where the part of the text
begins in which it stands, and how many bytes stand before the character itself.  `partLeft` and `partBytes` are what
was left where the current part begins and how much of it has been seen, `left` and `bytes` the same for the text. -/
def findBarrier (partLeft partBytes left bytes : Nat) : List Char → Option (Nat × Nat)
  | [] => none
  | c :: rest =>
    let fits := partBytes + c.utf8Size ≤ partSize
    let partLeft := if fits then partLeft else left
    if isAllowed c then
      findBarrier partLeft (if fits then partBytes + c.utf8Size else c.utf8Size) (left - 1) (bytes + c.utf8Size) rest
    else some (partLeft, bytes)

def readerOf (text : String) : Reader :=
  let chars := text.toList
  { scanner := { cursor := { rest := chars }, barrier := findBarrier chars.length 0 chars.length 0 chars } }

def ofString (text : String) : Document :=
  let r := readerOf text
  match readItems (4 * r.tokenBound) r [] {} with
  | (d, none) => d
  | (d, some r) =>
    match r.next with
    | .ok (⟨.streamEnd, _⟩, _) => d
    | _ => { d with followed := true }

end Document

end Scaffold.Yaml
