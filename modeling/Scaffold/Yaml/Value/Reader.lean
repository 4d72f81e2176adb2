import Scaffold.Yaml.Document
import Scaffold.Yaml.Scalar
/-!
# Yaml.Value.Reader — values from a document

A value is read from the items of a document, starting at some item; an alias is read by reading the node of its
anchor again.  Two limits keep documents harmless: collections may be nested 128 deep, and aliases may be followed at
most a hundred times as often as the document has items.

A mapping may not hold the same key twice.  An error names the path of the node over which it arose; the keys of a
mapping count as part of the mapping itself.
-/
namespace Scaffold.Yaml

/-- How deep collections may be nested. -/
def depthLimit : Nat := 128

/-- What reading carries along: the item that comes next, and how many aliases have been followed. -/
structure Progress where
  next : Nat := 0
  jumps : Nat := 0

abbrev DocumentM := ReaderT Document (StateT Progress (Except Error))

/-- The item that comes next, which stays.  A document that stopped at a fault has none after its last item. -/
def peekItem : DocumentM (Item × Mark) := do
  let d ← read
  match d.items[(← get).next]? with
  | some item => return item
  | none => throw (d.fault.getD .endOfEvents)

def takeItem : DocumentM (Item × Mark) := do
  let item ← peekItem
  modify fun p => { p with next := p.next + 1 }
  return item

/-- Reads at the node of an anchor, and goes on behind the alias. -/
def followAlias {α : Type} (anchor : Nat) (act : DocumentM α) : DocumentM α := do
  let d ← read
  let p ← get
  if d.items.size * 100 < p.jumps + 1 then throw .tooManyAliases
  match d.anchored.lookup anchor with
  | none => throw .endOfEvents
  | some node =>
    set ({ next := node, jumps := p.jumps + 1 } : Progress)
    let result ← act
    modify fun q => { q with next := p.next }
    return result

/-- Gives the errors of an action a position, unless they have one. -/
def placing {α : Type} (mark : Mark) (path : String) (act : DocumentM α) : DocumentM α :=
  tryCatchThe Error act fun e => throw (e.placedAt mark path)

def indexPath (path : String) (index : Nat) : String := path ++ "[" ++ toString index ++ "]"

/-- The path of a value in a mapping, given its key's text; a key that is no scalar has none. -/
def keyPath (path : String) (key : Option String) : String :=
  (if path == "." then "" else path ++ ".") ++ key.getD "?"

/-- The name of a tag of the document's own.  The exclamation mark is left out unless it is the whole tag. -/
def ownTag? (tag : Option ByteArray) : Option String := do
  let octets ← tag
  if octets.data[0]? != some 0x21 then none
  if octets.size == 1 then some "!"
  else String.fromUTF8? (octets.extract 1 octets.size)

def scalarValue (tag : Option ByteArray) (text : String) (style : ScalarStyle) : DocumentM Value :=
  match resolveScalar tag text style with
  | .error fault => throw (.node fault none)
  | .ok .null => return .null
  | .ok (.bool b) => return .bool b
  | .ok (.integer n) => return .number (.integer n)
  | .ok (.wideInteger n) => throw (.node (.wrongType (.wideInteger n) "any YAML value") none)
  | .ok (.float x) => return .number (.float x)
  | .ok (.text s) => return .string s

mutual

/-- Reads the value of the node that comes next.  `depth` counts how many collections may still be entered, `tagged`
says that the node's own tag has been read.  `fuel` bounds the recursion. -/
def readValue (fuel depth : Nat) (path : String) (tagged : Bool) : DocumentM Value :=
  match fuel with
  | 0 => throw .endOfEvents
  | fuel + 1 => do
    let (item, mark) ← peekItem
    placing mark path do
      let own (tag : Option ByteArray) : Option String := if tagged then none else ownTag? tag
      let below (tag : Option ByteArray) (rest : DocumentM Value) : DocumentM Value :=
        match own tag with
        | some name => do return .tagged name (← readValue fuel depth path true)
        | none => rest
      let enter (rest : Nat → DocumentM Value) : DocumentM Value := do
        let _ ← takeItem
        match depth with
        | 0 => throw (.tooDeep mark)
        | depth + 1 => rest depth
      match item with
      | .void => do
        let _ ← takeItem
        return .null
      | .alias anchor => do
        let _ ← takeItem
        followAlias anchor (readValue fuel depth path tagged)
      | .scalar tag text style => below tag do
        let _ ← takeItem
        scalarValue (if tagged then none else tag) text style
      | .sequenceStart tag => below tag (enter fun depth => readSequence fuel depth path [])
      | .mappingStart tag => below tag (enter fun depth => readMapping fuel depth path [])
      | .sequenceEnd | .mappingEnd => throw .endOfEvents

def readSequence (fuel depth : Nat) (path : String) (items : List Value) : DocumentM Value :=
  match fuel with
  | 0 => throw .endOfEvents
  | fuel + 1 => do
    let (item, _) ← peekItem
    if item == .sequenceEnd then
      let _ ← takeItem
      return .sequence items
    else
      let value ← readValue fuel depth (indexPath path items.length) false
      readSequence fuel depth path (items ++ [value])

def readMapping (fuel depth : Nat) (path : String) (entries : List (Value × Value)) : DocumentM Value :=
  match fuel with
  | 0 => throw .endOfEvents
  | fuel + 1 => do
    let (item, _) ← peekItem
    if item == .mappingEnd then
      let _ ← takeItem
      return .mapping entries
    else
      let keyText := match item with
        | .scalar _ text _ => some text
        | _ => none
      let key ← readValue fuel depth path false
      match entries.find? (·.1.same key) with
      | some (known, _) => throw (.node (.repeatedKey known) none)
      | none =>
        let value ← readValue fuel depth (keyPath path keyText) false
        readMapping fuel depth path (entries ++ [(key, value)])

end

/-- Reads something from the first document of a text.  A fault further on in that document, and a second document,
are errors too. -/
def Document.decode {α : Type} (text : String) (act : DocumentM α) : Except Error α := do
  let d := Document.ofString text
  let (result, _) ← (act.run d).run {}
  match d.fault with
  | some e => throw e
  | none => if d.followed then throw .secondDocument else return result

/-- How deep the recursion can go: through every entry of as many collections as may be nested. -/
def Document.recursionBound (d : Document) : Nat := (depthLimit + 2) * (d.items.size + 3)

def Value.ofString (text : String) : Except Error Value :=
  Document.decode text do
    let d ← read
    readValue d.recursionBound depthLimit "." false

end Scaffold.Yaml
