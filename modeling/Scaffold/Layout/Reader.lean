import Scaffold.Error
import Scaffold.Layout.Basic
import Scaffold.Unicode.Basic
import Scaffold.Yaml.Value.Reader
/-!
# Layout.Reader — layouts from YAML, and on a disk

A layout is a mapping from the names of its fields; a field that is left out keeps its default.  Scalars are taken as
they are written, so `0x10` is the text `0x10`; only the directory of the stubs may be null.  Unlike in a schema, an
unknown field is an error.
-/
namespace Scaffold.Layout

open Disk (Path)
open Yaml

inductive Field where
  | migrations
  | models
  | resources
  | extension
  | stubs
  | ledger
  deriving Repr, DecidableEq

namespace Field

def all : List Field := [.migrations, .models, .resources, .extension, .stubs, .ledger]

def key : Field → String
  | .migrations => "migrations_dir"
  | .models => "models_dir"
  | .resources => "resources_dir"
  | .extension => "extension"
  | .stubs => "stubs_dir"
  | .ledger => "ledger_file"

def ofKey? (key : String) : Option Field := all.find? (·.key == key)

end Field

def refuse {α : Type} (item : Item) (expected : String) : DocumentM α :=
  let wrong (found : Found) : DocumentM α := throw (.node (.wrongType found expected) none)
  match item with
  | .scalar tag text style =>
    match resolveScalar tag text style with
    | .error fault => throw (.node fault none)
    | .ok .null => wrong .unit
    | .ok (.bool b) => wrong (.boolean b)
    | .ok (.integer n) => wrong (.integer n)
    | .ok (.wideInteger n) => wrong (.wideInteger n)
    | .ok (.float x) => wrong (.float x)
    | .ok (.text s) => wrong (.string s)
  | .sequenceStart _ => wrong .sequence
  | .mappingStart _ => wrong .map
  | _ => wrong .unit

/-- Reads a scalar as it is written; `check` may refuse it.  `fuel` bounds how many aliases lead to it. -/
def readText {α : Type} (expected path : String) (check : String → DocumentM α) : Nat → DocumentM α
  | 0 => throw .endOfEvents
  | fuel + 1 => do
    let (item, mark) ← takeItem
    placing mark path do
      match item with
      | .scalar _ text _ => check text
      | .alias anchor => followAlias anchor (readText expected path check fuel)
      | item => refuse item expected

/-- Whether the scalar of an optional text says that there is none. -/
def isAbsent (tag : Option ByteArray) (text : String) (style : ScalarStyle) : Except NodeFault Bool :=
  if style != .plain then .ok false
  else
    match tag with
    | none => .ok (text.isEmpty || spellsNull text)
    | some t =>
      if t != standardTag "null" then .ok false
      else if spellsNull text then .ok true
      else .error (.wrongValue (.string text) "null")

def readOptionalText (expected path : String) : Nat → DocumentM (Option String)
  | 0 => throw .endOfEvents
  | fuel + 1 => do
    let (item, _) ← peekItem
    match item with
    | .alias anchor => do
      let _ ← takeItem
      followAlias anchor (readOptionalText expected path fuel)
    | .void => do
      let _ ← takeItem
      return none
    | .scalar tag text style => do
      match isAbsent tag text style with
      | .error fault => throw (.node fault none)
      | .ok true => do
        let _ ← takeItem
        return none
      | .ok false => return some (← readText expected path pure (fuel + 1))
    | _ => return some (← readText expected path pure (fuel + 1))

def readKey (fuel : Nat) : DocumentM Field :=
  readText "field identifier" "." (fun key =>
    match Field.ofKey? key with
    | some field => return field
    | none => throw (.node (.unknownField key (Field.all.map Field.key)) none)) fuel

/-- Reads the value of a field.  `path` is the path of the value. -/
def readField (fuel : Nat) (path : String) (l : Layout) : Field → DocumentM Layout
  | .migrations => do return { l with migrations := ⟨← readText "path string" path pure fuel⟩ }
  | .models => do return { l with models := ⟨← readText "path string" path pure fuel⟩ }
  | .resources => do return { l with resources := ⟨← readText "path string" path pure fuel⟩ }
  | .extension => do return { l with extension := ← readText "a string" path pure fuel }
  | .stubs => do return { l with stubs := (← readOptionalText "path string" path fuel).map Disk.Path.mk }
  | .ledger => do return { l with ledger := ⟨← readText "path string" path pure fuel⟩ }

/-- Reads the fields of a layout up to the end of the mapping.  `seen` are the fields given so far. -/
def readFields (seen : List Field) (l : Layout) : Nat → DocumentM Layout
  | 0 => throw .endOfEvents
  | fuel + 1 => do
    let (item, _) ← peekItem
    match item with
    | .mappingEnd => do
      let _ ← takeItem
      return l
    | _ => do
      let keyText := match item with
        | .scalar _ text _ => some text
        | _ => none
      let field ← readKey fuel
      if seen.contains field then throw (.node (.repeatedField field.key) none)
      readFields (field :: seen) (← readField fuel (keyPath "." keyText) l field) fuel

/-- Reads a layout from the beginning of a document.  A document that says nothing is the default layout. -/
def readLayout : DocumentM Layout := do
  let fuel := (← read).items.size * 102 + 3
  let (item, mark) ← takeItem
  placing mark "." do
    match item with
    | .mappingStart _ => readFields [] {} fuel
    | .void => return {}
    | .scalar _ "" .plain => return {}
    | item => refuse item "struct ProjectConfig"

/-- The layout that a YAML text writes.  A blank text is the default layout. -/
def ofString (text : String) : Except Yaml.Error Layout :=
  if text.toList.all Unicode.isBlank then .ok {} else Document.decode text readLayout

/-! ## Files -/

def load (d : Disk) (p : Path) : Except Error Layout := do
  let text ← (d.readText p).mapError fun f => .unreadable p (.disk f)
  (ofString text).mapError fun e => .layout (.notReadable p e)

/-- Finds the layout of a project: that of an explicit file, which must exist, or else that of the file in the
project's root if there is one, or else the default. -/
def discover (d : Disk) (root : Path) (explicit : Option Path) : Except Error Layout :=
  match explicit with
  | some p => if d.occupied p then load d p else .error (.layout (.missing p))
  | none =>
    let p := root.join ⟨fileName⟩
    if d.occupied p then load d p else .ok {}

end Scaffold.Layout
