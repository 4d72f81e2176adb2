import Scaffold.Error
import Scaffold.Yaml.Value.Reader
/-!
# Schema.Reader — schemas from YAML, and on a disk

A schema maps the names of entities to mappings that define them; null is a schema without entities.  The first thing
that is wrong, in the order of the document, is the error of the whole document.
-/
namespace Scaffold

open Disk (Path)
open Yaml (Decoder NodeFault Value)

namespace Schema

/-- Reads a mapping from names.  A name that two keys write, by different tags, is declared again. -/
def readNames {α : Type} (item : Decoder α) (m : NameMap α) : List (Value × Value) → Except NodeFault (NameMap α)
  | [] => .ok m
  | (key, value) :: rest => do
    let name ← Decoder.text "a string" key
    readNames item (m.insert name (← item value)) rest

/-- Reads a mapping from names, which null leaves out. -/
def decodeNames {α : Type} (item : Decoder α) : Decoder (NameMap α) := fun v => do
  readNames item .empty (← Decoder.entries "a map" v)

def decodeColumn : Decoder Column :=
  .record "struct ColumnSpec" ["type", "unique", "hidden", "length", "foreign"] {} fun column name v =>
    match name with
    | "type" => do return { column with declaredType := ← Decoder.optional (Decoder.text "a string") v }
    | "unique" => do return { column with unique := ← Decoder.bool v }
    | "hidden" => do return { column with hidden := ← Decoder.bool v }
    | "length" => do return { column with length := ← Decoder.optional Decoder.word v }
    | _ => do return { column with foreign := ← Decoder.optional (Decoder.text "a string") v }

def decodeRelation : Decoder Relation :=
  .record "struct RelationSpec" ["type", "model"] {} fun relation name v =>
    match name with
    | "type" => do return { relation with declaredType := ← Decoder.optional (Decoder.text "a string") v }
    | _ => do return { relation with model := ← Decoder.optional (Decoder.text "a string") v }

/-- Reads a record with one field, a list of texts. -/
def decodeTexts (expected field : String) : Decoder (List String) :=
  .record expected [field] [] fun _ _ v => Decoder.list (Decoder.text "a string") v

/-- Reads the layout of the admin resource into an entity. -/
def decodePanel (e : Entity) : Decoder Entity :=
  .record "struct FilamentSpec" ["form", "table"] e fun e name v =>
    match name with
    | "form" => do return { e with formFields := ← decodeTexts "struct FormSpec" "fields" v }
    | _ => do return { e with tableColumns := ← decodeTexts "struct TableSpec" "columns" v }

def decodeEntity (entity : String) : Decoder Entity :=
  .record "struct EntityDefinition" ["table", "columns", "relations", "filament"] { name := entity } fun e name v =>
    match name with
    | "table" => do return { e with table := ← Decoder.optional (Decoder.text "a string") v }
    | "columns" => do return { e with columns := ← decodeNames decodeColumn v }
    | "relations" => do return { e with relations := ← decodeNames decodeRelation v }
    | _ => decodePanel e v

def entityOfEntry : Value × Value → Except SchemaFault Entity
  | (.string name, value) =>
    if value.isMapping then (decodeEntity name value).mapError (.definition name)
    else .error (.entityNotMapping name value)
  | (key, _) => .error (.nameNotText key)

def ofValue : Value → Except SchemaFault Schema
  | .null => .ok {}
  | .mapping entries => (entries.mapM entityOfEntry).map Schema.mk
  | v => .error (.notMapping v)

/-- The schema that a YAML text writes. -/
def ofString (text : String) : Except SchemaFault Schema := do
  ofValue (← (Value.ofString text).mapError .notReadable)

def load (d : Disk) (p : Path) : Except Error Schema := do
  if !d.occupied p then throw (.schemaMissing p)
  let text ← (d.readText p).mapError fun f => .unreadable p (.disk f)
  (ofString text).mapError .schema

end Schema

end Scaffold
