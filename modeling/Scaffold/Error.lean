import Scaffold.Disk.Access
import Scaffold.Json.Fault
import Scaffold.Schema.Basic
import Scaffold.Yaml.Value.Decoder
/-!
# Error — why a run stops

An error is about the schema, about an entity, about the layout, or about a file that cannot be read or written.
-/
namespace Scaffold

open Disk (Path)
open Yaml (NodeFault Value)

inductive SchemaFault where
  | notReadable (error : Yaml.Error)
  | notMapping (found : Value)
  | nameNotText (found : Value)
  | entityNotMapping (entity : String) (found : Value)
  | definition (entity : String) (fault : NodeFault)
  | columnTooLong (column : String) (limit : Nat)

def SchemaFault.message : SchemaFault → String
  | .notReadable error => "Error parsing YAML file: " ++ error.message
  | .notMapping found => "expected a mapping of entity names to definitions, found " ++ found.sort
  | .nameNotText found => "entity names must be strings, found " ++ found.sort
  | .entityNotMapping entity found => "entity '" ++ entity ++ "' must be a mapping, found " ++ found.sort
  | .definition entity fault => "entity '" ++ entity ++ "': " ++ fault.text
  | .columnTooLong column limit =>
    "column name '" ++ column ++ "': Compiled regex exceeds size limit of " ++ toString limit ++ " bytes."

inductive FileCause where
  | disk (fault : Disk.Fault)
  | ledger (fault : Json.Fault) (text : String)
  | noFreeName (table : String) (attempts : Nat)

def FileCause.message : FileCause → String
  | .disk fault => fault.message
  | .ledger fault text => fault.message text
  | .noFreeName table attempts =>
    "no free migration name for '" ++ table ++ "' after " ++ toString attempts ++ " attempts"

inductive LayoutFault where
  | missing (path : Path)
  | notReadable (path : Path) (error : Yaml.Error)

def LayoutFault.message : LayoutFault → String
  | .missing path => "config file '" ++ path.text ++ "' does not exist"
  | .notReadable path error => path.text ++ ": " ++ error.message

/-- Why a run stops. -/
inductive Error where
  | schemaMissing (path : Path)
  | schema (fault : SchemaFault)
  | problem (p : Problem)
  | unreadable (path : Path) (cause : FileCause)
  | unwritable (path : Path) (cause : FileCause)
  | problemsFound (path : Path) (count : Nat)
  | layout (fault : LayoutFault)
  | calendarEnd

namespace Error

def message : Error → String
  | .schemaMissing path => "The YAML file '" ++ path.text ++ "' does not exist."
  | .schema fault => "Invalid YAML schema: " ++ fault.message
  | .problem p => p.message
  | .unreadable path cause => "Failed to read file '" ++ path.text ++ "': " ++ cause.message
  | .unwritable path cause => "Failed to write to file '" ++ path.text ++ "': " ++ cause.message
  | .problemsFound path count => toString count ++ " problem(s) found in schema '" ++ path.text ++ "'."
  | .layout fault => "Configuration error: " ++ fault.message
  | .calendarEnd => "The calendar ends before the next migration."

/-- Whether the schema is missing or is no schema.  That shows before anything is generated, but for a column name that
is too long to be looked for. -/
def isLoad : Error → Bool
  | .schemaMissing _ | .schema _ => true
  | _ => false

/-- Whether the error is about what an entity's definition says. -/
def isValidation : Error → Bool
  | .problem _ | .problemsFound _ _ => true
  | _ => false

/-- Whether the error is about reading or writing a file. -/
def isFile : Error → Bool
  | .unreadable _ _ | .unwritable _ _ => true
  | _ => false

end Error

end Scaffold
