import Scaffold.Error
import Scaffold.Ledger.Basic
import Scaffold.Template
import Scaffold.Text.Search
import Scaffold.Unicode.Basic
import Scaffold.Unicode.Word
/-!
# Probe — what exists in a project, as migrations and ledger tell

The file name of a migration is a stamp, then a marker that tells what the migration does to which table, then the
extension, as in `2024_05_01_093000_create_users_table.php`.  Migrations sort by their stamps, and the markers are how a
table is found again among the files of a project.

A table exists if the name of some migration says that it creates it.  A column exists if some migration that creates
or updates its table calls a builder method with the column's name as the first argument.  This looks at texts only,
so a migration written by hand in an unusual manner can hide a column.  The name of the column is made into a pattern
for that, and patterns have a limit; what no pattern can be made of cannot be looked for.

A ledger saves looking at the texts.  Its record of a table counts only while one of the migrations that it lists is
still there; what no record that counts speaks of is looked up in the migrations.
-/
namespace Scaffold.Migration

/-- The marker of a migration that creates the table. -/
def createMarker (table : String) : String := "create_" ++ table ++ "_table"

/-- The marker of a migration that updates the table. -/
def updateMarker (table : String) : String := "update_" ++ table ++ "_table"

def markerOf (kind : ArtifactKind) (table : String) : String :=
  match kind with
  | .updateMigration => updateMarker table
  | _ => createMarker table

def fileName (kind : ArtifactKind) (stamp table extension : String) : String :=
  stamp ++ "_" ++ markerOf kind table ++ "." ++ extension

/-! ## Scanning -/

open Disk (Path)

/-- Whether a name contains a marker. -/
def bears (name marker : String) : Bool := Text.occursIn marker.toList name.toList

/-- What stands before the name of a builder method. -/
def receiver : List Char := "$table->".toList

def isQuote (c : Char) : Bool := c == '\'' || c == '"'

/-- Whether a text begins with the column between quotes, which need not be the same. -/
def quotesColumn (column : List Char) : List Char → Bool
  | [] => false
  | quote :: rest => isQuote quote && column.isPrefixOf rest && (rest.drop column.length).head?.any isQuote

/-- Whether a text begins with the name of a method, a bracket and the column as the first argument. -/
def callsWith (column text : List Char) : Bool :=
  (text.head?.any Unicode.isWord) &&
    match text.dropWhile Unicode.isWord with
    | '(' :: rest => quotesColumn column (rest.dropWhile Unicode.isBlank)
    | _ => false

/-- Whether a text calls a builder method with the column as the first argument. -/
def definesColumn (column : List Char) : List Char → Bool
  | [] => false
  | c :: rest =>
    (receiver.isPrefixOf (c :: rest) && callsWith column ((c :: rest).drop receiver.length)) ||
      definesColumn column rest

/-- How large the pattern that looks for a column may get, in bytes. -/
def patternLimit : Nat := 10 * 1024 * 1024

/-- How large the pattern that looks for a column gets: so much for each byte of its name, and so much for the rest. -/
def patternSize (column : String) : Nat := 32 * column.utf8ByteSize + 51456

/-- Whether a column can be looked for at all. -/
def isSearchable (column : String) : Bool := patternSize column ≤ patternLimit

/-- The names of the migrations in a directory, which need not exist. -/
def namesIn (d : Disk) (directory : Path) : Except Error (List String) :=
  match d.fileNames directory with
  | .ok names => .ok names
  | .error .notFound => .ok []
  | .error f => .error (.unreadable directory (.disk f))

/-- Whether some migration creates the table. -/
def tableExists (d : Disk) (directory : Path) (table : String) : Except Error Bool := do
  return (← namesIn d directory).any (bears · (createMarker table))

/-- Whether one of the migrations defines the column.  The first that cannot be read is an error. -/
def anyDefines (d : Disk) (directory : Path) (column : String) : List String → Except Error Bool
  | [] => .ok false
  | name :: rest =>
    match d.readText (directory.join ⟨name⟩) with
    | .error f => .error (.unreadable (directory.join ⟨name⟩) (.disk f))
    | .ok text => if definesColumn column.toList text.toList then .ok true else anyDefines d directory column rest

/-- Whether some migration that creates or updates the table defines the column. -/
def findColumn (d : Disk) (directory : Path) (table column : String) : Except Error Bool := do
  let names ← namesIn d directory
  anyDefines d directory column
    (names.filter fun name => bears name (createMarker table) || bears name (updateMarker table))

/-- Whether some migration that creates or updates the table defines the column.  It is an error if the column cannot be
looked for. -/
def columnExists (d : Disk) (directory : Path) (table column : String) : Except Error Bool :=
  if isSearchable column then findColumn d directory table column
  else .error (.schema (.columnTooLong column patternLimit))

end Scaffold.Migration

namespace Scaffold.Ledger

open Disk (Path)

/-- The record of a table, if it counts. -/
def liveRecord (l : Ledger) (d : Disk) (directory : Path) (table : String) : Except Error (Option TableRecord) :=
  match l.table? table with
  | none => .ok none
  | some record => do
    let present ← Migration.namesIn d directory
    return if record.migrations.any present.contains then some record else none

def tableExists (l : Ledger) (d : Disk) (directory : Path) (table : String) : Except Error Bool := do
  match ← l.liveRecord d directory table with
  | some _ => return true
  | none => Migration.tableExists d directory table

def columnExists (l : Ledger) (d : Disk) (directory : Path) (table column : String) : Except Error Bool := do
  if (← l.liveRecord d directory table).any (·.columns.contains column) then return true
  else Migration.columnExists d directory table column

/-- The columns that do not exist yet. -/
def missingColumns {α : Type} (l : Ledger) (d : Disk) (directory : Path) (table : String) (nameOf : α → String) :
    List α → Except Error (List α)
  | [] => .ok []
  | column :: rest => do
    let known ← l.columnExists d directory table (nameOf column)
    let missing ← l.missingColumns d directory table nameOf rest
    return if known then missing else column :: missing

end Scaffold.Ledger
