import Scaffold.Generation.Workspace
import Scaffold.Probe
import Scaffold.Migration.Statement
import Scaffold.Template
/-!
# Generation.Migration — the migration of an entity

A table that does not exist is created; one that exists is updated by the columns that it lacks, even if it lacks none.
The migration is written first and recorded after, so a run that breaks off never has a migration recorded that is not
there.
-/
namespace Scaffold.Generation

open Disk (Path)

/-- How many stamps are tried for a migration. -/
def attempts : Nat := 64

/-- Writes a migration under the first of the next names that is free, trying `tries` stamps. -/
def placeMigrationWith (device : Disk.Breaks) (directory : Path) (kind : ArtifactKind)
    (table extension content : String) : Nat → Generation (Path × String)
  | 0 => throw (.unwritable directory (.noFreeName table attempts))
  | tries + 1 => do
    let name := Migration.fileName kind (← nextStamp) table extension
    let path := directory.join ⟨name⟩
    match ← onDisk path (Disk.writeNewWith device path content.toUTF8) with
    | .written => return (path, name)
    | _ => placeMigrationWith device directory kind table extension content tries

def placeMigration (directory : Path) (kind : ArtifactKind) (table extension content : String) :
    Nat → Generation (Path × String) := placeMigrationWith .never directory kind table extension content

/-- Decides what the migration of a table does, by the migrations of a directory: create it with all its columns, or
update it with those that it lacks. -/
def planIn (scanned : Path) (table : String) (columns : List Migration.ColumnDefinition) (w : Workspace) :
    Except Error (ArtifactKind × List Migration.ColumnDefinition) := do
  if ← w.ledger.tableExists w.disk scanned table then
    return (.updateMigration, ← w.ledger.missingColumns w.disk scanned table (·.name) columns)
  else return (.createMigration, columns)

def plan (p : Project) (table : String) (columns : List Migration.ColumnDefinition) (w : Workspace) :
    Except Error (ArtifactKind × List Migration.ColumnDefinition) :=
  planIn (p.layout.migrationsIn p.root) table columns w

/-- What is settled before a migration is written: its kind, the columns that it adds and its template. -/
def settleWith (t : Tools) (e : Entity) (w : Workspace) :
    Except Error (ArtifactKind × List Migration.ColumnDefinition × String) := do
  let columns ← (do Migration.resolve (← e.requiredColumns)).mapError .problem
  let (kind, pending) ← planIn t.scanned e.tableName columns w
  let template ← Template.load w.disk t.stubs kind
  return (kind, pending, template)

def settle (p : Project) (e : Entity) (w : Workspace) :
    Except Error (ArtifactKind × List Migration.ColumnDefinition × String) := settleWith p.tools e w

def migrationText (template table : String) (columns : List Migration.ColumnDefinition) : String :=
  Template.fill template [
    ("table", table),
    ("columns", Migration.body (Migration.up columns)),
    ("dropColumns", Migration.body (Migration.down columns))]

/-- Records a migration in the ledger.  A table that is created has no past. -/
def recordMigration (kind : ArtifactKind) (table name : String) (columns : List String) (l : Ledger) : Ledger :=
  let l := if kind = .createMigration then (l.forget table).2 else l
  l.record table name columns

/-- Writes the migration of an entity and enters it in the ledger in memory. -/
def recordWith (t : Tools) (p : Project) (e : Entity) : Generation Artifact := do
  let (kind, pending, template) ← ask (settleWith t e)
  let (path, name) ← placeMigrationWith t.device (p.layout.migrationsIn p.root) kind e.tableName p.layout.extension
    (migrationText template e.tableName pending) attempts
  modify fun w => { w with ledger := recordMigration kind e.tableName name (pending.map (·.name)) w.ledger }
  return ⟨e.name, kind, path, .written⟩

def migrationWith (t : Tools) (p : Project) (ledgerPath : Path) (e : Entity) : Generation Artifact := do
  let artifact ← recordWith t p e
  onDisk ledgerPath ((← get).ledger.saveWith t.device ledgerPath)
  return artifact

/-- Writes the migration of an entity and records it in the ledger, which is at `ledgerPath`. -/
def migration (p : Project) (ledgerPath : Path) (e : Entity) : Generation Artifact :=
  migrationWith p.tools p ledgerPath e

end Scaffold.Generation
