import Scaffold.Disk.Path
/-!
# Layout.Basic — where the files of a project go

Every path of a layout leads from the project's root, unless it is absolute.
-/
namespace Scaffold

open Disk (Path)

/-- Where the generated files of a project go, what extension they have, where the stubs are that replace the built-in
templates, and where the ledger is. -/
structure Layout where
  migrations : Path := ⟨"database/migrations"⟩
  models : Path := ⟨"app/Models"⟩
  resources : Path := ⟨"app/Filament/Resources"⟩
  extension : String := "php"
  stubs : Option Path := none
  ledger : Path := ⟨"database/.yamavel/ledger.json"⟩
  deriving Repr, DecidableEq, Inhabited

namespace Layout

/-- The name of the file in a project's root that declares its layout. -/
def fileName : String := ".yamavel.yaml"

def migrationsIn (l : Layout) (root : Path) : Path := root.join l.migrations

def modelsIn (l : Layout) (root : Path) : Path := root.join l.models

def resourcesIn (l : Layout) (root : Path) : Path := root.join l.resources

def stubsIn (l : Layout) (root : Path) : Option Path := l.stubs.map root.join

def ledgerIn (l : Layout) (root : Path) : Path := root.join l.ledger

def nameOf (l : Layout) (stem : String) : String := stem ++ "." ++ l.extension

/-- Whether two layouts are the same; paths are the same if they lead through the same components. -/
def same (l m : Layout) : Bool :=
  l.migrations.same m.migrations && l.models.same m.models && l.resources.same m.resources &&
    l.extension == m.extension && l.ledger.same m.ledger &&
    match l.stubs, m.stubs with
    | none, none => true
    | some p, some q => p.same q
    | _, _ => false

end Layout

end Scaffold
