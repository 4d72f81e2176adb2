import Scaffold.Disk.Output
import Scaffold.Schema.Basic
import Scaffold.Template
/-!
# Artifact — what is generated for an entity, and what a run reports of it
-/
namespace Scaffold

open Disk (Outcome Path)

/-- A generated file and what became of it. -/
structure Artifact where
  entity : String
  kind : ArtifactKind
  path : Path
  outcome : Outcome
  deriving Repr, DecidableEq

/-- The artifacts of a run, in the order in which they were handled. -/
structure Report where
  artifacts : List Artifact := []
  deriving Repr, DecidableEq

namespace Report

def written (r : Report) : List Artifact := r.artifacts.filter (·.outcome == .written)

def skipped (r : Report) : List Artifact := r.artifacts.filter (·.outcome == .skipped)

def migrations (r : Report) : List Artifact := r.artifacts.filter (·.kind.isMigration)

def count (r : Report) (kind : ArtifactKind) : Nat := (r.artifacts.filter (·.kind == kind)).length

end Report

end Scaffold

/-! ## The model class -/

namespace Scaffold.Model

def quote (name : String) : String := "'" ++ name ++ "'"

/-- The names of the columns that users may assign: all but the managed ones. -/
def fillable (columns : List (String × Column)) : Except Problem String := do
  let kinds ← columns.mapM fun (name, column) => do return (name, ← column.kind name)
  return ", ".intercalate ((kinds.filter fun (_, kind) => !kind.isManaged).map fun (name, _) => quote name)

def hidden (columns : List (String × Column)) : String :=
  ", ".intercalate ((columns.filter fun (_, column) => column.hidden).map fun (name, _) => quote name)

/-- The method that leads along a relation. -/
def method (name : String) (kind : RelationKind) (target : String) : String :=
  "public function " ++ name ++ "()\n    \x7b\n        return $this->" ++ kind.method ++ "(" ++ target ++
    "::class);\n    \x7d"

def methodBreak : String := "\n\n    "

def methods (relations : List (String × Relation)) : Except Problem String := do
  let texts ← relations.mapM fun (name, relation) => do
    return method name (← relation.kind name) (← relation.target name)
  return methodBreak.intercalate texts

end Scaffold.Model

/-! ## The admin resource -/

namespace Scaffold.Resource

def widgetBreak : String := ",\n                "

def widgets (className : String) (names : List String) : String :=
  widgetBreak.intercalate (names.map fun name => className ++ "::make('" ++ name ++ "')")

/-- The widgets of the form. -/
def formFields (names : List String) : String := widgets "Forms\\Components\\TextInput" names

/-- The columns of the table. -/
def tableColumns (names : List String) : String := widgets "Tables\\Columns\\TextColumn" names

end Scaffold.Resource
