import Scaffold.Schema.Basic
/-!
# Migration.Statement — what a migration does to a table

Going up, a migration adds its columns in order.  Going down, it drops them in the reverse order, the foreign key of a
column before the column itself, so that every statement finds the table as the statement that it undoes left it.
-/
namespace Scaffold.Migration

/-- A column whose type is known. -/
structure ColumnDefinition where
  name : String
  kind : ColumnKind
  column : Column
  deriving Repr, DecidableEq

inductive Statement where
  | add (definition : ColumnDefinition)
  | dropForeign (column : String)
  | dropTimestamps
  | dropColumn (column : String)
  deriving Repr, DecidableEq

/-- Finds the types of the columns, in order, up to the first that has none. -/
def resolve (columns : List (String × Column)) : Except Problem (List ColumnDefinition) :=
  columns.mapM fun (name, column) => do return ⟨name, ← column.kind name, column⟩

namespace ColumnDefinition

/-- The arguments of the builder method: the name, and the length where there is one that counts. -/
def arguments (d : ColumnDefinition) : String :=
  match d.column.length with
  | some length => if d.kind.acceptsLength then "'" ++ d.name ++ "', " ++ toString length.toNat else "'" ++ d.name ++ "'"
  | none => "'" ++ d.name ++ "'"

def uniqueCall (d : ColumnDefinition) : String := if d.column.unique then "->unique()" else ""

/-- The calls that make a column a foreign key. -/
def foreignCall (d : ColumnDefinition) : String :=
  match d.column.foreign with
  | some target => "->foreign('" ++ d.name ++ "')->references('id')->on('" ++ target ++ "')"
  | none => ""

/-- The statement that adds the column, as in `$table->string('email', 100)->unique();`. -/
def text (d : ColumnDefinition) : String :=
  "$table->" ++ d.kind.method ++ "(" ++ d.arguments ++ ")" ++ d.uniqueCall ++ d.foreignCall ++ ";"

def dropItself (d : ColumnDefinition) : Statement :=
  match d.kind with
  | .timestamps => .dropTimestamps
  | _ => .dropColumn d.name

/-- The statements that undo the column. -/
def undo (d : ColumnDefinition) : List Statement :=
  if d.column.foreign.isSome then [.dropForeign d.name, d.dropItself] else [d.dropItself]

end ColumnDefinition

def Statement.text : Statement → String
  | .add d => d.text
  | .dropForeign column => "$table->dropForeign(['" ++ column ++ "']);"
  | .dropTimestamps => "$table->dropTimestamps();"
  | .dropColumn column => "$table->dropColumn('" ++ column ++ "');"

/-- The statements that add the columns. -/
def up (columns : List ColumnDefinition) : List Statement := columns.map .add

def down (columns : List ColumnDefinition) : List Statement := columns.reverse.flatMap ColumnDefinition.undo

/-- What stands between two statements: a line break, and the indentation that statements have in a template. -/
def statementBreak : String := "\n            "

def body (statements : List Statement) : String := statementBreak.intercalate (statements.map Statement.text)

end Scaffold.Migration
