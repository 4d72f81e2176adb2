import Scaffold.Naming.Table
import Scaffold.Schema.Kind
import Scaffold.Schema.NameMap
/-!
# Schema.Basic — entities with their columns and relations

A type stays as it is written until it is needed, so that an unknown one is reported for the column or relation that
carries it.  `Entity.problems` lists everything that is wrong with an entity; the functions that need a column's or
relation's type stop at the first thing that is wrong.
-/
namespace Scaffold

/-- What a schema says of a column. -/
structure Column where
  declaredType : Option String := none
  unique : Bool := false
  hidden : Bool := false
  length : Option UInt32 := none
  foreign : Option String := none
  deriving Repr, DecidableEq, Inhabited

/-- What a schema says of a relation. -/
structure Relation where
  declaredType : Option String := none
  model : Option String := none
  deriving Repr, DecidableEq, Inhabited

/-- An entity has one migration, one model and one admin resource; the last shows the form fields and the table
columns. -/
structure Entity where
  name : String
  table : Option String := none
  columns : NameMap Column := .empty
  relations : NameMap Relation := .empty
  formFields : List String := []
  tableColumns : List String := []

/-- Something wrong with an entity. -/
inductive Problem where
  | noColumns (entity : String)
  | columnType (column declared : String)
  | relationType (relation declared : String)
  | noModel (relation : String)
  deriving Repr, DecidableEq

def Problem.message : Problem → String
  | .noColumns entity => "Missing required key 'columns' for '" ++ entity ++ "'."
  | .columnType column declared =>
    "Unsupported column type '" ++ declared ++ "' for column '" ++ column ++ "'."
  | .relationType relation declared =>
    "Invalid relationship type '" ++ declared ++ "' for relation '" ++ relation ++ "'."
  | .noModel relation => "Missing required key 'model' for 'relation '" ++ relation ++ "''."

/-- The type of a column, which is a string if none is declared. -/
def Column.kind (c : Column) (name : String) : Except Problem ColumnKind :=
  match c.declaredType with
  | none => .ok .string
  | some declared =>
    match ColumnKind.ofMethod? declared with
    | some kind => .ok kind
    | none => .error (.columnType name declared)

/-- The type of a relation, which must be declared. -/
def Relation.kind (r : Relation) (name : String) : Except Problem RelationKind :=
  match RelationKind.ofMethod? (r.declaredType.getD "") with
  | some kind => .ok kind
  | none => .error (.relationType name (r.declaredType.getD ""))

/-- The model that a relation leads to, which must be declared and not be empty. -/
def Relation.target (r : Relation) (name : String) : Except Problem String :=
  match r.model with
  | none => .error (.noModel name)
  | some model => if model.isEmpty then .error (.noModel name) else .ok model

/-- The error of a result, as a list of at most one. -/
def faultOf {ε α : Type} : Except ε α → List ε
  | .ok _ => []
  | .error e => [e]

namespace Entity

/-- The table of an entity: the declared one unless it is empty, or else the default for its name. -/
def tableName (e : Entity) : String :=
  match e.table with
  | some table => if table.isEmpty then Naming.defaultTable e.name else table
  | none => Naming.defaultTable e.name

/-- The columns of an entity, of which there must be one. -/
def requiredColumns (e : Entity) : Except Problem (List (String × Column)) :=
  if e.columns.isEmpty then .error (.noColumns e.name) else .ok e.columns.entries

def columnProblems (e : Entity) : List Problem :=
  match e.requiredColumns with
  | .error p => [p]
  | .ok columns => columns.flatMap fun (name, column) => faultOf (column.kind name)

def relationProblems (e : Entity) : List Problem :=
  e.relations.entries.flatMap fun (name, relation) =>
    faultOf (relation.kind name) ++ faultOf (relation.target name)

/-- Everything wrong with the entity, in the order of the document. -/
def problems (e : Entity) : List Problem := e.columnProblems ++ e.relationProblems

end Entity

/-- A schema: its entities in the order of the document. -/
structure Schema where
  entities : List Entity := []

namespace Schema

def find? (s : Schema) (name : String) : Option Entity := s.entities.find? (·.name == name)

def size (s : Schema) : Nat := s.entities.length

/-- Everything wrong with the schema, in the order of the document. -/
def problems (s : Schema) : List Problem := s.entities.flatMap Entity.problems

end Schema

end Scaffold
