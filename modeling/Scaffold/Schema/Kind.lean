/-!
# Schema.Kind — the types that columns and relations may declare

Each kind is written in a schema as the builder method that it stands for, in exactly that spelling.
-/
namespace Scaffold

/-- The column types that a migration can build. -/
inductive ColumnKind where
  | id
  | string
  | text
  | integer
  | timestamps
  | unsignedBigInteger
  deriving Repr, DecidableEq

namespace ColumnKind

def all : List ColumnKind := [.id, .string, .text, .integer, .timestamps, .unsignedBigInteger]

def method : ColumnKind → String
  | .id => "id"
  | .string => "string"
  | .text => "text"
  | .integer => "integer"
  | .timestamps => "timestamps"
  | .unsignedBigInteger => "unsignedBigInteger"

/-- The column type of a builder method, matched letter for letter. -/
def ofMethod? (method : String) : Option ColumnKind := all.find? (·.method == method)

/-- Managed columns are filled by the framework, so users may never assign them. -/
def isManaged : ColumnKind → Bool
  | .id | .timestamps => true
  | _ => false

/-- Only string columns take a length. -/
def acceptsLength : ColumnKind → Bool
  | .string => true
  | _ => false

theorem ofMethod?_method (k : ColumnKind) : ofMethod? k.method = some k := by cases k <;> decide

/-- A type is read from its own method name only. -/
theorem method_of_ofMethod? {s : String} {k : ColumnKind} (h : ofMethod? s = some k) : k.method = s := by
  simpa using List.find?_some h

end ColumnKind

/-- The relation types that a model can declare. -/
inductive RelationKind where
  | hasMany
  | belongsTo
  | hasOne
  | belongsToMany
  deriving Repr, DecidableEq

namespace RelationKind

def all : List RelationKind := [.hasMany, .belongsTo, .hasOne, .belongsToMany]

def method : RelationKind → String
  | .hasMany => "hasMany"
  | .belongsTo => "belongsTo"
  | .hasOne => "hasOne"
  | .belongsToMany => "belongsToMany"

/-- The relation type of a model method, matched letter for letter. -/
def ofMethod? (method : String) : Option RelationKind := all.find? (·.method == method)

theorem ofMethod?_method (k : RelationKind) : ofMethod? k.method = some k := by cases k <;> decide

/-- A type is read from its own method name only. -/
theorem method_of_ofMethod? {s : String} {k : RelationKind} (h : ofMethod? s = some k) : k.method = s := by
  simpa using List.find?_some h

end RelationKind

end Scaffold
