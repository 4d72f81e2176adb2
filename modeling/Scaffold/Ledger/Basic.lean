/-!
# Ledger.Basic — the tables and columns that migrations have been written for

A ledger has one record per table, sorted by name.  Recording a migration adds the columns that are new to the table;
forgetting a table drops its whole record.
-/
namespace Scaffold

/-- What is recorded of a table: its columns in the order in which they were first added, and the file names of its
migrations in the order in which they were written. -/
structure TableRecord where
  columns : List String := []
  migrations : List String := []
  deriving Repr, DecidableEq, Inhabited

namespace TableRecord

def addColumn (columns : List String) (column : String) : List String :=
  if columns.contains column then columns else columns ++ [column]

/-- The record with a migration added, and the columns that it adds to the table. -/
def extend (r : TableRecord) (migration : String) (columns : List String) : TableRecord :=
  ⟨columns.foldl addColumn r.columns, r.migrations ++ [migration]⟩

end TableRecord

def putRecord (table : String) (record : TableRecord) : List (String × TableRecord) → List (String × TableRecord)
  | [] => [(table, record)]
  | entry :: rest =>
    if table < entry.1 then (table, record) :: entry :: rest
    else if entry.1 < table then entry :: putRecord table record rest
    else (table, record) :: rest

theorem mem_tables_putRecord {table other : String} {record : TableRecord} {tables : List (String × TableRecord)} :
    other ∈ (putRecord table record tables).map (·.1) → other = table ∨ other ∈ tables.map (·.1) := by
  induction tables with
  | nil => simp [putRecord]
  | cons entry rest ih =>
    rw [putRecord]
    split
    · simp
    · split
      · simp only [List.map_cons, List.mem_cons]
        rintro (h | h)
        · exact .inr (.inl h)
        · exact (ih h).imp_right .inr
      · simp only [List.map_cons, List.mem_cons]
        rintro (h | h)
        · exact .inl h
        · exact .inr (.inr h)

theorem sorted_putRecord {table : String} {record : TableRecord} {tables : List (String × TableRecord)}
    (h : (tables.map (·.1)).Pairwise (· < ·)) : ((putRecord table record tables).map (·.1)).Pairwise (· < ·) := by
  induction tables with
  | nil => simp [putRecord]
  | cons entry rest ih =>
    rw [List.map_cons, List.pairwise_cons] at h
    rw [putRecord]
    split
    · rename_i hlt
      simp only [List.map_cons, List.pairwise_cons, List.mem_cons]
      refine ⟨?_, h.1, h.2⟩
      rintro other (rfl | hm)
      · exact hlt
      · exact String.lt_trans hlt (h.1 other hm)
    · rename_i hnot
      split
      · rename_i hlt
        rw [List.map_cons, List.pairwise_cons]
        refine ⟨fun other hm => ?_, ih h.2⟩
        rcases mem_tables_putRecord hm with rfl | hm
        · exact hlt
        · exact h.1 other hm
      · rename_i hnot'
        have he : entry.1 = table := String.le_antisymm (String.not_lt.mp hnot) (String.not_lt.mp hnot')
        rw [List.map_cons, List.pairwise_cons]
        exact ⟨he ▸ h.1, h.2⟩

/-- A ledger: its version, and the records of the tables. -/
structure Ledger where
  version : UInt32 := 1
  tables : List (String × TableRecord)
  sorted : (tables.map (·.1)).Pairwise (· < ·)

namespace Ledger

def empty : Ledger := { tables := [], sorted := List.Pairwise.nil }

instance : Inhabited Ledger := ⟨empty⟩

def table? (l : Ledger) (table : String) : Option TableRecord := l.tables.lookup table

def hasTable (l : Ledger) (table : String) : Bool := (l.table? table).isSome

def hasColumn (l : Ledger) (table column : String) : Bool := (l.table? table).any (·.columns.contains column)

def put (l : Ledger) (table : String) (record : TableRecord) : Ledger :=
  { l with tables := putRecord table record l.tables, sorted := sorted_putRecord l.sorted }

/-- Records a migration of a table, and the columns that it adds. -/
def record (l : Ledger) (table migration : String) (columns : List String) : Ledger :=
  l.put table (((l.table? table).getD {}).extend migration columns)

/-- Drops a table's record, and says what it was. -/
def forget (l : Ledger) (table : String) : Option TableRecord × Ledger :=
  (l.table? table,
    { l with
      tables := l.tables.filter (·.1 != table)
      sorted := l.sorted.sublist (List.filter_sublist.map _) })

end Ledger

end Scaffold
