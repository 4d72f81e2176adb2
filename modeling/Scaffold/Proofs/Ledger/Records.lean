import Scaffold.Generation.Migration
/-!
# Proofs.Ledger.Records — what recording and forgetting do to the records

Each changes the record of its own table and no other.
-/
namespace Scaffold

theorem lookup_putRecord_self (table : String) (record : TableRecord) (tables : List (String × TableRecord)) :
    (putRecord table record tables).lookup table = some record := by
  induction tables with
  | nil => simp [putRecord]
  | cons entry rest ih =>
    rw [putRecord]
    split
    · simp
    · split
      · rename_i hlt
        have hne : (table == entry.1) = false := by
          simpa using fun h : table = entry.1 => String.lt_irrefl _ (h ▸ hlt)
        rw [List.lookup_cons, hne, ih]
      · simp

theorem lookup_putRecord_of_ne {table other : String} (h : other ≠ table) (record : TableRecord)
    (tables : List (String × TableRecord)) : (putRecord table record tables).lookup other = tables.lookup other := by
  have hne : (other == table) = false := by simpa using h
  induction tables with
  | nil => simp [putRecord, List.lookup_cons, hne]
  | cons entry rest ih =>
    rw [putRecord]
    split
    · rw [List.lookup_cons, hne]
    · rename_i hnot
      split
      · rw [List.lookup_cons, List.lookup_cons, ih]
      · rename_i hnot'
        have hentry : entry.1 = table := String.le_antisymm (String.not_lt.mp hnot) (String.not_lt.mp hnot')
        rw [List.lookup_cons, List.lookup_cons, hne, hentry, hne]

namespace TableRecord

/-- The columns that are added are those not known yet, each once and in the order in which they first come. -/
theorem foldl_addColumn (columns known : List String) :
    columns.foldl addColumn known = known ++ (columns.filter fun c => !known.contains c).eraseDups := by
  induction columns generalizing known with
  | nil => simp
  | cons first rest ih =>
    rw [List.foldl_cons, ih]
    unfold addColumn
    by_cases hmem : first ∈ known
    · rw [if_pos (by simpa using hmem), List.filter_cons_of_neg (by simpa using hmem)]
    · have hlater : (rest.filter fun c => !(known ++ [first]).contains c) =
          (rest.filter fun c => !known.contains c).filter fun c => !c == first := by
        rw [List.filter_filter]
        refine List.filter_congr fun c _ => ?_
        by_cases hc : c = first <;> simp [hc]
      rw [if_neg (by simpa using hmem), List.filter_cons_of_pos (by simpa using hmem), List.eraseDups_cons, hlater,
        List.append_assoc, List.singleton_append]

theorem mem_foldl_addColumn {column : String} {columns known : List String} :
    column ∈ columns.foldl addColumn known ↔ column ∈ known ∨ column ∈ columns := by
  rw [foldl_addColumn, List.mem_append, List.mem_eraseDups]
  by_cases hmem : column ∈ known <;> simp [hmem]

theorem foldl_addColumn_of_new {columns known : List String} (hnew : ∀ c ∈ columns, c ∉ known)
    (hnodup : columns.Nodup) : columns.foldl addColumn known = known ++ columns := by
  induction columns generalizing known with
  | nil => simp
  | cons first rest ih =>
    rw [List.nodup_cons] at hnodup
    have hadd : addColumn known first = known ++ [first] := by
      unfold addColumn
      rw [if_neg (by simpa using hnew first List.mem_cons_self)]
    rw [List.foldl_cons, hadd, ih _ hnodup.2]
    · simp
    · intro c hc
      rw [List.mem_append, List.mem_singleton, not_or]
      refine ⟨hnew c (List.mem_cons_of_mem _ hc), ?_⟩
      rintro rfl
      exact hnodup.1 hc

end TableRecord

namespace Ledger

theorem table?_record_self (l : Ledger) (table migration : String) (columns : List String) :
    (l.record table migration columns).table? table = some (((l.table? table).getD {}).extend migration columns) :=
  lookup_putRecord_self table _ l.tables

theorem table?_record_of_ne {table other : String} (h : other ≠ table) (l : Ledger) (migration : String)
    (columns : List String) : (l.record table migration columns).table? other = l.table? other :=
  lookup_putRecord_of_ne h _ l.tables

theorem table?_forget_self (l : Ledger) (table : String) : (l.forget table).2.table? table = none :=
  lookup_filter_self table l.tables

theorem table?_forget_of_ne {table other : String} (h : other ≠ table) (l : Ledger) :
    (l.forget table).2.table? other = l.table? other :=
  lookup_filter_of_ne h l.tables

end Ledger

namespace Generation

/-- The record that a table has before a migration of the kind is recorded: one that is created has no past. -/
def past (kind : ArtifactKind) (table : String) (l : Ledger) : TableRecord :=
  if kind = .createMigration then {} else (l.table? table).getD {}

theorem past_update {l : Ledger} {table : String} {r : TableRecord} (h : l.table? table = some r) :
    past .updateMigration table l = r := by
  unfold past
  rw [if_neg (by decide), h]
  rfl

/-- **Recording a migration extends the record of its table.** -/
theorem table?_recordMigration_self (kind : ArtifactKind) (table name : String) (columns : List String) (l : Ledger) :
    (recordMigration kind table name columns l).table? table = some ((past kind table l).extend name columns) := by
  unfold recordMigration past
  rw [Ledger.table?_record_self]
  by_cases hkind : kind = .createMigration
  · rw [if_pos hkind, if_pos hkind, Ledger.table?_forget_self]
    rfl
  · rw [if_neg hkind, if_neg hkind]

/-- **Recording a migration leaves the records of other tables alone.** -/
theorem table?_recordMigration_of_ne {table other : String} (h : other ≠ table) (kind : ArtifactKind) (name : String)
    (columns : List String) (l : Ledger) :
    (recordMigration kind table name columns l).table? other = l.table? other := by
  unfold recordMigration
  rw [Ledger.table?_record_of_ne h]
  by_cases hkind : kind = .createMigration
  · rw [if_pos hkind, Ledger.table?_forget_of_ne h]
  · rw [if_neg hkind]

theorem version_recordMigration (kind : ArtifactKind) (table name : String) (columns : List String) (l : Ledger) :
    (recordMigration kind table name columns l).version = l.version := by
  unfold recordMigration
  by_cases hkind : kind = .createMigration
  · rw [if_pos hkind]
    rfl
  · rw [if_neg hkind]
    rfl

end Generation

end Scaffold
