import Mathlib.Data.List.DropRight
import Scaffold.Proofs.Ledger.Records
import Scaffold.Proofs.Text.Order
/-!
# Proofs.Ledger.Calls — a ledger is what its calls make of it

From the empty ledger on, the record of a table follows from the calls about that table alone: those that record it
since it was last forgotten give its migrations as they come, and its columns each where it first comes (`recordOf`).
One call more extends or drops that record as the ledger does (`recordOf_concat`), so the two agree after any calls
(`replay_tells`).
-/
namespace Scaffold.Ledger

/-- A call that changes a ledger. -/
inductive Call where
  | record (table migration : String) (columns : List String)
  | forget (table : String)
  deriving DecidableEq

namespace Call

def table : Call → String
  | record table _ _ => table
  | forget table => table

/-- What a call records: a migration and its columns. -/
def recorded? : Call → Option (String × List String)
  | record _ migration columns => some (migration, columns)
  | forget _ => none

end Call

def call (l : Ledger) : Call → Ledger
  | .record table migration columns => l.record table migration columns
  | .forget table => (l.forget table).2

def replay (calls : List Call) : Ledger := calls.foldl call empty

def about (table : String) (calls : List Call) : List Call := calls.filter (·.table == table)

/-- What was recorded of a table since it was last forgotten: of the calls about it, the longest run at the end that only
records. -/
def since (table : String) (calls : List Call) : List (String × List String) :=
  ((about table calls).rtakeWhile (·.recorded?.isSome)).filterMap Call.recorded?

/-- **The record that calls make of a table.** -/
def recordOf (table : String) (calls : List Call) : Option TableRecord :=
  if since table calls = [] then none
  else some ⟨((since table calls).flatMap (·.2)).eraseDups, (since table calls).map (·.1)⟩

variable {table : String} {calls : List Call} {c : Call}

/-! ## One call more -/

theorem replay_concat (calls : List Call) (c : Call) : replay (calls ++ [c]) = (replay calls).call c := by
  unfold replay
  rw [List.foldl_append]
  rfl

theorem about_concat_of_ne (h : table ≠ c.table) : about table (calls ++ [c]) = about table calls := by
  have hne : (c.table == table) = false := by simpa using Ne.symm h
  simp [about, hne]

theorem about_concat_self (calls : List Call) (c : Call) : about c.table (calls ++ [c]) = about c.table calls ++ [c] := by
  simp [about]

theorem since_concat_of_ne (h : table ≠ c.table) : since table (calls ++ [c]) = since table calls := by
  unfold since
  rw [about_concat_of_ne h]

theorem since_record (table migration : String) (columns : List String) (calls : List Call) :
    since table (calls ++ [.record table migration columns]) = since table calls ++ [(migration, columns)] := by
  unfold since
  rw [show about table _ = _ from about_concat_self calls (.record table migration columns),
    List.rtakeWhile_concat_pos _ _ _ rfl, List.filterMap_append]
  rfl

theorem since_forget (table : String) (calls : List Call) : since table (calls ++ [.forget table]) = [] := by
  unfold since
  rw [show about table _ = _ from about_concat_self calls (.forget table),
    List.rtakeWhile_concat_neg _ _ _ (by simp [Call.recorded?])]
  rfl

theorem eraseDups_append (known columns : List String) :
    (known ++ columns).eraseDups = columns.foldl TableRecord.addColumn known.eraseDups := by
  have hfold : ∀ all : List String, all.eraseDups = all.foldl TableRecord.addColumn [] := by
    intro all
    simp [TableRecord.foldl_addColumn]
  rw [hfold, hfold, List.foldl_append]

theorem getD_recordOf (table : String) (calls : List Call) : (recordOf table calls).getD {} =
    ⟨((since table calls).flatMap (·.2)).eraseDups, (since table calls).map (·.1)⟩ := by
  unfold recordOf
  split
  · rename_i hnil
    rw [hnil]
    rfl
  · rfl

/-- **One call more that records a table extends the record that those before it make.** -/
theorem recordOf_record (table migration : String) (columns : List String) (calls : List Call) :
    recordOf table (calls ++ [.record table migration columns]) =
      some (((recordOf table calls).getD {}).extend migration columns) := by
  rw [getD_recordOf]
  unfold recordOf TableRecord.extend
  rw [since_record, if_neg (by simp), List.flatMap_append, List.map_append, ← eraseDups_append]
  simp

theorem recordOf_forget (table : String) (calls : List Call) : recordOf table (calls ++ [.forget table]) = none := by
  unfold recordOf
  rw [since_forget, if_pos rfl]

theorem recordOf_concat_of_ne (h : table ≠ c.table) : recordOf table (calls ++ [c]) = recordOf table calls := by
  unfold recordOf
  rw [since_concat_of_ne h]

/-- **The ledger's record is the one that the calls make.** -/
theorem table?_replay (table : String) (calls : List Call) : (replay calls).table? table = recordOf table calls := by
  -- From the end, since each call works on the ledger that those before it made.
  induction calls using List.reverseRecOn with
  | nil => rfl
  | append_singleton calls c ih =>
    rw [replay_concat]
    by_cases htable : table = c.table
    · cases c with
      | record other migration columns =>
        obtain rfl : table = other := htable
        rw [recordOf_record, ← ih]
        exact table?_record_self _ _ _ _
      | forget other =>
        obtain rfl : table = other := htable
        rw [recordOf_forget]
        exact table?_forget_self _ _
    · rw [recordOf_concat_of_ne htable, ← ih]
      cases c with
      | record other migration columns => exact table?_record_of_ne htable _ _ _
      | forget other => exact table?_forget_of_ne htable _

/-! ## What a ledger tells -/

theorem recordOf_eq_none_iff : recordOf table calls = none ↔
    (∀ migration columns, Call.record table migration columns ∉ calls) ∨
      (about table calls).getLast? = some (.forget table) := by
  have hmem : ∀ migration columns, Call.record table migration columns ∈ calls ↔
      Call.record table migration columns ∈ about table calls := by
    intro migration columns
    simp [about, Call.table]
  have hnone : recordOf table calls = none ↔ since table calls = [] := by
    unfold recordOf
    split <;> simp [*]
  simp only [hnone, hmem]
  -- The last call about the table decides: nothing is left behind a call that forgets it.
  unfold since
  rcases List.eq_nil_or_concat (about table calls) with hnil | ⟨front, last, hlast⟩
  · simp [hnil]
  · have htable : last.table = table := by
      have hlast : last ∈ about table calls := by simp [hlast]
      simpa using (List.mem_filter.1 hlast).2
    rw [hlast, List.concat_eq_append]
    cases last with
    | record other migration columns =>
      obtain rfl : other = table := htable
      rw [List.rtakeWhile_concat_pos _ _ _ rfl]
      simp only [List.filterMap_append, List.mem_append, List.getLast?_concat]
      constructor
      · intro h
        cases (List.append_eq_nil_iff.1 h).2
      · rintro (h | h)
        · exact absurd (.inr List.mem_cons_self) (h migration columns)
        · cases h
    | forget other =>
      obtain rfl : other = table := htable
      rw [List.rtakeWhile_concat_neg _ _ _ (by simp [Call.recorded?])]
      simp

theorem recordOf_about (table : String) (calls : List Call) :
    recordOf table (about table calls) = recordOf table calls := by
  unfold recordOf since about
  rw [List.filter_filter]
  simp

theorem mem_tables_iff {l : Ledger} : table ∈ l.tables.map (·.1) ↔ (l.table? table).isSome = true := by
  unfold table?
  rw [List.lookup_isSome_iff, List.mem_map]
  refine exists_congr fun entry => and_congr_right fun _ => ?_
  rw [beq_iff_eq, eq_comm]

/-- **What a ledger tells of a table after some calls**, and what forgetting the table gives back and takes away. -/
structure Tells (calls : List Call) (table : String) (l : Ledger) : Prop where
  record : l.table? table = recordOf table calls
  absent : l.table? table = none ↔ (∀ migration columns, Call.record table migration columns ∉ calls) ∨
    (about table calls).getLast? = some (.forget table)
  hasTable : l.hasTable table = (recordOf table calls).isSome
  hasColumn : ∀ column, l.hasColumn table column = true ↔ ∃ r, recordOf table calls = some r ∧ column ∈ r.columns
  own : l.table? table = (replay (about table calls)).table? table
  listed : table ∈ l.tables.map (·.1) ↔ (recordOf table calls).isSome = true
  sorted : (l.tables.map (·.1)).Pairwise Text.Before
  returned : (l.forget table).1 = recordOf table calls
  forgotten : (l.forget table).2.table? table = none
  others : ∀ other, other ≠ table → (l.forget table).2.table? other = l.table? other

/-- **A ledger tells of every table what its calls make of it**, whatever the calls are and however those about different
tables alternate. -/
theorem replay_tells (calls : List Call) (table : String) : Tells calls table (replay calls) := by
  have hrecord := table?_replay table calls
  refine ⟨hrecord, hrecord ▸ recordOf_eq_none_iff, congrArg Option.isSome hrecord, fun column => ?_, ?_,
    by rw [mem_tables_iff, hrecord], (replay calls).sorted.imp fun h => Text.before_of_lt (String.lt_iff.1 h), hrecord,
    table?_forget_self _ _, fun other hne => table?_forget_of_ne hne _⟩
  · unfold hasColumn
    rw [hrecord, Option.any_eq_true]
    simp
  · rw [table?_replay, table?_replay, recordOf_about]

end Scaffold.Ledger
