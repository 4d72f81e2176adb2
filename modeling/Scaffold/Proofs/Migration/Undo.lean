import Scaffold.Migration.Statement
/-!
# Proofs.Migration.Undo — the way down undoes the way up

A statement works on the last column of a table, and a drop asks for that column as it was added (`Statement.execute`).
The statements that undo a column find it so, the foreign key before the column (`executeAll_undo`); so those of a whole
migration, column by column from the last, lead back from the table that it made to the one it began with
(`executeAll_up_down`).  The lines that are printed for the way down are read as these very statements
(`executeAll_read_down`).
-/
namespace Scaffold.Migration

/-- A column of a table. -/
structure Entry where
  name : String
  kind : ColumnKind
  hasForeign : Bool
  deriving DecidableEq

def ColumnDefinition.entry (d : ColumnDefinition) : Entry := ⟨d.name, d.kind, d.column.foreign.isSome⟩

/-- The table with its last column changed or removed, if there is one and it is as required. -/
def changeLast (required : Entry → Bool) (change : Entry → Option Entry) (table : List Entry) : Option (List Entry) :=
  match table.getLast? with
  | some last => if required last then some (table.dropLast ++ (change last).toList) else none
  | none => none

/-- **The table after a statement**, or nothing where the table is not as the statement requires. -/
def Statement.execute : Statement → List Entry → Option (List Entry)
  | .add d, table => some (table ++ [d.entry])
  | .dropForeign column, table =>
    changeLast (fun e => e.name == column && e.hasForeign) (fun e => some { e with hasForeign := false }) table
  | .dropTimestamps, table => changeLast (fun e => e.kind == .timestamps && !e.hasForeign) (fun _ => none) table
  | .dropColumn column, table =>
    changeLast (fun e => e.name == column && e.kind != .timestamps && !e.hasForeign) (fun _ => none) table

def executeAll (statements : List Statement) (table : List Entry) : Option (List Entry) :=
  statements.foldlM (fun table s => s.execute table) table

/-- **The last column is changed exactly if there is one that is as required.** -/
theorem changeLast_eq_some_iff {required : Entry → Bool} {change : Entry → Option Entry} {table table' : List Entry} :
    changeLast required change table = some table' ↔
      ∃ front last, table = front ++ [last] ∧ required last = true ∧ table' = front ++ (change last).toList := by
  unfold changeLast
  constructor
  · intro h
    cases hlast : table.getLast? with
    | none =>
      rw [hlast] at h
      cases h
    | some last =>
      obtain ⟨front, rfl⟩ := List.getLast?_eq_some_iff.1 hlast
      rw [hlast, List.dropLast_concat] at h
      dsimp only at h
      split at h
      · rename_i hrequired
        exact ⟨front, last, rfl, hrequired, (Option.some.inj h).symm⟩
      · cases h
  · rintro ⟨front, last, rfl, hrequired, rfl⟩
    rw [List.getLast?_concat, List.dropLast_concat]
    exact if_pos hrequired

theorem executeAll_cons (s : Statement) (rest : List Statement) (table : List Entry) :
    executeAll (s :: rest) table = (s.execute table).bind (executeAll rest) := List.foldlM_cons

theorem executeAll_append (front back : List Statement) (table : List Entry) :
    executeAll (front ++ back) table = (executeAll front table).bind (executeAll back) := List.foldlM_append

/-! ## One column -/

theorem execute_dropForeign (d : ColumnDefinition) (table : List Entry) :
    (Statement.dropForeign d.name).execute (table ++ [⟨d.name, d.kind, true⟩]) =
      some (table ++ [⟨d.name, d.kind, false⟩]) :=
  changeLast_eq_some_iff.2 ⟨table, _, rfl, by simp, rfl⟩

theorem execute_dropItself (d : ColumnDefinition) (table : List Entry) :
    d.dropItself.execute (table ++ [⟨d.name, d.kind, false⟩]) = some table := by
  have hleft : table = table ++ (none : Option Entry).toList := (List.append_nil table).symm
  unfold ColumnDefinition.dropItself
  cases d.kind with
  | timestamps => exact changeLast_eq_some_iff.2 ⟨table, _, rfl, by simp, hleft⟩
  | _ => exact changeLast_eq_some_iff.2 ⟨table, _, rfl, by simp, hleft⟩

/-- **The statements that undo a column remove it.** -/
theorem executeAll_undo (d : ColumnDefinition) (table : List Entry) :
    executeAll d.undo (table ++ [d.entry]) = some table := by
  have hdrop : executeAll [d.dropItself] (table ++ [⟨d.name, d.kind, false⟩]) = some table := by
    rw [executeAll_cons, execute_dropItself]
    rfl
  unfold ColumnDefinition.undo ColumnDefinition.entry
  cases d.column.foreign.isSome with
  | false => exact hdrop
  | true =>
    -- The first statement leaves the column as the second requires it.
    rw [if_pos rfl, executeAll_cons, execute_dropForeign]
    exact hdrop

/-! ## A migration -/

theorem executeAll_up (columns : List ColumnDefinition) (table : List Entry) :
    executeAll (up columns) table = some (table ++ columns.map ColumnDefinition.entry) := by
  induction columns generalizing table with
  | nil => simp [up, executeAll]
  | cons d rest ih =>
    show executeAll (up rest) (table ++ [d.entry]) = _
    rw [ih, List.map_cons, List.append_assoc, List.singleton_append]

theorem down_cons (d : ColumnDefinition) (rest : List ColumnDefinition) : down (d :: rest) = down rest ++ d.undo := by
  simp [down]

theorem executeAll_down (columns : List ColumnDefinition) (table : List Entry) :
    executeAll (down columns) (table ++ columns.map ColumnDefinition.entry) = some table := by
  induction columns generalizing table with
  | nil => simp [down, executeAll]
  | cons d rest ih =>
    -- The columns behind the first are gone before it is undone, so it is the last one then.
    rw [down_cons, executeAll_append, List.map_cons, ← List.singleton_append, ← List.append_assoc, ih]
    exact executeAll_undo d table

/-- **The way down undoes the way up**, whatever the columns and the table: every statement finds the table as it
requires, and the last leaves it as it was. -/
theorem executeAll_up_down (columns : List ColumnDefinition) (table : List Entry) :
    executeAll (up columns ++ down columns) table = some table := by
  rw [executeAll_append, executeAll_up]
  exact executeAll_down columns table

-- Undone from the first on, the columns are not found last.
example : executeAll (up [⟨"a", .text, {}⟩, ⟨"b", .text, {}⟩] ++ [.dropColumn "a", .dropColumn "b"]) [] = none := by
  decide

/-! ## The printed way down -/

/-- What stands in a text between its front and its back, if it has these. -/
def inside (front back text : List Char) : Option (List Char) :=
  if front.isPrefixOf text && back.isSuffixOf (text.drop front.length) then
    some ((text.drop front.length).take (text.length - front.length - back.length))
  else none

/-- **How a line of a way down is read**: the method that it calls tells what is dropped, and the column is all that
stands between its quotes. -/
def readDrop (text : List Char) : Option Statement :=
  if text = "$table->dropTimestamps();".toList then some .dropTimestamps
  else
    match inside "$table->dropForeign(['".toList "']);".toList text with
    | some column => some (.dropForeign (String.ofList column))
    | none => (inside "$table->dropColumn('".toList "');".toList text).map fun column =>
        .dropColumn (String.ofList column)

theorem inside_self (front back column : List Char) : inside front back (front ++ (column ++ back)) = some column := by
  unfold inside
  rw [List.drop_left, List.isPrefixOf_iff_prefix.2 (List.prefix_append _ _),
    List.isSuffixOf_iff_suffix.2 (List.suffix_append _ _), List.length_append, List.length_append,
    Nat.add_sub_cancel_left, Nat.add_sub_cancel, List.take_left]
  rfl

theorem inside_of_not_prefix {front text : List Char} (back : List Char) (h : front.isPrefixOf text = false) :
    inside front back text = none := by
  unfold inside
  rw [h]
  rfl

theorem toList_enclosed (front column back : String) :
    (front ++ column ++ back).toList = front.toList ++ (column.toList ++ back.toList) := by
  rw [String.toList_append, String.toList_append, List.append_assoc]

theorem readDrop_dropForeign (column : String) :
    readDrop (Statement.dropForeign column).text.toList = some (.dropForeign column) := by
  have htext : (Statement.dropForeign column).text.toList =
      "$table->dropForeign(['".toList ++ (column.toList ++ "']);".toList) := toList_enclosed _ column _
  unfold readDrop
  rw [htext, inside_self, if_neg ?_]
  · dsimp only
    rw [String.ofList_toList]
  · intro h
    exact absurd (List.isPrefixOf_iff_prefix.2 ⟨_, h⟩) (by decide)

theorem readDrop_dropColumn (column : String) :
    readDrop (Statement.dropColumn column).text.toList = some (.dropColumn column) := by
  have htext : (Statement.dropColumn column).text.toList =
      "$table->dropColumn('".toList ++ (column.toList ++ "');".toList) := toList_enclosed _ column _
  unfold readDrop
  rw [htext, inside_self, if_neg ?_, inside_of_not_prefix _ ?_]
  · rw [Option.map_some, String.ofList_toList]
  · rfl
  · intro h
    exact absurd (List.isPrefixOf_iff_prefix.2 ⟨_, h⟩) (by decide)

theorem readDrop_dropTimestamps : readDrop Statement.dropTimestamps.text.toList = some .dropTimestamps := if_pos rfl

/-- **Every line of a way down is read as the statement that it was printed for.** -/
theorem readDrop_down {columns : List ColumnDefinition} {s : Statement} (h : s ∈ down columns) :
    readDrop s.text.toList = some s := by
  obtain ⟨d, -, hs⟩ := List.mem_flatMap.1 h
  have hdrop : s = .dropForeign d.name ∨ s = d.dropItself := by
    unfold ColumnDefinition.undo at hs
    split at hs
    · simpa using hs
    · exact .inr (by simpa using hs)
  rcases hdrop with rfl | rfl
  · exact readDrop_dropForeign d.name
  · unfold ColumnDefinition.dropItself
    cases d.kind with
    | timestamps => exact readDrop_dropTimestamps
    | _ => exact readDrop_dropColumn d.name

/-- **The printed way down leads back too**: its lines, read and executed one after the other, undo the way up. -/
theorem executeAll_read_down (columns : List ColumnDefinition) (table : List Entry) :
    ∃ statements, ((down columns).map fun s => readDrop s.text.toList) = statements.map some ∧
      executeAll statements (table ++ columns.map ColumnDefinition.entry) = some table :=
  ⟨down columns, List.map_congr_left fun _ => readDrop_down, executeAll_down columns table⟩

end Scaffold.Migration
