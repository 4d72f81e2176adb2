import Scaffold.Generation.Migration
import Scaffold.Proofs.Text.Replace
/-!
# Proofs.Template.Migration — what the built-in migrations are filled to

The keys of a migration are filled one after the other, so a value that comes early is gone over again for the keys
that come later.  Quotes, blanks and line breaks around the markers keep the pieces apart, and the pieces of the
templates themselves hold no marker (`IsPlain`).
-/
namespace Scaffold.Template

open Text (occursIn replaceAll occursIn_append_separator replaceAll_append_separator replaceAll_self
  replaceAll_of_not_occurs)

/-! ## Texts without markers -/

/-- A text without a marker: no two braces open in a row. -/
def IsPlain (text : List Char) : Prop := occursIn ['\x7b', '\x7b'] text = false

theorem isPlain_of_not_mem {text : List Char} (h : '\x7b' ∉ text) : IsPlain text := by
  unfold IsPlain
  rw [Bool.eq_false_iff]
  intro hocc
  obtain ⟨before, after, rfl⟩ := Text.occursIn_iff.1 hocc
  simp at h

/-- **A text without a marker stays as it is**, whatever the key. -/
theorem replaceAll_of_isPlain {text : List Char} (h : IsPlain text) (key : String) (value : List Char) :
    replaceAll (marker key) value text = text := by
  refine replaceAll_of_not_occurs ?_
  rw [Bool.eq_false_iff]
  intro hocc
  obtain ⟨before, after, rfl⟩ := Text.occursIn_iff.1 hocc
  refine Bool.eq_false_iff.1 h (Text.occursIn_iff.2 ⟨before, key.toList ++ ['\x7d', '\x7d'] ++ after, ?_⟩)
  simp [marker]

theorem isPlain_append_separator {separator : Char} (hs : separator ≠ '\x7b') {front back : List Char}
    (hfront : IsPlain front) (hback : IsPlain back) : IsPlain (front ++ separator :: back) := by
  unfold IsPlain at *
  rw [occursIn_append_separator (by simp [hs]) (by simp), hfront, hback]
  rfl

def charsOf (lines : List String) : List Char := lines.flatMap fun line => line.toList ++ ['\n']

theorem toList_ofLines (lines : List String) : (ofLines lines).toList = charsOf lines := by
  unfold ofLines charsOf
  induction lines with
  | nil => rfl
  | cons line rest ih =>
    rw [List.map_cons, String.join_cons, String.toList_append, ih, String.toList_append, List.flatMap_cons]
    rfl

theorem isPlain_charsOf_append {lines : List String} (h : ∀ line ∈ lines, IsPlain line.toList) {back : List Char}
    (hback : IsPlain back) : IsPlain (charsOf lines ++ back) := by
  induction lines with
  | nil => exact hback
  | cons line rest ih =>
    have htail := ih (fun l hl => h l (List.mem_cons_of_mem _ hl))
    have hline := @isPlain_append_separator '\n' (by decide) _ _ (h line List.mem_cons_self) htail
    unfold charsOf at hline ⊢
    rw [List.flatMap_cons, List.append_assoc, List.append_assoc]
    exact hline

/-! ## The pieces of the built-in migrations -/

/-- The lines up to the call that a migration makes on the way up. -/
def head : List String := [
  "<?php",
  "",
  "use Illuminate\\Database\\Migrations\\Migration;",
  "use Illuminate\\Database\\Schema\\Blueprint;",
  "use Illuminate\\Support\\Facades\\Schema;",
  "",
  "return new class extends Migration",
  "\x7b",
  "    /**",
  "     * Run the migrations.",
  "     */",
  "    public function up(): void",
  "    \x7b"]

/-- The lines between that call and the one on the way down. -/
def middle : List String := [
  "        \x7d);",
  "    \x7d",
  "",
  "    /**",
  "     * Reverse the migrations.",
  "     */",
  "    public function down(): void",
  "    \x7b"]

/-- The lines behind a call with statements. -/
def foot : List String := ["        \x7d);", "    \x7d", "\x7d;"]

/-- The lines behind a call that drops the table. -/
def footDropped : List String := ["    \x7d", "\x7d;"]

/-- The front of a line that makes a call. -/
def callOf (call : String) : List Char := "        Schema::".toList ++ (call.toList ++ ['('])

/-- What stands between the name of a table and the statements. -/
def lambda : List Char := ", function (Blueprint $table) \x7b".toList ++ '\n' :: "           ".toList

/-- A call about a table with statements. -/
def called (call : String) (table statements back : List Char) : List Char :=
  callOf call ++ '\'' :: (table ++ '\'' :: (lambda ++ ' ' :: (statements ++ '\n' :: back)))

def createdFrom (table columns : List Char) : List Char :=
  charsOf head ++ called "create" table columns
    (charsOf middle ++ (callOf "dropIfExists" ++ '\'' :: (table ++ '\'' :: (");".toList ++ '\n' ::
      charsOf footDropped))))

def updatedFrom (table columns dropColumns : List Char) : List Char :=
  charsOf head ++ called "table" table columns (charsOf middle ++ called "table" table dropColumns (charsOf foot))

theorem charsOf_append (front back : List String) : charsOf (front ++ back) = charsOf front ++ charsOf back :=
  List.flatMap_append

theorem charsOf_cons (line : String) (lines : List String) :
    charsOf (line :: lines) = line.toList ++ '\n' :: charsOf lines := by
  unfold charsOf
  rw [List.flatMap_cons, List.append_assoc]
  rfl

theorem toList_createMigration : createMigration.toList = createdFrom (marker "table") (marker "columns") := by
  have hlines : createMigration = ofLines (head ++
      ("        Schema::create('\x7b\x7btable\x7d\x7d', function (Blueprint $table) \x7b" ::
        "            \x7b\x7bcolumns\x7d\x7d" ::
        (middle ++ "        Schema::dropIfExists('\x7b\x7btable\x7d\x7d');" :: footDropped))) := rfl
  rw [hlines, toList_ofLines, charsOf_append, charsOf_cons, charsOf_cons, charsOf_append, charsOf_cons]
  unfold createdFrom called callOf lambda marker
  repeat rw [String.toList_ofList]
  simp only [List.cons_append, List.nil_append]

theorem toList_updateMigration :
    updateMigration.toList = updatedFrom (marker "table") (marker "columns") (marker "dropColumns") := by
  have hlines : updateMigration = ofLines (head ++
      ("        Schema::table('\x7b\x7btable\x7d\x7d', function (Blueprint $table) \x7b" ::
        "            \x7b\x7bcolumns\x7d\x7d" ::
        (middle ++ "        Schema::table('\x7b\x7btable\x7d\x7d', function (Blueprint $table) \x7b" ::
          "            \x7b\x7bdropColumns\x7d\x7d" :: foot))) := rfl
  rw [hlines, toList_ofLines, charsOf_append, charsOf_cons, charsOf_cons, charsOf_append, charsOf_cons, charsOf_cons]
  unfold updatedFrom called callOf lambda marker
  repeat rw [String.toList_ofList]
  simp only [List.cons_append, List.nil_append]

/-! ## Filling -/

theorem isPlain_lines : ∀ line ∈ head ++ middle ++ foot ++ footDropped, IsPlain line.toList := by
  unfold IsPlain head middle foot footDropped
  simp only [List.cons_append, List.nil_append, List.forall_mem_cons]
  refine ⟨?_, ?_, ?_, ?_, ?_, ?_, ?_, ?_, ?_, ?_, ?_, ?_, ?_, ?_, ?_, ?_, ?_, ?_, ?_, ?_, ?_, ?_, ?_, ?_, ?_, ?_,
    fun _ h => by cases h⟩
  all_goals
    rw [String.toList_ofList]
    decide

theorem isPlain_callOf {call : String} (h : '\x7b' ∉ call.toList) : IsPlain (callOf call) := by
  refine isPlain_of_not_mem ?_
  unfold callOf
  rw [String.toList_ofList]
  simp [h]

theorem isPlain_lambda : IsPlain lambda := by
  unfold IsPlain lambda
  rw [String.toList_ofList, String.toList_ofList]
  decide

/-- A key whose marker goes across none of the walls. -/
structure IsKey (key : String) : Prop where
  quote : '\'' ∉ marker key
  blank : ' ' ∉ marker key
  newline : '\n' ∉ marker key

theorem marker_ne_nil (key : String) : marker key ≠ [] := by simp [marker]

/-- A call is filled in its table, in its statements and in what follows it. -/
theorem replaceAll_called {key call : String} (hkey : IsKey key) {front : List Char}
    (hfront : IsPlain (front ++ callOf call)) (value table statements back : List Char) :
    replaceAll (marker key) value (front ++ called call table statements back) =
      front ++ called call (replaceAll (marker key) value table) (replaceAll (marker key) value statements)
        (replaceAll (marker key) value back) := by
  have hne := marker_ne_nil key
  unfold called
  rw [← List.append_assoc, replaceAll_append_separator hkey.quote hne, replaceAll_append_separator hkey.quote hne,
    replaceAll_append_separator hkey.blank hne, replaceAll_append_separator hkey.newline hne,
    replaceAll_of_isPlain hfront, replaceAll_of_isPlain isPlain_lambda, List.append_assoc]

theorem isPlain_before {lines : List String} (h : ∀ line ∈ lines, line ∈ head ++ middle ++ foot ++ footDropped)
    {call : String} (hcall : '\x7b' ∉ call.toList) : IsPlain (charsOf lines ++ callOf call) :=
  isPlain_charsOf_append (fun line hline => isPlain_lines line (h line hline)) (isPlain_callOf hcall)

theorem isPlain_foot {lines : List String} (h : ∀ line ∈ lines, line ∈ head ++ middle ++ foot ++ footDropped) :
    IsPlain (charsOf lines) := by
  have := isPlain_charsOf_append (fun line hline => isPlain_lines line (h line hline))
    (isPlain_of_not_mem (List.not_mem_nil (a := '\x7b')))
  rw [List.append_nil] at this
  exact this

/-- **A creating migration is filled piece by piece.** -/
theorem replaceAll_createdFrom {key : String} (hkey : IsKey key) (value table columns : List Char) :
    replaceAll (marker key) value (createdFrom table columns) =
      createdFrom (replaceAll (marker key) value table) (replaceAll (marker key) value columns) := by
  have hne := marker_ne_nil key
  have hend : IsPlain (");".toList ++ '\n' :: charsOf footDropped) := by
    refine isPlain_append_separator (by decide) (isPlain_of_not_mem (by simp)) (isPlain_foot (fun line h => ?_))
    exact List.mem_append_right _ h
  unfold createdFrom
  rw [replaceAll_called hkey (isPlain_before (fun line h => by simp [h]) (by simp)), ← List.append_assoc,
    replaceAll_append_separator hkey.quote hne, replaceAll_append_separator hkey.quote hne,
    replaceAll_of_isPlain (isPlain_before (fun line h => by simp [h]) (by simp)), replaceAll_of_isPlain hend,
    List.append_assoc]

/-- **An updating migration is filled piece by piece.** -/
theorem replaceAll_updatedFrom {key : String} (hkey : IsKey key) (value table columns dropColumns : List Char) :
    replaceAll (marker key) value (updatedFrom table columns dropColumns) =
      updatedFrom (replaceAll (marker key) value table) (replaceAll (marker key) value columns)
        (replaceAll (marker key) value dropColumns) := by
  unfold updatedFrom
  rw [replaceAll_called hkey (isPlain_before (fun line h => by simp [h]) (by simp)),
    replaceAll_called hkey (isPlain_before (fun line h => by simp [h]) (by simp)),
    replaceAll_of_isPlain (isPlain_foot (fun line h => by simp [h]))]

theorem isKey_table : IsKey "table" := ⟨by decide, by decide, by decide⟩

theorem isKey_columns : IsKey "columns" := ⟨by decide, by decide, by decide⟩

theorem isKey_dropColumns : IsKey "dropColumns" := ⟨by decide, by decide, by decide⟩

/-- What becomes of a table's name, which is filled in first. -/
def tablePiece (table columns dropColumns : String) : List Char :=
  replaceAll (marker "dropColumns") dropColumns.toList (replaceAll (marker "columns") columns.toList table.toList)

/-- What becomes of the statements on the way up, which are filled in before those on the way down. -/
def columnsPiece (columns dropColumns : String) : List Char :=
  replaceAll (marker "dropColumns") dropColumns.toList columns.toList

theorem toList_fill_three (template : String) (first second third : String × String) :
    (fill template [first, second, third]).toList =
      replaceAll (marker third.1) third.2.toList (replaceAll (marker second.1) second.2.toList
        (replaceAll (marker first.1) first.2.toList template.toList)) := by
  unfold fill
  rw [String.toList_ofList]
  rfl

theorem fill_createMigration (table columns dropColumns : String) :
    (fill createMigration [("table", table), ("columns", columns), ("dropColumns", dropColumns)]).toList =
      createdFrom (tablePiece table columns dropColumns) (columnsPiece columns dropColumns) := by
  have hcolumns : occursIn (marker "table") (marker "columns") = false := by decide
  unfold tablePiece columnsPiece
  rw [toList_fill_three, toList_createMigration, replaceAll_createdFrom isKey_table,
    replaceAll_createdFrom isKey_columns, replaceAll_createdFrom isKey_dropColumns,
    replaceAll_self (marker_ne_nil "table"),
    replaceAll_of_not_occurs hcolumns, replaceAll_self (marker_ne_nil "columns")]

theorem fill_updateMigration (table columns dropColumns : String) :
    (fill updateMigration [("table", table), ("columns", columns), ("dropColumns", dropColumns)]).toList =
      updatedFrom (tablePiece table columns dropColumns) (columnsPiece columns dropColumns) dropColumns.toList := by
  have hcolumns : occursIn (marker "table") (marker "columns") = false := by decide
  have hdrop : occursIn (marker "table") (marker "dropColumns") = false := by decide
  have hlater : occursIn (marker "columns") (marker "dropColumns") = false := by decide
  unfold tablePiece columnsPiece
  rw [toList_fill_three, toList_updateMigration, replaceAll_updatedFrom isKey_table,
    replaceAll_updatedFrom isKey_columns, replaceAll_updatedFrom isKey_dropColumns,
    replaceAll_self (marker_ne_nil "table"),
    replaceAll_of_not_occurs hcolumns, replaceAll_of_not_occurs hdrop, replaceAll_self (marker_ne_nil "columns"),
    replaceAll_of_not_occurs hlater, replaceAll_self (marker_ne_nil "dropColumns")]

end Scaffold.Template
