import Scaffold.Proofs.Migration.Name
import Scaffold.Proofs.Migration.Text
/-!
# Proofs.Migration.Word — migrations over plain words

Where the names are plain words, nothing in a migration can be taken for anything else.  A scan finds in its text just
the columns that it adds (`definesColumn_migrationText_iff`), and in its file name just the markers that are in its own
(`occursIn_of_bears`).
-/
namespace Scaffold

def Text.isWordChar (c : Char) : Bool := c.isAlphanum || c == '_'

/-- **A plain word**: letters, digits and underscores, and at least one of them. -/
structure Text.IsWord (text : String) : Prop where
  notEmpty : text ≠ ""
  chars : text.toList.all Text.isWordChar = true

theorem Text.IsWord.not_mem {text : String} (h : Text.IsWord text) {c : Char} (hc : Text.isWordChar c = false) :
    c ∉ text.toList := by
  intro hmem
  have := List.all_eq_true.1 h.chars c hmem
  rw [hc] at this
  cases this

/-- The names in a column's statements are plain words. -/
structure Migration.ColumnDefinition.IsWord (d : Migration.ColumnDefinition) : Prop where
  name : Text.IsWord d.name
  target : ∀ target ∈ d.column.foreign, Text.IsWord target

namespace Migration

open Template (marker)
open Text (isWordChar)

/-! ## Calls -/

/-- The characters of calls over plain words. -/
def isCallChar (c : Char) : Bool := isWordChar c || "()[]',->; ".toList.contains c

theorem isCallChar_of_isWordChar {text : List Char} (h : text.all isWordChar = true) : text.all isCallChar = true := by
  rw [List.all_eq_true] at h ⊢
  intro c hc
  unfold isCallChar
  rw [h c hc, Bool.true_or]

/-- What stands in a statement behind the receiver. -/
def Statement.call : Statement → List Char
  | .add d => d.kind.method.toList ++ '(' :: '\'' :: (d.name.toList ++ '\'' :: d.behind)
  | .dropForeign column => "dropForeign(['".toList ++ column.toList ++ "']);".toList
  | .dropTimestamps => "dropTimestamps();".toList
  | .dropColumn column => "dropColumn('".toList ++ column.toList ++ "');".toList

theorem Statement.toList_text (s : Statement) : s.text.toList = receiver ++ s.call := by
  cases s with
  | add d => exact Migration.toList_text d
  | dropForeign column =>
    unfold Statement.text Statement.call
    rw [receiver_eq]
    simp [String.toList_append]
  | dropTimestamps =>
    unfold Statement.text Statement.call
    rw [receiver_eq]
    simp
  | dropColumn column =>
    unfold Statement.text Statement.call
    rw [receiver_eq]
    simp [String.toList_append]

def Statement.IsWord : Statement → Prop
  | .add d => d.IsWord
  | .dropForeign column => Text.IsWord column
  | .dropTimestamps => True
  | .dropColumn column => Text.IsWord column

theorem all_isCallChar_digits (n : Nat) : (toString n).toList.all isCallChar = true := by
  rw [List.all_eq_true]
  intro c hc
  have hdigit : c.isDigit = true := by
    rw [Nat.toString_eq_repr, Nat.toList_repr] at hc
    exact Nat.isDigit_of_mem_toDigits (by decide) (by decide) hc
  unfold isCallChar isWordChar Char.isAlphanum
  rw [hdigit, Bool.or_true, Bool.true_or, Bool.true_or]

theorem all_isCallChar_behind {d : ColumnDefinition} (h : d.IsWord) : d.behind.all isCallChar = true := by
  have hname := isCallChar_of_isWordChar h.name.chars
  have hlength : d.lengthArgument.all isCallChar = true := by
    unfold ColumnDefinition.lengthArgument
    cases d.column.length with
    | none => rfl
    | some length =>
      dsimp only
      split
      · rw [List.all_append, all_isCallChar_digits, Bool.and_true]
        decide
      · rfl
  have hunique : d.uniqueCall.toList.all isCallChar = true := by
    unfold ColumnDefinition.uniqueCall
    split <;> decide
  have hforeign : d.foreignCall.toList.all isCallChar = true := by
    unfold ColumnDefinition.foreignCall
    cases ht : d.column.foreign with
    | none => rfl
    | some target =>
      have htarget := isCallChar_of_isWordChar (h.target target ht).chars
      simp only [String.toList_append, List.all_append, hname, htarget, Bool.and_true]
      decide
  unfold ColumnDefinition.behind
  rw [List.all_append, List.all_cons, List.all_append, List.all_append, hunique, hforeign, Bool.and_eq_true]
  exact ⟨hlength, by decide⟩

theorem all_isCallChar_call {s : Statement} (h : s.IsWord) : s.call.all isCallChar = true := by
  cases s with
  | add d =>
    have hmethod : d.kind.method.toList.all isCallChar = true := by cases d.kind <;> decide
    unfold Statement.call
    simp only [List.all_append, List.all_cons, hmethod, isCallChar_of_isWordChar h.name.chars,
      all_isCallChar_behind h, Bool.and_true]
    decide
  | dropForeign column =>
    unfold Statement.call
    rw [List.all_append, List.all_append, isCallChar_of_isWordChar h.chars]
    decide
  | dropTimestamps => decide
  | dropColumn column =>
    unfold Statement.call
    rw [List.all_append, List.all_append, isCallChar_of_isWordChar h.chars]
    decide

theorem not_mem_call {s : Statement} (h : s.IsWord) {c : Char} (hc : isCallChar c = false) : c ∉ s.call := by
  intro hmem
  have := List.all_eq_true.1 (all_isCallChar_call h) c hmem
  rw [hc] at this
  cases this

/-- Statements over plain words hold no brace, so there is no marker in them. -/
theorem not_mem_body {statements : List Statement} (h : ∀ s ∈ statements, s.IsWord) :
    '\x7b' ∉ (body statements).toList := by
  have hone : ∀ s ∈ statements, '\x7b' ∉ s.text.toList := by
    intro s hs
    rw [s.toList_text, receiver_eq, List.mem_append, not_or]
    exact ⟨by decide, not_mem_call (h s hs) (by decide)⟩
  induction statements with
  | nil => exact List.not_mem_nil
  | cons first rest ih =>
    have hrest := ih (fun s hs => h s (List.mem_cons_of_mem _ hs)) (fun s hs => hone s (List.mem_cons_of_mem _ hs))
    have hbreak : '\x7b' ∉ statementBreak.toList := by decide
    rw [toList_body_cons, List.mem_append, not_or]
    refine ⟨hone first List.mem_cons_self, ?_⟩
    cases rest with
    | nil => exact List.not_mem_nil
    | cons second rest =>
      rw [afterFirst_of_ne_nil (List.cons_ne_nil _ _), List.mem_append, not_or]
      exact ⟨hbreak, hrest⟩

/-! ## What a scan passes over -/

theorem definesColumn_append {front : List Char} (h : '$' ∉ front) (column rest : List Char) :
    definesColumn column (front ++ rest) = definesColumn column rest := by
  induction front with
  | nil => rfl
  | cons c front ih =>
    rw [List.mem_cons, not_or] at h
    have hreceiver : receiver.isPrefixOf (c :: (front ++ rest)) = false := by
      have hne : ('$' == c) = false := by simpa using h.1
      rw [receiver_eq, List.isPrefixOf_cons_cons, hne, Bool.false_and]
    rw [List.cons_append, definesColumn_cons, hreceiver, Bool.false_and, Bool.false_or]
    exact ih h.2

theorem definesColumn_afterFirst (column rest : List Char) (statements : List Statement) :
    definesColumn column (afterFirst statements ++ rest) =
      definesColumn column ((body statements).toList ++ rest) := by
  cases statements with
  | nil => rfl
  | cons s statements =>
    rw [afterFirst_of_ne_nil (List.cons_ne_nil _ _), List.append_assoc]
    exact definesColumn_append (by decide) _ _

theorem definesColumn_of_not_mem {text : List Char} (h : '$' ∉ text) (column : List Char) :
    definesColumn column text = false := by
  rw [← List.append_nil text, definesColumn_append h]
  rfl

/-- At a receiver a call is looked at, and then the text behind it. -/
theorem definesColumn_receiver (column after : List Char) :
    definesColumn column (receiver ++ after) = (callsWith column after || definesColumn column after) := by
  have hreceiver : receiver.isPrefixOf (receiver ++ after) = true :=
    List.isPrefixOf_iff_prefix.2 (List.prefix_append _ _)
  have hrest : definesColumn column (['t', 'a', 'b', 'l', 'e', '-', '>'] ++ after) = definesColumn column after :=
    definesColumn_append (by decide) column after
  have hcons : receiver ++ after = '$' :: (['t', 'a', 'b', 'l', 'e', '-', '>'] ++ after) := by
    rw [receiver_eq]
    rfl
  rw [hcons] at hreceiver ⊢
  rw [definesColumn_cons, hreceiver, Bool.true_and, hrest, ← hcons, List.drop_left]

theorem definesColumn_lambda (column rest : List Char) :
    definesColumn column (Template.lambda ++ rest) = definesColumn column rest := by
  have hlambda : Template.lambda = ", function (Blueprint ".toList ++
      ('$' :: ("table) \x7b".toList ++ '\n' :: "           ".toList)) := by
    unfold Template.lambda
    repeat rw [String.toList_ofList]
    rfl
  have hreceiver :
      receiver.isPrefixOf ('$' :: (("table) \x7b".toList ++ '\n' :: "           ".toList) ++ rest)) = false := by
    rw [receiver_eq, String.toList_ofList]
    rfl
  rw [hlambda, List.append_assoc, definesColumn_append (by decide), List.cons_append, definesColumn_cons, hreceiver,
    Bool.false_and, Bool.false_or]
  exact definesColumn_append (by decide) column rest

/-! ## What a scan finds -/

/-- **A column between quotes is found under its own name only**: both names end where the first quote stands. -/
theorem eq_of_quotesColumn {column name more : List Char} (hcolumn : column.all isWordChar = true)
    (hname : name.all isWordChar = true) (h : quotesColumn column ('\'' :: (name ++ '\'' :: more)) = true) :
    column = name := by
  have hcut : ∀ (word behind : List Char) (quote : Char), word.all isWordChar = true → isQuote quote = true →
      (word ++ quote :: behind).takeWhile isWordChar = word := by
    intro word behind quote hword hquote
    have hends : isWordChar quote = false := by
      rcases isQuote_iff.1 hquote with rfl | rfl <;> decide
    rw [List.takeWhile_append_of_pos (List.all_eq_true.1 hword), List.takeWhile_cons_of_neg (by simp [hends]),
      List.append_nil]
  obtain ⟨opening, closing, rest, -, hcloses, htext⟩ := quotesColumn_iff.1 h
  have hword := congrArg (List.takeWhile isWordChar) (List.cons.inj htext).2
  rw [hcut _ _ _ hname rfl, hcut _ _ _ hcolumn hcloses] at hword
  exact hword.symm

/-- The column that a statement names as its first argument. -/
def Statement.column? : Statement → Option String
  | .add d => some d.name
  | .dropColumn column => some column
  | _ => none

/-- **In a call a scan finds no column but the first argument.** -/
theorem column?_of_callsWith {s : Statement} (hs : s.IsWord) {column : String} (hcolumn : Text.IsWord column)
    (rest : List Char) (h : callsWith column.toList (s.call ++ rest) = true) : s.column? = some column := by
  cases s with
  | add d =>
    unfold Statement.call at h
    rw [List.append_assoc, List.cons_append, List.cons_append, List.append_assoc, List.cons_append,
      callsWith_word (isWord_method d.kind) (method_ne_nil d.kind), dropWhile_blank_quote] at h
    have heq := eq_of_quotesColumn hcolumn.chars hs.name.chars h
    rw [String.toList_inj] at heq
    rw [heq]
    rfl
  -- The next two have no quote behind the bracket.
  | dropForeign name =>
    have hcall : Statement.call (.dropForeign name) ++ rest =
        "dropForeign".toList ++ '(' :: ('[' :: '\'' :: (name.toList ++ ("']);".toList ++ rest))) := by
      unfold Statement.call
      simp
    rw [hcall, callsWith_word (by decide) (by decide)] at h
    cases h
  | dropTimestamps =>
    have hcall : Statement.call .dropTimestamps ++ rest = "dropTimestamps".toList ++ '(' :: (')' :: ';' :: rest) := by
      unfold Statement.call
      simp
    rw [hcall, callsWith_word (by decide) (by decide)] at h
    cases h
  | dropColumn name =>
    have hcall : Statement.call (.dropColumn name) ++ rest =
        "dropColumn".toList ++ '(' :: ('\'' :: (name.toList ++ '\'' :: (");".toList ++ rest))) := by
      unfold Statement.call
      simp
    rw [hcall, callsWith_word (by decide) (by decide), dropWhile_blank_quote] at h
    have heq := eq_of_quotesColumn hcolumn.chars hs.chars h
    rw [String.toList_inj] at heq
    rw [heq]
    rfl

theorem column?_of_text {s : Statement} (hs : s.IsWord) {column : String} (hcolumn : Text.IsWord column)
    {rest : List Char} (h : definesColumn column.toList (s.text.toList ++ rest) = true) :
    s.column? = some column ∨ definesColumn column.toList rest = true := by
  rw [s.toList_text, List.append_assoc, definesColumn_receiver, Bool.or_eq_true,
    definesColumn_append (not_mem_call hs (by decide))] at h
  rcases h with hcalls | hrest
  · exact .inl (column?_of_callsWith hs hcolumn rest hcalls)
  · exact .inr hrest

/-- **In statements a scan finds no column but those that they name.** -/
theorem column?_of_body {statements : List Statement} (hs : ∀ s ∈ statements, s.IsWord) {column : String}
    (hcolumn : Text.IsWord column) {rest : List Char}
    (h : definesColumn column.toList ((body statements).toList ++ rest) = true) :
    (∃ s ∈ statements, s.column? = some column) ∨ definesColumn column.toList rest = true := by
  induction statements with
  | nil => exact .inr h
  | cons first others ih =>
    rw [toList_body_cons, List.append_assoc] at h
    rcases column?_of_text (hs first List.mem_cons_self) hcolumn h with hfirst | hlater
    · exact .inl ⟨first, List.mem_cons_self, hfirst⟩
    · rw [definesColumn_afterFirst] at hlater
      rcases ih (fun s hm => hs s (List.mem_cons_of_mem _ hm)) hlater with ⟨s, hm, hcolumn⟩ | hrest
      · exact .inl ⟨s, List.mem_cons_of_mem _ hm, hcolumn⟩
      · exact .inr hrest

/-! ## The text of a migration -/

theorem isWord_up {columns : List ColumnDefinition} (h : ∀ d ∈ columns, d.IsWord) : ∀ s ∈ up columns, s.IsWord := by
  intro s hs
  obtain ⟨d, hd, rfl⟩ := List.mem_map.1 hs
  exact h d hd

theorem mem_undo {d : ColumnDefinition} {s : Statement} (h : s ∈ d.undo) :
    s = .dropForeign d.name ∨ s = .dropTimestamps ∨ s = .dropColumn d.name := by
  have hitself : d.dropItself = .dropTimestamps ∨ d.dropItself = .dropColumn d.name := by
    unfold ColumnDefinition.dropItself
    cases d.kind <;> simp
  unfold ColumnDefinition.undo at h
  split at h
  · rcases List.mem_cons.1 h with rfl | h
    · exact .inl rfl
    · rw [List.mem_singleton] at h
      subst h
      exact .inr hitself
  · rw [List.mem_singleton] at h
    subst h
    exact .inr hitself

theorem isWord_down {columns : List ColumnDefinition} (h : ∀ d ∈ columns, d.IsWord) :
    ∀ s ∈ down columns, s.IsWord := by
  intro s hs
  obtain ⟨d, hd, hs⟩ := List.mem_flatMap.1 hs
  have hword := (h d (List.mem_reverse.1 hd)).name
  rcases mem_undo hs with rfl | rfl | rfl
  · exact hword
  · trivial
  · exact hword

theorem mem_of_up {columns : List ColumnDefinition} {column : String}
    (h : ∃ s ∈ up columns, s.column? = some column) : column ∈ columns.map (·.name) := by
  obtain ⟨s, hs, hcolumn⟩ := h
  obtain ⟨d, hd, rfl⟩ := List.mem_map.1 hs
  cases hcolumn
  exact List.mem_map_of_mem hd

theorem mem_of_down {columns : List ColumnDefinition} {column : String}
    (h : ∃ s ∈ down columns, s.column? = some column) : column ∈ columns.map (·.name) := by
  obtain ⟨s, hs, hcolumn⟩ := h
  obtain ⟨d, hd, hs⟩ := List.mem_flatMap.1 hs
  rcases mem_undo hs with rfl | rfl | rfl
  · cases hcolumn
  · cases hcolumn
  · cases hcolumn
    exact List.mem_map_of_mem (List.mem_reverse.1 hd)

theorem tablePiece_of_word {table : String} (h : Text.IsWord table) (columns dropColumns : String) :
    Template.tablePiece table columns dropColumns = table.toList := by
  have hplain := Template.isPlain_of_not_mem (h.not_mem (c := '\x7b') (by decide))
  unfold Template.tablePiece
  rw [Template.replaceAll_of_isPlain hplain, Template.replaceAll_of_isPlain hplain]

/-- A call about a table is passed over up to its statements. -/
theorem definesColumn_called {call : String} (hcall : '$' ∉ call.toList) {table : List Char} (htable : '$' ∉ table)
    (column statements back : List Char) :
    definesColumn column (Template.called call table statements back) =
      definesColumn column (statements ++ '\n' :: back) := by
  have hfront : '$' ∉ Template.callOf call ++ '\'' :: (table ++ ['\'']) := by
    unfold Template.callOf
    rw [String.toList_ofList]
    simp [hcall, htable]
  have hsplit : Template.called call table statements back =
      (Template.callOf call ++ '\'' :: (table ++ ['\''])) ++
        (Template.lambda ++ ([' '] ++ (statements ++ '\n' :: back))) := by
    unfold Template.called
    simp only [List.append_assoc, List.cons_append, List.nil_append]
  rw [hsplit, definesColumn_append hfront, definesColumn_lambda]
  exact definesColumn_append (by decide) column _

theorem not_mem_charsOf {lines : List String} (h : ∀ line ∈ lines, '$' ∉ line.toList) :
    '$' ∉ Template.charsOf lines := by
  intro hmem
  obtain ⟨line, hline, hc⟩ := List.mem_flatMap.1 hmem
  rcases List.mem_append.1 hc with hc | hc
  · exact h line hline hc
  · cases List.mem_singleton.1 hc

theorem not_mem_lines : ∀ line ∈ Template.head ++ Template.middle ++ Template.foot ++ Template.footDropped,
    '$' ∉ line.toList := by
  unfold Template.head Template.middle Template.foot Template.footDropped
  simp only [List.cons_append, List.nil_append, List.forall_mem_cons, List.not_mem_nil, false_implies, implies_true,
    and_true]
  repeat' constructor
  all_goals
    rw [String.toList_ofList]
    decide

theorem not_mem_template {lines : List String} (h : ∀ line ∈ lines, line ∈ Template.head ++ Template.middle ++
    Template.foot ++ Template.footDropped) : '$' ∉ Template.charsOf lines :=
  not_mem_charsOf (fun line hline => not_mem_lines line (h line hline))

/-- **Over plain words a scan finds in a migration no column that it does not add.** -/
theorem mem_of_definesColumn {kind : ArtifactKind} (hkind : kind.isMigration = true) {table column : String}
    (htable : Text.IsWord table) (hcolumn : Text.IsWord column) {columns : List ColumnDefinition}
    (hcolumns : ∀ d ∈ columns, d.IsWord)
    (h : definesColumn column.toList (Generation.migrationText (Template.builtin kind) table columns).toList = true) :
    column ∈ columns.map (·.name) := by
  have hup := isWord_up hcolumns
  have hpiece : Template.columnsPiece (body (up columns)) (body (down columns)) = (body (up columns)).toList :=
    Template.replaceAll_of_isPlain (Template.isPlain_of_not_mem (not_mem_body hup)) _ _
  have hdollar : '$' ∉ table.toList := htable.not_mem (by decide)
  have hhead : '$' ∉ Template.charsOf Template.head := not_mem_template (fun line hl => by simp [hl])
  have hmiddle : '$' ∉ Template.charsOf Template.middle := not_mem_template (fun line hl => by simp [hl])
  have hfoot : '$' ∉ Template.charsOf Template.foot := not_mem_template (fun line hl => by simp [hl])
  have hdropped : '$' ∉ Template.charsOf Template.footDropped := not_mem_template (fun line hl => by simp [hl])
  unfold Generation.migrationText at h
  -- Outside the statements no receiver can begin; an update has a second list of them, on the way down.
  cases kind with
  | model => cases hkind
  | resource => cases hkind
  | createMigration =>
    unfold Template.builtin at h
    rw [Template.fill_createMigration, tablePiece_of_word htable, hpiece] at h
    unfold Template.createdFrom at h
    rw [definesColumn_append hhead, definesColumn_called (by decide) hdollar] at h
    rcases column?_of_body hup hcolumn h with hfound | hrest
    · exact mem_of_up hfound
    · rw [definesColumn_of_not_mem] at hrest
      · cases hrest
      · unfold Template.callOf
        rw [String.toList_ofList, String.toList_ofList]
        simp [hmiddle, hdropped, hdollar]
  | updateMigration =>
    unfold Template.builtin at h
    rw [Template.fill_updateMigration, tablePiece_of_word htable, hpiece] at h
    unfold Template.updatedFrom at h
    rw [definesColumn_append hhead, definesColumn_called (by decide) hdollar] at h
    rcases column?_of_body hup hcolumn h with hfound | hrest
    · exact mem_of_up hfound
    · rw [← List.singleton_append, definesColumn_append (by decide), definesColumn_append hmiddle,
        definesColumn_called (by decide) hdollar] at hrest
      rcases column?_of_body (isWord_down hcolumns) hcolumn hrest with hfound | hrest
      · exact mem_of_down hfound
      · rw [definesColumn_of_not_mem (by simp [hfoot])] at hrest
        cases hrest

/-- **Over plain words a scan finds in a migration just the columns that it adds.** -/
theorem definesColumn_migrationText_iff {kind : ArtifactKind} (hkind : kind.isMigration = true) {table column : String}
    (htable : Text.IsWord table) (hcolumn : Text.IsWord column) {columns : List ColumnDefinition}
    (hcolumns : ∀ d ∈ columns, d.IsWord) :
    definesColumn column.toList (Generation.migrationText (Template.builtin kind) table columns).toList = true ↔
      column ∈ columns.map (·.name) := by
  constructor
  · exact mem_of_definesColumn hkind htable hcolumn hcolumns
  · intro h
    obtain ⟨d, hd, rfl⟩ := List.mem_map.1 h
    refine definesColumn_migrationText hkind table hd ?_
    rw [Bool.eq_false_iff]
    intro hocc
    obtain ⟨before, after, hname⟩ := Text.occursIn_iff.1 hocc
    refine (hcolumns d hd).name.not_mem (c := '\x7b') (by decide) ?_
    rw [hname]
    exact List.mem_append_left _ (List.mem_append_right _ (by decide))

/-! ## File names -/

/-- The markers of a table begin with a letter that no stamp holds, and hold no dot. -/
theorem markerOf_cons {table : String} (hdot : '.' ∉ table.toList) (kind : ArtifactKind) :
    ∃ first others, (markerOf kind table).toList = first :: others ∧ (first = 'c' ∨ first = 'u') ∧
      '.' ∉ first :: others := by
  have hcreate := toList_createMarker table
  have hupdate := toList_updateMarker table
  cases kind with
  | updateMigration => exact ⟨_, _, hupdate, .inr rfl, by simp [hdot]⟩
  | createMigration => exact ⟨_, _, hcreate, .inl rfl, by simp [hdot]⟩
  | model => exact ⟨_, _, hcreate, .inl rfl, by simp [hdot]⟩
  | resource => exact ⟨_, _, hcreate, .inl rfl, by simp [hdot]⟩

/-- **A migration's file name bears no marker that its own marker does not hold.** -/
theorem occursIn_of_bears {table other : String} (h : '.' ∉ table.toList) (kind kind' : ArtifactKind)
    (at_ : Calendar.Instant)
    (hbears : bears (fileName kind' (Calendar.stamp at_) other "php") (markerOf kind table) = true) :
    Text.occursIn (markerOf kind table).toList (markerOf kind' other).toList = true := by
  obtain ⟨first, others, hmarker, hfirst, hdot⟩ := markerOf_cons h kind
  have hstamp : first ∉ (Calendar.stamp at_).toList ++ ['_'] := by
    rw [List.mem_append, not_or]
    refine ⟨fun hmem => ?_, ?_⟩
    · have hchar := Calendar.isStampChar_stamp at_ first hmem
      rcases hfirst with rfl | rfl <;> rcases hchar with h | h | h | h <;> cases h
    · rcases hfirst with rfl | rfl <;> decide
  have hextension : Text.occursIn (first :: others) "php".toList = false := by
    have hnot : first ∉ "php".toList := by rcases hfirst with rfl | rfl <;> decide
    rw [← List.append_nil "php".toList, Text.occursIn_append_of_not_mem hnot]
    rfl
  have hname : (fileName kind' (Calendar.stamp at_) other "php").toList =
      ((Calendar.stamp at_).toList ++ ['_']) ++ ((markerOf kind' other).toList ++ '.' :: "php".toList) := by
    rw [toList_fileName, List.append_assoc]
    rfl
  unfold bears at hbears
  rw [hname, hmarker, Text.occursIn_append_of_not_mem hstamp,
    Text.occursIn_append_separator hdot (List.cons_ne_nil _ _), hextension, Bool.or_false] at hbears
  rw [hmarker]
  exact hbears

/-- **A migration's file name bears just the markers that its own marker holds.** -/
theorem bears_fileName_iff {table other : String} (h : '.' ∉ table.toList) (kind kind' : ArtifactKind)
    (at_ : Calendar.Instant) :
    bears (fileName kind' (Calendar.stamp at_) other "php") (markerOf kind table) = true ↔
      Text.occursIn (markerOf kind table).toList (markerOf kind' other).toList = true := by
  refine ⟨occursIn_of_bears h kind kind' at_, fun hocc => ?_⟩
  obtain ⟨before, after, hmarker⟩ := Text.occursIn_iff.1 hocc
  unfold bears
  rw [toList_fileName, hmarker]
  refine Text.occursIn_iff.2 ⟨(Calendar.stamp at_).toList ++ '_' :: before, after ++ '.' :: "php".toList, ?_⟩
  simp only [List.append_assoc, List.cons_append]

end Migration

end Scaffold
