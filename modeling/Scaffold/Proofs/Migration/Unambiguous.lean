import Mathlib.Data.List.Forall2
import Scaffold.Proofs.Migration.Text
import Scaffold.Text.Split
/-!
# Proofs.Migration.Unambiguous — a migration tells its columns apart

A statement that adds a column tells where it ends: a bracket ends the method, a quote the name and a bracket the
length, and of the calls behind it each begins otherwise than what may stand there instead.  So a statement at the front
of a text can be told from what follows it (`text_append_inj`), and a list of statements has the text of no other list,
up to what no statement shows of a column (`body_up_eq_iff`).  Names may hold all of that but quotes.
-/
namespace Scaffold.Migration

open Text (eq_of_append_separator)

/-- No quote ends a name or a foreign target of the column early. -/
structure ColumnDefinition.Unquoted (d : ColumnDefinition) : Prop where
  name : '\'' ∉ d.name.toList
  target : ∀ target ∈ d.column.foreign, '\'' ∉ target.toList

/-- **Two columns are the same to a migration**: whether they are hidden does not show, nor the length of a column that
is no string. -/
structure SameText (d d' : ColumnDefinition) : Prop where
  name : d.name = d'.name
  kind : d.kind = d'.kind
  unique : d.column.unique = d'.column.unique
  foreign : d.column.foreign = d'.column.foreign
  length : d.kind = .string → d.column.length = d'.column.length

variable {d d' : ColumnDefinition} {columns columns' : List ColumnDefinition} {back back' : List Char}

/-! ## What ends a piece of a statement -/

theorem not_mem_method (k : ColumnKind) : '(' ∉ k.method.toList := by cases k <;> decide

theorem not_mem_lengthArgument (d : ColumnDefinition) : ')' ∉ d.lengthArgument := by
  unfold ColumnDefinition.lengthArgument
  cases d.column.length with
  | none => exact List.not_mem_nil
  | some length =>
    dsimp only
    split
    · intro hmem
      rw [Nat.toString_eq_repr, Nat.toList_repr] at hmem
      rcases List.mem_append.1 hmem with hcomma | hdigit
      · exact absurd hcomma (by decide)
      · exact absurd (Nat.isDigit_of_mem_toDigits (by decide) (by decide) hdigit) (by decide)
    · exact List.not_mem_nil

theorem kind_inj {k k' : ColumnKind} (h : k.method = k'.method) : k = k' :=
  Option.some.inj (by rw [← ColumnKind.ofMethod?_method k, h, ColumnKind.ofMethod?_method])

/-- **A piece that may be missing is told from what follows it**, if what follows the place of one never begins with the
other. -/
theorem optional_append_inj {α : Type} {piece : α → List Char} {o o' : Option α}
    (hsome : ∀ a ∈ o, ∀ a' ∈ o', piece a ++ back = piece a' ++ back' → a = a' ∧ back = back')
    (hnone : ∀ a ∈ o, piece a ++ back ≠ back') (hnone' : ∀ a' ∈ o', piece a' ++ back' ≠ back)
    (h : o.elim [] piece ++ back = o'.elim [] piece ++ back') : o = o' ∧ back = back' := by
  cases o with
  | none =>
    cases o' with
    | none => exact ⟨rfl, h⟩
    | some a' => exact absurd h.symm (hnone' a' rfl)
  | some a =>
    cases o' with
    | none => exact absurd h (hnone a rfl)
    | some a' =>
      obtain ⟨rfl, hback⟩ := hsome a rfl a' rfl h
      exact ⟨rfl, hback⟩

theorem lengthArgument_of_string (h : d.kind = .string) : d.lengthArgument =
    d.column.length.elim [] fun length => ", ".toList ++ Nat.toDigits 10 length.toNat := by
  unfold ColumnDefinition.lengthArgument
  rw [h]
  cases d.column.length with
  | none => rfl
  | some length =>
    show ", ".toList ++ (toString length.toNat).toList = ", ".toList ++ Nat.toDigits 10 length.toNat
    rw [Nat.toString_eq_repr, Nat.toList_repr]

theorem lengthArgument_inj (h : d.kind = .string) (h' : d'.kind = .string)
    (heq : d.lengthArgument = d'.lengthArgument) : d.column.length = d'.column.length := by
  rw [lengthArgument_of_string h, lengthArgument_of_string h', ← List.append_nil (Option.elim _ _ _),
    ← List.append_nil (d'.column.length.elim _ _)] at heq
  refine (optional_append_inj ?_ ?_ ?_ heq).1
  · intro n _ n' _ hn
    rw [List.append_nil, List.append_nil] at hn
    -- Digits are those of one number only, for they can be read back.
    have hdigits := List.append_cancel_left hn
    have hvalue : n.toNat = n'.toNat := calc
      n.toNat = Nat.ofDigitChars 10 (Nat.toDigits 10 n.toNat) 0 := Nat.ofDigitChars_ten_toDigits.symm
      _ = Nat.ofDigitChars 10 (Nat.toDigits 10 n'.toNat) 0 := by rw [hdigits]
      _ = n'.toNat := Nat.ofDigitChars_ten_toDigits
    exact ⟨UInt32.toNat_inj.1 hvalue, rfl⟩
  all_goals simp

def foreignPiece (name target : String) : List Char :=
  '-' :: '>' :: 'f' :: (("oreign('" ++ name ++ "')->references('id')->on('").toList ++ (target.toList ++ '\'' :: [')']))

theorem toList_foreignCall (d : ColumnDefinition) :
    d.foreignCall.toList = d.column.foreign.elim [] (foreignPiece d.name) := by
  unfold ColumnDefinition.foreignCall
  cases d.column.foreign with
  | none => rfl
  | some target => simp [foreignPiece, String.toList_append]

theorem foreignCall_append_inj (hd : d.Unquoted) (hd' : d'.Unquoted) (hname : d.name = d'.name)
    (h : d.foreignCall.toList ++ ';' :: back = d'.foreignCall.toList ++ ';' :: back') :
    d.column.foreign = d'.column.foreign ∧ back = back' := by
  rw [toList_foreignCall, toList_foreignCall, hname] at h
  have hsemicolon : ∀ target front front', foreignPiece d'.name target ++ front ≠ ';' :: front' := by
    intro target front front' heq
    cases heq
  have hsome : ∀ target ∈ d.column.foreign, ∀ target' ∈ d'.column.foreign,
      foreignPiece d'.name target ++ ';' :: back = foreignPiece d'.name target' ++ ';' :: back' →
        target = target' ∧ ';' :: back = ';' :: back' := by
    intro target htarget target' htarget' heq
    simp only [foreignPiece, List.cons_append, List.append_assoc, List.cons.injEq, true_and, List.nil_append] at heq
    obtain ⟨hsame, hback⟩ := eq_of_append_separator (hd.target target htarget) (hd'.target target' htarget')
      (List.append_cancel_left heq)
    exact ⟨String.toList_inj.1 hsame, (List.cons.inj hback).2⟩
  obtain ⟨hforeign, hback⟩ :=
    optional_append_inj hsome (fun _ _ => hsemicolon _ _ _) (fun _ _ => hsemicolon _ _ _) h
  exact ⟨hforeign, (List.cons.inj hback).2⟩

theorem toList_uniqueCall (d : ColumnDefinition) : d.uniqueCall.toList =
    (if d.column.unique then some () else none).elim [] fun _ => '-' :: '>' :: 'u' :: "nique()".toList := by
  unfold ColumnDefinition.uniqueCall
  split
  · simp
  · rfl

theorem uniqueCall_append_inj
    (h : d.uniqueCall.toList ++ (d.foreignCall.toList ++ ';' :: back) =
      d'.uniqueCall.toList ++ (d'.foreignCall.toList ++ ';' :: back')) :
    d.column.unique = d'.column.unique ∧
      d.foreignCall.toList ++ ';' :: back = d'.foreignCall.toList ++ ';' :: back' := by
  -- Without `->unique`, there is `->foreign` or `;` in its place.
  have hother : ∀ (d : ColumnDefinition) (front back : List Char),
      '-' :: '>' :: 'u' :: front ≠ d.foreignCall.toList ++ ';' :: back := by
    intro d front back h
    rw [toList_foreignCall] at h
    cases hf : d.column.foreign with
    | none =>
      rw [hf] at h
      cases h
    | some target =>
      rw [hf] at h
      cases h
  rw [toList_uniqueCall, toList_uniqueCall] at h
  obtain ⟨hunique, hback⟩ := optional_append_inj (fun _ _ _ _ heq => ⟨rfl, List.append_cancel_left heq⟩)
    (fun _ _ => hother _ _ _) (fun _ _ => hother _ _ _) h
  have hpresent : ∀ unique : Bool, (if unique then some () else none).isSome = unique := by decide
  exact ⟨by rw [← hpresent d.column.unique, hunique, hpresent], hback⟩

/-! ## Statements -/

/-- **A statement tells its column and where it ends.** -/
theorem text_append_inj (hd : d.Unquoted) (hd' : d'.Unquoted) (h : d.text.toList ++ back = d'.text.toList ++ back') :
    SameText d d' ∧ back = back' := by
  rw [toList_text, toList_text] at h
  simp only [List.append_assoc, List.cons_append] at h
  -- The pieces are cut off from the front: the method, the name, the length and the calls.
  obtain ⟨hmethod, h⟩ := eq_of_append_separator (not_mem_method _) (not_mem_method _) (List.append_cancel_left h)
  obtain ⟨hname, h⟩ := eq_of_append_separator hd.name hd'.name (List.cons.inj h).2
  have hkind := kind_inj (String.toList_inj.1 hmethod)
  have hname := String.toList_inj.1 hname
  unfold ColumnDefinition.behind at h
  simp only [List.append_assoc, List.cons_append, List.nil_append] at h
  obtain ⟨hlength, h⟩ := eq_of_append_separator (not_mem_lengthArgument _) (not_mem_lengthArgument _) h
  obtain ⟨hunique, h⟩ := uniqueCall_append_inj h
  obtain ⟨hforeign, hback⟩ := foreignCall_append_inj hd hd' hname h
  exact ⟨⟨hname, hkind, hunique, hforeign, fun hs => lengthArgument_inj hs (hkind ▸ hs) hlength⟩, hback⟩

theorem SameText.arguments (h : SameText d d') : d.arguments = d'.arguments := by
  have hlength := h.length
  unfold ColumnDefinition.arguments
  rw [← h.name, ← h.kind]
  cases hk : d.kind with
  | string => rw [hlength hk]
  | _ => cases d.column.length <;> cases d'.column.length <;> rfl

/-- Nothing else of a column is in its statement. -/
theorem SameText.text (h : SameText d d') : d.text = d'.text := by
  unfold ColumnDefinition.text ColumnDefinition.uniqueCall ColumnDefinition.foreignCall
  rw [h.arguments, h.kind, h.unique, h.foreign, h.name]

/-! ## Lists of statements -/

theorem afterFirst_inj {statements statements' : List Statement} (h : afterFirst statements = afterFirst statements') :
    body statements = body statements' := by
  have hbreak : ∀ s rest, afterFirst (s :: rest) ≠ [] := by
    intro s rest
    rw [afterFirst_of_ne_nil (List.cons_ne_nil _ _)]
    simp [statementBreak]
  cases statements with
  | nil =>
    cases statements' with
    | nil => rfl
    | cons s' rest' => exact absurd h.symm (hbreak _ _)
  | cons s rest =>
    cases statements' with
    | nil => exact absurd h (hbreak _ _)
    | cons s' rest' =>
      rw [afterFirst_of_ne_nil (List.cons_ne_nil _ _), afterFirst_of_ne_nil (List.cons_ne_nil _ _)] at h
      exact String.toList_inj.1 (List.append_cancel_left h)

theorem up_cons (d : ColumnDefinition) (rest : List ColumnDefinition) : up (d :: rest) = .add d :: up rest := rfl

theorem body_cons_ne_nil (d : ColumnDefinition) (rest : List ColumnDefinition) :
    (body (up (d :: rest))).toList ≠ (body (up [])).toList := by
  have hempty : (body (up [])).toList = [] := by simp [body, up]
  have htext : (Statement.add d).text.toList ≠ [] := by
    show d.text.toList ≠ []
    rw [toList_text, receiver_eq]
    exact List.cons_ne_nil _ _
  rw [hempty, up_cons, toList_body_cons]
  exact List.append_ne_nil_of_left_ne_nil htext _

theorem forall₂_of_body_eq (hcolumns : ∀ d ∈ columns, d.Unquoted) (hcolumns' : ∀ d ∈ columns', d.Unquoted)
    (h : body (up columns) = body (up columns')) : List.Forall₂ SameText columns columns' := by
  induction columns generalizing columns' with
  | nil =>
    cases columns' with
    | nil => exact .nil
    | cons d' rest' => exact absurd (congrArg String.toList h.symm) (body_cons_ne_nil _ _)
  | cons d rest ih =>
    cases columns' with
    | nil => exact absurd (congrArg String.toList h) (body_cons_ne_nil _ _)
    | cons d' rest' =>
      have htext := congrArg String.toList h
      rw [up_cons, up_cons, toList_body_cons, toList_body_cons] at htext
      obtain ⟨hd, hrest⟩ := List.forall_mem_cons.1 hcolumns
      obtain ⟨hd', hrest'⟩ := List.forall_mem_cons.1 hcolumns'
      obtain ⟨hsame, hafter⟩ := text_append_inj hd hd' htext
      exact .cons hsame (ih hrest hrest' (afterFirst_inj hafter))

theorem body_eq_of_forall₂ (h : List.Forall₂ SameText columns columns') : body (up columns) = body (up columns') := by
  have htexts : (up columns).map Statement.text = (up columns').map Statement.text := by
    induction h with
    | nil => rfl
    | @cons d d' rest rest' hsame _ ih =>
      show d.text :: (up rest).map Statement.text = d'.text :: (up rest').map Statement.text
      rw [hsame.text, ih]
  unfold body
  rw [htexts]

/-- **Two lists of columns have the same text exactly if they are the same to a migration, column by column**, as long as
no name and no foreign target holds a quote. -/
theorem body_up_eq_iff (hcolumns : ∀ d ∈ columns, d.Unquoted) (hcolumns' : ∀ d ∈ columns', d.Unquoted) :
    body (up columns) = body (up columns') ↔ List.Forall₂ SameText columns columns' :=
  ⟨forall₂_of_body_eq hcolumns hcolumns', body_eq_of_forall₂⟩

/-- The end of a statement and the beginning of another. -/
def tangledName : String := "a)->unique();\n            $table->id("

/-- Two columns, the first of which is named as a piece of a migration. -/
def tangledColumns (hidden : Bool) (length : Option UInt32) : List ColumnDefinition :=
  [⟨tangledName, .text, { unique := true, hidden := hidden, length := length, foreign := some "b);" }⟩,
    ⟨"b", .string, { length := some 9 }⟩]

theorem unquoted_tangledColumns (hidden : Bool) (length : Option UInt32) :
    ∀ d ∈ tangledColumns hidden length, d.Unquoted := by
  unfold tangledColumns
  simp only [List.forall_mem_cons]
  have hname : '\'' ∉ tangledName.toList := by decide
  refine ⟨⟨hname, ?_⟩, ⟨by decide, fun _ h => nomatch h⟩, fun _ h => nomatch h⟩
  rintro target ⟨⟩
  decide

/-- Their text does not tell whether the first is hidden, nor a length that it should not have. -/
theorem sameText_tangledColumns : (∀ d ∈ tangledColumns false (some 4), d.Unquoted) ∧
    (∀ d ∈ tangledColumns true none, d.Unquoted) ∧
    body (up (tangledColumns false (some 4))) = body (up (tangledColumns true none)) ∧
    List.Forall₂ SameText (tangledColumns false (some 4)) (tangledColumns true none) := by
  have htext : body (up (tangledColumns false (some 4))) = body (up (tangledColumns true none)) := by decide +kernel
  have hleft := unquoted_tangledColumns false (some 4)
  have hright := unquoted_tangledColumns true none
  exact ⟨hleft, hright, htext, (body_up_eq_iff hleft hright).1 htext⟩

end Scaffold.Migration
