import Scaffold.Text.Search
/-!
# Proofs.Text.Replace — replacing, piece by piece

A character that is not in the sought text is a wall: no occurrence goes across it.  So a text can be cut at such
characters, and each piece is replaced by itself (`replaceAll_append_separator`).
-/
namespace Scaffold.Text

variable {part value : List Char} {separator : Char}

theorem isPrefixOf_append_separator (h : separator ∉ part) (front back : List Char) :
    part.isPrefixOf (front ++ separator :: back) = part.isPrefixOf front := by
  induction part generalizing front with
  | nil => cases front <;> rfl
  | cons c rest ih =>
    rw [List.mem_cons, not_or] at h
    cases front with
    | nil =>
      have hne : (c == separator) = false := by simpa using Ne.symm h.1
      show (c == separator && _) = false
      rw [hne, Bool.false_and]
    | cons b front =>
      rw [List.cons_append, List.isPrefixOf_cons_cons, List.isPrefixOf_cons_cons, ih h.2]

theorem occursIn_append_separator (h : separator ∉ part) (hpart : part ≠ []) (front back : List Char) :
    occursIn part (front ++ separator :: back) = (occursIn part front || occursIn part back) := by
  induction front with
  | nil =>
    have hnone : part.isPrefixOf ([] ++ separator :: back) = false := by
      rw [isPrefixOf_append_separator h]
      cases part with
      | nil => exact absurd rfl hpart
      | cons c rest => rfl
    have hempty : occursIn part [] = false := by
      cases part with
      | nil => exact absurd rfl hpart
      | cons c rest => rfl
    rw [List.nil_append] at hnone ⊢
    show (part.isPrefixOf (separator :: back) || occursIn part back) = _
    rw [hnone, hempty]
  | cons c front ih =>
    rw [List.cons_append, occursIn, ih, occursIn, ← List.cons_append, isPrefixOf_append_separator h, Bool.or_assoc]

theorem occursIn_append_of_not_mem {first : Char} {others front : List Char} (h : first ∉ front) (back : List Char) :
    occursIn (first :: others) (front ++ back) = occursIn (first :: others) back := by
  induction front with
  | nil => rfl
  | cons c front ih =>
    rw [List.mem_cons, not_or] at h
    have hne : (first == c) = false := by simpa using h.1
    rw [List.cons_append, occursIn, List.isPrefixOf_cons_cons, hne, Bool.false_and, Bool.false_or]
    exact ih h.2

theorem replaceFrom_length (text : List Char) : replaceFrom part value text.length text = [] := by
  induction text with
  | nil => rfl
  | cons c rest ih => rw [List.length_cons, replaceFrom, ih]

theorem replaceAll_self (hpart : part ≠ []) : replaceAll part value part = value := by
  cases part with
  | nil => exact absurd rfl hpart
  | cons c rest =>
    unfold replaceAll
    rw [replaceFrom, if_pos (by simp), List.length_cons, Nat.add_sub_cancel, replaceFrom_length, List.append_nil]

theorem replaceAll_of_not_occurs {text : List Char} (h : occursIn part text = false) :
    replaceAll part value text = text := by
  induction text with
  | nil => rfl
  | cons c rest ih =>
    rw [occursIn, Bool.or_eq_false_iff] at h
    unfold replaceAll at ih ⊢
    rw [replaceFrom, h.1, if_neg Bool.false_ne_true, ih h.2]

theorem replaceFrom_append_separator (h : separator ∉ part) (hpart : part ≠ []) (front back : List Char) {skip : Nat}
    (hskip : skip ≤ front.length) :
    replaceFrom part value skip (front ++ separator :: back) =
      replaceFrom part value skip front ++ separator :: replaceAll part value back := by
  induction front generalizing skip with
  | nil =>
    have hnone : part.isPrefixOf (separator :: back) = false := by
      have := isPrefixOf_append_separator h [] back
      rw [List.nil_append] at this
      rw [this]
      cases part with
      | nil => exact absurd rfl hpart
      | cons c rest => rfl
    rw [Nat.le_zero.1 hskip, List.nil_append]
    show (if part.isPrefixOf (separator :: back) then _ else separator :: replaceFrom part value 0 back) = _
    rw [hnone, if_neg Bool.false_ne_true]
    rfl
  | cons c front ih =>
    rw [List.length_cons] at hskip
    cases skip with
    | succ skip =>
      rw [List.cons_append, replaceFrom, replaceFrom]
      exact ih (Nat.le_of_succ_le_succ hskip)
    | zero =>
      rw [List.cons_append, replaceFrom, replaceFrom, ← List.cons_append, isPrefixOf_append_separator h]
      by_cases hp : part.isPrefixOf (c :: front) = true
      · have hlength := (List.isPrefixOf_iff_prefix.1 hp).length_le
        rw [List.length_cons] at hlength
        rw [if_pos hp, if_pos hp, ih (by omega), List.append_assoc]
      · rw [if_neg hp, if_neg hp, ih (Nat.zero_le _)]
        rfl

/-- **What stands before a wall and what stands behind it are replaced apart.** -/
theorem replaceAll_append_separator (h : separator ∉ part) (hpart : part ≠ []) (front back : List Char) :
    replaceAll part value (front ++ separator :: back) =
      replaceAll part value front ++ separator :: replaceAll part value back :=
  replaceFrom_append_separator h hpart front back (Nat.zero_le _)

end Scaffold.Text
