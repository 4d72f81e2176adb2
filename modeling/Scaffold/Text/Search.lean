/-!
# Text.Search — finding and replacing a text inside another

Both searches go once from left to right.  `replaceAll` does not look again at what it has written, so a value that
holds the sought text stays as it is.
-/
namespace Scaffold.Text

/-- Whether `part` stands somewhere in the text. -/
def occursIn (part : List Char) : List Char → Bool
  | [] => part.isEmpty
  | c :: rest => part.isPrefixOf (c :: rest) || occursIn part rest

/-- Replaces the occurrences of `part` that begin after the next `skip` characters; those belong to an occurrence
already replaced. -/
def replaceFrom (part value : List Char) : Nat → List Char → List Char
  | _, [] => []
  | skip + 1, _ :: rest => replaceFrom part value skip rest
  | 0, c :: rest =>
    if part.isPrefixOf (c :: rest) then value ++ replaceFrom part value (part.length - 1) rest
    else c :: replaceFrom part value 0 rest

/-- Replaces every occurrence of `part`, which is not empty, by `value`. -/
def replaceAll (part value text : List Char) : List Char := replaceFrom part value 0 text

theorem occursIn_iff {part text : List Char} :
    occursIn part text = true ↔ ∃ before after, text = before ++ part ++ after := by
  induction text with
  | nil =>
    simp only [occursIn, List.isEmpty_iff]
    constructor
    · rintro rfl
      exact ⟨[], [], rfl⟩
    · rintro ⟨before, after, h⟩
      cases before <;> simp_all
  | cons c rest ih =>
    simp only [occursIn, Bool.or_eq_true, ih, List.isPrefixOf_iff_prefix]
    constructor
    · rintro (⟨after, h⟩ | ⟨before, after, h⟩)
      · exact ⟨[], after, by simp [h]⟩
      · exact ⟨c :: before, after, by simp [h]⟩
    · rintro ⟨before, after, h⟩
      cases before with
      | nil => exact .inl ⟨after, by simpa using h.symm⟩
      | cons b before =>
        simp only [List.cons_append, List.cons.injEq] at h
        exact .inr ⟨before, after, by simp [h.2]⟩

end Scaffold.Text
