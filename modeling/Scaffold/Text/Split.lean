/-!
# Text.Split — cutting a text at a character
-/
namespace Scaffold.Text

/-- The parts between the occurrences of a character.  There is always one part more than there are occurrences. -/
def splitAt (separator : Char) : List Char → List (List Char)
  | [] => [[]]
  | c :: rest =>
    match splitAt separator rest with
    | part :: parts => if c = separator then [] :: part :: parts else (c :: part) :: parts
    | [] => []

def split (separator : Char) (text : String) : List String := (splitAt separator text.toList).map String.ofList

theorem splitAt_ne_nil (separator : Char) (text : List Char) : splitAt separator text ≠ [] := by
  induction text with
  | nil => simp [splitAt]
  | cons c rest ih =>
    rw [splitAt]
    split
    · split <;> simp
    · contradiction

theorem not_mem_of_mem_splitAt {separator : Char} {text part : List Char} (h : part ∈ splitAt separator text) :
    separator ∉ part := by
  induction text generalizing part with
  | nil =>
    rw [splitAt, List.mem_singleton] at h
    subst h
    exact List.not_mem_nil
  | cons c rest ih =>
    rw [splitAt] at h
    cases hs : splitAt separator rest with
    | nil => exact absurd hs (splitAt_ne_nil _ _)
    | cons first parts =>
      simp only [hs] at h
      rw [hs] at ih
      split at h
      · rcases List.mem_cons.1 h with rfl | h
        · exact List.not_mem_nil
        · exact ih h
      · rename_i hne
        rcases List.mem_cons.1 h with rfl | h
        · rw [List.mem_cons, not_or]
          exact ⟨Ne.symm hne, ih List.mem_cons_self⟩
        · exact ih (List.mem_cons_of_mem _ h)

theorem splitAt_of_not_mem {separator : Char} {text : List Char} (h : separator ∉ text) :
    splitAt separator text = [text] := by
  induction text with
  | nil => rfl
  | cons c rest ih =>
    rw [List.mem_cons, not_or] at h
    rw [splitAt, ih h.2]
    simp [Ne.symm h.1]

/-- A separator cuts the text for good: what stands before it and what stands behind it are cut apart. -/
theorem splitAt_append_separator (separator : Char) (front back : List Char) :
    splitAt separator (front ++ separator :: back) = splitAt separator front ++ splitAt separator back := by
  induction front with
  | nil =>
    cases h : splitAt separator back with
    | nil => exact absurd h (splitAt_ne_nil _ _)
    | cons part parts => simp [splitAt, h]
  | cons c rest ih =>
    rw [List.cons_append, splitAt, ih, splitAt]
    cases h : splitAt separator rest with
    | nil => exact absurd h (splitAt_ne_nil _ _)
    | cons part parts =>
      simp only [List.cons_append]
      split <;> rfl

/-- The first separator tells where a text without it ends. -/
theorem eq_of_append_separator {separator : Char} {front front' back back' : List Char} (hfront : separator ∉ front)
    (hfront' : separator ∉ front') (h : front ++ separator :: back = front' ++ separator :: back') :
    front = front' ∧ back = back' := by
  have hsplit := congrArg (splitAt separator) h
  rw [splitAt_append_separator, splitAt_append_separator, splitAt_of_not_mem hfront, splitAt_of_not_mem hfront',
    List.singleton_append, List.singleton_append, List.cons.injEq] at hsplit
  obtain rfl := hsplit.1
  exact ⟨rfl, (List.cons.inj (List.append_cancel_left h)).2⟩

end Scaffold.Text
