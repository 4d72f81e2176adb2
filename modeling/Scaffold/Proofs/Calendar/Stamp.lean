import Mathlib.Algebra.Order.Ring.Int
import Scaffold.Clock
import Scaffold.Proofs.Text.Order
/-!
# Proofs.Calendar.Stamp — stamps stand in the order of time

Of two days the later one has the later date, compared by year, month and day (`date_lt`), for a year's days are
those between its beginning and the next one's (`yearOf_bounds`).  Each field of a stamp has a fixed width, so fields
compare as their numbers do (`padded_append_lt`), and the stamp of an earlier instant stands before that of a later one
(`stamp_append_before`), as long as both years have four digits.
-/
namespace Scaffold.Calendar

/-! ## Years -/

theorem yearStart_le {x y : Int} (h : x ≤ y) : yearStart x ≤ yearStart y := by
  unfold yearStart
  omega

theorem yearOf_bounds (n : Int) : yearStart (yearOf n) ≤ n ∧ n < yearStart (yearOf n + 1) := by
  unfold yearOf
  dsimp only
  split
  · rename_i hearly
    refine ⟨?_, by rwa [Int.sub_add_cancel]⟩
    unfold yearStart
    omega
  · split
    · rename_i hlate
      refine ⟨hlate, ?_⟩
      unfold yearStart
      omega
    · omega

theorem yearOf_le {m n : Int} (h : m ≤ n) : yearOf m ≤ yearOf n := by
  have hm := (yearOf_bounds m).1
  have hn := (yearOf_bounds n).2
  refine Int.not_lt.1 fun hlt => ?_
  have := yearStart_le (show yearOf n + 1 ≤ yearOf m by omega)
  omega

theorem sum_monthLengths (y : Int) : ((monthLengths y).sum : Int) = yearStart (y + 1) - yearStart y := by
  unfold monthLengths isLeap yearStart
  simp only [Bool.and_eq_true, Bool.or_eq_true, beq_iff_eq, bne_iff_ne]
  split <;> simp only [List.sum_cons, List.sum_nil] <;> omega

theorem length_monthLengths (y : Int) : (monthLengths y).length = 12 := rfl

theorem monthLengths_le (y : Int) : ∀ length ∈ monthLengths y, length ≤ 31 := by
  unfold monthLengths
  split <;> decide

/-! ## Months -/

theorem le_monthAndDay (month : Nat) (lengths : List Nat) (offset : Nat) :
    month ≤ (monthAndDay month lengths offset).1 := by
  induction lengths generalizing month offset with
  | nil => exact Nat.le_refl _
  | cons length rest ih =>
    rw [monthAndDay]
    split
    · exact Nat.le_refl _
    · exact Nat.le_of_succ_le (ih (month + 1) (offset - length))

theorem monthAndDay_bounds {bound : Nat} {lengths : List Nat} (hlengths : ∀ length ∈ lengths, length ≤ bound)
    (month offset : Nat) (h : offset < lengths.sum) :
    (monthAndDay month lengths offset).1 < month + lengths.length ∧ (monthAndDay month lengths offset).2 ≤ bound := by
  induction lengths generalizing month offset with
  | nil => simp at h
  | cons length rest ih =>
    rw [monthAndDay, List.length_cons]
    rw [List.sum_cons] at h
    split
    · have := hlengths length List.mem_cons_self
      exact ⟨by omega, by show offset + 1 ≤ bound; omega⟩
    · obtain ⟨hlast, hday⟩ := ih (fun l hl => hlengths l (List.mem_cons_of_mem _ hl)) (month + 1)
        (offset - length) (by omega)
      exact ⟨by omega, hday⟩

/-- **A later day of a year has the later month, or the same month and the later day.** -/
theorem monthAndDay_lt (month : Nat) {lengths : List Nat} {m n : Nat} (h : m < n) (hn : n < lengths.sum) :
    (monthAndDay month lengths m).1 < (monthAndDay month lengths n).1 ∨
      (monthAndDay month lengths m).1 = (monthAndDay month lengths n).1 ∧
        (monthAndDay month lengths m).2 < (monthAndDay month lengths n).2 := by
  induction lengths generalizing month m n with
  | nil => simp at hn
  | cons length rest ih =>
    rw [List.sum_cons] at hn
    rw [monthAndDay, monthAndDay]
    by_cases hhere : n < length
    · rw [if_pos (Nat.lt_trans h hhere), if_pos hhere]
      exact .inr ⟨rfl, Nat.succ_lt_succ h⟩
    · rw [if_neg hhere]
      split
      · exact .inl (le_monthAndDay (month + 1) rest (n - length))
      · exact ih (month + 1) (by omega) (by omega)

/-! ## Dates -/

/-- A date stands before another by year, then by month, then by day. -/
def Date.Before (a b : Date) : Prop :=
  a.year < b.year ∨ a.year = b.year ∧ (a.month < b.month ∨ a.month = b.month ∧ a.day < b.day)

theorem offset_lt (n : Int) : (n - yearStart (yearOf n)).toNat < (monthLengths (yearOf n)).sum := by
  obtain ⟨hlow, hhigh⟩ := yearOf_bounds n
  have := sum_monthLengths (yearOf n)
  omega

theorem year_ofDayNumber (n : Int) : (Date.ofDayNumber n).year = yearOf n := rfl

theorem date_bounds (n : Int) : (Date.ofDayNumber n).month ≤ 12 ∧ (Date.ofDayNumber n).day ≤ 31 := by
  obtain ⟨hmonth, hday⟩ := monthAndDay_bounds (monthLengths_le (yearOf n)) 1 _ (offset_lt n)
  rw [length_monthLengths] at hmonth
  exact ⟨Nat.le_of_lt_succ hmonth, hday⟩

/-- **A later day has the later date.** -/
theorem date_lt {m n : Int} (h : m < n) : (Date.ofDayNumber m).Before (Date.ofDayNumber n) := by
  rcases Int.lt_or_eq_of_le (yearOf_le (Int.le_of_lt h)) with hlt | heq
  · exact .inl hlt
  · refine .inr ⟨heq, ?_⟩
    have hm := (yearOf_bounds m).1
    rw [heq] at hm
    have hoffset := offset_lt n
    have hlt := monthAndDay_lt 1 (m := (m - yearStart (yearOf n)).toNat) (by omega) hoffset
    unfold Date.ofDayNumber
    rw [heq]
    exact hlt

/-! ## Digits -/

theorem digitChar_lt {m n : Nat} (h : m < n) (hn : n < 10) : Nat.digitChar m < Nat.digitChar n := by
  have hall : ∀ n < 10, ∀ m < n, Nat.digitChar m < Nat.digitChar n := by decide
  exact hall n hn m h

theorem length_padded {width n : Nat} (hwidth : 0 < width) (hn : n < 10 ^ width) : (padded width n).length = width := by
  have := (Nat.length_toDigits_le_iff (b := 10) (by decide) hwidth).2 hn
  unfold padded
  rw [List.length_append, List.length_replicate]
  omega

theorem padded_succ {width : Nat} (hwidth : 0 < width) (n : Nat) :
    padded (width + 1) n = padded width (n / 10) ++ [Nat.digitChar (n % 10)] := by
  unfold padded
  dsimp only
  by_cases hn : n < 10
  · rw [Nat.div_eq_of_lt hn, Nat.mod_eq_of_lt hn, Nat.toDigits_of_lt_base hn, Nat.toDigits_of_lt_base (by decide)]
    obtain ⟨k, rfl⟩ : ∃ k, width = k + 1 := ⟨width - 1, by omega⟩
    show List.replicate (k + 1) '0' ++ _ = (List.replicate k '0' ++ ['0']) ++ _
    rw [← List.replicate_succ']
  · rw [Nat.toDigits_of_base_le (by decide) (Nat.le_of_not_lt hn), List.length_append, List.length_singleton,
      Nat.add_sub_add_right, List.append_assoc]

theorem padded_lt {width m n : Nat} (hwidth : 0 < width) (h : m < n) (hn : n < 10 ^ width) :
    padded width m < padded width n := by
  induction hwidth generalizing m n with
  | refl =>
    have hdigit : ∀ k < 10, padded 1 k = [Nat.digitChar k] := by decide
    rw [hdigit m (by omega), hdigit n (by omega)]
    exact List.cons_lt_cons_iff.2 (.inl (digitChar_lt h (by omega)))
  | @step width hwidth ih =>
    rw [padded_succ hwidth, padded_succ hwidth]
    rw [Nat.pow_succ] at hn
    rcases Nat.lt_or_eq_of_le (Nat.div_le_div_right (c := 10) (Nat.le_of_lt h)) with hlt | heq
    · have hlength : (padded width (m / 10)).length = (padded width (n / 10)).length := by
        rw [length_padded hwidth (by omega), length_padded hwidth (by omega)]
      exact Text.append_lt_append (ih hlt (by omega)) hlength _ _
    · rw [heq]
      exact List.append_left_lt (List.cons_lt_cons_iff.2 (.inl (digitChar_lt (by omega) (Nat.mod_lt _ (by decide)))))

/-- **Fields of one width compare as their numbers do**, and where these are equal, what follows decides. -/
theorem padded_append_lt {width m n : Nat} {x y : List Char} (hwidth : 0 < width) (hn : n < 10 ^ width)
    (h : m < n ∨ m = n ∧ x < y) : padded width m ++ x < padded width n ++ y := by
  rcases h with hlt | ⟨rfl, hrest⟩
  · have hlength : (padded width m).length = (padded width n).length := by
      rw [length_padded hwidth (Nat.lt_trans hlt hn), length_padded hwidth hn]
    exact Text.append_lt_append (padded_lt hwidth hlt hn) hlength x y
  · exact List.append_left_lt hrest

/-! ## Stamps -/

/-- Whether the year of an instant has four digits and no sign. -/
def HasFourDigits (i : Instant) : Prop := 0 ≤ yearOf (i / secondsPerDay) ∧ yearOf (i / secondsPerDay) ≤ 9999

instance (i : Instant) : Decidable (HasFourDigits i) := inferInstanceAs (Decidable (_ ∧ _))

variable {i j : Instant}

theorem stampChars_eq (h : HasFourDigits i) : stampChars i =
    padded 4 (yearOf (i / secondsPerDay)).toNat ++ '_' ::
    (padded 2 (Date.ofDayNumber (i / secondsPerDay)).month ++ '_' ::
    (padded 2 (Date.ofDayNumber (i / secondsPerDay)).day ++ '_' ::
    (padded 2 ((i % secondsPerDay).toNat / 3600) ++
    (padded 2 ((i % secondsPerDay).toNat / 60 % 60) ++ padded 2 ((i % secondsPerDay).toNat % 60))))) := by
  have hyear : yearDigits (yearOf (i / secondsPerDay)) = padded 4 (yearOf (i / secondsPerDay)).toNat := by
    unfold yearDigits
    rw [if_pos (by simpa [HasFourDigits] using h)]
  unfold stampChars
  dsimp only
  rw [year_ofDayNumber, hyear]
  simp only [List.append_assoc, List.cons_append]

/-- **The six digits of an earlier time of day stand before those of a later one.** -/
theorem timeDigits_lt {s t : Nat} (h : s < t) (ht : t < 86400) :
    padded 2 (s / 3600) ++ (padded 2 (s / 60 % 60) ++ padded 2 (s % 60)) <
      padded 2 (t / 3600) ++ (padded 2 (t / 60 % 60) ++ padded 2 (t % 60)) := by
  refine padded_append_lt (by decide) (by omega) ?_
  rcases Nat.lt_or_eq_of_le (Nat.div_le_div_right (c := 3600) (Nat.le_of_lt h)) with hlt | heq
  · exact .inl hlt
  refine .inr ⟨heq, padded_append_lt (by decide) (by omega) ?_⟩
  by_cases hlt : s / 60 % 60 < t / 60 % 60
  · exact .inl hlt
  · exact .inr ⟨by omega, padded_lt (by decide) (by omega) (by omega)⟩

theorem time_lt_day (i : Int) : (i % secondsPerDay).toNat < 86400 := by
  unfold secondsPerDay
  omega

theorem day_or_time_lt {i j : Int} (h : i < j) : i / secondsPerDay < j / secondsPerDay ∨
    i / secondsPerDay = j / secondsPerDay ∧ (i % secondsPerDay).toNat < (j % secondsPerDay).toNat := by
  unfold secondsPerDay
  omega

theorem length_stampChars (h : HasFourDigits i) : (stampChars i).length = 17 := by
  obtain ⟨hmonth, hday⟩ := date_bounds (i / secondsPerDay)
  have hyear := h.2
  have htime := time_lt_day i
  rw [stampChars_eq h]
  simp only [List.length_append, List.length_cons]
  rw [length_padded (by decide) (by omega), length_padded (by decide) (by omega), length_padded (by decide) (by omega),
    length_padded (by decide) (by omega), length_padded (by decide) (by omega), length_padded (by decide) (by omega)]

/-- **The stamp of an earlier instant stands before that of a later one.** -/
theorem stampChars_lt (hi : HasFourDigits i) (hj : HasFourDigits j) (h : i < j) : stampChars i < stampChars j := by
  obtain ⟨hmonth, hday⟩ := date_bounds (j / secondsPerDay)
  have htime := time_lt_day j
  have hyears := hj.2
  have hyear := hi.1
  have hdate : (Date.ofDayNumber (i / secondsPerDay)).Before (Date.ofDayNumber (j / secondsPerDay)) ∨
      Date.ofDayNumber (i / secondsPerDay) = Date.ofDayNumber (j / secondsPerDay) ∧
        (i % secondsPerDay).toNat < (j % secondsPerDay).toNat := by
    rcases day_or_time_lt h with hlt | ⟨heq, hlt⟩
    · exact .inl (date_lt hlt)
    · exact .inr ⟨congrArg _ heq, hlt⟩
  rw [stampChars_eq hi, stampChars_eq hj]
  rw [← year_ofDayNumber] at hyear hyears ⊢
  rw [← year_ofDayNumber (j / secondsPerDay)]
  generalize Date.ofDayNumber (i / secondsPerDay) = a at hdate hyear ⊢
  generalize Date.ofDayNumber (j / secondsPerDay) = b at hdate hyears hmonth hday ⊢
  generalize (i % secondsPerDay).toNat = s at hdate ⊢
  generalize (j % secondsPerDay).toNat = t at hdate htime ⊢
  have hsign {x y : List Char} (hxy : x < y) : '_' :: x < '_' :: y := List.cons_lt_cons_iff.2 (.inr ⟨rfl, hxy⟩)
  -- The first field that differs decides.
  rcases hdate with (hlt | ⟨heq, hlt | ⟨heq', hlt⟩⟩) | ⟨rfl, hlt⟩
  · exact padded_append_lt (by decide) (by omega) (.inl (by omega))
  · refine padded_append_lt (by decide) (by omega) (.inr ⟨by rw [heq], hsign ?_⟩)
    exact padded_append_lt (by decide) (by omega) (.inl hlt)
  · refine padded_append_lt (by decide) (by omega) (.inr ⟨by rw [heq], hsign ?_⟩)
    refine padded_append_lt (by decide) (by omega) (.inr ⟨heq', hsign ?_⟩)
    exact padded_append_lt (by decide) (by omega) (.inl hlt)
  · refine List.append_left_lt (hsign (List.append_left_lt (hsign (List.append_left_lt (hsign ?_)))))
    exact timeDigits_lt hlt htime

theorem toList_stamp (i : Instant) : (stamp i).toList = stampChars i := String.toList_ofList

/-- **What begins with the stamp of an earlier instant stands before what begins with that of a later one.** -/
theorem stamp_append_before (hi : HasFourDigits i) (hj : HasFourDigits j) (h : i < j) (a b : String) :
    Text.Before (stamp i ++ a) (stamp j ++ b) := by
  have hlength : (stampChars i).length = (stampChars j).length := by
    rw [length_stampChars hi, length_stampChars hj]
  refine Text.before_of_lt ?_
  rw [String.toList_append, String.toList_append, toList_stamp, toList_stamp]
  exact Text.append_lt_append (stampChars_lt hi hj h) hlength _ _

/-- **An instant can be told from what begins with its stamp.** -/
theorem stamp_append_inj (hi : HasFourDigits i) (hj : HasFourDigits j) {a b : String}
    (h : stamp i ++ a = stamp j ++ b) : i = j := by
  rcases Int.lt_trichotomy i j with hlt | heq | hgt
  · have hbefore := stamp_append_before hi hj hlt a b
    rw [h] at hbefore
    exact absurd hbefore (Text.Before.irrefl _)
  · exact heq
  · have hbefore := stamp_append_before hj hi hgt b a
    rw [h] at hbefore
    exact absurd hbefore (Text.Before.irrefl _)

end Scaffold.Calendar
