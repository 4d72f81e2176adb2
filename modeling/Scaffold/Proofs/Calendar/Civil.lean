import Scaffold.Proofs.Calendar.Stamp
/-!
# Proofs.Calendar.Civil — a stamp writes the date and the time of day of its instant

The day of a year that lies some days after the first is in the month that is found by walking along the months, with all
the days of the months before it behind it (`monthAndDay_eq`).  So every day has a date that the calendar has and that
leads back to the day (`dayNumber_ofDayNumber`), and every instant of the calendar a date and a time of day that read as
it.  These are what its stamp writes (`exists_civil`).
-/
namespace Scaffold.Calendar

/-- What a stamp writes for a date and a time of day. -/
def written (date : Date) (hour minute second : Nat) : String :=
  String.ofList (yearDigits date.year ++ '_' :: padded 2 date.month ++ '_' :: padded 2 date.day ++ '_' ::
    padded 2 hour ++ padded 2 minute ++ padded 2 second)

def InCalendar (i : Instant) : Prop := firstInstant ≤ i ∧ i ≤ lastInstant

instance (i : Instant) : Decidable (InCalendar i) := inferInstanceAs (Decidable (_ ∧ _))

/-- **Where the walk along the months ends**: the days passed are those of the months passed and of the month found. -/
theorem monthAndDay_eq (month : Nat) {lengths : List Nat} {offset : Nat} (h : offset < lengths.sum) :
    ∃ passed day length, monthAndDay month lengths offset = (month + passed, day + 1) ∧
      lengths[passed]? = some length ∧ day < length ∧ (lengths.take passed).sum + day = offset := by
  induction lengths generalizing month offset with
  | nil => simp at h
  | cons length rest ih =>
    rw [List.sum_cons] at h
    rw [monthAndDay]
    split
    · rename_i hhere
      exact ⟨0, offset, length, rfl, rfl, hhere, Nat.zero_add offset⟩
    · rename_i hlater
      have hrest : offset - length < rest.sum := by omega
      obtain ⟨passed, day, found, heq, hfound, hday, hsum⟩ := ih (month + 1) hrest
      refine ⟨passed + 1, day, found, ?_, hfound, hday, ?_⟩
      · rw [heq, Nat.add_assoc, Nat.add_comm 1]
      · rw [List.take_succ_cons, List.sum_cons]
        omega

/-- **A day's date is one that the calendar has, and its day is that day.** -/
theorem dayNumber_ofDayNumber (n : Int) :
    (Date.ofDayNumber n).isValid = true ∧ (Date.ofDayNumber n).dayNumber = n := by
  have hlow := (yearOf_bounds n).1
  obtain ⟨passed, day, length, heq, hlength, hday, hsum⟩ := monthAndDay_eq 1 (offset_lt n)
  have hdate : Date.ofDayNumber n = ⟨yearOf n, 1 + passed, day + 1⟩ := by
    unfold Date.ofDayNumber
    dsimp only
    rw [heq]
  rw [hdate]
  constructor
  · unfold Date.isValid
    dsimp only
    rw [Nat.add_sub_cancel_left, hlength]
    simp only [Option.any_some, Bool.and_eq_true, decide_eq_true_eq]
    omega
  · unfold Date.dayNumber
    dsimp only
    rw [Nat.add_sub_cancel_left, ← List.sum_eq_foldr]
    omega

theorem day_and_time (i : Int) : i / secondsPerDay * secondsPerDay + ((i % secondsPerDay).toNat : Int) = i := by
  unfold secondsPerDay
  omega

/-- **A stamp writes the date and the time of day that read as its instant.** -/
theorem exists_civil {i : Instant} (h : InCalendar i) : ∃ date hour minute second,
    Reading.ofCivil? date hour minute second 0 = some ⟨i, 0⟩ ∧ stamp i = written date hour minute second ∧
      (HasFourDigits i ↔ 0 ≤ date.year ∧ date.year ≤ 9999) := by
  obtain ⟨hvalid, hday⟩ := dayNumber_ofDayNumber (i / secondsPerDay)
  have htime := time_lt_day i
  have hinstant := day_and_time i
  generalize hseconds : (i % secondsPerDay).toNat = seconds at htime hinstant
  have hsplit : seconds / 3600 * 3600 + seconds / 60 % 60 * 60 + seconds % 60 = seconds := by omega
  refine ⟨Date.ofDayNumber (i / secondsPerDay), seconds / 3600, seconds / 60 % 60, seconds % 60, ?_, ?_, .rfl⟩
  · unfold Reading.ofCivil?
    dsimp only
    rw [hvalid, hday, hsplit, hinstant, if_pos]
    simp only [Bool.true_and, Bool.and_eq_true, Bool.or_eq_true, decide_eq_true_eq]
    exact ⟨⟨⟨⟨⟨by omega, by omega⟩, by omega⟩, .inl (by decide)⟩, h.1⟩, h.2⟩
  · rw [← hseconds]
    rfl

end Scaffold.Calendar
