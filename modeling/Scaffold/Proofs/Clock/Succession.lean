import Scaffold.Generation.Workspace
import Scaffold.Proofs.Calendar.Civil
import Scaffold.Proofs.Clock
import Scaffold.Proofs.Effect
/-!
# Proofs.Clock.Succession — what a clock hands out is told from its wall

Each instant that a clock hands out follows from the one before it and from one reading of the wall.  So what a clock
hands out can be told beforehand, reading by reading (`succession`).  Unless the calendar ends before, it is handed out,
and the stamps stand in the order in which they are taken (`handsOut_succession`).
-/
namespace Scaffold.Clock

open Calendar (Instant Reading HasFourDigits InCalendar stamp)

variable {c c' : Clock} {i : Instant}

/-- **The instant that follows another at a reading**: the reading without its fraction if that is later, and otherwise
one second later.  The first instant is the reading without its fraction. -/
def following : Option Instant → Reading → Instant
  | none, reading => reading.truncate
  | some previous, reading => if previous < reading.truncate then reading.truncate else previous + 1

/-- The instants that follow one another at the readings of a clock's wall, from the next one on. -/
def succession (c : Clock) : Nat → Instant
  | 0 => following c.last (c.wall c.asked)
  | k + 1 => following (some (c.succession k)) (c.wall (c.asked + (k + 1)))

theorem upcoming_eq (c : Clock) : c.upcoming = c.succession 0 := by
  show c.upcoming = following c.last (c.wall c.asked)
  unfold upcoming
  cases c.last with
  | none => rfl
  | some previous =>
    dsimp only [following]
    by_cases hlater : previous < (c.wall c.asked).truncate
    · rw [if_pos hlater]
      exact if_neg (Int.not_le.2 hlater)
    · rw [if_neg hlater]
      exact if_pos (Int.not_lt.1 hlater)

/-- **Once an instant is handed out, those that follow it are left.** -/
theorem succession_next (h : c.next = some (i, c')) (k : Nat) : c'.succession k = c.succession (k + 1) := by
  obtain ⟨-, rfl, rfl⟩ := next_ok.1 h
  induction k with
  | zero =>
    show following (some c.upcoming) (c.wall (c.asked + 1)) = _
    rw [upcoming_eq]
    rfl
  | succ k ih =>
    show following (some _) (c.wall (c.asked + 1 + (k + 1))) = following (some _) (c.wall (c.asked + (k + 1 + 1)))
    rw [ih, Nat.add_assoc, Nat.add_comm 1]

theorem exists_handsOut {n : Nat} (h : ∀ k < n, c.succession k ≤ Calendar.lastInstant) :
    ∃ c', c.HandsOut ((List.range n).map c.succession) c' := by
  induction n generalizing c with
  | zero => exact ⟨c, .nothing c⟩
  | succ n ih =>
    have hbefore : c.upcoming ≤ Calendar.lastInstant := by
      rw [upcoming_eq]
      exact h 0 (Nat.zero_lt_succ n)
    have hnext := next_ok.2 ⟨hbefore, rfl, rfl⟩
    have hlater := succession_next hnext
    obtain ⟨c', hrest⟩ := ih (fun k hk => (hlater k).symm ▸ h (k + 1) (Nat.succ_lt_succ hk))
    rw [List.map_congr_left fun k _ => hlater k] at hrest
    rw [List.range_succ_eq_map, List.map_cons, List.map_map, ← upcoming_eq]
    exact ⟨c', .next hnext hrest⟩

/-- **The stamps that are taken one after the other** are those of the instants that the clock hands out. -/
theorem HandsOut.nextStamps {instants : List Instant} (h : c.HandsOut instants c') {w : Workspace} (hw : w.clock = c) :
    (List.replicate instants.length Generation.nextStamp).mapM id w =
      .ok (instants.map stamp) { w with clock := c' } := by
  induction h generalizing w with
  | nothing c =>
    subst hw
    rfl
  | @next c₀ c₁ c₂ i instants hnext _ ih =>
    have hfirst : Generation.nextStamp w = .ok (stamp i) { w with clock := c₁ } := by
      unfold Generation.nextStamp
      rw [hw, hnext]
    have hrest := ih (w := { w with clock := c₁ }) rfl
    rw [List.length_cons, List.replicate_succ, List.mapM_cons, bind_of_ok (x := id Generation.nextStamp) hfirst,
      bind_of_ok hrest]
    rfl

/-- **A clock hands out what follows at the readings of its wall**, whatever these are, as long as it stays in the
calendar.  The instants increase; the stamp of each writes the date and the time of day that read as it; and as long as
the years have four digits, all stamps have 17 characters and stand in the order in which they are taken. -/
theorem handsOut_succession (c : Clock) (n : Nat) (h : ∀ k < n, InCalendar (c.succession k)) :
    (∃ c', c.HandsOut ((List.range n).map c.succession) c' ∧ ∀ w : Workspace, w.clock = c →
      (List.replicate n Generation.nextStamp).mapM id w =
        .ok ((List.range n).map fun k => stamp (c.succession k)) { w with clock := c' }) ∧
    ((List.range n).map c.succession).Pairwise (· < ·) ∧
    (∀ k < n, ∃ date hour minute second, Reading.ofCivil? date hour minute second 0 = some ⟨c.succession k, 0⟩ ∧
      stamp (c.succession k) = Calendar.written date hour minute second ∧
      (HasFourDigits (c.succession k) ↔ 0 ≤ date.year ∧ date.year ≤ 9999)) ∧
    ((∀ k < n, HasFourDigits (c.succession k)) →
      (∀ k < n, (stamp (c.succession k)).length = 17) ∧
      ((List.range n).map fun k => stamp (c.succession k)).Pairwise Text.Before) := by
  obtain ⟨c', hhands⟩ := exists_handsOut fun k hk => (h k hk).2
  have hincreases := hhands.increases
  have hstamps : ∀ w : Workspace, w.clock = c → (List.replicate n Generation.nextStamp).mapM id w =
      .ok ((List.range n).map fun k => stamp (c.succession k)) { w with clock := c' } := by
    intro w hw
    have htaken := hhands.nextStamps hw
    rwa [List.length_map, List.length_range, List.map_map] at htaken
  refine ⟨⟨c', hhands, hstamps⟩, hincreases, fun k hk => Calendar.exists_civil (h k hk), fun hyears => ⟨fun k hk => ?_, ?_⟩⟩
  · rw [← String.length_toList, Calendar.toList_stamp]
    exact Calendar.length_stampChars (hyears k hk)
  · refine List.pairwise_map.2 ((List.pairwise_map.1 hincreases).imp_of_mem fun {j k} hj hk hlt => ?_)
    refine Text.before_of_lt ?_
    rw [Calendar.toList_stamp, Calendar.toList_stamp]
    exact Calendar.stampChars_lt (hyears j (List.mem_range.1 hj)) (hyears k (List.mem_range.1 hk)) hlt

/-- A wall that shows a leap second, then the second before it again, then goes back a year, and then is right. -/
def strayWall : Nat → Reading
  | 0 => ⟨(⟨2016, 12, 31⟩ : Calendar.Date).dayNumber * 86400 + 86399, 1500000000⟩
  | 1 => ⟨(⟨2016, 12, 31⟩ : Calendar.Date).dayNumber * 86400 + 86399, 200000000⟩
  | 2 => ⟨(⟨2016, 1, 1⟩ : Calendar.Date).dayNumber * 86400, 0⟩
  | _ => ⟨(⟨2017, 2, 28⟩ : Calendar.Date).dayNumber * 86400 + 43200, 999999999⟩

def strayStamps : List String :=
  ["2016_12_31_235959", "2017_01_01_000000", "2017_01_01_000001", "2017_02_28_120000", "2017_02_28_120001"]

theorem handsOut_succession_stray : let c : Clock := { wall := strayWall }
    (∀ k < 5, InCalendar (c.succession k) ∧ HasFourDigits (c.succession k)) ∧ strayStamps.Pairwise Text.Before ∧
    ∃ c', (List.replicate 5 Generation.nextStamp).mapM id { disk := {}, clock := c } =
      .ok strayStamps { disk := {}, clock := c' } := by
  intro c
  have hyears : ∀ k < 5, InCalendar (c.succession k) ∧ HasFourDigits (c.succession k) := by decide +kernel
  have hstamps : ((List.range 5).map fun k => stamp (c.succession k)) = strayStamps := by decide +kernel
  obtain ⟨⟨c', -, htaken⟩, -, -, hordered⟩ := handsOut_succession c 5 fun k hk => (hyears k hk).1
  rw [hstamps] at htaken hordered
  exact ⟨hyears, (hordered fun k hk => (hyears k hk).2).2, c', htaken { disk := {}, clock := c } rfl⟩

end Scaffold.Clock
