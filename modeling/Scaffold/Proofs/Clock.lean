import Scaffold.Clock
/-!
# Proofs.Clock — a clock never hands out an instant twice

What a clock hands out is later than what it has handed out last (`lt_upcoming`).  So the instants of one clock increase
for ever, whatever its wall shows (`HandsOut.increases`).  A clock whose wall stands still leaves no second out
(`HandsOut.counts`).
-/
namespace Scaffold.Clock

open Calendar (Instant Reading)

variable {c c' c'' : Clock} {i last : Instant} {instants : List Instant}

theorem next_ok : c.next = some (i, c') ↔
    c.upcoming ≤ Calendar.lastInstant ∧ i = c.upcoming ∧ c' = { c with asked := c.asked + 1, last := some i } := by
  unfold next
  split
  · rename_i hbefore
    constructor
    · intro h
      cases h
      exact ⟨hbefore, rfl, rfl⟩
    · rintro ⟨-, rfl, rfl⟩
      rfl
  · rename_i hover
    constructor
    · intro h
      cases h
    · rintro ⟨hbefore, -, -⟩
      exact absurd hbefore hover

theorem lt_upcoming (h : c.last = some last) : last < c.upcoming := by
  unfold upcoming
  rw [h]
  dsimp only
  split
  · exact Int.lt_succ last
  · rename_i hlater
    exact Int.not_le.1 hlater

/-- The instants that a clock hands out, one after the other, until it is the clock `c'`. -/
inductive HandsOut : Clock → List Instant → Clock → Prop where
  | nothing (c : Clock) : HandsOut c [] c
  | next {c c' c'' : Clock} {i : Instant} {instants : List Instant} :
      c.next = some (i, c') → HandsOut c' instants c'' → HandsOut c (i :: instants) c''

namespace HandsOut

theorem trans {later : List Instant} (h : c.HandsOut instants c') (h' : c'.HandsOut later c'') :
    c.HandsOut (instants ++ later) c'' := by
  induction h with
  | nothing c => exact h'
  | next hnext _ ih => exact .next hnext (ih h')

theorem one (h : c.next = some (i, c')) : c.HandsOut [i] c' := .next h (.nothing c')

theorem lt (h : c.HandsOut instants c') (hlast : c.last = some last) : ∀ i ∈ instants, last < i := by
  induction h generalizing last with
  | nothing c =>
    intro i hi
    cases hi
  | next hnext _ ih =>
    obtain ⟨-, rfl, rfl⟩ := next_ok.1 hnext
    have hfirst := lt_upcoming hlast
    intro i hi
    rcases List.mem_cons.1 hi with rfl | hi
    · exact hfirst
    · exact Int.lt_trans hfirst (ih rfl i hi)

theorem upcoming_le (h : c.HandsOut instants c') : ∀ i ∈ instants, c.upcoming ≤ i := by
  cases h with
  | nothing c =>
    intro i hi
    cases hi
  | next hnext hrest =>
    obtain ⟨-, rfl, rfl⟩ := next_ok.1 hnext
    intro i hi
    rcases List.mem_cons.1 hi with rfl | hi
    · exact Int.le_refl _
    · exact Int.le_of_lt (hrest.lt rfl i hi)

theorem le_last (h : c.HandsOut instants c') : ∀ i ∈ instants, ∃ last, c'.last = some last ∧ i ≤ last := by
  induction h with
  | nothing c =>
    intro i hi
    cases hi
  | @next c₀ c₁ c₂ first rest hnext hrest ih =>
    obtain ⟨-, rfl, rfl⟩ := next_ok.1 hnext
    intro i hi
    rcases List.mem_cons.1 hi with rfl | hi
    · -- What comes behind the first instant is later, and bounded already.
      cases rest with
      | nil =>
        cases hrest
        exact ⟨_, rfl, Int.le_refl _⟩
      | cons second others =>
        obtain ⟨last, hlast, hle⟩ := ih second List.mem_cons_self
        exact ⟨last, hlast, Int.le_trans (Int.le_of_lt (hrest.lt rfl second List.mem_cons_self)) hle⟩
    · exact ih i hi

/-- **The instants of a clock increase.** -/
theorem increases (h : c.HandsOut instants c') : instants.Pairwise (· < ·) := by
  induction h with
  | nothing c => exact .nil
  | next hnext hrest ih =>
    obtain ⟨-, rfl, rfl⟩ := next_ok.1 hnext
    exact List.pairwise_cons.2 ⟨hrest.lt rfl, ih⟩

end HandsOut

/-! ## A wall that stands still -/

/-- A clock whose wall stands still, and which has handed out no instant before the one that it shows. -/
structure StandsAt (reading : Reading) (c : Clock) : Prop where
  wall : ∀ n, c.wall n = reading
  last : ∀ last, c.last = some last → reading.truncate ≤ last

variable {reading : Reading}

theorem standsAt_fixed (reading : Reading) : (fixed reading).StandsAt reading :=
  ⟨fun _ => rfl, fun _ h => by cases h⟩

theorem StandsAt.upcoming_of_last (h : c.StandsAt reading) (hlast : c.last = some last) : c.upcoming = last + 1 := by
  unfold upcoming
  rw [hlast, h.wall]
  exact if_pos (h.last last hlast)

theorem StandsAt.le_upcoming (h : c.StandsAt reading) : reading.truncate ≤ c.upcoming := by
  cases hlast : c.last with
  | none =>
    have hnow : c.upcoming = reading.truncate := by
      unfold upcoming
      rw [hlast, h.wall]
    exact Int.le_of_eq hnow.symm
  | some last =>
    rw [h.upcoming_of_last hlast]
    exact Int.le_trans (h.last last hlast) (Int.le_of_lt (Int.lt_succ last))

theorem StandsAt.next (h : c.StandsAt reading) (hnext : c.next = some (i, c')) :
    c'.StandsAt reading ∧ i = c.upcoming ∧ c'.upcoming = i + 1 := by
  obtain ⟨-, rfl, rfl⟩ := next_ok.1 hnext
  have hlater : StandsAt reading { c with asked := c.asked + 1, last := some c.upcoming } := by
    refine ⟨h.wall, fun last hlast => ?_⟩
    cases hlast
    exact h.le_upcoming
  exact ⟨hlater, rfl, hlater.upcoming_of_last rfl⟩

/-- **A clock whose wall stands still counts from the instant that it hands out next**, whatever it has handed out
before. -/
theorem next_of_wall (hwall : ∀ n, c.wall n = reading) (hend : c.upcoming ≤ Calendar.lastInstant) :
    ∃ c', c.next = some (c.upcoming, c') ∧ c'.StandsAt reading ∧ c'.last = some c.upcoming ∧
      c'.upcoming = c.upcoming + 1 := by
  have hnow : reading.truncate ≤ c.upcoming := by
    unfold upcoming
    rw [hwall]
    cases c.last with
    | none => exact Int.le_refl _
    | some last =>
      dsimp only
      split
      · rename_i hle
        exact Int.le_trans hle (Int.le_of_lt (Int.lt_succ last))
      · exact Int.le_refl _
  have hstands : StandsAt reading { c with asked := c.asked + 1, last := some c.upcoming } := by
    refine ⟨hwall, fun last hlast => ?_⟩
    cases hlast
    exact hnow
  exact ⟨_, next_ok.2 ⟨hend, rfl, rfl⟩, hstands, rfl, hstands.upcoming_of_last rfl⟩

/-- **Where the wall stands still, every second is handed out.** -/
theorem HandsOut.counts (h : c.HandsOut instants c') (hc : c.StandsAt reading) : c'.StandsAt reading ∧
    c.upcoming ≤ c'.upcoming ∧ ∀ i : Int, i ∈ instants ↔ c.upcoming ≤ i ∧ i < c'.upcoming := by
  induction h with
  | nothing c =>
    refine ⟨hc, Int.le_refl _, fun i => ?_⟩
    simp
  | next hnext _ ih =>
    obtain ⟨hlater, rfl, hsecond⟩ := hc.next hnext
    obtain ⟨hstands, hle, hmem⟩ := ih hlater
    rw [hsecond] at hle hmem
    refine ⟨hstands, Int.le_trans (Int.le_of_lt (Int.lt_succ _)) hle, fun i => ?_⟩
    rw [List.mem_cons, hmem]
    dsimp only [Instant] at hle ⊢
    omega

theorem HandsOut.skips {skipped : List Instant} (h : c.HandsOut (skipped ++ [i]) c') (hc : c.StandsAt reading) :
    c'.StandsAt reading ∧ c.upcoming ≤ i ∧ c'.upcoming = i + 1 ∧
      ∀ j : Int, j ∈ skipped ↔ c.upcoming ≤ j ∧ j < i := by
  obtain ⟨hstands, hle, hmem⟩ := h.counts hc
  obtain ⟨-, -, hbefore⟩ := List.pairwise_append.1 h.increases
  have hskipped : ∀ j ∈ skipped, j < i := fun j hj => hbefore j hj i (List.mem_singleton_self i)
  have hi := (hmem i).1 (List.mem_append_right _ (List.mem_singleton_self i))
  have hlatest : c'.upcoming - 1 ∈ skipped ++ [i] :=
    (hmem _).2 ⟨Int.le_sub_one_of_lt (Int.lt_of_le_of_lt hi.1 hi.2), Int.sub_lt_self _ (by decide)⟩
  have hend : c'.upcoming = i + 1 := by
    refine Int.le_antisymm (Int.le_add_of_sub_right_le ?_) (Int.add_one_le_of_lt hi.2)
    rcases List.mem_append.1 hlatest with hlast | hlast
    · exact Int.le_of_lt (hskipped _ hlast)
    · exact Int.le_of_eq (List.mem_singleton.1 hlast)
  refine ⟨hstands, hi.1, hend, fun j => ⟨fun hj => ⟨?_, hskipped j hj⟩, fun ⟨hlow, hhigh⟩ => ?_⟩⟩
  · exact ((hmem j).1 (List.mem_append_left _ hj)).1
  · refine (List.mem_append.1 ((hmem j).2 ⟨hlow, Int.lt_trans hhigh hi.2⟩)).resolve_right fun hlast => ?_
    rw [List.mem_singleton.1 hlast] at hhigh
    exact Int.lt_irrefl _ hhigh

end Scaffold.Clock
