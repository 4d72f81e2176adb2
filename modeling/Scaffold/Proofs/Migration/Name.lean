import Scaffold.Clock
import Scaffold.Probe
import Scaffold.Proofs.Disk.Location
/-!
# Proofs.Migration.Name — the file names of migrations

A migration's file name is a single name unless its table or the extension brings a slash in, and it bears the marker
of its own table.
-/
namespace Scaffold

namespace Calendar

def IsStampChar (c : Char) : Prop := c.isDigit = true ∨ c = '_' ∨ c = '+' ∨ c = '-'

theorem isStampChar_padded (width n : Nat) : ∀ c ∈ padded width n, IsStampChar c := by
  intro c hc
  unfold padded at hc
  rcases List.mem_append.1 hc with hc | hc
  · rw [(List.mem_replicate.1 hc).2]
    exact .inl rfl
  · exact .inl (Nat.isDigit_of_mem_toDigits (by decide) (by decide) hc)

theorem isStampChar_yearDigits (year : Int) : ∀ c ∈ yearDigits year, IsStampChar c := by
  intro c hc
  unfold yearDigits at hc
  split at hc
  · exact isStampChar_padded _ _ c hc
  · rcases List.mem_cons.1 hc with rfl | hc
    · split
      · exact .inr (.inr (.inr rfl))
      · exact .inr (.inr (.inl rfl))
    · exact isStampChar_padded _ _ c hc

/-- **A stamp is made of digits, underscores and signs.** -/
theorem isStampChar_stamp (at_ : Instant) : ∀ c ∈ (stamp at_).toList, IsStampChar c := by
  intro c hc
  unfold stamp stampChars at hc
  rw [String.toList_ofList] at hc
  simp only [List.mem_append, List.mem_cons, or_assoc] at hc
  rcases hc with hc | rfl | hc | rfl | hc | rfl | hc | hc | hc
  · exact isStampChar_yearDigits _ c hc
  · exact .inr (.inl rfl)
  · exact isStampChar_padded _ _ c hc
  · exact .inr (.inl rfl)
  · exact isStampChar_padded _ _ c hc
  · exact .inr (.inl rfl)
  · exact isStampChar_padded _ _ c hc
  · exact isStampChar_padded _ _ c hc
  · exact isStampChar_padded _ _ c hc

end Calendar

namespace Migration

open Calendar (IsStampChar)

theorem toList_fileName (kind : ArtifactKind) (stamp table extension : String) :
    (fileName kind stamp table extension).toList =
      stamp.toList ++ '_' :: ((markerOf kind table).toList ++ '.' :: extension.toList) := by
  unfold fileName
  simp only [String.toList_append, List.append_assoc]
  rfl

theorem toList_createMarker (table : String) :
    (createMarker table).toList = 'c' :: ("reate_".toList ++ (table.toList ++ "_table".toList)) := by
  unfold createMarker
  simp only [String.toList_append, List.append_assoc]
  rfl

theorem toList_updateMarker (table : String) :
    (updateMarker table).toList = 'u' :: ("pdate_".toList ++ (table.toList ++ "_table".toList)) := by
  unfold updateMarker
  simp only [String.toList_append, List.append_assoc]
  rfl

theorem mem_markerOf {kind : ArtifactKind} {table : String} {c : Char} (h : c ∈ (markerOf kind table).toList) :
    c ∈ "createupdate_table".toList ∨ c ∈ table.toList := by
  have hcreate : c ∈ (createMarker table).toList → c ∈ "createupdate_table".toList ∨ c ∈ table.toList := by
    rw [toList_createMarker]
    simp only [String.reduceToList, List.mem_cons, List.mem_append, List.not_mem_nil, or_false]
    grind
  have hupdate : c ∈ (updateMarker table).toList → c ∈ "createupdate_table".toList ∨ c ∈ table.toList := by
    rw [toList_updateMarker]
    simp only [String.reduceToList, List.mem_cons, List.mem_append, List.not_mem_nil, or_false]
    grind
  cases kind with
  | updateMigration => exact hupdate h
  | createMigration => exact hcreate h
  | model => exact hcreate h
  | resource => exact hcreate h

/-- **A migration's file name is a name**, unless its table or its extension brings a slash in. -/
theorem isName_fileName {table extension : String} (htable : '/' ∉ table.toList) (hext : '/' ∉ extension.toList)
    (kind : ArtifactKind) (at_ : Calendar.Instant) :
    Disk.IsName (fileName kind (Calendar.stamp at_) table extension) := by
  have hlist := toList_fileName kind (Calendar.stamp at_) table extension
  generalize fileName kind (Calendar.stamp at_) table extension = name at hlist
  have hline : '_' ∈ name.toList := by
    rw [hlist]
    exact List.mem_append_right _ List.mem_cons_self
  refine ⟨fun h => ?_, ?_, ?_, ?_⟩
  · rw [hlist, List.mem_append, List.mem_cons, List.mem_append, List.mem_cons] at h
    rcases h with h | h | h | h | h
    · rcases Calendar.isStampChar_stamp at_ _ h with h | h | h | h <;> cases h
    · cases h
    · rcases mem_markerOf h with h | h
      · revert h
        decide
      · exact htable h
    · cases h
    · exact hext h
  · rintro rfl
    cases hline
  · rintro rfl
    revert hline
    decide
  · rintro rfl
    revert hline
    decide

/-- **A migration bears the marker of its own table.** -/
theorem bears_fileName (kind : ArtifactKind) (stamp table extension : String) :
    bears (fileName kind stamp table extension) (markerOf kind table) = true := by
  unfold bears
  rw [toList_fileName]
  refine Text.occursIn_iff.2 ⟨stamp.toList ++ ['_'], '.' :: extension.toList, ?_⟩
  simp only [List.append_assoc, List.cons_append, List.nil_append]

end Migration

end Scaffold
