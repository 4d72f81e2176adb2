import Scaffold.Proofs.Generation.Sound
/-!
# Proofs.Generation.Kept — what holds whenever a run ends

However runs end, the ledger that they leave is sound, and where there is one, the directories that a migration and
the ledger need are there too (`Work`).  That is kept by every run over plain entities (`work_of_run`).
-/
namespace Scaffold.Generation

open Disk (Path Grows Placed Replaced AddsDirectories IsName)

variable {p : Project} {e : Entity} {w w' w₁ : Workspace} {a : Artifact} {d d' : Disk} {l : Ledger}

/-- **A ledger that was saved**, and the directories that were made for it and for the migrations. -/
structure Kept (p : Project) (d : Disk) : Prop where
  ledger : ∃ l : Ledger, d.look p.ledgerPath = .ok (.file l.toText.toUTF8) ∧ l.Sound d p.directory
  parent : ∀ q ∈ p.ledgerPath.parents.head?, d.look q = .ok .directory
  home : ∀ name, IsName name → ∀ q ∈ (p.directory.join ⟨name⟩).parents.head?, d.look q = .ok .directory
  walked : ∃ here, d.walk p.directory = .ok here

/-- What a step finds in a tidy project: names, texts, and a ledger in memory that is sound. -/
structure Stored (p : Project) (w : Workspace) : Prop where
  tidy : p.Tidy w.disk.base
  named : w.disk.Named
  utf8 : w.disk.Utf8 (p.directory.location w.disk.base)
  sound : w.ledger.Sound w.disk p.directory

/-- **What a step finds before a ledger is saved as well as after**: if its file is there, it was saved. -/
structure Work (p : Project) (w : Workspace) : Prop extends Stored p w where
  kept : w.disk.file? (p.ledgerLocation w.disk.base) ≠ none → Kept p w.disk

/-- What a step finds after a ledger is saved. -/
structure Held (p : Project) (w : Workspace) : Prop extends Stored p w where
  kept : Kept p w.disk

theorem Held.work (h : Held p w) : Work p w := ⟨h.toStored, fun _ => h.kept⟩

theorem Kept.grows (h : Kept p d) (hd : d.Named) (hg : Grows [] d d') : Kept p d' := by
  obtain ⟨⟨l, hlook, hsound⟩, hparent, hhome, here, hwalk⟩ := h
  have hplace : p.ledgerPath.location d.base ≠ [] := by
    intro hroot
    have hthere := Disk.at?_of_look_file hlook
    rw [hroot] at hthere
    cases hthere
  refine ⟨⟨l, Ledger.look_of_grows hlook hg hplace, ?_⟩, fun q hq => ?_, fun name hname q hq => ?_, here, ?_⟩
  · exact hsound.grows hd (fun name => by simp) hg
  · exact Disk.look_directory_mono hg.toKeepsDirectories (hparent q hq)
  · exact Disk.look_directory_mono hg.toKeepsDirectories (hhome name hname q hq)
  · exact Disk.walk_mono hg.toKeepsDirectories hwalk

theorem Kept.file (h : Kept p d) : d.file? (p.ledgerLocation d.base) ≠ none := by
  obtain ⟨l, hlook, -⟩ := h.ledger
  have hthere := Disk.file?_eq_some.2 (Disk.at?_of_look_file hlook)
  unfold Project.ledgerLocation
  change d.file? (p.ledgerPath.location d.base) ≠ none
  rw [hthere]
  simp

namespace Stored

theorem grows {spared : Location} (h : Stored p w) (hg : Grows spared w.disk w'.disk)
    (hu : w'.disk.Utf8 (p.directory.location w.disk.base)) (hs : w'.ledger.Sound w'.disk p.directory) :
    Stored p w' := by
  refine ⟨?_, h.named.grows hg, ?_, hs⟩
  · rw [hg.base]
    exact h.tidy
  · rw [hg.base]
    exact hu

theorem adds (h : Stored p w) (ha : AddsDirectories w.disk w'.disk) (hl : w'.ledger = w.ledger) : Stored p w' := by
  refine h.grows (ha.grows []) (h.utf8.adds ha) ?_
  rw [hl]
  exact h.sound.grows h.named (fun name => by simp) (ha.grows [])

theorem classed {kind : ArtifactKind} {path : Path} {r : EStateM.Result Error Workspace Artifact} (h : Stored p w)
    (hc : Classed e kind path w r) : Stored p (endState r) := by
  cases hc with
  | stopped err d hadds => exact h.adds hadds rfl
  | skipped d hadds _ => exact h.adds hadds rfl
  | written content d hplaced =>
    refine h.grows (hplaced.grows []) (h.utf8.placed hplaced) ?_
    exact h.sound.grows h.named (fun name => by simp) (hplaced.grows [])

theorem recorded {kind : ArtifactKind} {pending : List Migration.ColumnDefinition} {template name : String}
    (h : Stored p w) (hrec : Recorded p e kind pending template name w w₁) (he : e.Plain) : Stored p w₁ :=
  h.grows (grows_of_recorded hrec []) (h.utf8.placed hrec.placed) (sound_of_recorded hrec h.tidy h.named he h.sound)

theorem saved (h : Stored p w) (hrep : Replaced p.ledgerPath w.ledger.toText.toUTF8 w.disk d) :
    Stored p { w with disk := d } :=
  h.grows hrep.grows (h.utf8.replaced hrep h.tidy.apart) (h.sound.grows h.named h.tidy.apart hrep.grows)

end Stored

namespace Work

theorem adds (h : Work p w) (ha : AddsDirectories w.disk w'.disk) (hl : w'.ledger = w.ledger) : Work p w' := by
  refine ⟨h.toStored.adds ha hl, fun hfile => ?_⟩
  rw [ha.base, ha.file?] at hfile
  exact (h.kept hfile).grows h.named (ha.grows [])

theorem recorded {kind : ArtifactKind} {pending : List Migration.ColumnDefinition} {template name : String}
    (h : Work p w) (hrec : Recorded p e kind pending template name w w₁) (he : e.Plain) : Work p w₁ := by
  refine ⟨h.toStored.recorded hrec he, fun hfile => ?_⟩
  have hapart := location_migration h.tidy (hrec.isName h.tidy.extension he.table)
  rw [hrec.placed.base, Disk.file?_elsewhere hrec.placed.elsewhere hapart.symm] at hfile
  exact (h.kept hfile).grows h.named (grows_of_recorded hrec [])

theorem reload (h : Work p w) (c : Clock) (hs : l.Sound w.disk p.directory) : Work p ⟨w.disk, c, l⟩ :=
  ⟨⟨h.tidy, h.named, h.utf8, hs⟩, h.kept⟩

/-- **A ledger that is loaded is sound.** -/
theorem sound_of_load (h : Work p w) (hl : Ledger.load w.disk p.ledgerPath = .ok l) : l.Sound w.disk p.directory := by
  by_cases hfile : w.disk.file? (p.ledgerLocation w.disk.base) = none
  · rw [Ledger.load_of_no_file hl hfile]
    exact Ledger.sound_empty _ _
  · obtain ⟨saved, hlook, hsound⟩ := (h.kept hfile).ledger
    rw [Ledger.load_of_look hlook] at hl
    cases hl
    exact hsound

end Work

/-! ## Step by step -/

/-- **After a migration is recorded and the ledger saved, all that a kept ledger asks for is there.** -/
theorem held_of_saved {kind : ArtifactKind} {pending : List Migration.ColumnDefinition} {template name : String}
    (h : Stored p w) (hrec : Recorded p e kind pending template name w w₁) (he : e.Plain)
    (hrep : Replaced p.ledgerPath w₁.ledger.toText.toUTF8 w₁.disk d) : Held p { w₁ with disk := d } := by
  have hname := hrec.isName h.tidy.extension he.table
  have hstored := (h.recorded hrec he).saved hrep
  have hkeeps := hrep.grows.toKeepsDirectories
  obtain ⟨t, hfollow, -⟩ := Disk.look_ok.1 hrec.placed.look
  obtain ⟨-, here, hwalk, -⟩ := Disk.follow_join_ok hname hfollow
  refine ⟨hstored, ⟨w₁.ledger, hrep.look, hstored.sound⟩, hrep.parent, fun other hother q hq => ?_, here, ?_⟩
  · rw [Path.parents_join hother hname] at hq
    exact Disk.look_directory_mono hkeeps (hrec.placed.parent q hq)
  · exact Disk.walk_mono hkeeps hwalk

theorem held_of_migration (h : Stored p w) (he : e.Plain) (hok : migration p p.ledgerPath e w = .ok a w') :
    Held p w' := by
  cases Migrated.of_eq hok with
  | saved kind pending template name w₁ d hrec hrep => exact held_of_saved h hrec he hrep

theorem keeps_work_migration (he : e.Plain) : Keeps (Work p) (migration p p.ledgerPath e) := by
  intro w h
  have hm := migrated p p.ledgerPath e w
  generalize migration p p.ledgerPath e w = r at hm
  cases hm with
  | stopped err d c hadds => exact h.adds hadds rfl
  | unsaved kind pending template name w₁ f d hrec hadds => exact (h.recorded hrec he).adds hadds rfl
  | saved kind pending template name w₁ d hrec hrep => exact (held_of_saved h.toStored hrec he hrep).work

theorem keeps_held_of_classed {kind : ArtifactKind} {path : Path} {act : Generation Artifact}
    (h : ∀ w, Classed e kind path w (act w)) : Keeps (Held p) act :=
  fun w hw => ⟨hw.toStored.classed (h w), hw.kept.grows hw.named (grows_of_classed (h w) [])⟩

/-- **Handling a plain entity keeps what steps find**, however it ends. -/
theorem keeps_work_entity (he : e.Plain) : Keeps (Work p) (entity p p.ledgerPath e) := by
  unfold entity
  cases e.problems with
  | cons problem rest => exact fun _ h => h
  | nil =>
    refine keeps_bind_of_ok (keeps_work_migration he) (fun w a w' hw hok => held_of_migration hw.toStored he hok)
      (fun _ => ?_) (fun _ => Held.work)
    refine keeps_bind (keeps_held_of_classed (classed_model p e)) (fun _ => ?_)
    exact keeps_bind (keeps_held_of_classed (classed_resource p e)) (fun _ => keeps_pure _ _)

/-- **Every run over plain entities keeps what steps find**, however it ends. -/
theorem work_of_run {s : Schema} (hs : ∀ e ∈ s.entities, e.Plain) (h : Work p w) : Work p (endState (run p s w)) := by
  have hrun := run_keeps (p := p) (s := s) (w := w) (I := Work p)
    (fun l hl => h.reload w.clock (h.sound_of_load hl)) (fun e he => keeps_work_entity (hs e he))
  rcases hrun with ⟨err, herr⟩ | hend
  · rw [herr]
    exact h
  · exact hend

end Scaffold.Generation
