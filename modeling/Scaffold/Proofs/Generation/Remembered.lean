import Scaffold.Proofs.Generation.Account
import Scaffold.Proofs.Generation.Sound
import Scaffold.Proofs.Layout.Standard
/-!
# Proofs.Generation.Remembered — what a run makes exist, and what it keeps

Whatever a probe of ledger and migrations finds, it finds after every run, however the run ends.  A scan finds what it
has found, for no migration disappears.  A record that counts lives on in the ledger in memory: while it counts, its
table is only ever updated, which extends the record (`Remembers.recorded`), and the record that is dropped where a
table is created was one that did not count.  The ledger on the disk is the one that was loaded or one that was saved
from memory, and both remember (`Remembering`).
-/
namespace Scaffold

open Disk (Path Grows AddsDirectories Placed Replaced)

variable {l l' : Ledger} {d d' : Disk} {directory path : Path} {table column : String}

/-! ## Ledgers that remember -/

/-- **A ledger remembers another** as it was on a disk: of every table whose record counted there, it has a record with
the same columns and migrations and possibly more. -/
def Ledger.Remembers (l' l : Ledger) (d : Disk) (directory : Path) : Prop :=
  ∀ table r, l.Live d directory table r →
    ∃ r', l'.table? table = some r' ∧ r.columns ⊆ r'.columns ∧ r.migrations ⊆ r'.migrations

namespace Ledger

theorem Remembers.refl (l : Ledger) (d : Disk) (directory : Path) : l.Remembers l d directory :=
  fun _ r h => ⟨r, h.1, fun _ => id, fun _ => id⟩

theorem Remembers.empty (l' : Ledger) (d : Disk) (directory : Path) : l'.Remembers .empty d directory := by
  intro table r h
  cases h.1

/-- **The record that is remembered counts** for as long as nothing disappears. -/
theorem Remembers.live {spared : Location} {r : TableRecord} (h : l'.Remembers l d directory)
    (hg : Grows spared d d') (hr : l.Live d directory table r) :
    ∃ r', l'.Live d' directory table r' ∧ r.columns ⊆ r'.columns ∧ r.migrations ⊆ r'.migrations := by
  obtain ⟨r', hr', hcolumns, hmigrations⟩ := h table r hr
  obtain ⟨name, hname, hlists⟩ := hr.2
  exact ⟨r', ⟨hr', name, hmigrations hname, hlists.grows hg⟩, hcolumns, hmigrations⟩

theorem Remembers.knownTable {spared : Location} (h : l'.Remembers l d directory) (hg : Grows spared d d')
    (hk : l.KnownTable d directory table) : l'.KnownTable d' directory table := by
  rcases hk with ⟨r, hr⟩ | hcreated
  · obtain ⟨r', hlive, -⟩ := h.live hg hr
    exact .inl ⟨r', hlive⟩
  · exact .inr (hcreated.grows hg)

theorem Remembers.knownColumn {spared : Location} (h : l'.Remembers l d directory) (hg : Grows spared d d')
    (hd : d.Named) (hapart : ∀ name, directory.location d.base ++ [name] ≠ spared)
    (hk : l.KnownColumn d directory table column) : l'.KnownColumn d' directory table column := by
  rcases hk with ⟨r, hr, hc⟩ | hscanned
  · obtain ⟨r', hlive, hcolumns, -⟩ := h.live hg hr
    exact .inl ⟨r', hlive, hcolumns hc⟩
  · exact .inr (hscanned.grows hd hapart hg)

/-! ## Answers -/

theorem probed_of_toOption {question : Ledger → Except Error Bool}
    (h : (load d path >>= question).toOption = some true) : ∃ l, load d path = .ok l ∧ question l = .ok true := by
  cases hprobe : load d path >>= question with
  | error err =>
    rw [hprobe] at h
    cases h
  | ok answer =>
    rw [hprobe] at h
    cases h
    exact except_bind_ok.1 hprobe

theorem KnownTable.namesIn (h : l.KnownTable d directory table) :
    ∃ names, Migration.namesIn d directory = .ok names := by
  rcases h with ⟨r, -, name, -, hlists⟩ | ⟨name, hlists, -⟩
  · exact namesIn_of_lists hlists
  · exact namesIn_of_lists hlists

/-- **What is known is answered.** -/
theorem tableExists_of_known (h : l.KnownTable d directory table) : l.tableExists d directory table = .ok true := by
  obtain ⟨names, hnames⟩ := h.namesIn
  obtain ⟨known, hknown⟩ := tableExists_total l table hnames
  rw [hknown, (tableExists_ok hknown).2 h]

theorem columnExists_of_known (hd : d.Named) (hu : d.Utf8 (directory.location d.base))
    (h : l.KnownColumn d directory table column) : l.columnExists d directory table column = .ok true := by
  rcases h with ⟨r, hlive, hc⟩ | hscanned
  · exact columnExists_of_recorded hlive hc
  · obtain ⟨hs, name, hlists, -⟩ := id hscanned
    obtain ⟨names, hnames⟩ := namesIn_of_lists hlists
    obtain ⟨known, hknown⟩ := columnExists_total l table hs hnames (fun name hl => hu.readable hd hl)
    rw [hknown, (columnExists_ok hknown).2 (.inr hscanned)]

theorem load_of_not_isFile (h : load d path = .ok l) (hno : d.isFile path ≠ true) : l = empty := by
  unfold load at h
  split at h
  · cases h
    rfl
  · cases h
  · rename_i text htext
    obtain ⟨content, hlook, -⟩ := Disk.readText_ok.1 htext
    exact absurd (Disk.isFile_iff.2 ⟨content, hlook⟩) hno

theorem load_of_grows (hfile : d.isFile path = true) (hg : Grows [] d d') :
    d'.isFile path = true ∧ load d' path = load d path := by
  obtain ⟨content, hlook⟩ := Disk.isFile_iff.1 hfile
  have hplace : path.location d.base ≠ [] := by
    intro hroot
    have hthere := Disk.at?_of_look_file hlook
    rw [hroot] at hthere
    cases hthere
  obtain ⟨content', hlook', hsame⟩ := hg.look_file hlook
  rw [hsame hplace] at hlook'
  exact ⟨Disk.isFile_iff.2 ⟨content, hlook'⟩, load_congr (hlook'.trans hlook.symm)⟩

end Ledger

namespace Generation

variable {p : Project} {e : Entity} {w w' w₁ : Workspace}

/-! ## Steps -/

/-- **A migration that is recorded extends what is remembered.**  Only a table without a record that counts is
created. -/
theorem remembers_of_recorded {kind : ArtifactKind} {pending : List Migration.ColumnDefinition}
    {template name : String} {spared : Location} (h : w.ledger.Remembers l d p.directory)
    (hg : Grows spared d w.disk) (hrec : Recorded p e kind pending template name w w₁) :
    w₁.ledger.Remembers l d p.directory := by
  intro table r hr
  obtain ⟨r', hlive, hcolumns, hmigrations⟩ := h.live hg hr
  by_cases htable : table = e.tableName
  · subst htable
    obtain rfl := hrec.updates hlive
    refine ⟨r'.extend name (pending.map (·.name)), ?_, fun c hc => ?_, fun m hm => ?_⟩
    · rw [hrec.ledger, table?_recordMigration_self, past_update hlive.1]
    · exact TableRecord.mem_foldl_addColumn.2 (.inl (hcolumns hc))
    · exact List.mem_append_left _ (hmigrations hm)
  · refine ⟨r', ?_, hcolumns, hmigrations⟩
    rw [hrec.ledger, table?_recordMigration_of_ne htable]
    exact hlive.1

/-- **What a run keeps of the ledger that it has loaded**, `l` on the disk `d`: the ledger in memory remembers it, and
so does the one on the disk if there was one. -/
structure Remembering (p : Project) (l : Ledger) (d : Disk) (w : Workspace) : Prop where
  grows : Grows (p.ledgerLocation d.base) d w.disk
  utf8 : w.disk.Utf8 (p.directory.location d.base)
  memory : w.ledger.Remembers l d p.directory
  stored : d.isFile p.ledgerPath = true → w.disk.isFile p.ledgerPath = true ∧
    ∃ l', Ledger.load w.disk p.ledgerPath = .ok l' ∧ l'.Remembers l d p.directory

namespace Remembering

theorem later (h : Remembering p l d w) (hg : ∀ spared, Grows spared w.disk w'.disk)
    (hu : w'.disk.Utf8 (p.directory.location d.base)) (hm : w'.ledger.Remembers l d p.directory) :
    Remembering p l d w' := by
  refine ⟨h.grows.trans (hg _), hu, hm, fun hfile => ?_⟩
  obtain ⟨hthere, l', hload, hl'⟩ := h.stored hfile
  obtain ⟨hthere', hsame⟩ := Ledger.load_of_grows hthere (hg [])
  exact ⟨hthere', l', hsame.trans hload, hl'⟩

theorem adds (h : Remembering p l d w) (ha : AddsDirectories w.disk w'.disk) (hl : w'.ledger = w.ledger) :
    Remembering p l d w' :=
  h.later ha.grows (h.utf8.adds ha) (hl ▸ h.memory)

theorem classed {kind : ArtifactKind} {path : Path} {r : EStateM.Result Error Workspace Artifact}
    (h : Remembering p l d w) (hc : Classed e kind path w r) : Remembering p l d (endState r) := by
  cases hc with
  | stopped err d₁ hadds => exact h.adds hadds rfl
  | skipped d₁ hadds _ => exact h.adds hadds rfl
  | written content d₁ hplaced => exact h.later hplaced.grows (h.utf8.placed hplaced) h.memory

theorem recorded {kind : ArtifactKind} {pending : List Migration.ColumnDefinition} {template name : String}
    (h : Remembering p l d w) (hrec : Recorded p e kind pending template name w w₁) : Remembering p l d w₁ :=
  h.later hrec.placed.grows (h.utf8.placed hrec.placed) (remembers_of_recorded h.memory h.grows hrec)

theorem saved (h : Remembering p l d w)
    (hapart : ∀ name, p.directory.location d.base ++ [name] ≠ p.ledgerLocation d.base)
    (hrep : Replaced p.ledgerPath w.ledger.toText.toUTF8 w.disk d') : Remembering p l d { w with disk := d' } := by
  have hg := hrep.grows
  rw [h.grows.base] at hg
  refine ⟨h.grows.trans hg, h.utf8.replaced hrep ?_, h.memory, fun _ => ⟨Disk.isFile_iff.2 ⟨_, hrep.look⟩, ?_⟩⟩
  · rw [h.grows.base]
    exact hapart
  · exact ⟨w.ledger, Ledger.load_of_look hrep.look, h.memory⟩

/-- **A migration keeps what is remembered**, however it ends. -/
theorem migrated {r : EStateM.Result Error Workspace Artifact} (h : Remembering p l d w)
    (hapart : ∀ name, p.directory.location d.base ++ [name] ≠ p.ledgerLocation d.base)
    (hm : Migrated p p.ledgerPath e w r) : Remembering p l d (endState r) := by
  cases hm with
  | stopped err d₁ c hadds => exact h.adds hadds rfl
  | unsaved kind pending template name w₁ f d₁ hrec hadds => exact (h.recorded hrec).adds hadds rfl
  | saved kind pending template name w₁ d₁ hrec hrep => exact (h.recorded hrec).saved hapart hrep

end Remembering

/-! ## Runs -/

theorem keeps_remembering_entity
    (hapart : ∀ name, p.directory.location d.base ++ [name] ≠ p.ledgerLocation d.base) (e : Entity) :
    Keeps (Remembering p l d) (entity p p.ledgerPath e) :=
  entity_keeps (fun w₁ h => h.migrated hapart (migrated p p.ledgerPath e w₁))
    (fun w₁ h => h.classed (classed_model p e w₁)) (fun w₁ h => h.classed (classed_resource p e w₁))

theorem remembering_start (hutf8 : w.disk.Utf8 (p.directory.location w.disk.base))
    (hload : Ledger.load w.disk p.ledgerPath = .ok l) : Remembering p l w.disk { w with ledger := l } :=
  ⟨.refl _ _, hutf8, .refl _ _ _, fun hfile => ⟨hfile, l, hload, .refl _ _ _⟩⟩

/-- **What a run has loaded it remembers**, however it ends. -/
theorem remembering_of_run {s : Schema}
    (hapart : ∀ name, p.directory.location w.disk.base ++ [name] ≠ p.ledgerLocation w.disk.base)
    (hutf8 : w.disk.Utf8 (p.directory.location w.disk.base)) (hload : Ledger.load w.disk p.ledgerPath = .ok l) :
    Remembering p l w.disk (endState (run p s w)) := by
  rw [(runLog_of_load hload).2]
  exact entities_keeps (fun e _ => keeps_remembering_entity hapart e) _ (remembering_start hutf8 hload)

/-- A project in the standard layout that has a migration, written by hand, and no ledger. -/
def handWritten : Workspace where
  disk := {
    nodes := [(["p"], .directory), (["p", "database"], .directory), (["p", "database", "migrations"], .directory),
      (["p", "database", "migrations", "2020_01_01_000000_create_t_table.php"], .file "<?php\n".toUTF8)] }
  clock := .fixed ⟨0, 0⟩

theorem named_handWritten : handWritten.disk.Named := by
  refine Disk.named_of_nodes ?_
  simp only [handWritten, List.forall_mem_cons]
  refine ⟨?_, ?_, ?_, ?_, fun _ h => by cases h⟩
  all_goals
    rintro name ⟨⟩
    exact ⟨by decide, by decide, by decide, by decide⟩

theorem utf8_handWritten (l : Location) : handWritten.disk.Utf8 l := by
  refine Disk.utf8_of_nodes fun entry hentry content hcontent => ?_
  simp only [handWritten, List.mem_cons, List.not_mem_nil, or_false] at hentry
  rcases hentry with rfl | rfl | rfl | rfl <;> cases hcontent
  exact ⟨_, fromUTF8?_toUTF8 _⟩

theorem created_handWritten : (Ledger.load handWritten.disk standardProject.ledgerPath >>= fun l =>
    l.tableExists handWritten.disk standardProject.directory "t").toOption = some true := by decide +kernel

theorem handWritten_goesThrough : goesThrough (run standardProject smallSchema handWritten) = true := by decide +kernel

/-- A schema of an entity whose table leads, as part of a file's name, from the migrations to a place below the
ledger. -/
def strayingSchema : Schema :=
  ⟨[{ name := "A", table := some "x/../../.yamavel/ledger.json/y", columns := NameMap.empty.insert "x" {} }]⟩

theorem straying_unloadable : (Ledger.load (endState (run standardProject strayingSchema handWritten)).disk
    standardProject.ledgerPath).toOption.isNone = true := by decide +kernel

end Generation

end Scaffold
