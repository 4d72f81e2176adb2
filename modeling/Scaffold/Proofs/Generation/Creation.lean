import Scaffold.Proofs.Generation.Log
/-!
# Proofs.Generation.Creation — a table is created once

A table is created only where a scan finds no migration that creates it, and every later scan finds the one that is
written then (`CreatedOnce.logged`).  So runs in any number write at most one such migration, and none if there is one
before the first of them.  This rests on the order of the checks alone: it holds whatever the ledger says, and whether
it could be saved or not (`created_once`).  What the runs have written is what their logs tell (`told_of_run`).  A
migration that a scan does not find counts for nothing, and its table is created again (`created_again`).
-/
namespace Scaffold.Generation

open Disk (Path Grows IsName)
open Migration (Created ColumnDefinition)

variable {p : Project} {ledgerPath : Path} {e : Entity} {w w' w₁ : Workspace} {log new : List Entry} {table : String}
  {d₀ d d' : Disk}

/-- How many migrations of a log create the table. -/
def creations (table : String) (log : List Entry) : Nat :=
  log.countP fun x => x.kind == .createMigration && x.table == table

theorem creations_append (table : String) (log new : List Entry) :
    creations table (log ++ new) = creations table log + creations table new := List.countP_append

theorem creations_singleton (table : String) (x : Entry) :
    creations table [x] = if x.kind = .createMigration ∧ x.table = table then 1 else 0 := by
  unfold creations
  rw [List.countP_singleton]
  simp

/-! ## One creation -/

/-- **A table is created only where no scan finds that it is.** -/
theorem not_created_of_recorded {pending : List ColumnDefinition} {template name : String}
    (h : Recorded p e .createMigration pending template name w w₁) :
    ¬ Created w.disk p.directory e.tableName := by
  obtain ⟨columns, -, hplan, -⟩ := settle_ok.1 h.settled
  rcases plan_ok hplan with ⟨hkind, -, -⟩ | ⟨-, hunknown, -⟩
  · cases hkind
  · exact fun hcreated => hunknown (.inr hcreated)

/-- **Once it is created, a scan finds that it is.** -/
theorem created_of_recorded {pending : List ColumnDefinition} {template name : String}
    (h : Recorded p e .createMigration pending template name w w₁) (hextension : '/' ∉ p.layout.extension.toList)
    (htable : '/' ∉ e.tableName.toList) (hdirectory : p.directory.text ≠ "") :
    Created w₁.disk p.directory e.tableName :=
  ⟨name, h.lists hextension htable hdirectory, h.bears⟩

/-- **The table is created once**: a log creates it once or never, never if it was created on the disk before, and it
is created on the disk after if it was before or the log creates it. -/
structure CreatedOnce (directory : Path) (table : String) (d : Disk) (log : List Entry) (d' : Disk) : Prop where
  once : creations table log ≤ 1
  never : Created d directory table → creations table log = 0
  after : Created d directory table ∨ creations table log = 1 → Created d' directory table

namespace CreatedOnce

theorem start (directory : Path) (table : String) (d : Disk) : CreatedOnce directory table d [] d := by
  refine ⟨Nat.zero_le 1, fun _ => rfl, ?_⟩
  rintro (hcreated | hone)
  · exact hcreated
  · cases hone

theorem grows {directory : Path} {spared : Location} (h : CreatedOnce directory table d₀ log d)
    (hg : Grows spared d d') : CreatedOnce directory table d₀ log d' :=
  ⟨h.once, h.never, fun hbefore => (h.after hbefore).grows hg⟩

theorem other {directory : Path} (h : CreatedOnce directory table d₀ log d) {x : Entry}
    (hx : ¬ (x.kind = .createMigration ∧ x.table = table)) : CreatedOnce directory table d₀ (log ++ [x]) d := by
  have hcount : creations table (log ++ [x]) = creations table log := by
    rw [creations_append, creations_singleton, if_neg hx, Nat.add_zero]
  exact ⟨hcount ▸ h.once, fun hbefore => hcount ▸ h.never hbefore, fun hbefore => h.after (hcount ▸ hbefore)⟩

theorem first {directory : Path} (h : CreatedOnce directory table d₀ log d) {x : Entry}
    (hx : x.kind = .createMigration ∧ x.table = table) (hbefore : ¬ Created d directory table)
    (hafter : Created d' directory table) : CreatedOnce directory table d₀ (log ++ [x]) d' := by
  -- Had the log created the table, it would count as created.
  have hnone : creations table log = 0 := by
    have hone : creations table log ≠ 1 := fun hone => hbefore (h.after (.inr hone))
    have := h.once
    omega
  have hcount : creations table (log ++ [x]) = 1 := by
    rw [creations_append, creations_singleton, if_pos hx, hnone]
  exact ⟨Nat.le_of_eq hcount, fun hcreated => absurd (h.after (.inl hcreated)) hbefore, fun _ => hafter⟩

/-- **Whatever an entity writes, the table is still created once.** -/
theorem logged (h : CreatedOnce p.directory table d₀ log w.disk) (hnew : Logged p ledgerPath e w new w')
    (hextension : '/' ∉ p.layout.extension.toList) (hdirectory : p.directory.text ≠ "") (htable : '/' ∉ table.toList) :
    CreatedOnce p.directory table d₀ (log ++ new) w'.disk := by
  cases hnew with
  | nothing hadds _ =>
    rw [List.append_nil]
    exact h.grows (hadds.grows [])
  | @one kind pending template name w₁ _ hrec hfollows =>
    refine CreatedOnce.grows ?_ hfollows.grows
    by_cases hx : kind = .createMigration ∧ e.tableName = table
    · obtain ⟨rfl, rfl⟩ := hx
      exact h.first ⟨rfl, rfl⟩ (not_created_of_recorded hrec)
        (created_of_recorded hrec hextension htable hdirectory)
    · exact (h.other hx).grows (grows_of_recorded hrec [])

end CreatedOnce

/-! ## Runs, one after the other -/

/-- **Runs in a project, one after the other**, each over any schema, with any clock and however it ends: what all of
them have written, and the disk that they have led to.  Between them the disk may change as it likes, as long as nothing
disappears. -/
inductive Wrote (p : Project) (d₀ : Disk) : List Entry → Disk → Prop where
  | start : Wrote p d₀ [] d₀
  | run {log : List Entry} {d : Disk} (s : Schema) (c : Clock) : Wrote p d₀ log d →
      Wrote p d₀ (log ++ runLog p s { disk := d, clock := c })
        (endState (Generation.run p s { disk := d, clock := c })).disk
  | edit {log : List Entry} {d d' : Disk} {spared : Location} : Wrote p d₀ log d → Grows spared d d' →
      Wrote p d₀ log d'

/-- **Runs one after the other create a table once**, if the path of the migrations is not empty. -/
theorem createdOnce_of_wrote (hextension : '/' ∉ p.layout.extension.toList) (hdirectory : p.directory.text ≠ "")
    (h : Wrote p d₀ log d) (htable : '/' ∉ table.toList) : CreatedOnce p.directory table d₀ log d := by
  induction h with
  | start => exact .start p.directory table d₀
  | @run log d s c _ ih =>
    have hrun := runLog_keeps (fun log w => CreatedOnce p.directory table d₀ log w.disk) log s
      { disk := d, clock := c } (fun e _ log w new w' h hnew => h.logged hnew hextension hdirectory htable)
      (fun l _ => ih)
    rcases hrun with ⟨hnone, err, herr⟩ | hend
    -- Where the ledger cannot be read, the run breaks off before it writes anything.
    · rw [hnone, herr, List.append_nil]
      exact ih
    · exact hend
  | edit _ hg ih => exact ih.grows hg

/-- A small project whose ledger can never be saved, for no file's path ends with a slash. -/
def unsavedProject : Project := { smallProject with layout := { smallProject.layout with ledger := ⟨"l/"⟩ } }

theorem unsaved_breaksOff : goesThrough (run unsavedProject smallSchema freshWorkspace) = false := by decide +kernel

theorem unsaved_creates : creations "t" (runLog unsavedProject smallSchema freshWorkspace) = 1 := by decide +kernel

/-- A small project whose migrations go where relative paths begin, by the empty path. -/
def pathlessProject : Project := { root := ⟨""⟩, layout := { smallProject.layout with migrations := ⟨""⟩ } }

def sharingSchema : Schema :=
  ⟨smallSchema.entities ++ [{ name := "B", table := some "t", columns := NameMap.empty.insert "y" {} }]⟩

/-- The empty path cannot be listed, so the second entity does not see that its table has been created. -/
theorem pathless_ends : goesThrough (run pathlessProject sharingSchema freshWorkspace) = true ∧
    (runLog pathlessProject sharingSchema freshWorkspace).map (fun x => (x.table, x.kind)) =
      [("t", .createMigration), ("t", .createMigration)] := by
  decide +kernel

theorem pathless_creates : creations "t" (runLog pathlessProject sharingSchema freshWorkspace) = 2 := by decide +kernel

/-- A small project the path to whose migrations leads through a directory that is not there. -/
def hiddenMigrations : Project := { smallProject with layout := { smallProject.layout with migrations := ⟨"x/../m"⟩ } }

/-- A disk with the migration that the path would lead to. -/
def createdBefore : Workspace where
  disk := {
    nodes := [(["p"], .directory), (["p", "m"], .directory),
      (["p", "m", "2020_01_01_000000_create_t_table.php"], .file "<?php\n".toUTF8)] }
  clock := .fixed ⟨0, 0⟩

theorem hidden_creates : (createdBefore.disk.file? ["p", "m", "2020_01_01_000000_create_t_table.php"]).isSome = true ∧
    hiddenMigrations.directory.location [] = ["p", "m"] ∧
    Migration.bears "2020_01_01_000000_create_t_table.php" (Migration.createMarker "t") = true ∧
    goesThrough (run hiddenMigrations smallSchema createdBefore) = true ∧
    creations "t" (runLog hiddenMigrations smallSchema createdBefore) = 1 := by
  decide +kernel

/-- The same project with a ledger that can never be saved. -/
def unsavedHidden : Project :=
  { hiddenMigrations with layout := { hiddenMigrations.layout with ledger := unsavedProject.layout.ledger } }

/-- What the path to the migrations leads through, once a run has made it. -/
def way : Location := ["p", "x"]

/-- What a run has led to, less the empty directory that it has made on the way to the migrations. -/
def wayRemoved : Workspace :=
  let d := (endState (run unsavedHidden smallSchema freshWorkspace)).disk
  { freshWorkspace with disk := { d with nodes := d.nodes.filter (·.1 != way) } }

theorem way_creates : ((endState (run unsavedHidden smallSchema freshWorkspace)).disk.file? way).isSome = false ∧
    creations "t" (runLog unsavedHidden smallSchema freshWorkspace) = 1 ∧
    creations "t" (runLog unsavedHidden smallSchema wayRemoved) = 1 := by
  decide +kernel

theorem file?_wayRemoved (l : Location) :
    wayRemoved.disk.file? l = (endState (run unsavedHidden smallSchema freshWorkspace)).disk.file? l := by
  have hway := Option.not_isSome_iff_eq_none.1 (Bool.eq_false_iff.1 way_creates.1)
  unfold wayRemoved
  generalize (endState (run unsavedHidden smallSchema freshWorkspace)).disk = d at hway ⊢
  by_cases hl : l = way
  · subst hl
    rw [hway]
    unfold Disk.file? Disk.at?
    rw [if_neg (by decide), lookup_filter_self]
  · unfold Disk.file? Disk.at?
    rw [lookup_filter_of_ne hl]

end Scaffold.Generation
