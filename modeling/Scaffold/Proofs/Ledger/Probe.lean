import Scaffold.Proofs.Generation.Step
import Scaffold.Proofs.Migration.Scan
/-!
# Proofs.Ledger.Probe — what ledger and migrations tell together

A record counts while one of its migrations is there (`Live`).  A table is known through a record that counts or
through a scan, and so is a column; a plan is made from what is known (`plan_ok`).
-/
namespace Scaffold

open Disk (Path)
open Migration (Created Scanned)

namespace Ledger

variable {l : Ledger} {d : Disk} {directory : Path} {table : String}

/-- **The record of a table that counts**: one of its migrations is there. -/
def Live (l : Ledger) (d : Disk) (directory : Path) (table : String) (record : TableRecord) : Prop :=
  l.table? table = some record ∧ ∃ name ∈ record.migrations, d.Lists directory name

/-- A table that a record or a scan tells of. -/
def KnownTable (l : Ledger) (d : Disk) (directory : Path) (table : String) : Prop :=
  (∃ record, l.Live d directory table record) ∨ Created d directory table

/-- A column that a record or a scan tells of. -/
def KnownColumn (l : Ledger) (d : Disk) (directory : Path) (table column : String) : Prop :=
  (∃ record, l.Live d directory table record ∧ column ∈ record.columns) ∨ Scanned d directory table column

theorem liveRecord_ok {found : Option TableRecord} (h : l.liveRecord d directory table = .ok found)
    (record : TableRecord) : found = some record ↔ l.Live d directory table record := by
  unfold liveRecord at h
  unfold Live
  cases hr : l.table? table with
  | none =>
    rw [hr] at h
    cases h
    simp
  | some present =>
    rw [hr] at h
    simp only at h
    obtain ⟨names, hnames, h⟩ := except_bind_ok.1 h
    have hany : present.migrations.any names.contains = true ↔ ∃ name ∈ present.migrations, d.Lists directory name := by
      rw [List.any_eq_true]
      refine exists_congr (fun name => and_congr_right (fun _ => ?_))
      rw [List.contains_iff_mem, Migration.mem_namesIn hnames]
    cases h
    split
    · rename_i hlive
      constructor
      · rintro ⟨⟩
        exact ⟨rfl, hany.1 hlive⟩
      · rintro ⟨hsame, -⟩
        exact hsame
    · rename_i hdead
      constructor
      · intro hnone
        cases hnone
      · rintro ⟨hsame, hlive⟩
        cases hsame
        exact absurd (hany.2 hlive) hdead

/-- **A table exists if a record or a scan tells of it.** -/
theorem tableExists_ok {known : Bool} (h : l.tableExists d directory table = .ok known) :
    known = true ↔ l.KnownTable d directory table := by
  unfold tableExists at h
  obtain ⟨found, hfound, h⟩ := except_bind_ok.1 h
  have hlive := liveRecord_ok hfound
  unfold KnownTable
  cases found with
  | some record =>
    cases h
    exact ⟨fun _ => .inl ⟨record, (hlive record).1 rfl⟩, fun _ => rfl⟩
  | none =>
    rw [Migration.tableExists_ok h]
    constructor
    · exact .inr
    · rintro (⟨record, hrecord⟩ | hcreated)
      · cases (hlive record).2 hrecord
      · exact hcreated

/-- **A column exists if a record or a scan tells of it.** -/
theorem columnExists_ok {column : String} {known : Bool} (h : l.columnExists d directory table column = .ok known) :
    known = true ↔ l.KnownColumn d directory table column := by
  unfold columnExists at h
  obtain ⟨found, hfound, h⟩ := except_bind_ok.1 h
  have hlive := liveRecord_ok hfound
  have hrecord : found.any (·.columns.contains column) = true ↔
      ∃ record, l.Live d directory table record ∧ column ∈ record.columns := by
    rw [Option.any_eq_true]
    refine exists_congr (fun record => ?_)
    rw [hlive record, List.contains_iff_mem]
  unfold KnownColumn
  split at h
  · rename_i hany
    cases h
    exact ⟨fun _ => .inl (hrecord.1 hany), fun _ => rfl⟩
  · rename_i hnot
    rw [Migration.columnExists_ok h]
    constructor
    · exact .inr
    · rintro (hr | hscanned)
      · exact absurd (hrecord.2 hr) hnot
      · exact hscanned

/-- **The columns that are missing are those that nothing tells of**, in their order. -/
theorem missingColumns_ok {α : Type} {nameOf : α → String} {columns missing : List α}
    (h : l.missingColumns d directory table nameOf columns = .ok missing) (unknown : α → Bool)
    (hunknown : ∀ x ∈ columns, unknown x = true ↔ ¬ l.KnownColumn d directory table (nameOf x)) :
    missing = columns.filter unknown := by
  induction columns generalizing missing with
  | nil =>
    cases h
    rfl
  | cons x rest ih =>
    rw [missingColumns] at h
    obtain ⟨known, hknown, h⟩ := except_bind_ok.1 h
    obtain ⟨others, hothers, h⟩ := except_bind_ok.1 h
    have hrest := ih hothers (fun y hy => hunknown y (List.mem_cons_of_mem _ hy))
    have hx := hunknown x List.mem_cons_self
    rw [← columnExists_ok hknown] at hx
    cases h
    cases known with
    | true =>
      have hux : unknown x = false := by simpa using hx
      rw [List.filter_cons_of_neg (by simp [hux]), ← hrest]
      rfl
    | false =>
      have hux : unknown x = true := by simpa using hx
      rw [List.filter_cons_of_pos hux, ← hrest]
      rfl

end Ledger

namespace Generation

/-- **What a plan is.**  A table that is known is updated by the columns that are not; any other is created with all
its columns. -/
theorem plan_ok {p : Project} {table : String} {columns pending : List Migration.ColumnDefinition}
    {kind : ArtifactKind} {w : Workspace} (h : plan p table columns w = .ok (kind, pending)) :
    kind = .updateMigration ∧ w.ledger.KnownTable w.disk (p.layout.migrationsIn p.root) table ∧
        (∀ unknown : Migration.ColumnDefinition → Bool, (∀ x ∈ columns, unknown x = true ↔
            ¬ w.ledger.KnownColumn w.disk (p.layout.migrationsIn p.root) table x.name) →
          pending = columns.filter unknown) ∨
      kind = .createMigration ∧ ¬ w.ledger.KnownTable w.disk (p.layout.migrationsIn p.root) table ∧
        pending = columns := by
  unfold plan at h
  obtain ⟨known, hknown, h⟩ := except_bind_ok.1 h
  have hexists := Ledger.tableExists_ok hknown
  cases known with
  | true =>
    obtain ⟨missing, hmissing, h⟩ := except_bind_ok.1 h
    cases h
    exact .inl ⟨rfl, hexists.1 rfl, fun unknown hunknown => Ledger.missingColumns_ok hmissing unknown hunknown⟩
  | false =>
    cases h
    refine .inr ⟨rfl, fun hk => ?_, rfl⟩
    cases hexists.2 hk

theorem update_of_live {p : Project} {table : String} {columns pending : List Migration.ColumnDefinition}
    {kind : ArtifactKind} {w : Workspace} {r : TableRecord} (h : plan p table columns w = .ok (kind, pending))
    (hlive : w.ledger.Live w.disk (p.layout.migrationsIn p.root) table r) : kind = .updateMigration := by
  rcases plan_ok h with ⟨hkind, -⟩ | ⟨-, hunknown, -⟩
  · exact hkind
  · exact absurd (.inl ⟨r, hlive⟩) hunknown

/-- **What a plan adds**: the columns that it was asked for, less those that an updated table has. -/
theorem mem_pending_iff {p : Project} {table : String} {columns pending : List Migration.ColumnDefinition}
    {kind : ArtifactKind} {w : Workspace} (h : plan p table columns w = .ok (kind, pending))
    {x : Migration.ColumnDefinition} : x ∈ pending ↔ x ∈ columns ∧ (kind = .updateMigration →
      ¬ w.ledger.KnownColumn w.disk (p.layout.migrationsIn p.root) table x.name) := by
  classical
  rcases plan_ok h with ⟨rfl, -, hpending⟩ | ⟨rfl, -, rfl⟩
  · rw [hpending (fun y => decide (¬ w.ledger.KnownColumn w.disk (p.layout.migrationsIn p.root) table y.name))
      (fun y _ => decide_eq_true_iff), List.mem_filter, decide_eq_true_iff]
    exact and_congr_right (fun _ => ⟨fun hx _ => hx, fun hx => hx rfl⟩)
  · exact ⟨fun hx => ⟨hx, fun hkind => by cases hkind⟩, fun hx => hx.1⟩

end Generation

end Scaffold
