import Scaffold.Proofs.Generation.Creation
import Scaffold.Proofs.Layout.Standard
import Scaffold.Proofs.Migration.Word
/-!
# Proofs.Generation.Fresh — the first run in a project

In a project without files a table counts as created if some migration of the run so far bears its marker
(`Fresh.created_iff`).  A marker may be part of that of another table, as `create_user_table` is part of
`create_user_tables_table`; then the second of the two tables is updated although nothing has created it.  A run that
goes through creates every table exactly if no marker is part of an earlier one (`creates_iff`).
-/
namespace Scaffold

open Disk (Path Grows IsName)
open Migration (Created ColumnDefinition)

/-- **An entity whose names stay whole in file names**: no slash divides them, and no dot ends the table. -/
structure Entity.Whole (e : Entity) : Prop where
  name : '/' ∉ e.name.toList
  table : '/' ∉ e.tableName.toList
  dotless : '.' ∉ e.tableName.toList

/-- **The marker of the second table is no part of that of the first.** -/
def Migration.Apart (first second : String) : Prop :=
  Text.occursIn (createMarker second).toList (createMarker first).toList = false

instance (first second : String) : Decidable (Migration.Apart first second) := inferInstanceAs (Decidable (_ = _))

namespace Generation

variable {p : Project} {e : Entity} {kind : ArtifactKind} {pending : List ColumnDefinition} {template name : String}
  {w w' w₁ : Workspace} {log new : List Entry} {table : String}

/-- **The log tells of all migrations that there are**, and the ledger records no table that a scan does not find.
All migrations of the log create their tables exactly if no marker is part of an earlier one. -/
structure Fresh (p : Project) (log : List Entry) (w : Workspace) : Prop where
  named : w.disk.Named
  only : ∀ name, w.disk.file? (p.directory.location w.disk.base ++ [name]) ≠ none → ∃ x ∈ log, x.name = name
  listed : ∀ x ∈ log, w.disk.Lists p.directory x.name
  called : ∀ x ∈ log, ∃ at_, x.name = Migration.fileName x.kind (Calendar.stamp at_) x.table "php"
  recorded : ∀ table r, w.ledger.table? table = some r → Created w.disk p.directory table
  kinds : (∀ x ∈ log, x.kind = .createMigration) ↔ log.Pairwise fun y x => Migration.Apart y.table x.table

namespace Fresh

/-- **A table counts as created exactly if a marker of the log holds its own.** -/
theorem created_iff (h : Fresh p log w) (hdot : '.' ∉ table.toList) :
    Created w.disk p.directory table ↔ ∃ x ∈ log,
      Text.occursIn (Migration.createMarker table).toList (Migration.markerOf x.kind x.table).toList = true := by
  have hbears : ∀ x ∈ log, Migration.bears x.name (Migration.createMarker table) = true ↔
      Text.occursIn (Migration.createMarker table).toList (Migration.markerOf x.kind x.table).toList = true := by
    intro x hx
    obtain ⟨at_, hname⟩ := h.called x hx
    rw [hname]
    exact Migration.bears_fileName_iff hdot .createMigration x.kind at_
  constructor
  · rintro ⟨name, hlists, hname⟩
    obtain ⟨x, hx, rfl⟩ := h.only name (hlists.file?_ne_none h.named)
    exact ⟨x, hx, (hbears x hx).1 hname⟩
  · rintro ⟨x, hx, hocc⟩
    exact ⟨x.name, h.listed x hx, (hbears x hx).2 hocc⟩

/-- **A table is created exactly if it does not count as created yet**: the ledger knows no more than a scan. -/
theorem kind_iff (h : Fresh p log w) (hrec : Recorded p e kind pending template name w w₁) :
    kind = .createMigration ↔ ¬ Created w.disk p.directory e.tableName := by
  constructor
  · rintro rfl
    exact not_created_of_recorded hrec
  · intro hnot
    obtain ⟨columns, -, hplan, -⟩ := settle_ok.1 hrec.settled
    rcases plan_ok hplan with ⟨-, hknown, -⟩ | ⟨hkind, -, -⟩
    -- A record is no way to be known apart from a scan: the table of every record counts as created.
    · rcases hknown with ⟨r, hr, -⟩ | hcreated
      · exact absurd (h.recorded _ r hr) hnot
      · exact absurd hcreated hnot
    · exact hkind

theorem kinds_append (h : Fresh p log w) (hrec : Recorded p e kind pending template name w w₁)
    (hdot : '.' ∉ e.tableName.toList) {x : Entry} (hx : x = ⟨e, kind, name, pending⟩) :
    (∀ y ∈ log ++ [x], y.kind = .createMigration) ↔
      (log ++ [x]).Pairwise fun y z => Migration.Apart y.table z.table := by
  rw [List.forall_mem_append, List.pairwise_append, ← h.kinds]
  refine and_congr_right (fun hcreate => ?_)
  have hmarker : ∀ y ∈ log, Migration.markerOf y.kind y.table = Migration.createMarker y.table := by
    intro y hy
    rw [hcreate y hy]
    rfl
  -- What is left is the new migration: it creates its table exactly if no marker of the log holds its own.
  simp only [List.forall_mem_singleton, List.pairwise_singleton, true_and]
  rw [hx, show (⟨e, kind, name, pending⟩ : Entry).table = e.tableName from rfl, h.kind_iff hrec, h.created_iff hdot,
    not_exists]
  refine forall_congr' (fun y => ?_)
  rw [not_and]
  refine forall_congr' (fun hy => ?_)
  rw [hmarker y hy, Bool.not_eq_true]
  rfl

theorem later {spared : Location} (h : Fresh p log w) (hg : Grows spared w.disk w'.disk)
    (hfiles : ∀ name, w'.disk.file? (p.directory.location w.disk.base ++ [name]) =
      w.disk.file? (p.directory.location w.disk.base ++ [name])) (hl : w'.ledger = w.ledger) : Fresh p log w' := by
  refine ⟨h.named.grows hg, fun name hfile => ?_, fun x hx => (h.listed x hx).grows hg, h.called,
    fun table r hr => ?_, h.kinds⟩
  · rw [hg.base, hfiles] at hfile
    exact h.only name hfile
  · rw [hl] at hr
    exact (h.recorded table r hr).grows hg

theorem append (h : Fresh p log w) (hp : p.layout = {}) (he : e.Whole)
    (hrec : Recorded p e kind pending template name w w₁) : Fresh p (log ++ [⟨e, kind, name, pending⟩]) w₁ := by
  have hextension := (Project.tidy_standard hp w.disk.base).extension
  have hdirectory := Project.directory_ne_empty_standard hp
  have hname := hrec.isName hextension he.table
  have hg := grows_of_recorded hrec []
  constructor
  case named => exact h.named.grows hg
  case only => exact fun other hfile => hrec.only_append hname rfl h.only hfile
  case kinds => exact h.kinds_append hrec he.dotless rfl
  case listed =>
    intro y hy
    rcases List.mem_append.1 hy with hy | hy
    · exact (h.listed y hy).grows hg
    · rw [List.mem_singleton.1 hy]
      exact hrec.lists hextension he.table hdirectory
  case called =>
    intro y hy
    rcases List.mem_append.1 hy with hy | hy
    · exact h.called y hy
    · rw [List.mem_singleton.1 hy]
      obtain ⟨at_, hat⟩ := hrec.named
      rw [hp] at hat
      exact ⟨at_, hat⟩
  case recorded =>
    intro table r hr
    rw [hrec.ledger] at hr
    by_cases htable : table = e.tableName
    · subst htable
      -- Either the migration is the one that creates the table, or one that does was there.
      by_cases hkind : kind = .createMigration
      · subst hkind
        exact created_of_recorded hrec hextension he.table hdirectory
      · rw [h.kind_iff hrec, Classical.not_not] at hkind
        exact hkind.grows hg
    · rw [table?_recordMigration_of_ne htable] at hr
      exact (h.recorded table r hr).grows hg

theorem logged (h : Fresh p log w) (hp : p.layout = {}) (he : e.Whole) (hnew : Logged p p.ledgerPath e w new w') :
    Fresh p (log ++ new) w' := by
  cases hnew with
  | nothing hadds hl =>
    rw [List.append_nil]
    exact h.later (hadds.grows []) (fun name => hadds.file? _) hl
  | @one kind pending template name w₁ _ hrec hfollows =>
    exact (h.append hp he hrec).later hfollows.grows (fun other => hfollows.elsewhere _
      ((Project.tidy_standard hp _).apart other) (location_model hp (isName_modelFile he.name) _ other)
      (location_resource hp (isName_resourceFile he.name) _ other)) hfollows.ledger

end Fresh

theorem fresh_of_no_files {l : Ledger} (hp : p.layout = {}) (hd : w.disk.Named)
    (hno : ∀ l, w.disk.file? (p.root.location w.disk.base ++ l) = none)
    (hl : Ledger.load w.disk p.ledgerPath = .ok l) : Fresh p [] { w with ledger := l } := by
  have hledger : w.disk.file? (p.ledgerPath.location w.disk.base) = none := by
    rw [show p.ledgerPath.location w.disk.base = p.ledgerLocation w.disk.base from rfl, Project.location_ledger hp]
    exact hno _
  rw [Ledger.load_of_no_file hl hledger]
  refine ⟨hd, fun name hfile => ?_, fun x hx => (by cases hx), fun x hx => (by cases hx),
    fun table r hr => (by cases hr), by simp⟩
  rw [Project.location_directory hp, List.append_assoc] at hfile
  exact absurd (hno _) hfile

/-- **The first run in a project creates every table exactly if no marker is part of an earlier one.** -/
theorem creates_iff {s : Schema} {report : Report} (hp : p.layout = {}) (hd : w.disk.Named)
    (hno : ∀ l, w.disk.file? (p.root.location w.disk.base ++ l) = none) (hs : ∀ e ∈ s.entities, e.Whole)
    (h : run p s w = .ok report w') :
    report.migrations.map (fun a => (a.entity, a.kind)) = s.entities.map (fun e => (e.name, .createMigration)) ↔
      s.entities.Pairwise fun f e => Migration.Apart f.tableName e.tableName := by
  obtain ⟨hentities, hmigrations⟩ := runLog_of_ok h
  have hrun := runLog_keeps (Fresh p) [] s w
    (fun e he log w new w' h hnew => h.logged hp (hs e he) hnew) (fun l hl => fresh_of_no_files hp hd hno hl)
  rcases hrun with ⟨-, err, herr⟩ | hfresh
  · rw [h] at herr
    cases herr
  · have hkinds := hfresh.kinds
    rw [List.nil_append] at hkinds
    rw [← hmigrations, ← hentities, List.pairwise_map, List.map_map, List.map_map, List.map_inj_left]
    refine Iff.trans (forall_congr' fun x => forall_congr' fun _ => ?_) hkinds
    show (x.entity.name, x.kind) = (x.entity.name, ArtifactKind.createMigration) ↔ _
    rw [Prod.mk.injEq]
    exact and_iff_right rfl

/-- A table whose name goes on as `_table` does is not told from the one that it begins with. -/
example : Migration.Apart "user" "user_tables" ∧ ¬ Migration.Apart "user_tables" "user" := by decide

/-- A schema of two entities with one column each. -/
def pairSchema : Schema :=
  ⟨[{ name := "A", table := some "t", columns := NameMap.empty.insert "x" {} },
    { name := "B", table := some "u", columns := NameMap.empty.insert "x" {} }]⟩

theorem pair_goesThrough : goesThrough (run standardProject pairSchema freshWorkspace) = true := by decide +kernel

/-- The first run over the schema of two entities. -/
theorem creates_pair : ∃ report w', run standardProject pairSchema freshWorkspace = .ok report w' ∧
    report.migrations.map (fun a => (a.entity, a.kind)) = [("A", .createMigration), ("B", .createMigration)] := by
  have hwhole : ∀ e ∈ pairSchema.entities, e.Whole := by
    simp only [pairSchema, List.forall_mem_cons]
    exact ⟨⟨by decide, by decide, by decide⟩, ⟨by decide, by decide, by decide⟩, fun _ h => by cases h⟩
  obtain ⟨report, h⟩ := exists_of_goesThrough pair_goesThrough
  exact ⟨report, _, h, (creates_iff rfl named_fresh (fun l => file?_fresh _) hwhole h).2 (by decide)⟩

end Generation

end Scaffold
