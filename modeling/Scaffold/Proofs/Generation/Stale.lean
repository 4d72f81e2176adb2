import Scaffold.Proofs.Generation.Cache
/-!
# Proofs.Generation.Stale — records none of whose migrations is left

A record that does not count does not show in any answer (`tableExists_of_dead`, `columnExists_of_dead`), so what is
decided for its table is what would be decided without it, and the same migration is written.  One that creates the
table replaces the record.  One that updates it extends the record, which counts again from then on, with the columns
of migrations that are gone (`migration_of_stale`).
-/
namespace Scaffold

open Disk (Path Grows Alike)
open Migration (Created ColumnDefinition)

namespace Ledger

variable {l l' : Ledger} {d : Disk} {directory : Path} {table : String}

/-! ## Records that do not count -/

theorem liveRecord_of_dead {names : List String} (h : ∀ r, ¬ l.Live d directory table r)
    (hnames : Migration.namesIn d directory = .ok names) : l.liveRecord d directory table = .ok none := by
  obtain ⟨found, hfound⟩ := liveRecord_total l table hnames
  cases found with
  | none => exact hfound
  | some r => exact absurd ((liveRecord_ok hfound r).1 rfl) (h r)

/-- **Where no record of the table counts, a scan tells whether it exists.** -/
theorem tableExists_of_dead (h : ∀ r, ¬ l.Live d directory table r) :
    l.tableExists d directory table = Migration.tableExists d directory table := by
  cases hnames : Migration.namesIn d directory with
  | error err => rw [tableExists_error l table hnames, Migration.tableExists_error hnames]
  | ok names => exact except_bind_of_ok (liveRecord_of_dead h hnames) _

/-- **Where no record of the table counts, a scan tells whether a column exists.** -/
theorem columnExists_of_dead {names : List String} (hnames : Migration.namesIn d directory = .ok names)
    (h : ∀ r, ¬ l.Live d directory table r) (column : String) :
    l.columnExists d directory table column = Migration.columnExists d directory table column := by
  unfold columnExists
  rw [except_bind_of_ok (liveRecord_of_dead h hnames), if_neg (by simp)]

theorem missingColumns_of_dead {α : Type} {names : List String} (hnames : Migration.namesIn d directory = .ok names)
    (h : ∀ r, ¬ l.Live d directory table r) (h' : ∀ r, ¬ l'.Live d directory table r) (nameOf : α → String)
    (columns : List α) :
    l'.missingColumns d directory table nameOf columns = l.missingColumns d directory table nameOf columns := by
  induction columns with
  | nil => rfl
  | cons x rest ih =>
    rw [missingColumns, missingColumns, columnExists_of_dead hnames h, columnExists_of_dead hnames h', ih]

/-! ## Forgetting a table -/

theorem forget_forget (l : Ledger) (table : String) : ((l.forget table).2.forget table).2 = (l.forget table).2 := by
  refine ext rfl ?_
  show (l.tables.filter _).filter _ = l.tables.filter _
  rw [List.filter_filter]
  simp

end Ledger

def Workspace.forgetting (w : Workspace) (table : String) : Workspace :=
  { w with ledger := (w.ledger.forget table).2 }

@[simp] theorem Workspace.disk_forgetting (w : Workspace) (table : String) : (w.forgetting table).disk = w.disk := rfl

namespace Generation

variable {p : Project} {ledgerPath : Path} {e : Entity} {w w' w₁ w₂ : Workspace} {l l' : Ledger} {table : String}
  {kind : ArtifactKind} {pending : List ColumnDefinition} {template : String} {a : Artifact}

/-- **A table is created in a ledger as if it had no record there.** -/
theorem recordMigration_forget (table name : String) (columns : List String) (l : Ledger) :
    recordMigration .createMigration table name columns (l.forget table).2 =
      recordMigration .createMigration table name columns l := by
  unfold recordMigration
  rw [if_pos rfl, if_pos rfl, Ledger.forget_forget]

theorem past_forget (kind : ArtifactKind) (table : String) (l : Ledger) : past kind table (l.forget table).2 = {} := by
  unfold past
  rw [Ledger.table?_forget_self]
  split
  · rfl
  · rfl

/-! ## Two ledgers over one disk -/

/-- Two workspaces that differ in the ledger in memory only. -/
inductive Holding (l l' : Ledger) : Workspace → Workspace → Prop where
  | intro (d : Disk) (c : Clock) : Holding l l' ⟨d, c, l⟩ ⟨d, c, l'⟩

theorem Holding.beside (h : Holding l l' w w') : Beside Eq w w' := by
  cases h
  exact ⟨rfl, rfl⟩

theorem Holding.eq_of_eq (h : Holding l l' w w') (hl : l' = l) : w' = w := by
  cases h
  rw [hl]

theorem Holding.onDisk {α : Type} (h : Holding l l' w w') (path : Path) (action : Disk.Action α) :
    Agree (Holding l l') (Holding l l') (onDisk path action w) (onDisk path action w') := by
  obtain ⟨d, c⟩ := h
  unfold Generation.onDisk
  dsimp only
  cases action d with
  | ok a d₁ => exact .ok a ⟨d₁, c⟩
  | error f d₁ => exact .error _ ⟨d₁, c⟩

/-- **A migration is placed without a look at the ledger.** -/
theorem Holding.place (h : Holding l l' w w') (directory : Path) (kind : ArtifactKind)
    (table extension content : String) (tries : Nat) : Agree (Holding l l') (Holding l l')
      (placeMigration directory kind table extension content tries w)
      (placeMigration directory kind table extension content tries w') := by
  refine agree_tries (fun _ _ ht => ht) (fun _ _ ht => ht.beside.2) (fun t t' at_ c name ht _ => ?_) tries h
  obtain ⟨d, c₀⟩ := ht
  exact (Holding.intro d c).onDisk _ _

/-- **Two ledgers have been saved over one disk**, and are as they were in memory. -/
structure Filed (ledgerPath : Path) (l l' : Ledger) (d : Disk) (w w' : Workspace) : Prop where
  beside : Beside (Alike ledgerPath) w w'
  grows : Grows (ledgerPath.location d.base) d w.disk
  first : w.ledger = l
  second : w'.ledger = l'

theorem Holding.save (h : Holding l l' w w') (ledgerPath : Path) :
    Agree (Filed ledgerPath l l' w.disk) (Beside Eq) (Generation.onDisk ledgerPath (w.ledger.save ledgerPath) w)
      (Generation.onDisk ledgerPath (w'.ledger.save ledgerPath) w') := by
  obtain ⟨d, c⟩ := h
  have hsave := Disk.agree_contents ledgerPath l.toText.toUTF8 l'.toText.toUTF8 d
  have hgrows := save_cases l ledgerPath d
  change Agree _ _ (l.save ledgerPath d) (l'.save ledgerPath d) at hsave
  unfold Generation.onDisk
  dsimp only
  generalize l.save ledgerPath d = r at hsave hgrows
  generalize l'.save ledgerPath d = r' at hsave
  cases hsave with
  | error f hs => exact .error _ ⟨hs, rfl⟩
  | ok a hs =>
    rcases hgrows with ⟨d', hd, hrep⟩ | ⟨f, d', hd, -⟩
    · cases hd
      exact .ok () ⟨⟨hs, rfl⟩, hrep.grows, rfl, rfl⟩
    · cases hd

/-- **What is enacted differs with the ledger in what is recorded and saved only.** -/
theorem enact_of_holding (h : Holding l l' w w') (p : Project) (ledgerPath : Path) (e : Entity) (kind : ArtifactKind)
    (pending : List ColumnDefinition) (template : String) :
    (∃ err t t', Holding l l' t t' ∧ enact p ledgerPath e kind pending template w = .error err t ∧
      enact p ledgerPath e kind pending template w' = .error err t') ∨
    ∃ name t t', t.disk.isFile (p.directory.join ⟨name⟩) = true ∧
      Holding (recordMigration kind e.tableName name (pending.map (·.name)) l)
        (recordMigration kind e.tableName name (pending.map (·.name)) l') t t' ∧
      enact p ledgerPath e kind pending template w = (onDisk ledgerPath (t.ledger.save ledgerPath) >>= fun _ =>
        pure ⟨e.name, kind, p.directory.join ⟨name⟩, .written⟩) t ∧
      enact p ledgerPath e kind pending template w' = (onDisk ledgerPath (t'.ledger.save ledgerPath) >>= fun _ =>
        pure ⟨e.name, kind, p.directory.join ⟨name⟩, .written⟩) t' := by
  have hplace := h.place p.directory kind e.tableName p.layout.extension
    (migrationText template e.tableName pending) attempts
  obtain ⟨d₀, c₀⟩ := h
  rcases placeMigration_cases p.directory kind e.tableName p.layout.extension
      (migrationText template e.tableName pending) attempts ⟨d₀, c₀, l⟩ with
    ⟨name, d, c, hw, -, hplaced⟩ | ⟨err, d, c, hw, -⟩
  · generalize hw' : placeMigration p.directory kind e.tableName p.layout.extension
      (migrationText template e.tableName pending) attempts ⟨d₀, c₀, l'⟩ = r at hplace
    rw [hw] at hplace
    have hfile : d.isFile (p.directory.join ⟨name⟩) = true := Disk.isFile_iff.2 ⟨_, hplaced.look⟩
    cases hplace with
    | ok _ ht =>
      cases ht
      exact .inr ⟨name, ⟨d, c, _⟩, ⟨d, c, _⟩, hfile, .intro d c, enact_of_placed hw rfl, enact_of_placed hw' rfl⟩
  · generalize hw' : placeMigration p.directory kind e.tableName p.layout.extension
      (migrationText template e.tableName pending) attempts ⟨d₀, c₀, l'⟩ = r at hplace
    rw [hw] at hplace
    cases hplace with
    | error _ ht => exact .inl ⟨err, _, _, ht, enact_of_error hw, enact_of_error hw'⟩

/-! ## Stale records -/

theorem dead_of_stale {r : TableRecord} (hr : w.ledger.table? table = some r)
    (hstale : ∀ name ∈ r.migrations, ¬ w.disk.Lists p.directory name) :
    ∀ found, ¬ w.ledger.Live w.disk p.directory table found := by
  rintro found ⟨hfound, name, hname, hlists⟩
  cases hr.symm.trans hfound
  exact hstale name hname hlists

theorem dead_of_forgetting (w : Workspace) (table : String) :
    ∀ found, ¬ (w.forgetting table).ledger.Live w.disk p.directory table found := by
  rintro found ⟨hfound, -⟩
  change (w.ledger.forget table).2.table? table = some found at hfound
  rw [Ledger.table?_forget_self] at hfound
  cases hfound

/-- **A record that does not count is ignored when it is decided what to write.** -/
theorem settle_forgetting (hdead : ∀ found, ¬ w.ledger.Live w.disk p.directory e.tableName found) :
    settle p e (w.forgetting e.tableName) = settle p e w := by
  have hforgotten := dead_of_forgetting (p := p) w e.tableName
  have hplan : ∀ columns, plan p e.tableName columns (w.forgetting e.tableName) = plan p e.tableName columns w := by
    intro columns
    unfold plan planIn
    rw [w.disk_forgetting, show p.layout.migrationsIn p.root = p.directory from rfl, Ledger.tableExists_of_dead hdead,
      Ledger.tableExists_of_dead hforgotten]
    cases hnames : Migration.namesIn w.disk p.directory with
    | error err =>
      rw [except_bind_of_error (Migration.tableExists_error hnames _),
        except_bind_of_error (Migration.tableExists_error hnames _)]
    | ok names => rw [Ledger.missingColumns_of_dead hnames hdead hforgotten]
  rw [settle_eq, settle_eq]
  unfold settleFor
  simp only [hplan, w.disk_forgetting]

theorem holding_forgetting (w : Workspace) (table : String) :
    Holding w.ledger (w.ledger.forget table).2 w (w.forgetting table) := .intro w.disk w.clock

/-- **A table that is created gets the same record as if it had had none.** -/
theorem enact_create_forgetting (p : Project) (ledgerPath : Path) (e : Entity) (pending : List ColumnDefinition)
    (template : String) (w : Workspace) :
    Agree Eq (Beside Eq) (enact p ledgerPath e .createMigration pending template w)
      (enact p ledgerPath e .createMigration pending template (w.forgetting e.tableName)) := by
  rcases enact_of_holding (holding_forgetting w e.tableName) p ledgerPath e .createMigration pending template with
    ⟨err, t, t', ht, hw, hw'⟩ | ⟨name, t, t', -, ht, hw, hw'⟩
  · rw [hw, hw']
    exact .error err ht.beside
  -- The record is dropped on both sides, so that the two ledgers are the same before they are saved.
  · rw [hw, hw', ht.eq_of_eq (recordMigration_forget e.tableName name _ w.ledger)]
    exact .refl (fun _ => rfl) (fun _ => ⟨rfl, rfl⟩) _

/-- **A table that is updated keeps its record**, whether it counts or not: a new migration is added to it on the one
side, and a record is begun with that migration on the other. -/
structure Revived (p : Project) (ledgerPath : Path) (table : String) (r : TableRecord) (w w' : Workspace) : Prop where
  beside : Beside (Alike ledgerPath) w w'
  records : ∃ name columns, w.disk.isFile (p.directory.join ⟨name⟩) = true ∧
    w.ledger.table? table = some (r.extend name columns) ∧
    w'.ledger.table? table = some (TableRecord.extend {} name columns)

theorem enact_update_forgetting {r : TableRecord} (hr : w.ledger.table? e.tableName = some r) (p : Project)
    (ledgerPath : Path) (pending : List ColumnDefinition) (template : String) :
    Agree (Revived p ledgerPath e.tableName r) (Beside Eq)
      (enact p ledgerPath e .updateMigration pending template w)
      (enact p ledgerPath e .updateMigration pending template (w.forgetting e.tableName)) := by
  rcases enact_of_holding (holding_forgetting w e.tableName) p ledgerPath e .updateMigration pending template with
    ⟨err, t, t', ht, hw, hw'⟩ | ⟨name, t, t', hfile, ht, hw, hw'⟩
  · rw [hw, hw']
    exact .error err ht.beside
  -- The two ledgers differ in the past of the table, and whatever they hold is saved in the same way.
  · rw [hw, hw']
    have hrecord := table?_recordMigration_self .updateMigration e.tableName name (pending.map (·.name)) w.ledger
    have hrecord' := table?_recordMigration_self .updateMigration e.tableName name (pending.map (·.name))
      (w.ledger.forget e.tableName).2
    rw [past_update hr] at hrecord
    rw [past_forget] at hrecord'
    refine (ht.save ledgerPath).bind (fun _ v v' hv => .ok _ ?_)
    exact ⟨hv.beside, name, _, hv.grows.isFile hfile, by rw [hv.first, hrecord], by rw [hv.second, hrecord']⟩

/-- **A record none of whose migrations is left is ignored**, and where its table is created it is dropped.  Where a
scan finds that the table exists, the record is extended by the migration that is written, and with that it counts
again: its columns are taken to exist, although nothing adds them. -/
theorem migration_of_stale {r : TableRecord} (p : Project) (ledgerPath : Path)
    (hr : w.ledger.table? e.tableName = some r) (hstale : ∀ name ∈ r.migrations, ¬ w.disk.Lists p.directory name) :
    (¬ Created w.disk p.directory e.tableName → Agree Eq (Beside Eq) (migration p ledgerPath e w)
      (migration p ledgerPath e (w.forgetting e.tableName))) ∧
    (Created w.disk p.directory e.tableName → Agree (Revived p ledgerPath e.tableName r) (Beside Eq)
      (migration p ledgerPath e w) (migration p ledgerPath e (w.forgetting e.tableName))) := by
  have hdead := dead_of_stale hr hstale
  rw [migration_eq, migration_eq, settle_forgetting hdead]
  cases hs : settle p e w with
  | error err => exact ⟨fun _ => .error err ⟨rfl, rfl⟩, fun _ => .error err ⟨rfl, rfl⟩⟩
  | ok settled =>
    obtain ⟨kind, pending, template⟩ := settled
    obtain ⟨columns, -, hplan, -⟩ := settle_ok.1 hs
    rcases plan_ok hplan with ⟨rfl, hknown, -⟩ | ⟨rfl, hunknown, -⟩
    · have hcreated : Created w.disk p.directory e.tableName := by
        rcases hknown with ⟨found, hlive⟩ | hcreated
        · exact absurd hlive (hdead found)
        · exact hcreated
      exact ⟨fun hnot => absurd hcreated hnot, fun _ => enact_update_forgetting hr p ledgerPath pending template⟩
    · exact ⟨fun _ => enact_create_forgetting p ledgerPath e pending template w,
        fun hcreated => absurd (.inr hcreated) hunknown⟩

/-- An entity whose table has the column `x`. -/
def staleEntity : Entity := { name := "A", table := some "t", columns := NameMap.empty.insert "x" {} }

/-- A disk on which an empty migration creates the table, and a ledger whose record of it knows of another migration
and the column `y`. -/
def staleWorkspace : Workspace where
  disk := ((({} : Disk).put ["p"] .directory).put ["p", "m"] .directory).put
    ["p", "m", "2024_01_01_000000_create_t_table.php"] (.file ⟨#[]⟩)
  clock := .fixed ⟨0, 0⟩
  ledger := Ledger.empty.put "t" ⟨["y"], ["2023_01_01_000000_create_t_table.php"]⟩

theorem stale_goesThrough :
    goesThrough (migration smallProject smallProject.ledgerPath staleEntity staleWorkspace) = true := by decide +kernel

theorem stale_forgetting : (endState (migration smallProject smallProject.ledgerPath staleEntity
    (staleWorkspace.forgetting "t"))).ledger.hasColumn "t" "y" = false := by decide +kernel

/-- Updating a table whose record is stale: the column `y` is recorded afterwards as before, and it is not where the
table had no record. -/
theorem migration_of_stale_small : ∃ a w₁ w₁',
    migration smallProject smallProject.ledgerPath staleEntity staleWorkspace = .ok a w₁ ∧
    migration smallProject smallProject.ledgerPath staleEntity (staleWorkspace.forgetting "t") = .ok a w₁' ∧
    w₁.ledger.hasColumn "t" "y" = true ∧ w₁'.ledger.hasColumn "t" "y" = false := by
  have hrecord : staleWorkspace.ledger.table? staleEntity.tableName =
      some ⟨["y"], ["2023_01_01_000000_create_t_table.php"]⟩ := by decide +kernel
  have hgone : staleWorkspace.disk.isFile
      (smallProject.directory.join ⟨"2023_01_01_000000_create_t_table.php"⟩) = false := by decide +kernel
  have hthere : staleWorkspace.disk.isFile
      (smallProject.directory.join ⟨"2024_01_01_000000_create_t_table.php"⟩) = true := by decide +kernel
  have hcreated : Created staleWorkspace.disk smallProject.directory staleEntity.tableName := by
    obtain ⟨content, hlook⟩ := Disk.isFile_iff.1 hthere
    exact ⟨_, Disk.lists_of_look ⟨by decide, by decide, by decide, by decide⟩ (by decide) hlook, by decide +kernel⟩
  have hstale : ∀ name ∈ ["2023_01_01_000000_create_t_table.php"],
      ¬ staleWorkspace.disk.Lists smallProject.directory name := by
    intro name hname hlists
    rw [List.mem_singleton.1 hname] at hlists
    exact Bool.false_ne_true (hgone.symm.trans hlists.isFile)
  have hagree := (migration_of_stale smallProject smallProject.ledgerPath hrecord hstale).2 hcreated
  rw [show staleEntity.tableName = "t" from rfl] at hagree
  obtain ⟨a, hw⟩ := exists_of_goesThrough stale_goesThrough
  rw [hw] at hagree
  obtain ⟨w₁', hw', hrevived⟩ := hagree.of_ok
  have hunknown := stale_forgetting
  rw [hw'] at hunknown
  obtain ⟨name, columns, -, hfirst, -⟩ := hrevived.records
  refine ⟨a, _, _, hw, hw', ?_, hunknown⟩
  unfold Ledger.hasColumn
  rw [hfirst, Option.any_some, List.contains_iff_mem]
  exact TableRecord.mem_foldl_addColumn.2 (.inl (List.mem_singleton_self "y"))

end Generation

end Scaffold
