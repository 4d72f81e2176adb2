import Scaffold.Proofs.Generation.Account
import Scaffold.Proofs.Generation.Housed
import Scaffold.Proofs.Generation.Sound
/-!
# Proofs.Generation.Planned — migrations that are planned from what stood before the run

A run scans the migrations again and again, and those that it has written itself are among them.  As long as none of
these bears a marker of the table at hand, a scan finds what it would have found before the run (`Told.created_iff`,
`Told.scanned_iff`), provided that no migrations are hidden, which only the directories made by the run bring to light
(`Project.Visible`).  Where no ledger tells of the table, its migration is then the one that a scan before the run would
have planned (`Planned.logged`).
-/
namespace Scaffold

open Disk (Path Grows AddsDirectories IsName)
open Migration (Created Scanned ColumnDefinition)

variable {p : Project} {d d' : Disk} {directory : Path} {name table column : String}

/-- **No migrations are hidden**: their directory can be reached, or no files are in its place. -/
def Project.Visible (p : Project) (d : Disk) : Prop :=
  (∃ here, d.reach p.directory = .ok here) ∨ ∀ name, d.file? (p.directory.location d.base ++ [name]) = none

theorem Disk.Grows.readText_before {spared : Location} {path : Path} {text : String} (hg : Grows spared d d')
    (hfile : d.isFile path = true) (hne : path.location d.base ≠ spared) (h : d'.readText path = .ok text) :
    d.readText path = .ok text := by
  obtain ⟨content, hlook⟩ := Disk.isFile_iff.1 hfile
  obtain ⟨content', hlook', hsame⟩ := hg.look_file hlook
  obtain ⟨found, hfound, htext⟩ := Disk.readText_ok.1 h
  rw [hlook', hsame hne] at hfound
  cases hfound
  exact Disk.readText_ok.2 ⟨content, hlook, htext⟩

namespace Generation

variable {es : List Entity} {e : Entity} {log new : List Entry} {x : Entry} {w w' w₁ : Workspace}
  {kind : ArtifactKind} {pending columns : List ColumnDefinition} {template : String}

/-! ## Scans -/

namespace Told

/-- **A migration that is listed after the run and is none of its own was listed before it.** -/
theorem lists_before (h : Told p es d log d') (hp : p.layout = {}) (hes : ∀ e ∈ es, e.Undivided) (hd : d.Named)
    (hvisible : p.Visible d) (hlog : ∀ x ∈ log, IsName x.name ∧ x.name ≠ name) (hlists : d'.Lists p.directory name) :
    d.Lists p.directory name := by
  have htidy := Project.tidy_standard hp d.base
  have hname := hlists.isName (hd.grows h.grows)
  obtain ⟨-, -, -, hisFile⟩ := Disk.lists_iff.1 hlists
  have hfile : d.file? (p.directory.location d.base ++ [name]) ≠ none := by
    intro hnone
    have hthere := hlists.file?_ne_none (hd.grows h.grows)
    rw [h.grows.base] at hthere
    rcases h.files _ hnone hthere with ⟨x, hx, hlocation⟩ | hledger | ⟨e, he, hmodel | hresource⟩
    · obtain ⟨hxname, hne⟩ := hlog x hx
      rw [show (x.artifact p).location d.base = (p.directory.join ⟨x.name⟩).location d.base from rfl,
        Path.location_join hxname] at hlocation
      exact hne (List.singleton_inj.1 (List.append_cancel_left hlocation))
    · exact htidy.apart name hledger
    · exact location_model hp (isName_modelFile (hes e he).name) _ _ hmodel
    · exact location_resource hp (isName_resourceFile (hes e he).name) _ _ hresource
  -- The file was there before; what is left to show is that it could be listed.
  rcases hvisible with ⟨here, hreach⟩ | hnone
  · obtain ⟨content, hlook⟩ := Disk.isFile_iff.1 hisFile
    obtain ⟨t, hfollow, hholds⟩ := Disk.look_ok.1 hlook
    obtain ⟨hfault, there, -, rfl⟩ := Disk.follow_join_ok hname hfollow
    obtain ⟨-, hwalk⟩ := Disk.reach_ok.1 hreach
    obtain rfl := Disk.walk_location hwalk
    obtain ⟨content', hcontent⟩ := Option.ne_none_iff_exists'.1 hfile
    have hat := Disk.file?_eq_some.1 hcontent
    have hfollow' : d.follow (p.directory.join ⟨name⟩) =
        .ok (.entry (p.directory.location d.base) name false) := by
      rw [Disk.follow_join hname, hfault, hwalk]
      rfl
    have hthere : d.look (p.directory.join ⟨name⟩) = .ok (.file content') :=
      Disk.look_ok.2 ⟨_, hfollow', hholds.1, hat, fun hslash => by cases hslash⟩
    exact Disk.lists_iff.2 ⟨_, hreach, by simp [hat], Disk.isFile_iff.2 ⟨content', hthere⟩⟩
  · exact absurd (hnone name) hfile

/-- **A scan after the run finds that a table is created exactly if one before it did**, if no migration of the run says
so. -/
theorem created_iff (h : Told p es d log d') (hp : p.layout = {}) (hes : ∀ e ∈ es, e.Undivided) (hd : d.Named)
    (hvisible : p.Visible d)
    (hlog : ∀ x ∈ log, IsName x.name ∧ Migration.bears x.name (Migration.createMarker table) = false) :
    Created d' p.directory table ↔ Created d p.directory table := by
  constructor
  · rintro ⟨name, hlists, hbears⟩
    refine ⟨name, h.lists_before hp hes hd hvisible (fun x hx => ⟨(hlog x hx).1, ?_⟩) hlists, hbears⟩
    rintro rfl
    rw [(hlog x hx).2] at hbears
    cases hbears
  · exact fun hcreated => hcreated.grows h.grows

/-- **So does one for a column**, if no migration of the run is about the table. -/
theorem scanned_iff (h : Told p es d log d') (hp : p.layout = {}) (hes : ∀ e ∈ es, e.Undivided) (hd : d.Named)
    (hvisible : p.Visible d)
    (hlog : ∀ x ∈ log, IsName x.name ∧ ∀ kind, Migration.bears x.name (Migration.markerOf kind table) = false) :
    Scanned d' p.directory table column ↔ Scanned d p.directory table column := by
  have htidy := Project.tidy_standard hp d.base
  constructor
  · rintro ⟨hsearch, name, hlists, hbears, text, hread, hdefines⟩
    have hbefore : d.Lists p.directory name := by
      refine h.lists_before hp hes hd hvisible (fun x hx => ⟨(hlog x hx).1, ?_⟩) hlists
      rintro rfl
      have hcreate := (hlog x hx).2 .createMigration
      have hupdate := (hlog x hx).2 .updateMigration
      rcases hbears with hbears | hbears
      · rw [show Migration.createMarker table = Migration.markerOf .createMigration table from rfl, hcreate] at hbears
        cases hbears
      · rw [show Migration.updateMarker table = Migration.markerOf .updateMigration table from rfl, hupdate] at hbears
        cases hbears
    refine ⟨hsearch, name, hbefore, hbears, text, h.grows.readText_before hbefore.isFile ?_ hread, hdefines⟩
    rw [Path.location_join (hbefore.isName hd)]
    exact htidy.apart name
  · exact fun hscanned => hscanned.grows hd htidy.apart h.grows

end Told

/-! ## Plans -/

/-- **Where the ledger has no record of a table and a scan finds what it found on another disk, the plan is the one that
a scan of that disk makes.** -/
theorem eq_scannedPlan (hplan : plan p table columns w = .ok (kind, pending))
    (hrecord : w.ledger.table? table = none)
    (hcreated : Created w.disk p.directory table ↔ Created d p.directory table)
    (hscanned : ∀ column, Scanned w.disk p.directory table column ↔ Scanned d p.directory table column) :
    (kind, pending) = scannedPlan d p.directory table columns := by
  classical
  have hlive : ∀ r, ¬ w.ledger.Live w.disk p.directory table r := by
    rintro r ⟨hr, -⟩
    rw [hrecord] at hr
    cases hr
  have htable : w.ledger.KnownTable w.disk p.directory table ↔ Created d p.directory table := by
    refine Iff.trans ⟨?_, .inr⟩ hcreated
    rintro (⟨r, hr⟩ | hfound)
    · exact absurd hr (hlive r)
    · exact hfound
  have hcolumn : ∀ column,
      w.ledger.KnownColumn w.disk p.directory table column ↔ Scanned d p.directory table column := by
    intro column
    refine Iff.trans ⟨?_, .inr⟩ (hscanned column)
    rintro (⟨r, hr, -⟩ | hfound)
    · exact absurd hr (hlive r)
    · exact hfound
  unfold scannedPlan
  rcases plan_ok hplan with ⟨rfl, hknown, hpending⟩ | ⟨rfl, hunknown, rfl⟩
  · rw [if_pos (htable.1 hknown), hpending (fun x => decide (¬ Scanned d p.directory table x.name)) fun x _ => ?_]
    rw [decide_eq_true_iff]
    exact not_congr (hcolumn x.name).symm
  · rw [if_neg fun hfound => hunknown (htable.2 hfound)]

theorem scannedPlan_of_not_created (h : ¬ Created d directory table) :
    scannedPlan d directory table columns = (.createMigration, columns) := by
  unfold scannedPlan
  rw [if_neg h]

theorem scannedPlan_of_created (h : Created d directory table)
    (hnone : ∀ x ∈ columns, ¬ Scanned d directory table x.name) :
    scannedPlan d directory table columns = (.updateMigration, columns) := by
  classical
  unfold scannedPlan
  rw [if_pos h, List.filter_eq_self.2 fun x hx => decide_eq_true (hnone x hx)]

/-- The names that are listed at a path, in whatever order. -/
def listed? (d : Disk) (directory : Path) : Option (List String) :=
  ((d.reach directory).map fun here =>
    (d.namesIn here).eraseDups.filter fun name => d.isFile (directory.join ⟨name⟩)).toOption

theorem lists_of_listed {names : List String} (h : listed? d directory = some names) :
    (∃ sorted, Migration.namesIn d directory = .ok sorted) ∧ ∀ name, d.Lists directory name ↔ name ∈ names := by
  unfold listed? at h
  cases hreach : d.reach directory with
  | error f =>
    rw [hreach] at h
    cases h
  | ok here =>
    rw [hreach] at h
    have hsorted : d.fileNames directory = .ok (names.mergeSort (· ≤ ·)) := by
      rw [Disk.fileNames_eq, hreach, ← Option.some.inj h]
      rfl
    refine ⟨⟨_, by unfold Migration.namesIn; rw [hsorted]⟩, fun name => ?_⟩
    rw [← Disk.mem_iff_lists hsorted, List.mem_mergeSort]

/-- **Without a record, a plan is what a scan makes of it.** -/
theorem plan_of_listed {names : List String} (hd : w.disk.Named)
    (hu : w.disk.Utf8 (p.directory.location w.disk.base)) (hlisted : listed? w.disk p.directory = some names)
    (hrecord : w.ledger.table? table = none) (hsearch : ∀ x ∈ columns, Migration.isSearchable x.name = true) :
    plan p table columns w = .ok (scannedPlan w.disk p.directory table columns) := by
  obtain ⟨⟨sorted, hnames⟩, -⟩ := lists_of_listed hlisted
  have htotal : ∃ decided, plan p table columns w = .ok decided := by
    obtain ⟨known, hknown⟩ := Ledger.tableExists_total w.ledger table hnames
    obtain ⟨missing, hmissing⟩ := Ledger.missingColumns_total w.ledger table ColumnDefinition.name hnames
      (fun name hl => hu.readable hd hl) hsearch
    cases known with
    | true => exact ⟨_, except_bind_ok.2 ⟨true, hknown, except_bind_ok.2 ⟨missing, hmissing, rfl⟩⟩⟩
    | false => exact ⟨_, except_bind_ok.2 ⟨false, hknown, rfl⟩⟩
  obtain ⟨⟨kind, pending⟩, hplan⟩ := htotal
  rw [hplan, ← eq_scannedPlan hplan hrecord Iff.rfl fun _ => Iff.rfl]

/-- The second of two migrations is about another table, and the name of the first does not say that it is about it
too. -/
def Foreign (x y : Entry) : Prop :=
  x.table ≠ y.table ∧ ∀ kind, Migration.bears x.name (Migration.markerOf kind y.table) = false

/-- **A migration as a scan of the disk would have it planned.** -/
def PlannedOn (d : Disk) (directory : Path) (x : Entry) : Prop :=
  ∃ columns, (x.entity.requiredColumns >>= Migration.resolve) = .ok columns ∧
    (x.kind, x.columns) = scannedPlan d directory x.table columns

/-- **What a run from a disk without a ledger has done by its migrations**: they are told and entered, their texts are
there, and if none of them can be mistaken for one of a later one's table, they are planned from that disk. -/
structure Planned (p : Project) (es : List Entity) (d : Disk) (log : List Entry) (w : Workspace) : Prop where
  told : Told p es d log w.disk
  entered : Entered p .empty log w
  texts : ∀ x ∈ log, IsName x.name ∧ w.disk.readText (p.directory.join ⟨x.name⟩) = .ok x.text
  plans : log.Pairwise Foreign → ∀ x ∈ log, PlannedOn d p.directory x

namespace Planned

theorem start (p : Project) (es : List Entity) (d : Disk) (c : Clock) : Planned p es d [] ⟨d, c, .empty⟩ := by
  refine ⟨.start p es d, .start p ⟨d, c, .empty⟩, fun x hx => ?_, fun _ x hx => ?_⟩ <;> cases hx

/-- **The migration of a table that none before is about is planned from the disk before the run.** -/
theorem plannedOn (h : Planned p es d log w) (hp : p.layout = {}) (hes : ∀ e ∈ es, e.Undivided) (hd : d.Named)
    (hvisible : p.Visible d) (hrec : Recorded p e kind pending template name w w₁)
    (hforeign : ∀ x ∈ log, Foreign x ⟨e, kind, name, pending⟩) :
    PlannedOn d p.directory ⟨e, kind, name, pending⟩ := by
  obtain ⟨columns, hcolumns, hplan, -⟩ := settle_ok.1 hrec.settled
  have hnone : ofTable e.tableName log = [] := by
    rw [List.eq_nil_iff_forall_not_mem]
    intro x hx
    obtain ⟨hx, htable⟩ := mem_ofTable.1 hx
    exact (hforeign x hx).1 htable
  have hrecord : w.ledger.table? e.tableName = none := by
    rw [h.entered.record]
    unfold accountOf
    rw [hnone]
    rfl
  have hlog : ∀ x ∈ log, IsName x.name ∧
      ∀ kind, Migration.bears x.name (Migration.markerOf kind e.tableName) = false :=
    fun x hx => ⟨(h.texts x hx).1, (hforeign x hx).2⟩
  refine ⟨columns, mapError_ok.1 hcolumns, eq_scannedPlan hplan hrecord ?_ fun column => ?_⟩
  · exact h.told.created_iff hp hes hd hvisible fun x hx => ⟨(hlog x hx).1, (hlog x hx).2 .createMigration⟩
  · exact h.told.scanned_iff hp hes hd hvisible hlog

/-- **Whatever an entity does, the migrations are as they were planned before.** -/
theorem logged (h : Planned p es d log w) (hp : p.layout = {}) (hes : ∀ e ∈ es, e.Undivided) (hd : d.Named)
    (hvisible : p.Visible d) (he : e ∈ es) (hnew : Logged p p.ledgerPath e w new w') :
    Planned p es d (log ++ new) w' := by
  have htidy := Project.tidy_standard hp d.base
  have hdirectory := Project.directory_ne_empty_standard hp
  refine ⟨h.told.logged he hnew, h.entered.logged hnew htidy.extension hdirectory (hes e he).table, ?_, ?_⟩
  · have hkept : ∀ x ∈ log, IsName x.name ∧ w'.disk.readText (p.directory.join ⟨x.name⟩) = .ok x.text := by
      intro x hx
      obtain ⟨hname, hread⟩ := h.texts x hx
      exact ⟨hname, hnew.grows.readText hread (location_migration (Project.tidy_standard hp _) hname)⟩
    cases hnew with
    | nothing hadds _ =>
      rw [List.append_nil]
      exact hkept
    | one hrec hfollows =>
      refine List.forall_mem_append.2 ⟨hkept, List.forall_mem_singleton.2 ?_⟩
      have hname := hrec.isName htidy.extension (hes e he).table
      obtain ⟨-, hread⟩ := hrec.found htidy (hes e he).table hdirectory
      exact ⟨hname, hfollows.grows.readText hread (location_migration (Project.tidy_standard hp _) hname)⟩
  · cases hnew with
    | nothing hadds _ =>
      rw [List.append_nil]
      exact h.plans
    | one hrec hfollows =>
      intro hforeign x hx
      rw [List.pairwise_append] at hforeign
      obtain ⟨hbefore, -, hlast⟩ := hforeign
      rcases List.mem_append.1 hx with hx | hx
      · exact h.plans hbefore x hx
      · rw [List.mem_singleton.1 hx]
        exact h.plannedOn hp hes hd hvisible hrec fun y hy => hlast y hy _ (List.mem_singleton_self _)

end Planned

/-- **The migrations of a run that goes through are planned from the disk before it.** -/
theorem planned_of_run {s : Schema} {report : Report} (hp : p.layout = {}) (hs : ∀ e ∈ s.entities, e.Undivided)
    (hd : w.disk.Named) (hvisible : p.Visible w.disk) (hno : w.disk.file? (p.ledgerLocation w.disk.base) = none)
    (h : run p s w = .ok report w') : Planned p s.entities w.disk (runLog p s w) w' := by
  have hrun := runLog_keeps (Planned p s.entities w.disk) [] s w
    (fun e he log w new w' h hnew => h.logged hp hs hd hvisible he hnew)
    (fun l hload => by
      rw [Ledger.load_of_no_file hload hno]
      exact .start p s.entities w.disk w.clock)
  rcases hrun with ⟨-, err, herr⟩ | hend
  · rw [h] at herr
    cases herr
  · rw [h] at hend
    exact hend

end Generation

end Scaffold
