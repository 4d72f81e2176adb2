import Scaffold.Proofs.Generation.Classes
import Scaffold.Proofs.Generation.Fresh
import Scaffold.Proofs.Generation.Planned
import Scaffold.Proofs.Generation.Remembered
/-!
# Proofs.Generation.Permuted — the order of the entities

Where no ledger tells of a project and no migration of a run can be mistaken for one of another table, whatever an
entity gets from the run is read off the disk before it (`ClearRun.gets`), and so is the record of its table
(`ClearRun.recorded`).  So the order of the entities shows in the stamps and nowhere else (`run_permuted`).  It shows
elsewhere where migrations are hidden, for the first entity of a run does not find them and the others do
(`order_shows`).
-/
namespace Scaffold.Generation

open Disk (Path)
open Migration (ColumnDefinition)

variable {p : Project} {s s' : Schema} {report report' : Report} {w w' w₁ w₂ : Workspace} {e : Entity}
  {log : List Entry} {x : Entry}

/-- **No migration can be mistaken for one of another table**: its name holds no marker of that table. -/
def Unmistaken (log : List Entry) : Prop :=
  ∀ x ∈ log, ∀ y ∈ log, x.table ≠ y.table →
    Migration.bears x.name (Migration.createMarker y.table) = false ∧
      Migration.bears x.name (Migration.updateMarker y.table) = false

instance (log : List Entry) : Decidable (Unmistaken log) := inferInstanceAs (Decidable (∀ x ∈ log, ∀ y ∈ log, _ → _))

/-- **A run whose entities do not get in each other's way**: it goes through in the standard layout, without a ledger
and without hidden migrations, and its entities and their migrations can be told apart. -/
structure ClearRun (p : Project) (s : Schema) (w : Workspace) (report : Report) (w' : Workspace) : Prop where
  standard : p.layout = {}
  named : w.disk.Named
  visible : p.Visible w.disk
  noLedger : w.disk.file? (p.ledgerLocation w.disk.base) = none
  distinct : s.Distinct
  goesThrough : run p s w = .ok report w'
  unmistaken : Unmistaken (runLog p s w)

/-- **What an entity gets from a run**: the kind and the text of its migration, and for either class whether it was
written, and what is at its path in the end. -/
structure Yield where
  kind : ArtifactKind
  text : String
  model : Disk.Outcome × Node
  resource : Disk.Outcome × Node

/-- **An entity gets this from a run** with this report, which ends on this disk.  Nothing is left open but the stamp of
its migration. -/
def Gets (p : Project) (report : Report) (d : Disk) (e : Entity) (y : Yield) : Prop :=
  ∃ at_, report.artifacts.filter (·.entity == e.name) =
      [⟨e.name, y.kind,
          p.directory.join ⟨Migration.fileName y.kind (Calendar.stamp at_) e.tableName p.layout.extension⟩, .written⟩,
        ⟨e.name, .model, modelPath p e, y.model.1⟩, ⟨e.name, .resource, resourcePath p e, y.resource.1⟩] ∧
    d.readText (p.directory.join ⟨Migration.fileName y.kind (Calendar.stamp at_) e.tableName p.layout.extension⟩) =
      .ok y.text ∧
    d.look (modelPath p e) = .ok y.model.2 ∧ d.look (resourcePath p e) = .ok y.resource.2

/-- What an entity gets whose columns and model parts are these, as far as the disk before the run tells. -/
noncomputable def yieldOf (p : Project) (d : Disk) (e : Entity) (columns : List ColumnDefinition)
    (parts : String × String × String) : Yield :=
  let planned := scannedPlan d p.directory e.tableName columns
  ⟨planned.1, migrationText (Template.builtin planned.1) e.tableName planned.2, modelAt p d e parts, resourceAt p d e⟩

theorem ofTable_of_nodup (h : (log.map Entry.table).Nodup) (hx : x ∈ log) : ofTable x.table log = [x] := by
  induction log with
  | nil => cases hx
  | cons first rest ih =>
    rw [List.map_cons, List.nodup_cons] at h
    unfold ofTable
    rcases List.mem_cons.1 hx with rfl | hx
    · have hothers : rest.filter (·.table == x.table) = [] :=
        List.filter_eq_nil_iff.2 fun y hy hsame => h.1 (beq_iff_eq.1 hsame ▸ List.mem_map_of_mem hy)
      rw [List.filter_cons_of_pos (by simp), hothers]
    · have hother : (first.table == x.table) = false := by
        rw [beq_eq_false_iff_ne]
        exact fun hsame => h.1 (hsame ▸ List.mem_map_of_mem hx)
      rw [List.filter_cons_of_neg (by rw [hother]; decide)]
      exact ih h.2 hx

/-- **A table that had no record and has one migration is recorded with what that migration adds.** -/
theorem columns_accountOf (h : ofTable x.table log = [x]) :
    (accountOf none x.table log).map (·.columns) = some (x.columns.map (·.name)).eraseDups := by
  unfold accountOf defined
  rw [h]
  simp

namespace ClearRun

theorem planned (h : ClearRun p s w report w') : Planned p s.entities w.disk (runLog p s w) w' :=
  planned_of_run h.standard h.distinct.undivided h.named h.visible h.noLedger h.goesThrough

theorem nodup_tables (h : ClearRun p s w report w') : ((runLog p s w).map Entry.table).Nodup := by
  have htables := h.distinct.tables
  rw [← (runLog_of_ok h.goesThrough).1, List.map_map] at htables
  exact htables

/-- **No migration of the run is about the table of a later one.** -/
theorem foreign (h : ClearRun p s w report w') : (runLog p s w).Pairwise Foreign := by
  have hpairwise : (runLog p s w).Pairwise fun x y => x.table ≠ y.table := List.pairwise_map.1 h.nodup_tables
  refine hpairwise.imp_of_mem fun {x y} hx hy hne => ⟨hne, fun kind => ?_⟩
  obtain ⟨hcreate, hupdate⟩ := h.unmistaken x hx y hy hne
  cases kind <;> assumption

/-- **The migration of every entity is the one that a scan before the run would have planned.** -/
theorem entry (h : ClearRun p s w report w') (he : e ∈ s.entities) : ∃ x ∈ runLog p s w, x.entity = e ∧
    ∃ columns, (e.requiredColumns >>= Migration.resolve) = .ok columns ∧
      (x.kind, x.columns) = scannedPlan w.disk p.directory e.tableName columns := by
  rw [← (runLog_of_ok h.goesThrough).1] at he
  obtain ⟨x, hx, rfl⟩ := List.mem_map.1 he
  exact ⟨x, hx, rfl, h.planned.plans h.foreign x hx⟩

/-- **What an entity gets is read off the disk before the run.** -/
theorem gets (h : ClearRun p s w report w') (he : e ∈ s.entities) : ∃ columns parts,
    (e.requiredColumns >>= Migration.resolve) = .ok columns ∧ modelParts e = .ok parts ∧
      Gets p report w'.disk e (yieldOf p w.disk e columns parts) := by
  obtain ⟨x, hx, rfl, columns, hcolumns, hplan⟩ := h.entry he
  have hhoused := housed_of_run h.standard h.distinct.undivided w
  rw [h.goesThrough] at hhoused
  obtain ⟨l, -, hrun⟩ := run_ok.1 h.goesThrough
  have htriple := (share_of_entity hrun h.distinct.names he).triple
  obtain ⟨a, parts, hparts, hfilter, hmodel, hresource⟩ :=
    classes_of_entities hrun h.standard h.distinct.undivided h.distinct.names he hhoused
  have hmigration : x.artifact p ∈ report.migrations := by
    rw [← (runLog_of_ok h.goesThrough).2]
    exact List.mem_map_of_mem hx
  obtain ⟨hreported, hkind⟩ := List.mem_filter.1 hmigration
  have hmem : x.artifact p ∈ report.artifacts.filter (·.entity == x.entity.name) :=
    List.mem_filter.2 ⟨hreported, beq_self_eq_true _⟩
  obtain ⟨at_, heq⟩ := htriple.eq_migration hmem hkind
  -- Of the three artifacts only the first is a migration.
  have hfirst : x.artifact p = a := by
    rw [hfilter, List.mem_cons, List.mem_pair] at hmem
    rcases hmem with hfirst | hclass | hclass
    · exact hfirst
    · rw [hclass] at hkind
      cases hkind
    · rw [hclass] at hkind
      cases hkind
  have hyield : yieldOf p w.disk x.entity columns parts =
      ⟨x.kind, x.text, modelAt p w.disk x.entity parts, resourceAt p w.disk x.entity⟩ := by
    unfold yieldOf
    rw [← hplan]
    rfl
  refine ⟨columns, parts, hcolumns, hparts, ?_⟩
  rw [hyield]
  refine ⟨at_, ?_, ?_, hmodel, hresource⟩
  · rw [hfilter, ← hfirst]
    exact congrArg (· :: _) heq
  · have htext := (h.planned.texts x hx).2
    have hpath := congrArg Artifact.path heq
    dsimp only [Entry.artifact] at hpath
    rw [hpath] at htext
    exact htext

/-- **So is what is recorded of its table**, -/
theorem recorded (h : ClearRun p s w report w') (he : e ∈ s.entities) : ∃ columns,
    (e.requiredColumns >>= Migration.resolve) = .ok columns ∧
      (w'.ledger.table? e.tableName).map (·.columns) =
        some ((scannedPlan w.disk p.directory e.tableName columns).2.map (·.name)).eraseDups := by
  obtain ⟨x, hx, rfl, columns, hcolumns, hplan⟩ := h.entry he
  refine ⟨columns, hcolumns, ?_⟩
  rw [h.planned.entered.record, ← hplan]
  exact columns_accountOf (ofTable_of_nodup h.nodup_tables hx)

/-- **and nothing is recorded of a table that no entity has.** -/
theorem not_recorded (h : ClearRun p s w report w') {table : String} (hnone : ∀ e ∈ s.entities, e.tableName ≠ table) :
    w'.ledger.table? table = none := by
  rw [h.planned.entered.record]
  have hnone : ofTable table (runLog p s w) = [] := by
    rw [List.eq_nil_iff_forall_not_mem]
    intro x hx
    obtain ⟨hx, htable⟩ := mem_ofTable.1 hx
    refine hnone x.entity ?_ htable
    rw [← (runLog_of_ok h.goesThrough).1]
    exact List.mem_map_of_mem hx
  unfold accountOf
  rw [hnone]
  rfl

theorem loads (h : ClearRun p s w report w') : Ledger.load w'.disk p.ledgerPath = .ok w'.ledger := by
  obtain ⟨l, hload, hrun⟩ := run_ok.1 h.goesThrough
  exact load_of_entities (w := { w with ledger := l }) hload hrun

end ClearRun

/-- **The order of the entities shows in the stamps and nowhere else.**  In a project without a ledger and without
hidden migrations, two runs over the same entities in different orders give every entity the same, and record the same
columns of every table, as long as no migration of either can be mistaken for one of another table. -/
theorem run_permuted (hp : p.layout = {}) (hd : w.disk.Named) (hvisible : p.Visible w.disk)
    (hno : w.disk.file? (p.ledgerLocation w.disk.base) = none) (hs : s.Distinct)
    (hperm : s.entities.Perm s'.entities) (h : run p s w = .ok report w₁) (h' : run p s' w = .ok report' w₂)
    (hclear : Unmistaken (runLog p s w)) (hclear' : Unmistaken (runLog p s' w)) :
    (∀ e ∈ s.entities, ∃ y, Gets p report w₁.disk e y ∧ Gets p report' w₂.disk e y) ∧
    ∃ l l', Ledger.load w₁.disk p.ledgerPath = .ok l ∧ Ledger.load w₂.disk p.ledgerPath = .ok l' ∧
      ∀ table, (l.table? table).map (·.columns) = (l'.table? table).map (·.columns) := by
  have hrun : ClearRun p s w report w₁ := ⟨hp, hd, hvisible, hno, hs, h, hclear⟩
  have hrun' : ClearRun p s' w report' w₂ := ⟨hp, hd, hvisible, hno, hs.perm hperm, h', hclear'⟩
  refine ⟨fun e he => ?_, _, _, hrun.loads, hrun'.loads, fun table => ?_⟩
  · obtain ⟨columns, parts, hcolumns, hparts, hgets⟩ := hrun.gets he
    obtain ⟨columns', parts', hcolumns', hparts', hgets'⟩ := hrun'.gets (hperm.subset he)
    cases hcolumns.symm.trans hcolumns'
    cases hparts.symm.trans hparts'
    exact ⟨_, hgets, hgets'⟩
  · by_cases htable : ∃ e ∈ s.entities, e.tableName = table
    · obtain ⟨e, he, rfl⟩ := htable
      obtain ⟨columns, hcolumns, hrecord⟩ := hrun.recorded he
      obtain ⟨columns', hcolumns', hrecord'⟩ := hrun'.recorded (hperm.subset he)
      cases hcolumns.symm.trans hcolumns'
      rw [hrecord, hrecord']
    · have hnone : ∀ e ∈ s.entities, e.tableName ≠ table := fun e he heq => htable ⟨e, he, heq⟩
      rw [hrun.not_recorded hnone, hrun'.not_recorded fun e he => hnone e (hperm.symm.subset he)]

/-! ## Names of migrations -/

/-- **No marker of the second table is part of one of the first.** -/
def Separate (first second : String) : Prop :=
  ∀ kind ∈ [ArtifactKind.createMigration, .updateMigration], ∀ kind' ∈ [ArtifactKind.createMigration, .updateMigration],
    Text.occursIn (Migration.markerOf kind second).toList (Migration.markerOf kind' first).toList = false

instance (first second : String) : Decidable (Separate first second) :=
  inferInstanceAs (Decidable (∀ kind ∈ _, ∀ kind' ∈ _, _ = _))

theorem name_of_runLog (hx : x ∈ runLog p s w) : x.entity ∈ s.entities ∧ x.kind.isMigration = true ∧
    ∃ at_, x.name = Migration.fileName x.kind (Calendar.stamp at_) x.table p.layout.extension := by
  have hrun := runLog_keeps (p := p) (fun log _ => ∀ x ∈ log, x.entity ∈ s.entities ∧ x.kind.isMigration = true ∧
      ∃ at_, x.name = Migration.fileName x.kind (Calendar.stamp at_) x.table p.layout.extension) [] s w
    (fun e he log w₁ new w₂ hbefore hnew => by
      cases hnew with
      | nothing hadds _ =>
        rw [List.append_nil]
        exact hbefore
      | one hrec _ =>
        exact List.forall_mem_append.2 ⟨hbefore, List.forall_mem_singleton.2 ⟨he, hrec.isMigration, hrec.named⟩⟩)
    (fun l _ x hx => by cases hx)
  rcases hrun with ⟨hnone, -⟩ | hlog
  · rw [hnone] at hx
    cases hx
  · exact hlog x hx

/-- **Whether migrations can be mistaken is decided by the tables**, as long as no dot is in their names. -/
theorem unmistaken_of_separate (hp : p.layout = {}) (hdots : ∀ e ∈ s.entities, '.' ∉ e.tableName.toList)
    (hseparate : ∀ e ∈ s.entities, ∀ f ∈ s.entities, e.tableName ≠ f.tableName → Separate e.tableName f.tableName) :
    Unmistaken (runLog p s w) := by
  intro x hx y hy hne
  obtain ⟨hxmem, hxkind, at_, hname⟩ := name_of_runLog hx
  obtain ⟨hymem, -, -⟩ := name_of_runLog hy
  have hmarkers := hseparate x.entity hxmem y.entity hymem hne
  have hbears : ∀ kind ∈ [ArtifactKind.createMigration, .updateMigration],
      Migration.bears x.name (Migration.markerOf kind y.table) = false := by
    intro kind hkind
    refine Bool.eq_false_iff.2 fun hbears => ?_
    rw [hname, hp] at hbears
    have hocc := (Migration.bears_fileName_iff (hdots y.entity hymem) kind x.kind at_).1 hbears
    exact Bool.eq_false_iff.1 (hmarkers kind hkind x.kind (by simpa [isMigration_iff] using hxkind)) hocc
  exact ⟨hbears .createMigration (by simp), hbears .updateMigration (by simp)⟩

/-! ## Two entities in either order -/

def swappedSchema : Schema := ⟨pairSchema.entities.reverse⟩

theorem perm_swapped : pairSchema.entities.Perm swappedSchema.entities := (List.reverse_perm _).symm

theorem distinct_pair : pairSchema.Distinct := by
  refine ⟨?_, by decide, by decide⟩
  simp only [pairSchema, List.forall_mem_cons]
  exact ⟨⟨by decide, by decide⟩, ⟨by decide, by decide⟩, fun _ h => by cases h⟩

theorem swapped_goesThrough : goesThrough (run standardProject swappedSchema freshWorkspace) = true := by
  decide +kernel

theorem separate_pair : ∀ e ∈ pairSchema.entities, ∀ f ∈ pairSchema.entities, e.tableName ≠ f.tableName →
    Separate e.tableName f.tableName := by decide

theorem unmistaken_pair {s : Schema} (hp : p.layout = {}) (hs : s.entities ⊆ pairSchema.entities) (w : Workspace) :
    Unmistaken (runLog p s w) := by
  have hdots : ∀ e ∈ pairSchema.entities, '.' ∉ e.tableName.toList := by decide
  exact unmistaken_of_separate hp (fun e he => hdots e (hs he)) fun e he f hf => separate_pair e (hs he) f (hs hf)

/-- The first run over the schema of two entities gives them in either order the same. -/
theorem run_permuted_pair : ∃ report w₁ report' w₂, run standardProject pairSchema freshWorkspace = .ok report w₁ ∧
    run standardProject swappedSchema freshWorkspace = .ok report' w₂ ∧
    ∀ e ∈ pairSchema.entities, ∃ y, Gets standardProject report w₁.disk e y ∧
      Gets standardProject report' w₂.disk e y := by
  obtain ⟨report, h⟩ := exists_of_goesThrough pair_goesThrough
  obtain ⟨report', h'⟩ := exists_of_goesThrough swapped_goesThrough
  have hpermuted := run_permuted rfl named_fresh (.inr fun name => file?_fresh _) (file?_fresh _) distinct_pair
    perm_swapped h h' (unmistaken_pair rfl (List.Subset.refl _) _) (unmistaken_pair rfl perm_swapped.symm.subset _)
  exact ⟨report, _, report', _, h, h', hpermuted.1⟩

/-! ## Hidden migrations -/

theorem kinds_of_run {e f : Entity} {first second : List (String × ArtifactKind)}
    (hload : Ledger.load w.disk p.ledgerPath = .ok w.ledger)
    (he : kindsOf (entity p p.ledgerPath e w) = some first)
    (hf : kindsOf (entity p p.ledgerPath f (endState (entity p p.ledgerPath e w))) = some second) :
    ∃ report w', run p ⟨[e, f]⟩ w = .ok report w' ∧
      report.migrations.map (fun a => (a.entity, a.kind)) = first ++ second := by
  obtain ⟨here, hentity, rfl⟩ := kindsOf_eq_some he
  obtain ⟨there, hother, rfl⟩ := kindsOf_eq_some hf
  have hrest : entities p p.ledgerPath [f] (endState (entity p p.ledgerPath e w)) = .ok there _ :=
    entities_cons_ok.2 ⟨there, _, [], hother, rfl, (List.append_nil _).symm⟩
  have hrun : entities p p.ledgerPath [e, f] w = .ok (here ++ there) _ :=
    entities_cons_ok.2 ⟨here, _, there, hentity, hrest, rfl⟩
  refine ⟨⟨here ++ there⟩, _, run_ok.2 ⟨w.ledger, hload, hrun⟩, ?_⟩
  rw [← List.map_append, ← List.filter_append]
  rfl

/-- A project whose root is reached through a directory that is not there. -/
def windingProject : Project := ⟨⟨"p/x/.."⟩, {}⟩

def entityA : Entity := { name := "A", table := some "t", columns := NameMap.empty.insert "x" {} }

def entityB : Entity := { name := "B", table := some "u", columns := NameMap.empty.insert "x" {} }

def columnX : ColumnDefinition := ⟨"x", .string, {}⟩

/-- What is left once one of the two has gone through. -/
def windingAfter (e : Entity) : Workspace :=
  endState (entity windingProject windingProject.ledgerPath e handWritten)

theorem winding_after_A :
    kindsOf (entity windingProject windingProject.ledgerPath entityA handWritten) = some [("A", .createMigration)] ∧
    ((windingAfter entityA).ledger.table? "u").isNone = true ∧
    listed? (windingAfter entityA).disk windingProject.directory =
      some ["0000_01_01_000000_create_t_table.php", "2020_01_01_000000_create_t_table.php"] ∧
    kindsOf (enactAll windingProject windingProject.ledgerPath entityB .createMigration [columnX]
      (Template.builtin .createMigration) (windingAfter entityA)) = some [("B", .createMigration)] := by decide +kernel

theorem winding_after_B :
    kindsOf (entity windingProject windingProject.ledgerPath entityB handWritten) = some [("B", .createMigration)] ∧
    ((windingAfter entityB).ledger.table? "t").isNone = true ∧
    listed? (windingAfter entityB).disk windingProject.directory =
      some ["0000_01_01_000000_create_u_table.php", "2020_01_01_000000_create_t_table.php"] ∧
    ((windingAfter entityB).disk.readText
      (windingProject.directory.join ⟨"2020_01_01_000000_create_t_table.php"⟩)).toOption = some "<?php\n" ∧
    kindsOf (enactAll windingProject windingProject.ledgerPath entityA .updateMigration [columnX]
      (Template.builtin .updateMigration) (windingAfter entityB)) = some [("A", .updateMigration)] := by decide +kernel

theorem winding_before : handWritten.disk.isFile windingProject.ledgerPath = false ∧
    (handWritten.disk.file? (windingProject.ledgerLocation handWritten.disk.base)).isNone = true ∧
    (Ledger.load handWritten.disk windingProject.ledgerPath).toOption.isSome = true := by decide +kernel

theorem load_winding : Ledger.load handWritten.disk windingProject.ledgerPath = .ok handWritten.ledger := by
  obtain ⟨-, hno, hload⟩ := winding_before
  cases hl : Ledger.load handWritten.disk windingProject.ledgerPath with
  | error err =>
    rw [hl] at hload
    cases hload
  | ok l =>
    rw [Ledger.load_of_no_file hl (Option.isNone_iff_eq_none.1 hno)]
    rfl

theorem settle_winding (e f : Entity) {names : List String} {kind : ArtifactKind}
    (hcolumns : (f.requiredColumns >>= Migration.resolve) = .ok [columnX])
    (hlisted : listed? (windingAfter e).disk windingProject.directory = some names)
    (hrecord : ((windingAfter e).ledger.table? f.tableName).isNone = true)
    (hplan : scannedPlan (windingAfter e).disk windingProject.directory f.tableName [columnX] = (kind, [columnX])) :
    settle windingProject f (windingAfter e) = .ok (kind, [columnX], Template.builtin kind) := by
  have htidy := Project.tidy_standard (p := windingProject) rfl handWritten.disk.base
  have hafter : Remembering windingProject .empty handWritten.disk (windingAfter e) :=
    keeps_remembering_entity htidy.apart e _ (remembering_start (utf8_handWritten _) load_winding)
  have hutf8 := hafter.utf8
  rw [← hafter.grows.base] at hutf8
  have hsearch : ∀ x ∈ [columnX], Migration.isSearchable x.name = true := by decide
  refine settle_ok.2 ⟨[columnX], mapError_ok.2 hcolumns, ?_, load_of_tidy htidy _ _⟩
  rw [plan_of_listed (named_handWritten.grows hafter.grows) hutf8 hlisted (Option.isNone_iff_eq_none.1 hrecord) hsearch,
    hplan]

theorem settle_B : settle windingProject entityB (windingAfter entityA) =
    .ok (.createMigration, [columnX], Template.builtin .createMigration) := by
  obtain ⟨-, hrecord, hlisted, -⟩ := winding_after_A
  refine settle_winding entityA entityB rfl hlisted hrecord ?_
  refine scannedPlan_of_not_created ?_
  rintro ⟨name, hlists, hbears⟩
  have hnone : ∀ name ∈ ["0000_01_01_000000_create_t_table.php", "2020_01_01_000000_create_t_table.php"],
      Migration.bears name (Migration.createMarker "u") = false := by decide
  exact Bool.eq_false_iff.1 (hnone name (((lists_of_listed hlisted).2 name).1 hlists)) hbears

theorem settle_A : settle windingProject entityA (windingAfter entityB) =
    .ok (.updateMigration, [columnX], Template.builtin .updateMigration) := by
  obtain ⟨-, hrecord, hlisted, htext, -⟩ := winding_after_B
  have hlists := (lists_of_listed hlisted).2
  refine settle_winding entityB entityA rfl hlisted hrecord (scannedPlan_of_created ?_ fun x hx => ?_)
  · exact ⟨"2020_01_01_000000_create_t_table.php", (hlists _).2 (by decide), by decide⟩
  · rw [List.mem_singleton.1 hx]
    rintro ⟨-, name, hname, hbears, text, hread, hdefines⟩
    rcases List.mem_pair.1 ((hlists name).1 hname) with rfl | rfl
    · exact absurd hbears (by decide)
    · rw [hread] at htext
      rw [Option.some.inj htext] at hdefines
      exact absurd hdefines (by decide)

/-- **Where the order of the entities shows.**  A project has no ledger and a migration that creates `t`, but the path
to it leads through a directory that is missing.  The first entity of a run does not find the migration, and makes the
directory.  So the entity of `t` creates its table if it comes first, and updates it if it comes second. -/
theorem order_shows : windingProject.layout = {} ∧ handWritten.disk.Named ∧
    handWritten.disk.file? (windingProject.ledgerLocation handWritten.disk.base) = none ∧ pairSchema.Distinct ∧
    pairSchema.entities.Perm swappedSchema.entities ∧
    Unmistaken (runLog windingProject pairSchema handWritten) ∧
    Unmistaken (runLog windingProject swappedSchema handWritten) ∧
    ∃ report w₁ report' w₂, run windingProject pairSchema handWritten = .ok report w₁ ∧
      run windingProject swappedSchema handWritten = .ok report' w₂ ∧
      report.migrations.map (fun a => (a.entity, a.kind)) = [("A", .createMigration), ("B", .createMigration)] ∧
      report'.migrations.map (fun a => (a.entity, a.kind)) = [("B", .createMigration), ("A", .updateMigration)] := by
  obtain ⟨hfirst, -, -, hsecond⟩ := winding_after_A
  obtain ⟨hfirst', -, -, -, hsecond'⟩ := winding_after_B
  rw [← entity_of_settled (by decide) settle_B] at hsecond
  rw [← entity_of_settled (by decide) settle_A] at hsecond'
  obtain ⟨report, w₁, h, hkinds⟩ := kinds_of_run load_winding hfirst hsecond
  obtain ⟨report', w₂, h', hkinds'⟩ := kinds_of_run load_winding hfirst' hsecond'
  exact ⟨rfl, named_handWritten, Option.isNone_iff_eq_none.1 winding_before.2.1, distinct_pair, perm_swapped,
    unmistaken_pair rfl (List.Subset.refl _) _, unmistaken_pair rfl perm_swapped.symm.subset _,
    report, w₁, report', w₂, h, h', hkinds, hkinds'⟩

end Scaffold.Generation
