import Scaffold.Proofs.Generation.Log
import Scaffold.Proofs.Generation.Rerun
import Scaffold.Proofs.Layout.Standard
import Scaffold.Proofs.Migration.Word
/-!
# Proofs.Generation.Delta — every migration is just what its table lacks

The migrations of a history make a log.  Each of them creates its table if it is the first for it, and adds those
columns of its entity that none before it has added (`Delta`).  The log, the ledger and the texts of the migrations tell
the same (`Tracked`), which every step keeps; so it holds after any number of runs (`history_delta`).
-/
namespace Scaffold

open Disk (Path Grows AddsDirectories Placed IsName)
open Migration (ColumnDefinition Created Scanned)

/-- **An entity whose names are plain words**, those of its foreign tables included. -/
structure Entity.IsWord (e : Entity) : Prop where
  name : Text.IsWord e.name
  table : Text.IsWord e.tableName
  columns : ∀ column ∈ e.columns.entries, Text.IsWord column.1 ∧ ∀ target ∈ column.2.foreign, Text.IsWord target

/-- **Entities that cannot be mistaken for each other**: their names are plain words, and where their tables differ, no
marker of the one is part of a marker of the other. -/
structure Vocabulary (es : List Entity) : Prop where
  word : ∀ e ∈ es, e.IsWord
  markers : ∀ e ∈ es, ∀ f ∈ es, e.tableName ≠ f.tableName → ∀ kind kind',
    Text.occursIn (Migration.markerOf kind e.tableName).toList (Migration.markerOf kind' f.tableName).toList = false

namespace Generation

/-! ## The log -/

def ofTable (table : String) (log : List Entry) : List Entry := log.filter (·.table == table)

/-- **The columns that the migrations of a table define**, in the order in which they were first emitted. -/
def defined (table : String) (log : List Entry) : List String :=
  (ofTable table log).flatMap fun x => x.columns.map (·.name)

/-- **A migration is just what its table lacks.**  It creates the table if no migration before it was about the table,
and adds those of the entity's columns, in their order, that no migration before it has defined for the table. -/
structure Delta (before : List Entry) (x : Entry) : Prop where
  kind : x.kind = if (ofTable x.table before).isEmpty then .createMigration else .updateMigration
  columns : ∃ columns, (x.entity.requiredColumns >>= Migration.resolve) = .ok columns ∧
    x.columns = columns.filter fun c => !(defined x.table before).contains c.name

def recordOf (table : String) (log : List Entry) : Option TableRecord :=
  if (ofTable table log).isEmpty then none else some ⟨defined table log, (ofTable table log).map (·.name)⟩

variable {p : Project} {es : List Entity} {e : Entity} {log : List Entry} {x : Entry} {w w' w₁ : Workspace}
  {table : String}

theorem mem_ofTable : x ∈ ofTable table log ↔ x ∈ log ∧ x.table = table := by
  unfold ofTable
  rw [List.mem_filter, beq_iff_eq]

theorem isEmpty_ofTable : (ofTable table log).isEmpty = false ↔ ∃ x ∈ log, x.table = table := by
  rw [List.isEmpty_eq_false_iff_exists_mem]
  simp only [mem_ofTable]

theorem mem_defined {column : String} :
    column ∈ defined table log ↔ ∃ x ∈ log, x.table = table ∧ column ∈ x.columns.map (·.name) := by
  unfold defined
  rw [List.mem_flatMap]
  simp only [mem_ofTable, and_assoc]

theorem ofTable_append_self (log : List Entry) (x : Entry) :
    ofTable x.table (log ++ [x]) = ofTable x.table log ++ [x] := by
  unfold ofTable
  rw [List.filter_append, List.filter_cons_of_pos (by simp), List.filter_nil]

theorem ofTable_append_of_ne (h : table ≠ x.table) (log : List Entry) :
    ofTable table (log ++ [x]) = ofTable table log := by
  unfold ofTable
  rw [List.filter_append, List.filter_cons_of_neg (by simpa using Ne.symm h), List.filter_nil, List.append_nil]

theorem defined_append_self (log : List Entry) (x : Entry) :
    defined x.table (log ++ [x]) = defined x.table log ++ x.columns.map (·.name) := by
  unfold defined
  rw [ofTable_append_self, List.flatMap_append]
  simp

theorem recordOf_append_self (log : List Entry) (x : Entry) : recordOf x.table (log ++ [x]) =
    some ⟨defined x.table log ++ x.columns.map (·.name), (ofTable x.table log).map (·.name) ++ [x.name]⟩ := by
  unfold recordOf
  rw [ofTable_append_self, defined_append_self, List.map_append, if_neg (by simp)]
  rfl

theorem recordOf_append_of_ne (h : table ≠ x.table) (log : List Entry) :
    recordOf table (log ++ [x]) = recordOf table log := by
  unfold recordOf defined
  rw [ofTable_append_of_ne h]

/-- What is before the last migration of a log, or a cut before it. -/
theorem append_eq_concat {before after : List Entry} {y : Entry} (h : log ++ [x] = before ++ y :: after) :
    (before = log ∧ y = x) ∨ ∃ after', log = before ++ y :: after' := by
  rcases List.eq_nil_or_concat after with rfl | ⟨after', z, rfl⟩
  · obtain ⟨hlog, hx⟩ := List.append_inj' h rfl
    cases hx
    exact .inl ⟨hlog.symm, rfl⟩
  · have hsplit : log ++ [x] = (before ++ y :: after') ++ [z] := by simpa using h
    exact .inr ⟨after', (List.append_inj' hsplit rfl).1⟩

theorem Delta.new {before : List Entry} (h : Delta before x) {column : String} (hc : column ∈ x.columns.map (·.name)) :
    column ∉ defined x.table before := by
  obtain ⟨columns, -, hfilter⟩ := h.columns
  obtain ⟨d, hd, rfl⟩ := List.mem_map.1 hc
  rw [hfilter, List.mem_filter] at hd
  intro hmem
  simp [hmem] at hd

/-- Where the ledger records what a log does, a migration extends what the log has defined. -/
theorem Delta.past {l : Ledger} (h : Delta log x) (hl : ∀ table, l.table? table = recordOf table log) :
    past x.kind x.table l = ⟨defined x.table log, (ofTable x.table log).map (·.name)⟩ := by
  have hk := h.kind
  unfold Generation.past
  rw [hl]
  unfold recordOf
  by_cases hempty : (ofTable x.table log).isEmpty = true
  · rw [if_pos hempty] at hk
    rw [if_pos hk]
    unfold defined
    rw [List.isEmpty_iff.1 hempty]
    rfl
  · rw [if_neg hempty] at hk
    rw [if_neg (by rw [hk]; decide), if_neg hempty]
    rfl

theorem Delta.nodup_append (h : Delta log x) (hlog : ∀ table, (defined table log).Nodup)
    (hcolumns : (x.columns.map (·.name)).Nodup) (table : String) : (defined table (log ++ [x])).Nodup := by
  by_cases htable : table = x.table
  · rw [htable, defined_append_self, List.nodup_append]
    exact ⟨hlog _, hcolumns, fun a ha b hb heq => h.new hb (heq ▸ ha)⟩
  · unfold defined
    rw [ofTable_append_of_ne htable]
    exact hlog table

/-- **A migration that is just what its table lacks is recorded as the log has it.** -/
theorem Delta.table?_recordMigration {l : Ledger} (h : Delta log x) (hl : ∀ table, l.table? table = recordOf table log)
    (hcolumns : (x.columns.map (·.name)).Nodup) (table : String) :
    (recordMigration x.kind x.table x.name (x.columns.map (·.name)) l).table? table = recordOf table (log ++ [x]) := by
  by_cases htable : table = x.table
  · rw [htable, recordOf_append_self, table?_recordMigration_self, h.past hl]
    unfold TableRecord.extend
    dsimp only
    rw [TableRecord.foldl_addColumn_of_new (fun c hc => h.new hc) hcolumns]
  · rw [table?_recordMigration_of_ne htable, recordOf_append_of_ne htable]
    exact hl table

theorem Delta.append {before after : List Entry} {y : Entry}
    (hlog : ∀ before y after, log = before ++ y :: after → Delta before y) (h : Delta log x)
    (hsplit : log ++ [x] = before ++ y :: after) : Delta before y := by
  rcases append_eq_concat hsplit with ⟨rfl, rfl⟩ | ⟨after', hold⟩
  · exact h
  · exact hlog before y after' hold

/-! ## Log, ledger and texts -/

/-- **Log, ledger and texts tell the same**: the files among the migrations are those of the log, with the texts that it
tells, each migration of the log is just what its table lacked, and the ledger records what the log does. -/
structure Tracked (p : Project) (es : List Entity) (log : List Entry) (w : Workspace) : Prop where
  named : w.disk.Named
  only : ∀ name, w.disk.file? (p.directory.location w.disk.base ++ [name]) ≠ none → ∃ x ∈ log, x.name = name
  known : ∀ x ∈ log, x.entity ∈ es ∧ x.kind.isMigration = true ∧
    (∃ at_, x.name = Migration.fileName x.kind (Calendar.stamp at_) x.table "php") ∧ ∀ d ∈ x.columns, d.IsWord
  texts : ∀ x ∈ log, w.disk.Lists p.directory x.name ∧ w.disk.readText (p.directory.join ⟨x.name⟩) = .ok x.text
  delta : ∀ before x after, log = before ++ x :: after → Delta before x
  nodup : ∀ table, (defined table log).Nodup
  record : ∀ table, w.ledger.table? table = recordOf table log

namespace Tracked

theorem mem_of_lists (h : Tracked p es log w) {name : String} (hl : w.disk.Lists p.directory name) :
    ∃ x ∈ log, x.name = name :=
  h.only name (hl.file?_ne_none h.named)

/-- **A migration that bears a marker of a table is about that table.** -/
theorem table_of_bears (h : Tracked p es log w) (hv : Vocabulary es) (he : e ∈ es) (hx : x ∈ log) (kind : ArtifactKind)
    (hbears : Migration.bears x.name (Migration.markerOf kind e.tableName) = true) : x.table = e.tableName := by
  obtain ⟨hmem, -, ⟨at_, hname⟩, -⟩ := h.known x hx
  refine Classical.byContradiction (fun hne => ?_)
  rw [hname] at hbears
  have hocc := Migration.occursIn_of_bears ((hv.word e he).table.not_mem (by decide)) kind x.kind at_ hbears
  have hfree : Text.occursIn (Migration.markerOf kind e.tableName).toList (Migration.markerOf x.kind x.table).toList =
      false := hv.markers e he x.entity hmem (Ne.symm hne) kind x.kind
  rw [hfree] at hocc
  cases hocc

theorem live (h : Tracked p es log w) (hx : x ∈ log) :
    w.ledger.Live w.disk p.directory x.table ⟨defined x.table log, (ofTable x.table log).map (·.name)⟩ := by
  have hbusy := isEmpty_ofTable.2 ⟨x, hx, rfl⟩
  refine ⟨?_, x.name, List.mem_map_of_mem (mem_ofTable.2 ⟨hx, rfl⟩), (h.texts x hx).1⟩
  rw [h.record]
  unfold recordOf
  rw [if_neg (by simp [hbusy])]

/-- **A table is known exactly if a migration of the log is about it.** -/
theorem knownTable_iff (h : Tracked p es log w) (hv : Vocabulary es) (he : e ∈ es) :
    w.ledger.KnownTable w.disk p.directory e.tableName ↔ (ofTable e.tableName log).isEmpty = false := by
  constructor
  · rintro (⟨r, hr, -⟩ | ⟨name, hlists, hbears⟩)
    · rw [h.record] at hr
      unfold recordOf at hr
      split at hr
      · cases hr
      · rename_i hbusy
        simpa using hbusy
    · obtain ⟨x, hx, rfl⟩ := h.mem_of_lists hlists
      exact isEmpty_ofTable.2 ⟨x, hx, h.table_of_bears hv he hx .createMigration hbears⟩
  · intro hbusy
    obtain ⟨x, hx, htable⟩ := isEmpty_ofTable.1 hbusy
    rw [← htable]
    exact .inl ⟨_, h.live hx⟩

/-- **A scan finds in a migration of the log just the columns that it adds.** -/
theorem definesColumn_iff (h : Tracked p es log w) (hv : Vocabulary es) (hx : x ∈ log) {column : String}
    (hcolumn : Text.IsWord column) :
    Migration.definesColumn column.toList x.text.toList = true ↔ column ∈ x.columns.map (·.name) := by
  obtain ⟨hmem, hkind, -, hwords⟩ := h.known x hx
  exact Migration.definesColumn_migrationText_iff hkind (hv.word _ hmem).table hcolumn hwords

/-- **A column is known exactly if a migration of the log defines it.** -/
theorem knownColumn_iff (h : Tracked p es log w) (hv : Vocabulary es) (he : e ∈ es) {column : String}
    (hcolumn : Text.IsWord column) :
    w.ledger.KnownColumn w.disk p.directory e.tableName column ↔ column ∈ defined e.tableName log := by
  constructor
  · rintro (⟨r, ⟨hr, -⟩, hin⟩ | ⟨-, name, hlists, hbears, text, hread, hdefines⟩)
    · rw [h.record] at hr
      unfold recordOf at hr
      split at hr
      · cases hr
      · cases hr
        exact hin
    · obtain ⟨x, hx, rfl⟩ := h.mem_of_lists hlists
      have htable : x.table = e.tableName := by
        rcases hbears with hb | hb
        · exact h.table_of_bears hv he hx .createMigration hb
        · exact h.table_of_bears hv he hx .updateMigration hb
      rw [(h.texts x hx).2] at hread
      cases hread
      exact mem_defined.2 ⟨x, hx, htable, (h.definesColumn_iff hv hx hcolumn).1 hdefines⟩
  · intro hin
    obtain ⟨x, hx, htable, -⟩ := mem_defined.1 hin
    rw [← htable] at hin ⊢
    exact .inl ⟨_, h.live hx, hin⟩

theorem entry_of_recorded {kind : ArtifactKind} {pending : List ColumnDefinition} {template name : String}
    (h : Tracked p es log w) (hv : Vocabulary es) (he : e ∈ es)
    (hrec : Recorded p e kind pending template name w w₁) :
    Delta log ⟨e, kind, name, pending⟩ ∧ (∀ d ∈ pending, d.IsWord) ∧ (pending.map (·.name)).Nodup := by
  obtain ⟨columns, hcolumns, hplan, -⟩ := settle_ok.1 hrec.settled
  have hentries := entries_of_columns hcolumns
  have hword : ∀ d ∈ columns, d.IsWord := by
    intro d hd
    have hmem : (d.name, d.column) ∈ e.columns.entries := by
      rw [← hentries]
      exact List.mem_map_of_mem (f := fun d : ColumnDefinition => (d.name, d.column)) hd
    obtain ⟨hname, htarget⟩ := (hv.word e he).columns _ hmem
    exact ⟨hname, htarget⟩
  have hknown := h.knownTable_iff hv he
  have hempty : ¬ w.ledger.KnownTable w.disk p.directory e.tableName → (ofTable e.tableName log).isEmpty = true := by
    intro hno
    rw [← Bool.not_eq_false]
    exact fun hbusy => hno (hknown.2 hbusy)
  -- Of an unknown table the log has defined nothing, so all columns are lacking.
  have hpending : pending = columns.filter fun c => !(defined e.tableName log).contains c.name := by
    rcases plan_ok hplan with ⟨-, -, hpending⟩ | ⟨-, hunknown, rfl⟩
    · refine hpending _ (fun d hd => ?_)
      rw [Bool.not_eq_true', ← Bool.not_eq_true, List.contains_iff_mem]
      exact not_congr (h.knownColumn_iff hv he (hword d hd).name).symm
    · have hnone : defined e.tableName log = [] := by
        unfold defined
        rw [List.isEmpty_iff.1 (hempty hunknown)]
        rfl
      rw [hnone]
      exact (List.filter_eq_self.2 (fun c _ => rfl)).symm
  refine ⟨⟨?_, columns, mapError_ok.1 hcolumns, hpending⟩, fun d hd => ?_, ?_⟩
  · rcases plan_ok hplan with ⟨hkind, hyes, -⟩ | ⟨hkind, hno, -⟩
    · exact hkind.trans (if_neg (by simp [hknown.1 hyes, Entry.table])).symm
    · exact hkind.trans (if_pos (hempty hno)).symm
  · rw [hpending] at hd
    exact hword d (List.mem_filter.1 hd).1
  · have hdistinct := e.columns.distinct
    rw [← names_of_columns hcolumns] at hdistinct
    rw [hpending]
    exact hdistinct.sublist (List.filter_sublist.map _)

/-- **Recording a migration adds it to the log.** -/
theorem recorded {kind : ArtifactKind} {pending : List ColumnDefinition} {template name : String}
    (h : Tracked p es log w) (hp : p.layout = {}) (hv : Vocabulary es) (he : e ∈ es)
    (hrec : Recorded p e kind pending template name w w₁) : Tracked p es (log ++ [⟨e, kind, name, pending⟩]) w₁ := by
  have htidy := Project.tidy_standard hp w.disk.base
  have hslash : '/' ∉ e.tableName.toList := (hv.word e he).table.not_mem (by decide)
  have hname := hrec.isName htidy.extension hslash
  have hg := grows_of_recorded hrec (p.ledgerLocation w.disk.base)
  obtain ⟨hdelta, hwords, hnodup⟩ := h.entry_of_recorded hv he hrec
  constructor
  case named => exact h.named.grows hg
  case only => exact fun other hfile => hrec.only_append hname rfl h.only hfile
  case delta => exact fun before y after hsplit => Delta.append h.delta hdelta hsplit
  case nodup => exact hdelta.nodup_append h.nodup hnodup
  case record =>
    intro table
    rw [hrec.ledger]
    exact hdelta.table?_recordMigration h.record hnodup table
  case known =>
    intro y hy
    rcases List.mem_append.1 hy with hy | hy
    · exact h.known y hy
    · rw [List.mem_singleton.1 hy]
      obtain ⟨at_, hat⟩ := hrec.named
      rw [hp] at hat
      exact ⟨he, hrec.isMigration, ⟨at_, hat⟩, hwords⟩
  case texts =>
    intro y hy
    rcases List.mem_append.1 hy with hy | hy
    · obtain ⟨hlists, hread⟩ := h.texts y hy
      exact ⟨hlists.grows hg, hg.readText hread (location_migration htidy (hlists.isName h.named))⟩
    · rw [List.mem_singleton.1 hy]
      exact hrec.found htidy hslash (Project.directory_ne_empty_standard hp)

/-- **What leaves the migrations and the ledger in memory alone keeps the log.** -/
theorem grows (h : Tracked p es log w) (hp : p.layout = {})
    (hg : Grows (p.ledgerLocation w.disk.base) w.disk w'.disk)
    (hfile : ∀ name, w'.disk.file? (p.directory.location w.disk.base ++ [name]) =
      w.disk.file? (p.directory.location w.disk.base ++ [name])) (hl : w'.ledger = w.ledger) : Tracked p es log w' := by
  have htidy := Project.tidy_standard hp w.disk.base
  refine ⟨h.named.grows hg, fun name hthere => ?_, h.known, fun x hx => ?_, h.delta, h.nodup, fun table => ?_⟩
  · rw [hg.base, hfile] at hthere
    exact h.only name hthere
  · obtain ⟨hlists, hread⟩ := h.texts x hx
    exact ⟨hlists.grows hg, hg.readText hread (location_migration htidy (hlists.isName h.named))⟩
  · rw [hl]
    exact h.record table

theorem classed {kind : ArtifactKind} {path : Path} {a : Artifact} (h : Tracked p es log w) (hp : p.layout = {})
    (hapart : ∀ name, p.directory.location w.disk.base ++ [name] ≠ path.location w.disk.base)
    (hc : Classed e kind path w (.ok a w')) : Tracked p es log w' := by
  have hg := grows_of_classed hc (p.ledgerLocation w.disk.base)
  cases hc with
  | skipped d hadds _ => exact h.grows hp hg (fun name => hadds.file? _) rfl
  | written content d hplaced =>
    exact h.grows hp hg (fun name => Disk.file?_elsewhere hplaced.elsewhere (hapart name)) rfl

end Tracked

/-! ## Runs -/

/-- **An entity adds one migration to the log.** -/
theorem tracked_entity {artifacts : List Artifact} (h : Tracked p es log w) (hp : p.layout = {}) (hv : Vocabulary es)
    (he : e ∈ es) (hok : entity p p.ledgerPath e w = .ok artifacts w') :
    ∃ x : Entry, x.entity = e ∧ artifacts.filter (·.kind.isMigration) = [x.artifact p] ∧
      Tracked p es (log ++ [x]) w' := by
  obtain ⟨-, a, w₁, m, w₂, r, hmig, hmod, hres, rfl⟩ := entity_ok.1 hok
  have hmodel := Classed.of_model hmod
  have hresource := Classed.of_resource hres
  have hslash : '/' ∉ e.name.toList := (hv.word e he).name.not_mem (by decide)
  cases Migrated.of_eq hmig with
  | saved kind pending template name w₀ d hrec hrep =>
    have hrecorded := h.recorded hp hv he hrec
    have hbase := hrec.placed.base
    have hsaved : Tracked p es (log ++ [⟨e, kind, name, pending⟩]) { w₀ with disk := d } := by
      refine hrecorded.grows hp hrep.grows (fun other => Disk.file?_elsewhere hrep.elsewhere ?_) rfl
      exact (Project.tidy_standard hp w₀.disk.base).apart other
    have hmodeled := hsaved.classed hp (location_model hp (isName_modelFile hslash) _) hmodel
    have hresourced := hmodeled.classed hp (location_resource hp (isName_resourceFile hslash) _) hresource
    exact ⟨⟨e, kind, name, pending⟩, rfl, filter_migrations hrec.isMigration hmodel.kind_of_ok hresource.kind_of_ok,
      hresourced⟩

/-- **Entities add their migrations to the log**, in order. -/
theorem tracked_entities {fs : List Entity} {artifacts : List Artifact} (h : Tracked p es log w) (hp : p.layout = {})
    (hv : Vocabulary es) (hfs : ∀ f ∈ fs, f ∈ es) (hok : entities p p.ledgerPath fs w = .ok artifacts w') :
    ∃ new : List Entry, new.map (·.entity) = fs ∧
      new.map (Entry.artifact p) = artifacts.filter (·.kind.isMigration) ∧ Tracked p es (log ++ new) w' := by
  induction fs generalizing w artifacts log with
  | nil =>
    cases hok
    refine ⟨[], rfl, rfl, ?_⟩
    rw [List.append_nil]
    exact h
  | cons f rest ih =>
    obtain ⟨here, w₁, after, hf, hrest, rfl⟩ := entities_cons_ok.1 hok
    obtain ⟨x, hx, hartifact, htracked⟩ := tracked_entity h hp hv (hfs f List.mem_cons_self) hf
    obtain ⟨new, hentities, hartifacts, htracked'⟩ := ih htracked (fun g hg => hfs g (List.mem_cons_of_mem _ hg)) hrest
    refine ⟨x :: new, ?_, ?_, ?_⟩
    · rw [List.map_cons, hx, hentities]
    · rw [List.filter_append, hartifact, List.map_cons, hartifacts]
      rfl
    · rw [List.append_assoc] at htracked'
      exact htracked'

/-- **Runs that went through, one after the other**: their schemas and reports, and the disk that they have led to. -/
inductive History (p : Project) (d₀ : Disk) : List (Schema × Report) → Disk → Prop where
  | start : History p d₀ [] d₀
  | run {runs : List (Schema × Report)} {d : Disk} {s : Schema} {c : Clock} {r : Report} {w : Workspace} :
      History p d₀ runs d → Generation.run p s { disk := d, clock := c } = .ok r w →
      History p d₀ (runs ++ [(s, r)]) w.disk

/-- **After any number of runs there is a log that the ledger on the disk tells too.** -/
theorem tracked_history {d₀ d : Disk} {runs : List (Schema × Report)} (hp : p.layout = {}) (hv : Vocabulary es)
    (hd : d₀.Named) (hno : ∀ l, d₀.file? (p.root.location d₀.base ++ l) = none) (h : History p d₀ runs d)
    (hes : ∀ run ∈ runs, ∀ e ∈ run.1.entities, e ∈ es) :
    ∃ log : List Entry, log.map (·.entity) = runs.flatMap (·.1.entities) ∧
      log.map (Entry.artifact p) = runs.flatMap (·.2.migrations) ∧
      (∀ c l, Ledger.load d p.ledgerPath = .ok l → Tracked p es log ⟨d, c, l⟩) ∧
      (runs ≠ [] → ∃ l, Ledger.load d p.ledgerPath = .ok l) := by
  induction h with
  | start =>
    refine ⟨[], rfl, rfl, fun c l hload => ?_, fun hne => absurd rfl hne⟩
    have hledger : d₀.file? (p.ledgerPath.location d₀.base) = none := by
      rw [show p.ledgerPath.location d₀.base = p.ledgerLocation d₀.base from rfl, Project.location_ledger hp]
      exact hno _
    rw [Ledger.load_of_no_file hload hledger]
    refine ⟨hd, fun name hfile => ?_, fun x hx => (by cases hx), fun x hx => (by cases hx),
      fun before x after hsplit => ?_, fun table => List.nodup_nil, fun table => rfl⟩
    · rw [Project.location_directory hp, List.append_assoc] at hfile
      exact absurd (hno _) hfile
    · simp at hsplit
  | @run runs d s c r w hhistory hrun ih =>
    obtain ⟨log, hentities, hartifacts, htracked, -⟩ := ih (fun run hr => hes run (List.mem_append_left _ hr))
    obtain ⟨l, hload, hok⟩ := run_ok.1 hrun
    have hhere : ∀ e ∈ s.entities, e ∈ es := hes (s, r) (List.mem_append_right _ (List.mem_singleton_self _))
    have hbefore := htracked c l hload
    obtain ⟨new, hnew, hreported, hafter⟩ := tracked_entities hbefore hp hv hhere hok
    have hloaded := load_of_entities hload hok
    refine ⟨log ++ new, ?_, ?_, fun c' l' hload' => ?_, fun _ => ⟨_, hloaded⟩⟩
    · rw [List.map_append, hentities, hnew, List.flatMap_append]
      simp
    · rw [List.map_append, hartifacts, hreported, List.flatMap_append]
      simp [Report.migrations]
    · rw [hloaded] at hload'
      cases hload'
      exact ⟨hafter.named, hafter.only, hafter.known, hafter.texts, hafter.delta, hafter.nodup, hafter.record⟩

/-- **Every migration of a history is just what its table lacks.**  From a project without files, in the standard
layout, run any number of times over schemas whose entities cannot be mistaken for each other.  Then the migrations that
were reported make a log, one for each entity that was handled.  A migration creates its table if it is the first for
it, and its text adds those columns of its entity, in their order, that none before it has defined for the table; a scan
of the text finds no others.  The ledger on the disk lists for every table the columns that its migrations have defined,
in the order in which they did, each once.  A history may end with any of its runs, so the ledger does after every
run. -/
theorem history_delta {d₀ d : Disk} {runs : List (Schema × Report)} (hp : p.layout = {}) (hd : d₀.Named)
    (hno : ∀ l, d₀.file? (p.root.location d₀.base ++ l) = none) (h : History p d₀ runs d)
    (hv : Vocabulary (runs.flatMap (·.1.entities))) :
    ∃ log : List Entry, log.map (·.entity) = runs.flatMap (·.1.entities) ∧
      log.map (Entry.artifact p) = runs.flatMap (·.2.migrations) ∧
      (∀ before x after, log = before ++ x :: after →
        Delta before x ∧ d.readText (p.directory.join ⟨x.name⟩) = .ok x.text ∧
        ∀ column, Text.IsWord column →
          (Migration.definesColumn column.toList x.text.toList = true ↔ column ∈ x.columns.map (·.name))) ∧
      (∀ table, (defined table log).Nodup) ∧
      (runs ≠ [] → ∃ l, Ledger.load d p.ledgerPath = .ok l ∧ ∀ table, l.table? table = recordOf table log) := by
  obtain ⟨log, hentities, hartifacts, htracked, hloaded⟩ := tracked_history hp hv hd hno h
    (fun run hr e he => List.mem_flatMap.2 ⟨run, hr, he⟩)
  refine ⟨log, hentities, hartifacts, ?_⟩
  by_cases hempty : runs = []
  · subst hempty
    have hlog : log = [] := List.map_eq_nil_iff.1 hentities
    subst hlog
    exact ⟨fun before x after hsplit => by simp at hsplit, fun table => List.nodup_nil, fun hne => absurd rfl hne⟩
  · obtain ⟨l, hl⟩ := hloaded hempty
    have ht := htracked (.fixed ⟨0, 0⟩) l hl
    refine ⟨fun before x after hsplit => ?_, ht.nodup, fun _ => ⟨l, hl, ht.record⟩⟩
    have hx : x ∈ log := by
      rw [hsplit]
      exact List.mem_append_right _ List.mem_cons_self
    exact ⟨ht.delta before x after hsplit, (ht.texts x hx).2, fun column hcolumn => ht.definesColumn_iff hv hx hcolumn⟩

theorem standard_goesThrough : goesThrough (run standardProject smallSchema freshWorkspace) = true := by decide +kernel

theorem standard_goesThrough_again : goesThrough (entities standardProject standardProject.ledgerPath
    smallSchema.entities { endState (run standardProject smallSchema freshWorkspace) with
      clock := freshWorkspace.clock }) = true := by decide +kernel

theorem vocabulary_small : Vocabulary (smallSchema.entities ++ smallSchema.entities) := by
  have hsame : ∀ e ∈ smallSchema.entities ++ smallSchema.entities, e.tableName = "t" := by decide
  refine ⟨fun e he => ?_, fun e he f hf hne => absurd ((hsame e he).trans (hsame f hf).symm) hne⟩
  have heq : e = { name := "A", table := some "t", columns := NameMap.empty.insert "x" {} } := by
    simpa [smallSchema] using he
  subst heq
  refine ⟨⟨by decide, by decide⟩, ⟨by decide, by decide⟩, fun column hc => ?_⟩
  have hcolumn : column = ("x", {}) := List.mem_singleton.1 hc
  subst hcolumn
  exact ⟨⟨by decide, by decide⟩, fun target ht => by cases ht⟩

/-- Running twice over the small schema. -/
theorem history_delta_standard : ∃ r₁ r₂ d,
    History standardProject freshWorkspace.disk [(smallSchema, r₁), (smallSchema, r₂)] d ∧
    ∃ log : List Entry, log.map (·.entity) = smallSchema.entities ++ smallSchema.entities ∧
      ∀ before x after, log = before ++ x :: after → Delta before x := by
  have hagain := standard_goesThrough_again
  obtain ⟨r₁, h₁⟩ := exists_of_goesThrough standard_goesThrough
  generalize endState (run standardProject smallSchema freshWorkspace) = w₁ at h₁ hagain
  obtain ⟨artifacts, hrun₂⟩ := exists_of_goesThrough hagain
  have h₂ : run standardProject smallSchema { disk := w₁.disk, clock := freshWorkspace.clock } = .ok ⟨artifacts⟩ _ :=
    run_after h₁ hrun₂
  have hhistory := History.run (.run .start h₁) h₂
  obtain ⟨log, hentities, -, hdelta, -⟩ := history_delta (p := standardProject) rfl named_fresh
    (fun l => file?_fresh _) hhistory vocabulary_small
  exact ⟨r₁, _, _, hhistory, log, hentities, fun before x after hsplit => (hdelta before x after hsplit).1⟩

end Generation

end Scaffold
