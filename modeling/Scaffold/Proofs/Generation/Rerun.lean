import Scaffold.Proofs.Generation.Creation
import Scaffold.Proofs.Generation.Tidy
import Scaffold.Proofs.Template.Migration
/-!
# Proofs.Generation.Rerun — running twice

After a run nothing is pending for its entities: every column is in a record that counts or is found by a scan, and
both classes are there (`Finished`).  Later steps keep that.  So a second run updates every table by nothing, skips
every class, and changes the ledger by the names of its own migrations only (`run_again`).
-/
namespace Scaffold.Generation

open Disk (Path Grows IsName)
open Migration (Scanned ColumnDefinition)
open Template (head middle foot charsOf_append charsOf_cons toList_ofLines replaceAll_of_isPlain)

variable {p : Project} {e f : Entity} {w w' w₁ : Workspace} {a : Artifact}

/-! ## What is settled -/

/-- **Nothing is pending for the table of an entity**: its record counts, and every column is recorded or scanned. -/
def Settled (p : Project) (e : Entity) (w : Workspace) : Prop :=
  ∃ r, w.ledger.Live w.disk p.directory e.tableName r ∧
    ∀ column ∈ e.columns.entries.map (·.1), column ∈ r.columns ∨ Scanned w.disk p.directory e.tableName column

theorem Settled.grows (h : Settled p f w) (hp : p.Tidy w.disk.base) (hd : w.disk.Named)
    (hg : Grows (p.ledgerLocation w.disk.base) w.disk w'.disk) (hl : w'.ledger = w.ledger) : Settled p f w' := by
  obtain ⟨r, ⟨hr, name, hname, hlists⟩, hcolumns⟩ := h
  refine ⟨r, ⟨by rw [hl]; exact hr, name, hname, hlists.grows hg⟩, fun column hc => ?_⟩
  rcases hcolumns column hc with hin | hscanned
  · exact .inl hin
  · exact .inr (hscanned.grows hd hp.apart hg)

/-- **The migration of an entity settles it.** -/
theorem settled_of_recorded {kind : ArtifactKind} {pending : List ColumnDefinition} {template name : String}
    (h : Recorded p e kind pending template name w w₁) (hp : p.Tidy w.disk.base) (hd : w.disk.Named)
    (htable : '/' ∉ e.tableName.toList) (hdirectory : p.directory.text ≠ "") : Settled p e w₁ := by
  have hlists := h.lists hp.extension htable hdirectory
  obtain ⟨columns, hcolumns, hplan, -⟩ := settle_ok.1 h.settled
  have hnames := names_of_columns hcolumns
  have hrecord : w₁.ledger.table? e.tableName =
      some ((past kind e.tableName w.ledger).extend name (pending.map (·.name))) := by
    rw [h.ledger]
    exact table?_recordMigration_self _ _ _ _ _
  refine ⟨_, ⟨hrecord, name, List.mem_append_right _ (List.mem_singleton_self name), hlists⟩, fun column hc => ?_⟩
  rw [← hnames, List.mem_map] at hc
  obtain ⟨x, hx, rfl⟩ := hc
  show x.name ∈ (pending.map (·.name)).foldl TableRecord.addColumn (past kind e.tableName w.ledger).columns ∨ _
  rw [TableRecord.mem_foldl_addColumn]
  by_cases hadded : x ∈ pending
  · exact .inl (.inr (List.mem_map_of_mem hadded))
  · rw [mem_pending_iff hplan, not_and, Classical.not_imp, Classical.not_not] at hadded
    obtain ⟨rfl, hknown⟩ := hadded hx
    rcases hknown with ⟨r, ⟨hr, -⟩, hin⟩ | hscanned
    · exact .inl (.inl (by rw [past_update hr]; exact hin))
    · exact .inr (hscanned.grows hd hp.apart (grows_of_recorded h _))

/-- **The migration of another entity leaves what is settled settled**, even for the same table. -/
theorem Settled.recorded {kind : ArtifactKind} {pending : List ColumnDefinition} {template name : String}
    (hf : Settled p f w) (h : Recorded p e kind pending template name w w₁) (hp : p.Tidy w.disk.base)
    (hd : w.disk.Named) : Settled p f w₁ := by
  obtain ⟨r, ⟨hr, m, hm, hlists⟩, hcolumns⟩ := hf
  have hg := grows_of_recorded h (p.ledgerLocation w.disk.base)
  have hscanned : ∀ column, Scanned w.disk p.directory f.tableName column →
      Scanned w₁.disk p.directory f.tableName column := fun column hs => hs.grows hd hp.apart hg
  by_cases htable : f.tableName = e.tableName
  · rw [htable] at hr
    obtain rfl := h.updates ⟨hr, m, hm, hlists⟩
    have hrecord : w₁.ledger.table? f.tableName = some (r.extend name (pending.map (·.name))) := by
      rw [h.ledger, htable, table?_recordMigration_self, past_update hr]
    refine ⟨_, ⟨hrecord, m, List.mem_append_left _ hm, hlists.grows hg⟩, fun column hc => ?_⟩
    rcases hcolumns column hc with hin | hs
    · exact .inl (TableRecord.mem_foldl_addColumn.2 (.inl hin))
    · exact .inr (hscanned column hs)
  · have hrecord : w₁.ledger.table? f.tableName = some r := by
      rw [h.ledger, table?_recordMigration_of_ne htable, hr]
    refine ⟨r, ⟨hrecord, m, hm, hlists.grows hg⟩, fun column hc => ?_⟩
    rcases hcolumns column hc with hin | hs
    · exact .inl hin
    · exact .inr (hscanned column hs)

/-! ## What is finished -/

/-- **Nothing is left to do for an entity** but to write the next, empty migration. -/
structure Finished (p : Project) (e : Entity) (w : Workspace) : Prop where
  settled : Settled p e w
  model : w.disk.occupied (modelPath p e) = true
  resource : w.disk.occupied (resourcePath p e) = true

def Saved (p : Project) (w : Workspace) : Prop := w.disk.look p.ledgerPath = .ok (.file w.ledger.toText.toUTF8)

theorem Saved.load (h : Saved p w) : Ledger.load w.disk p.ledgerPath = .ok w.ledger := Ledger.load_of_look h

theorem saved_of_migration (h : migration p p.ledgerPath e w = .ok a w') : Saved p w' := by
  cases Migrated.of_eq h with
  | saved kind pending template name w₁ d hrec hrep => exact hrep.look

/-- **An entity that went through has left the ledger in memory on the disk**: no class takes its place. -/
theorem saved_of_entity {artifacts : List Artifact} (h : entity p p.ledgerPath e w = .ok artifacts w') :
    Saved p w' := by
  obtain ⟨-, a, w₁, m, w₂, r, hmig, hmod, hres, rfl⟩ := entity_ok.1 h
  have hmodel := Classed.of_model hmod
  have hresource := Classed.of_resource hres
  obtain ⟨hlook, hl⟩ := ledger_of_classed (saved_of_migration hmig) hmodel
  rw [← hl] at hlook
  obtain ⟨hlook', hl'⟩ := ledger_of_classed hlook hresource
  unfold Saved
  rw [hl']
  exact hlook'

theorem saved_of_entities {es : List Entity} {artifacts : List Artifact}
    (h : entities p p.ledgerPath es w = .ok artifacts w') (hne : es ≠ []) : Saved p w' := by
  induction es generalizing w artifacts with
  | nil => exact absurd rfl hne
  | cons e rest ih =>
    obtain ⟨here, w₁, after, he, ha, rfl⟩ := entities_cons_ok.1 h
    by_cases hnil : rest = []
    · subst hnil
      cases ha
      exact saved_of_entity he
    · exact ih ha hnil

theorem load_of_entities {es : List Entity} {artifacts : List Artifact}
    (hload : Ledger.load w.disk p.ledgerPath = .ok w.ledger)
    (h : entities p p.ledgerPath es w = .ok artifacts w') : Ledger.load w'.disk p.ledgerPath = .ok w'.ledger := by
  by_cases hempty : es = []
  · subst hempty
    cases h
    exact hload
  · exact (saved_of_entities h hempty).load

/-- **A run after one that went through takes the ledger that this one had in memory**, for that is on the disk. -/
theorem run_after {s s' : Schema} {report : Report} {artifacts : List Artifact} {w₂ : Workspace} {c : Clock} {l : Ledger}
    (h : run p s w = .ok report w₁)
    (h' : entities p p.ledgerPath s'.entities { w₁ with clock := c } = .ok artifacts w₂) :
    run p s' ⟨w₁.disk, c, l⟩ = .ok ⟨artifacts⟩ w₂ := by
  obtain ⟨l₀, hload, hentities⟩ := run_ok.1 h
  exact run_ok.2 ⟨w₁.ledger, @load_of_entities p { w with ledger := l₀ } w₁ _ _ hload hentities, h'⟩

theorem Settled.emits (hf : Settled p f w) (h : Emits p p.ledgerPath w a w') (hp : p.Tidy w.disk.base)
    (hd : w.disk.Named) : Settled p f w' := by
  have hg := (accounted_of_emits h).grows
  cases h with
  | @migration e _ _ _ h =>
    cases Migrated.of_eq h with
    | saved kind pending template name w₁ d hrec hrep =>
      have hbase := hrec.placed.base
      refine (hf.recorded hrec hp hd).grows (by rw [hbase]; exact hp) (hd.grows (grows_of_recorded hrec [])) ?_ rfl
      rw [hbase]
      exact grows_of_saved hrec _ hrep
  | @model e _ _ _ h =>
    have hc := Classed.of_model h
    refine hf.grows hp hd hg ?_
    cases hc <;> rfl
  | @resource e _ _ _ h =>
    have hc := Classed.of_resource h
    refine hf.grows hp hd hg ?_
    cases hc <;> rfl

/-- **What is finished stays finished.** -/
theorem Finished.chain {artifacts : List Artifact} (hf : Finished p f w)
    (h : Chain p p.ledgerPath w artifacts w') (hp : p.Tidy w.disk.base) (hd : w.disk.Named) : Finished p f w' := by
  induction h with
  | nil w => exact hf
  | cons he _ ih =>
    have hstep := accounted_of_emits he
    refine ih ?_ ?_ ?_
    · exact ⟨hf.settled.emits he hp hd, hstep.grows.occupied hf.model, hstep.grows.occupied hf.resource⟩
    · rw [hstep.base]
      exact hp
    · exact hd.grows hstep.grows

theorem occupied_of_classed {kind : ArtifactKind} {path : Path} (h : Classed e kind path w (.ok a w')) :
    w'.disk.occupied path = true := by
  cases h with
  | skipped d _ hocc => exact hocc
  | written content d hplaced => exact Disk.occupied_iff.2 ⟨_, hplaced.look⟩

theorem settled_of_migration (h : migration p p.ledgerPath e w = .ok a w') (hp : p.Tidy w.disk.base)
    (hd : w.disk.Named) (htable : '/' ∉ e.tableName.toList) (hdirectory : p.directory.text ≠ "") :
    Settled p e w' := by
  cases Migrated.of_eq h with
  | saved kind pending template name w₁ d hrec hrep =>
    have hbase := hrec.placed.base
    refine (settled_of_recorded hrec hp hd htable hdirectory).grows (by rw [hbase]; exact hp)
      (hd.grows (grows_of_recorded hrec [])) ?_ rfl
    rw [hbase]
    exact grows_of_saved hrec _ hrep

/-- **An entity that went through is finished.** -/
theorem finished_of_entity {artifacts : List Artifact} (h : entity p p.ledgerPath e w = .ok artifacts w')
    (hp : p.Tidy w.disk.base) (hd : w.disk.Named) (htable : '/' ∉ e.tableName.toList)
    (hdirectory : p.directory.text ≠ "") : Finished p e w' := by
  obtain ⟨-, a, w₁, m, w₂, r, hmig, hmod, hres, rfl⟩ := entity_ok.1 h
  have hmodel := Classed.of_model hmod
  have hresource := Classed.of_resource hres
  have hsettled := settled_of_migration hmig hp hd htable hdirectory
  have he₂ : Emits p p.ledgerPath w₁ m w₂ := .model hmod
  have he₃ : Emits p p.ledgerPath w₂ r w' := .resource hres
  have hstep₁ := accounted_of_emits (.migration hmig)
  have hstep₂ := accounted_of_emits he₂
  have hstep₃ := accounted_of_emits he₃
  have hp₁ : p.Tidy w₁.disk.base := by
    rw [hstep₁.base]
    exact hp
  have hp₂ : p.Tidy w₂.disk.base := by
    rw [hstep₂.base]
    exact hp₁
  have hd₁ := hd.grows hstep₁.grows
  have hd₂ := hd₁.grows hstep₂.grows
  refine ⟨?_, ?_, occupied_of_classed hresource⟩
  · exact (hsettled.emits he₂ hp₁ hd₁).emits he₃ hp₂ hd₂
  · exact hstep₃.grows.occupied (occupied_of_classed hmodel)

/-- **After entities have gone through, all of them are finished.** -/
theorem finished_of_entities {es : List Entity} {artifacts : List Artifact}
    (h : entities p p.ledgerPath es w = .ok artifacts w') (hp : p.Tidy w.disk.base) (hd : w.disk.Named)
    (htables : ∀ e ∈ es, '/' ∉ e.tableName.toList) (hdirectory : p.directory.text ≠ "") :
    ∀ e ∈ es, Finished p e w' := by
  induction es generalizing w artifacts with
  | nil => exact fun e he => (by cases he)
  | cons e rest ih =>
    obtain ⟨here, w₁, after, he, ha, rfl⟩ := entities_cons_ok.1 h
    have hg := grows_of_chain (chain_of_entity he)
    have hfin := finished_of_entity he hp hd (htables e List.mem_cons_self) hdirectory
    have hp₁ : p.Tidy w₁.disk.base := by
      rw [hg.base]
      exact hp
    have hd₁ := hd.grows hg
    have hrest := ih ha hp₁ hd₁ (fun e he => htables e (List.mem_cons_of_mem _ he))
    intro f hf
    rcases List.mem_cons.1 hf with rfl | hf
    · exact hfin.chain (chain_of_entities ha) hp₁ hd₁
    · exact hrest f hf

/-! ## The second run -/

/-- The text of an update by nothing. -/
def emptyUpdate (table : String) : String :=
  Template.fill Template.updateMigration [("table", table), ("columns", ""), ("dropColumns", "")]

/-- **What an update by nothing says**: both ways ask for the table, and neither does anything to it. -/
theorem emptyUpdate_eq {table : String} (h : Template.IsPlain table.toList) : emptyUpdate table = Template.ofLines [
    "<?php",
    "",
    "use Illuminate\\Database\\Migrations\\Migration;",
    "use Illuminate\\Database\\Schema\\Blueprint;",
    "use Illuminate\\Support\\Facades\\Schema;",
    "",
    "return new class extends Migration",
    "\x7b",
    "    /**",
    "     * Run the migrations.",
    "     */",
    "    public function up(): void",
    "    \x7b",
    "        Schema::table('" ++ table ++ "', function (Blueprint $table) \x7b",
    "            ",
    "        \x7d);",
    "    \x7d",
    "",
    "    /**",
    "     * Reverse the migrations.",
    "     */",
    "    public function down(): void",
    "    \x7b",
    "        Schema::table('" ++ table ++ "', function (Blueprint $table) \x7b",
    "            ",
    "        \x7d);",
    "    \x7d",
    "\x7d;"] := by
  change _ = Template.ofLines (head ++ ("        Schema::table('" ++ table ++ "', function (Blueprint $table) \x7b") ::
    "            " :: (middle ++ ("        Schema::table('" ++ table ++ "', function (Blueprint $table) \x7b") ::
    "            " :: foot))
  have htable : Template.tablePiece table "" "" = table.toList := by
    unfold Template.tablePiece
    rw [replaceAll_of_isPlain h, replaceAll_of_isPlain h]
  refine String.toList_inj.1 ?_
  unfold emptyUpdate
  rw [Template.fill_updateMigration, htable, toList_ofLines, charsOf_append, charsOf_cons, charsOf_cons, charsOf_append,
    charsOf_cons, charsOf_cons]
  unfold Template.updatedFrom Template.called Template.callOf Template.lambda
  simp only [String.toList_append]
  repeat rw [String.toList_ofList]
  simp only [List.cons_append, List.nil_append, List.append_assoc]
  rfl

/-- What a second run reports of an entity whose new migration has this name. -/
def reportAgain (p : Project) (e : Entity) (name : String) : List Artifact :=
  [⟨e.name, .updateMigration, p.directory.join ⟨name⟩, .written⟩, ⟨e.name, .model, modelPath p e, .skipped⟩,
    ⟨e.name, .resource, resourcePath p e, .skipped⟩]

/-- The names that were given to migrations of a table. -/
def namesFor (table : String) (given : List (Entity × String)) : List String :=
  (given.filter (·.1.tableName == table)).map (·.2)

/-- A record with more migrations. -/
def withMigrations (names : List String) (r : TableRecord) : TableRecord :=
  { r with migrations := r.migrations ++ names }

theorem classed_skipped {kind : ArtifactKind} {path : Path} (h : Classed e kind path w (.ok a w'))
    (hocc : w.disk.occupied path = true) : a = ⟨e.name, kind, path, .skipped⟩ ∧ w'.ledger = w.ledger := by
  cases h with
  | skipped d _ _ => exact ⟨rfl, rfl⟩
  | written content d hplaced =>
    rw [hplaced.not_occupied] at hocc
    cases hocc

theorem map_withMigrations_nil (found : Option TableRecord) : found.map (withMigrations []) = found := by
  cases found with
  | none => rfl
  | some r =>
    show some { r with migrations := r.migrations ++ [] } = some r
    rw [List.append_nil]

/-- **Recording an update by nothing adds the name to the record of its table.** -/
theorem table?_recordUpdate {l : Ledger} {t name : String} (h : (l.table? t).isSome = true) (table : String) :
    (recordMigration .updateMigration t name [] l).table? table =
      (l.table? table).map (withMigrations (if t = table then [name] else [])) := by
  by_cases htable : table = t
  · subst htable
    obtain ⟨r, hr⟩ := Option.isSome_iff_exists.1 h
    rw [table?_recordMigration_self, past_update hr, hr, if_pos rfl]
    rfl
  · rw [table?_recordMigration_of_ne htable, if_neg (Ne.symm htable)]
    cases l.table? table with
    | none => rfl
    | some r =>
      show some r = some { r with migrations := r.migrations ++ [] }
      rw [List.append_nil]

/-- **Where nothing is pending, a plan updates by nothing.** -/
theorem Settled.plan {columns pending : List ColumnDefinition} {kind : ArtifactKind} (h : Settled p e w)
    (hcolumns : columns.map (·.name) = e.columns.entries.map (·.1))
    (hplan : Generation.plan p e.tableName columns w = .ok (kind, pending)) :
    kind = .updateMigration ∧ pending = [] := by
  obtain ⟨record, hlive, hsettled⟩ := h
  have hkind := update_of_live hplan hlive
  refine ⟨hkind, List.eq_nil_iff_forall_not_mem.2 (fun x hx => ?_)⟩
  obtain ⟨hin, hunknown⟩ := (mem_pending_iff hplan).1 hx
  have hname : x.name ∈ e.columns.entries.map (·.1) := by
    rw [← hcolumns]
    exact List.mem_map_of_mem hin
  refine hunknown hkind ?_
  rcases hsettled x.name hname with hrecorded | hscanned
  · exact .inl ⟨record, hlive, hrecorded⟩
  · exact .inr hscanned

/-- **A finished entity is updated by nothing, and its classes are skipped.** -/
theorem entity_again {artifacts : List Artifact} (hf : Finished p e w)
    (h : entity p p.ledgerPath e w = .ok artifacts w') (hp : p.Tidy w.disk.base)
    (htable : '/' ∉ e.tableName.toList) (hdirectory : p.directory.text ≠ "") :
    ∃ name, artifacts = reportAgain p e name ∧ IsName name ∧
      w'.disk.readText (p.directory.join ⟨name⟩) = .ok (emptyUpdate e.tableName) ∧
      w'.ledger = recordMigration .updateMigration e.tableName name [] w.ledger := by
  obtain ⟨-, a, w₁, m, w₂, r, hmig, hmod, hres, rfl⟩ := entity_ok.1 h
  have hmodel := Classed.of_model hmod
  have hresource := Classed.of_resource hres
  have hstep₁ := accounted_of_emits (.migration hmig)
  have he₂ : Emits p p.ledgerPath w₁ m w₂ := .model hmod
  have he₃ : Emits p p.ledgerPath w₂ r w' := .resource hres
  have hlater := (Chain.cons he₂ (.cons he₃ (.nil _)))
  obtain ⟨hm, hlm⟩ := classed_skipped hmodel (hstep₁.grows.occupied hf.model)
  obtain ⟨hr, hlr⟩ := classed_skipped hresource
    ((accounted_of_emits he₂).grows.occupied (hstep₁.grows.occupied hf.resource))
  -- The classes are left out, for they are there; so the entity does what its migration does.
  cases Migrated.of_eq hmig with
  | saved kind pending template name w₀ d hrec hrep =>
    obtain ⟨columns, hresolved, hplan, -⟩ := settle_ok.1 hrec.settled
    obtain ⟨rfl, rfl⟩ := hf.settled.plan (names_of_columns hresolved) hplan
    have hname := hrec.isName hp.extension htable
    have hapart := location_migration hp hname
    have hbase := hrec.placed.base
    obtain ⟨-, hread⟩ := hrec.found hp htable hdirectory
    refine ⟨name, ?_, hname, ?_, ?_⟩
    · rw [hm, hr]
      rfl
    · have hsaved := (grows_of_saved hrec _ hrep).readText hread (by rw [hbase]; exact hapart)
      have hgrow := grows_of_chain hlater
      have hbase' : d.base = w.disk.base := hrep.base.trans hbase
      refine hgrow.readText hsaved ?_
      show (p.directory.join ⟨name⟩).location d.base ≠ p.ledgerPath.location d.base
      rw [hbase']
      exact hapart
    · rw [hlr, hlm]
      exact hrec.ledger

theorem namesFor_cons (table : String) (e : Entity) (name : String) (given : List (Entity × String)) :
    namesFor table ((e, name) :: given) = (if e.tableName = table then [name] else []) ++ namesFor table given := by
  unfold namesFor
  by_cases h : e.tableName = table
  · rw [List.filter_cons_of_pos (by simp [h]), if_pos h]
    rfl
  · rw [List.filter_cons_of_neg (by simp [h]), if_neg h]
    rfl

/-- **Finished entities are updated by nothing, one after the other.** -/
theorem entities_again {es : List Entity} {artifacts : List Artifact} (hf : ∀ e ∈ es, Finished p e w)
    (h : entities p p.ledgerPath es w = .ok artifacts w') (hp : p.Tidy w.disk.base) (hd : w.disk.Named)
    (htables : ∀ e ∈ es, '/' ∉ e.tableName.toList) (hdirectory : p.directory.text ≠ "") :
    ∃ names : List String, names.length = es.length ∧
      artifacts = (es.zip names).flatMap (fun given => reportAgain p given.1 given.2) ∧
      (∀ given ∈ es.zip names,
        w'.disk.readText (p.directory.join ⟨given.2⟩) = .ok (emptyUpdate given.1.tableName)) ∧
      w'.ledger.version = w.ledger.version ∧
      ∀ table, w'.ledger.table? table =
        (w.ledger.table? table).map (withMigrations (namesFor table (es.zip names))) := by
  induction es generalizing w artifacts with
  | nil =>
    cases h
    refine ⟨[], rfl, rfl, fun given hg => (by cases hg), rfl, fun table => ?_⟩
    exact (map_withMigrations_nil _).symm
  | cons e rest ih =>
    obtain ⟨here, w₁, after, he, ha, rfl⟩ := entities_cons_ok.1 h
    have hg := grows_of_chain (chain_of_entity he)
    have hp₁ : p.Tidy w₁.disk.base := by
      rw [hg.base]
      exact hp
    have hfe := hf e List.mem_cons_self
    obtain ⟨name, rfl, hname, hread, hledger⟩ := entity_again hfe he hp (htables e List.mem_cons_self) hdirectory
    obtain ⟨names, hlength, rfl, hreads, hversion, htable⟩ := ih
      (fun f hf' => (hf f (List.mem_cons_of_mem _ hf')).chain (chain_of_entity he) hp hd) ha hp₁ (hd.grows hg)
      (fun f hf' => htables f (List.mem_cons_of_mem _ hf'))
    have hpresent : (w.ledger.table? e.tableName).isSome = true := by
      obtain ⟨r, ⟨hr, -⟩, -⟩ := hfe.settled
      rw [hr]
      rfl
    refine ⟨name :: names, congrArg (· + 1) hlength, rfl, fun given hgiven => ?_, ?_, fun table => ?_⟩
    · rcases List.mem_cons.1 hgiven with rfl | hgiven
      · exact (grows_of_chain (chain_of_entities ha)).readText hread (location_migration hp₁ hname)
      · exact hreads given hgiven
    · rw [hversion, hledger, version_recordMigration]
    · rw [htable, hledger, table?_recordUpdate hpresent, List.zip_cons_cons, namesFor_cons, Option.map_map]
      congr 1
      funext r
      show withMigrations _ (withMigrations _ r) = _
      unfold withMigrations
      rw [List.append_assoc]

/-- **Running again only adds empty updates.**  When a run went through and the next, over the same schema, goes
through as well, the second writes for every entity an update by nothing and skips both its classes, and the ledger
that it leaves is the one it found, with the names of the new migrations behind those of their tables.  The path of
the migrations must not be empty. -/
theorem run_again {s : Schema} {r₁ r₂ : Report} {w₂ : Workspace} {c : Clock} {l : Ledger}
    (hp : p.Tidy w.disk.base) (hdirectory : p.directory.text ≠ "") (hd : w.disk.Named)
    (htables : ∀ e ∈ s.entities, '/' ∉ e.tableName.toList)
    (h₁ : run p s w = .ok r₁ w₁) (h₂ : run p s ⟨w₁.disk, c, l⟩ = .ok r₂ w₂) :
    ∃ names : List String, names.length = s.entities.length ∧
      r₂.artifacts = (s.entities.zip names).flatMap (fun given => reportAgain p given.1 given.2) ∧
      (∀ given ∈ s.entities.zip names,
        w₂.disk.readText (p.directory.join ⟨given.2⟩) = .ok (emptyUpdate given.1.tableName)) ∧
      ∃ before after, Ledger.load w₁.disk p.ledgerPath = .ok before ∧ Ledger.load w₂.disk p.ledgerPath = .ok after ∧
        after.version = before.version ∧ ∀ table, after.table? table =
          (before.table? table).map (withMigrations (namesFor table (s.entities.zip names))) := by
  obtain ⟨l₀, hload₀, hrun₁⟩ := run_ok.1 h₁
  obtain ⟨l₁, hload₁, hrun₂⟩ := run_ok.1 h₂
  have hg₁ := grows_of_chain (chain_of_entities hrun₁)
  have hp₁ : p.Tidy w₁.disk.base := by
    rw [hg₁.base]
    exact hp
  have hd₁ := hd.grows hg₁
  have hfin := finished_of_entities hrun₁ hp hd htables hdirectory
  have hledger : s.entities ≠ [] → l₁ = w₁.ledger := by
    intro hne
    have := (saved_of_entities hrun₁ hne).load
    rw [show Ledger.load w₁.disk p.ledgerPath = .ok l₁ from hload₁] at this
    exact Except.ok.inj this
  have hfin₂ : ∀ e ∈ s.entities, Finished p e ⟨w₁.disk, c, l₁⟩ := by
    intro e he
    obtain ⟨hsettled, hmodel, hresource⟩ := hfin e he
    refine ⟨?_, hmodel, hresource⟩
    rw [hledger (List.ne_nil_of_mem he)]
    exact hsettled
  obtain ⟨names, hlength, hartifacts, hreads, hversion, htable⟩ :=
    entities_again hfin₂ hrun₂ hp₁ hd₁ htables hdirectory
  refine ⟨names, hlength, hartifacts, hreads, l₁, w₂.ledger, hload₁, ?_, hversion, htable⟩
  by_cases hne : s.entities = []
  · rw [hne] at hrun₂
    obtain ⟨-, rfl⟩ := (EStateM.Result.ok.injEq _ _ _ _).mp hrun₂
    exact hload₁
  · exact (saved_of_entities hrun₂ hne).load

theorem small_goesThrough_again : goesThrough (entities smallProject smallProject.ledgerPath smallSchema.entities
    { endState (run smallProject smallSchema freshWorkspace) with clock := freshWorkspace.clock }) = true := by
  decide +kernel

/-- Running twice over the small schema. -/
theorem run_again_small : ∃ r₁ w₁ r₂ w₂ names, run smallProject smallSchema freshWorkspace = .ok r₁ w₁ ∧
    run smallProject smallSchema ⟨w₁.disk, freshWorkspace.clock, .empty⟩ = .ok r₂ w₂ ∧
    r₂.artifacts = (smallSchema.entities.zip names).flatMap (fun given => reportAgain smallProject given.1 given.2) ∧
    names.length = 1 := by
  have hdirectory : smallProject.directory.text ≠ "" := by decide
  have htables : ∀ e ∈ smallSchema.entities, '/' ∉ e.tableName.toList := by decide
  have hagain := small_goesThrough_again
  obtain ⟨r₁, h₁⟩ := exists_of_goesThrough small_goesThrough
  generalize endState (run smallProject smallSchema freshWorkspace) = w₁ at h₁ hagain
  obtain ⟨artifacts, hrun₂⟩ := exists_of_goesThrough hagain
  have h₂ : run smallProject smallSchema ⟨w₁.disk, freshWorkspace.clock, .empty⟩ = .ok ⟨artifacts⟩ _ :=
    run_after h₁ hrun₂
  obtain ⟨names, hlength, hartifacts, -⟩ := run_again tidy_smallProject hdirectory named_fresh htables h₁ h₂
  exact ⟨r₁, w₁, _, _, names, h₁, h₂, hartifacts, hlength⟩

/-- A project whose migrations go where relative paths begin, by the empty path, and whose ledger is elsewhere. -/
def unlistedProject : Project :=
  { pathlessProject with layout := { pathlessProject.layout with ledger := ⟨"/l"⟩ } }

/-- A disk with nothing but the directory where relative paths begin. -/
def withinWorkspace : Workspace := { freshWorkspace with disk := { base := ["b"], nodes := [(["b"], .directory)] } }

theorem tidy_unlisted : unlistedProject.Tidy withinWorkspace.disk.base := by
  have hdirectory : unlistedProject.directory.location ["b"] = ["b"] := by decide +kernel
  have hledger : unlistedProject.ledgerLocation ["b"] = ["l"] := by decide +kernel
  refine ⟨rfl, by decide, fun name h => ?_⟩
  change unlistedProject.directory.location ["b"] ++ [name] = unlistedProject.ledgerLocation ["b"] at h
  rw [hdirectory, hledger] at h
  exact absurd (List.cons.inj h).1 (by decide)

theorem named_within : withinWorkspace.disk.Named := by
  refine Disk.named_of_nodes ?_
  simp only [withinWorkspace, List.forall_mem_singleton]
  rintro name ⟨⟩
  exact ⟨by decide, by decide, by decide, by decide⟩

theorem unlisted_goesThrough : goesThrough (run unlistedProject smallSchema withinWorkspace) = true := by
  decide +kernel

theorem unlisted_again : kindsOf (entities unlistedProject unlistedProject.ledgerPath smallSchema.entities
    { endState (run unlistedProject smallSchema withinWorkspace) with clock := withinWorkspace.clock }) =
      some [("A", .createMigration)] := by
  decide +kernel

/-- **Where running again creates a table again**: the path to the migrations is empty, so the second run does not list
the migration of the first. -/
theorem creates_again : unlistedProject.Tidy withinWorkspace.disk.base ∧ withinWorkspace.disk.Named ∧
    (∀ e ∈ smallSchema.entities, '/' ∉ e.tableName.toList) ∧
    ∃ r₁ w₁ r₂ w₂, run unlistedProject smallSchema withinWorkspace = .ok r₁ w₁ ∧
      run unlistedProject smallSchema { withinWorkspace with disk := w₁.disk } = .ok r₂ w₂ ∧
      r₂.migrations.map (fun a => (a.entity, a.kind)) = [("A", .createMigration)] := by
  refine ⟨tidy_unlisted, named_within, by decide, ?_⟩
  have hagain := unlisted_again
  obtain ⟨r₁, h₁⟩ := exists_of_goesThrough unlisted_goesThrough
  generalize endState (run unlistedProject smallSchema withinWorkspace) = w₁ at h₁ hagain
  obtain ⟨artifacts, hrun₂, hkinds⟩ := kindsOf_eq_some hagain
  exact ⟨r₁, w₁, ⟨artifacts⟩, _, h₁, run_after h₁ hrun₂, hkinds⟩

end Scaffold.Generation
