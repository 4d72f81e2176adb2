import Scaffold.Proofs.Disk.Alike
import Scaffold.Proofs.Generation.Kept
import Scaffold.Proofs.Generation.Split
/-!
# Proofs.Generation.Cache — the ledger only saves a scan

Two workspaces that differ in the ledger, in its file and in memory, plan the same migrations of columns that can be
looked for, since both ledgers are sound (`plan_of_parted`).  So a run does the same with the ledger as without it:
after the first migration the ledger's file stands on both disks, and its content is all that differs (`agree_entity`,
`run_without_ledger`).  That the columns can be looked for is needed: a column that the ledger records is not looked
for at all, however long its name is (`long_column_shows`).
-/
namespace Scaffold.Generation

open Disk (Path Grows Near Alike IsName)
open Migration (Created Defined Scanned ColumnDefinition isSearchable)

variable {p : Project} {e : Entity} {w w' : Workspace}

/-- Two workspaces with the same clock, whose disks are related. -/
def Beside (R : Disk → Disk → Prop) (w w' : Workspace) : Prop := R w.disk w'.disk ∧ w'.clock = w.clock

/-- **Two workspaces before a migration**: a ledger was saved on the first disk, and the second is the same but for
its file. -/
structure Parted (p : Project) (w w' : Workspace) : Prop where
  beside : Beside (Near p.ledgerPath) w w'
  first : Held p w
  second : Stored p w'

/-- **Two workspaces after a migration**: a ledger was saved on both disks, which are the same but for its content. -/
structure Twin (p : Project) (w w' : Workspace) : Prop where
  beside : Beside (Alike p.ledgerPath) w w'
  first : Held p w
  second : Held p w'

theorem Twin.parted (h : Twin p w w') : Parted p w w' :=
  ⟨⟨h.beside.1.toNear, h.beside.2⟩, h.first, h.second.toStored⟩

/-! ## Plans -/

theorem lists_of_near (hn : Near p.ledgerPath w.disk w'.disk) (hs : Held p w) {name : String} (hname : IsName name) :
    w'.disk.Lists p.directory name ↔ w.disk.Lists p.directory name := by
  obtain ⟨here, hwalk⟩ := hs.kept.walked
  refine hn.lists hname hwalk ?_
  rw [Disk.walk_location hwalk]
  exact hs.tidy.apart name

theorem readText_of_near (hn : Near p.ledgerPath w.disk w'.disk) (hs : Held p w) {name : String} (hname : IsName name) :
    w'.disk.readText (p.directory.join ⟨name⟩) = w.disk.readText (p.directory.join ⟨name⟩) := by
  obtain ⟨here, hwalk⟩ := hs.kept.walked
  unfold Disk.readText Disk.read
  rw [hn.look_join hname hwalk]
  rw [Disk.walk_location hwalk]
  exact hs.tidy.apart name

/-- A listed file is listed on both disks, with the same text. -/
theorem exists_listed_iff (hp : Parted p w w') (P : String → Except Disk.Fault String → Prop) :
    (∃ name, w'.disk.Lists p.directory name ∧ P name (w'.disk.readText (p.directory.join ⟨name⟩))) ↔
      ∃ name, w.disk.Lists p.directory name ∧ P name (w.disk.readText (p.directory.join ⟨name⟩)) := by
  constructor
  · rintro ⟨name, hlists, h⟩
    have hname := hlists.isName hp.second.named
    rw [readText_of_near hp.beside.1 hp.first hname] at h
    exact ⟨name, (lists_of_near hp.beside.1 hp.first hname).1 hlists, h⟩
  · rintro ⟨name, hlists, h⟩
    have hname := hlists.isName hp.first.named
    rw [← readText_of_near hp.beside.1 hp.first hname] at h
    exact ⟨name, (lists_of_near hp.beside.1 hp.first hname).2 hlists, h⟩

/-- The migrations can be listed on both disks or on neither. -/
theorem map_namesIn_of_parted {α : Type} (hp : Parted p w w') (a : α) :
    (Migration.namesIn w'.disk p.directory).map (fun _ => a) =
      (Migration.namesIn w.disk p.directory).map (fun _ => a) := by
  obtain ⟨here, hwalk⟩ := hp.first.kept.walked
  unfold Migration.namesIn
  rw [Disk.fileNames_eq, Disk.fileNames_eq, hp.beside.1.reach hwalk]
  cases w.disk.reach p.directory with
  | error f => simp only [Except.map]
  | ok here => simp only [Except.map]

/-- **Without the ledger the same is planned.** -/
theorem plan_of_parted (hp : Parted p w w') (table : String) {columns : List ColumnDefinition}
    (hsearch : ∀ x ∈ columns, isSearchable x.name = true) : plan p table columns w' = plan p table columns w := by
  have hcreated : Created w'.disk p.directory table = Created w.disk p.directory table :=
    propext (exists_listed_iff hp (fun name _ => Migration.bears name (Migration.createMarker table) = true))
  have hdefined : Defined w'.disk p.directory table = Defined w.disk p.directory table := by
    funext column
    have h := exists_listed_iff hp (fun name read =>
      (Migration.bears name (Migration.createMarker table) = true ∨
        Migration.bears name (Migration.updateMarker table) = true) ∧
      ∃ text, read = .ok text ∧ Migration.definesColumn column.toList text.toList = true)
    exact propext h
  have hplan : scannedPlan w'.disk p.directory table columns = scannedPlan w.disk p.directory table columns := by
    unfold scannedPlan Scanned
    rw [hcreated, hdefined]
  rw [plan_of_sound hp.second.sound hp.second.named hp.second.utf8 table hsearch,
    plan_of_sound hp.first.sound hp.first.named hp.first.utf8 table hsearch, hplan]
  exact map_namesIn_of_parted hp _

theorem settle_of_parted (hp : Parted p w w') (he : e.Searchable) : settle p e w' = settle p e w := by
  rw [settle_eq, settle_eq]
  cases hcolumns : (e.requiredColumns >>= Migration.resolve).mapError Error.problem with
  | error err => rfl
  | ok columns =>
    show settleFor p e w' columns = settleFor p e w columns
    unfold settleFor
    simp only [plan_of_parted hp e.tableName (searchable_of_columns he hcolumns), load_of_tidy hp.first.tidy]

/-! ## Steps -/

theorem agree_onDisk {α : Type} {R E : Disk → Disk → Prop} {action action' : Disk.Action α}
    (h : Agree R E (action w.disk) (action' w'.disk)) (hc : w'.clock = w.clock) (path : Path) :
    Agree (Beside R) (Beside E) (onDisk path action w) (onDisk path action' w') := by
  unfold onDisk
  generalize action w.disk = r at h
  generalize action' w'.disk = r' at h
  cases h with
  | ok a hs => exact .ok a ⟨hs, hc⟩
  | error f hs => exact .error _ ⟨hs, hc⟩

theorem agree_ask {α : Type} {R E : Workspace → Workspace → Prop} {question : Workspace → Except Error α}
    (h : question w' = question w) (hR : R w w') (hE : E w w') : Agree R E (ask question w) (ask question w') := by
  unfold ask
  rw [h]
  cases question w with
  | error err => exact .error err hE
  | ok a => exact .ok a hR

theorem grows_of_onDisk {α : Type} {path : Path} {action : Disk.Action α} {a : α}
    (hg : Grows [] w.disk (endState (action w.disk))) (h : onDisk path action w = .ok a w') :
    Grows [] w.disk w'.disk := by
  unfold onDisk at h
  cases hr : action w.disk with
  | error f d =>
    rw [hr] at h
    cases h
  | ok found d =>
    rw [hr] at h hg
    cases h
    exact hg

theorem grows_writeNew (path : Path) (content : ByteArray) (d : Disk) :
    Grows [] d (endState (Disk.writeNew path content d)) := by
  rcases Disk.writeNew_cases path content d with ⟨d', h, hplaced⟩ | ⟨d', h, hadds, -⟩ | ⟨f, d', h, hadds⟩
  · rw [h]
    exact hplaced.grows []
  · rw [h]
    exact hadds.grows []
  · rw [h]
    exact hadds.grows []

/-- What the place of a migration depends on. -/
structure Prepared (p : Project) (w w' : Workspace) : Prop where
  beside : Beside (Near p.ledgerPath) w w'
  tidy : p.Tidy w.disk.base
  named : w.disk.Named
  kept : Kept p w.disk

theorem Parted.prepared (h : Parted p w w') : Prepared p w w' := ⟨h.beside, h.first.tidy, h.first.named, h.first.kept⟩

theorem Prepared.grows {v v' : Workspace} (h : Prepared p w w') (hb : Beside (Near p.ledgerPath) v v')
    (hg : Grows [] w.disk v.disk) : Prepared p v v' := by
  refine ⟨hb, ?_, h.named.grows hg, h.kept.grows h.named hg⟩
  rw [hg.base]
  exact h.tidy

/-- **Two migrations find the same place** where the clocks tell the same time and every try ends alike. -/
theorem agree_tries {R E : Workspace → Workspace → Prop} {directory : Path} {kind : ArtifactKind}
    {table extension content : String} (hE : ∀ t t', R t t' → E t t') (hclock : ∀ t t', R t t' → t'.clock = t.clock)
    (htry : ∀ t t' at_ c name, R t t' → name = Migration.fileName kind (Calendar.stamp at_) table extension →
      Agree R E
        (onDisk (directory.join ⟨name⟩) (Disk.writeNew (directory.join ⟨name⟩) content.toUTF8) { t with clock := c })
        (onDisk (directory.join ⟨name⟩) (Disk.writeNew (directory.join ⟨name⟩) content.toUTF8) { t' with clock := c }))
    (tries : Nat) (h : R w w') : Agree R E (placeMigration directory kind table extension content tries w)
      (placeMigration directory kind table extension content tries w') := by
  induction tries generalizing w w' with
  | zero => exact .error _ (hE _ _ h)
  | succ tries ih =>
    have hnext : w'.clock.next = w.clock.next := by rw [hclock _ _ h]
    cases hn : w.clock.next with
    | none =>
      rw [placeMigration_of_none hn, placeMigration_of_none (hnext.trans hn)]
      exact .error _ (hE _ _ h)
    | some ticked =>
      obtain ⟨at_, c⟩ := ticked
      rw [placeMigration_of_some hn, placeMigration_of_some (hnext.trans hn)]
      -- Both clocks tell the same, so both try the same name.
      refine (htry w w' at_ c _ h rfl).bind (fun outcome t t' ht => ?_)
      cases outcome with
      | written => exact .ok _ ht
      | skipped => exact ih ht
      | collision => exact ih ht

/-- **Both migrations find the same place.** -/
theorem agree_placeMigration {table : String} (htable : '/' ∉ table.toList) (kind : ArtifactKind) (content : String)
    (tries : Nat) (h : Prepared p w w') :
    Agree (Prepared p) (Beside (Near p.ledgerPath))
      (placeMigration p.directory kind table p.layout.extension content tries w)
      (placeMigration p.directory kind table p.layout.extension content tries w') := by
  refine agree_tries (fun _ _ ht => ht.beside) (fun _ _ ht => ht.beside.2) (fun w w' at_ c name h hname => ?_) tries h
  have hname : IsName name := hname ▸ Migration.isName_fileName htable h.tidy.extension kind at_
  obtain ⟨here, hwalk⟩ := h.kept.walked
  have hne : here ++ [name] ≠ p.ledgerPath.location w.disk.base := by
    rw [Disk.walk_location hwalk]
    exact h.tidy.apart name
  have hgrows := grows_writeNew (p.directory.join ⟨name⟩) content.toUTF8 w.disk
  have hnew := h.beside.1.agree_writeNew hname hwalk hne (h.kept.home name hname) content.toUTF8
  have hwrite := @agree_onDisk ⟨w.disk, c, w.ledger⟩ ⟨w'.disk, c, w'.ledger⟩ _ _ _ _ _ hnew rfl
    (p.directory.join ⟨name⟩)
  exact hwrite.mono
    (fun outcome s s' hok _ hb => h.grows hb (@grows_of_onDisk ⟨w.disk, c, w.ledger⟩ s _ _ _ _ hgrows hok))
    (fun _ _ _ _ _ hb => hb)

/-- **Both ledgers are saved**, and from then on their file stands on both disks. -/
theorem agree_enact {kind : ArtifactKind} {pending : List ColumnDefinition} {template : String}
    (htable : '/' ∉ e.tableName.toList) (h : Prepared p w w') :
    Agree (Beside (Alike p.ledgerPath)) (Beside (Near p.ledgerPath)) (enact p p.ledgerPath e kind pending template w)
      (enact p p.ledgerPath e kind pending template w') := by
  unfold enact
  refine (agree_placeMigration htable kind _ attempts h).bind (fun placed t t' ht => ?_)
  obtain ⟨path, name⟩ := placed
  dsimp only
  have hmodify : ∀ f : Ledger → Ledger, Agree (Prepared p) (Beside (Near p.ledgerPath))
      ((modify fun w => { w with ledger := f w.ledger } : Generation PUnit) t)
      ((modify fun w => { w with ledger := f w.ledger } : Generation PUnit) t') := by
    intro f
    show Agree _ _ (.ok PUnit.unit { t with ledger := f t.ledger }) (.ok PUnit.unit { t' with ledger := f t'.ledger })
    exact .ok _ ⟨ht.beside, ht.tidy, ht.named, ht.kept⟩
  refine (hmodify _).bind (fun _ v v' hv => ?_)
  rw [bind_of_ok (get_apply v), bind_of_ok (get_apply v')]
  obtain ⟨l, hlook, -⟩ := hv.kept.ledger
  have hsave : Agree (Alike p.ledgerPath) (Near p.ledgerPath) (v.ledger.save p.ledgerPath v.disk)
      (v'.ledger.save p.ledgerPath v'.disk) := hv.beside.1.agree_write hlook hv.kept.parent _ _ _
  exact (agree_onDisk hsave hv.beside.2 _).bind (fun _ _ _ hb => .ok _ hb)

/-- **A migration is written in the same way with the ledger as without it.** -/
theorem agree_migration (h : Parted p w w') (he : e.Plain) (hsearch : e.Searchable) :
    Agree (Twin p) (Beside (Near p.ledgerPath)) (migration p p.ledgerPath e w) (migration p p.ledgerPath e w') := by
  have hagree : Agree (Beside (Alike p.ledgerPath)) (Beside (Near p.ledgerPath)) (migration p p.ledgerPath e w)
      (migration p p.ledgerPath e w') := by
    rw [migration_eq, migration_eq, settle_of_parted h hsearch]
    cases settle p e w with
    | error err => exact .error err h.beside
    | ok settled => exact agree_enact he.table h.prepared
  refine hagree.mono (fun a s s' hok hok' hb => ?_) (fun _ _ _ _ _ hb => hb)
  exact ⟨hb, held_of_migration h.first.toStored he hok, held_of_migration h.second he hok'⟩

/-! ## Classes -/

/-- **A class is written in the same way where its text is the same.** -/
theorem agree_classWith {text : Workspace → Except Error String} (htext : text w' = text w)
    (h : Beside (Alike p.ledgerPath) w w') (kind : ArtifactKind) (e : Entity) (path : Path) :
    Agree (Beside (Alike p.ledgerPath)) (Beside (Alike p.ledgerPath)) (classWith .never kind text e path w)
      (classWith .never kind text e path w') := by
  refine (agree_ask htext h h).bind (fun content t t' ht => ?_)
  exact (agree_onDisk (ht.1.agree_writeIfAbsent path content.toUTF8) ht.2 path).bind (fun _ _ _ hb => .ok _ hb)

theorem agree_model {base : Location} (hp : p.Tidy base) (h : Beside (Alike p.ledgerPath) w w') (e : Entity) :
    Agree (Beside (Alike p.ledgerPath)) (Beside (Alike p.ledgerPath)) (model p e w) (model p e w') := by
  refine agree_classWith ?_ h .model e _
  simp only [renderModel, Project.tools, load_of_tidy hp]

theorem agree_resource {base : Location} (hp : p.Tidy base) (h : Beside (Alike p.ledgerPath) w w') (e : Entity) :
    Agree (Beside (Alike p.ledgerPath)) (Beside (Alike p.ledgerPath)) (resource p e w) (resource p e w') := by
  refine agree_classWith ?_ h .resource e _
  simp only [renderResource, Project.tools, load_of_tidy hp]

theorem Twin.classed {kind : ArtifactKind} {path : Path} {act : Generation Artifact} (h : Twin p w w')
    (hact : ∀ w, Classed e kind path w (act w))
    (hagree : Agree (Beside (Alike p.ledgerPath)) (Beside (Alike p.ledgerPath)) (act w) (act w')) :
    Agree (Twin p) (Beside (Near p.ledgerPath)) (act w) (act w') := by
  have hkeeps := @keeps_held_of_classed p e kind path act hact
  refine hagree.mono (fun a s s' hok hok' hb => ⟨hb, ?_, ?_⟩) (fun _ _ _ _ _ hb => ⟨hb.1.toNear, hb.2⟩)
  · exact hkeeps.of_ok h.first hok
  · exact hkeeps.of_ok h.second hok'

/-! ## Runs -/

/-- **An entity is handled in the same way with the ledger as without it**, and leaves a ledger to both. -/
theorem agree_entity (h : Parted p w w') (he : e.Plain) (hsearch : e.Searchable) :
    Agree (Twin p) (Beside (Near p.ledgerPath)) (entity p p.ledgerPath e w) (entity p p.ledgerPath e w') := by
  have htidy := h.first.tidy
  unfold entity
  cases e.problems with
  | cons problem rest => exact .error _ h.beside
  | nil =>
    refine (agree_migration h he hsearch).bind (fun migration t t' ht => ?_)
    refine (ht.classed (classed_model p e) (agree_model htidy ht.beside e)).bind (fun model v v' hv => ?_)
    refine (hv.classed (classed_resource p e) (agree_resource htidy hv.beside e)).bind (fun resource _ _ hu => ?_)
    exact .ok _ hu

theorem agree_entities {es : List Entity} (h : Parted p w w') (hes : ∀ e ∈ es, e.Plain)
    (hsearch : ∀ e ∈ es, e.Searchable) :
    Agree (Parted p) (Beside (Near p.ledgerPath)) (entities p p.ledgerPath es w) (entities p p.ledgerPath es w') := by
  induction es generalizing w w' with
  | nil => exact .ok _ h
  | cons e rest ih =>
    rw [entities]
    refine (agree_entity h (hes e List.mem_cons_self) (hsearch e List.mem_cons_self)).bind (fun here t t' ht => ?_)
    refine (ih ht.parted (fun f hf => hes f (List.mem_cons_of_mem _ hf))
      (fun f hf => hsearch f (List.mem_cons_of_mem _ hf))).bind (fun after v v' hv => ?_)
    exact .ok _ hv

/-- **The disks that runs lead to**, however each of them ends, over plain entities and with any clocks. -/
inductive Reached (p : Project) (d₀ : Disk) : Disk → Prop where
  | start : Reached p d₀ d₀
  | run {d : Disk} (s : Schema) (c : Clock) : Reached p d₀ d → (∀ e ∈ s.entities, e.Plain) →
      Reached p d₀ (endState (Generation.run p s { disk := d, clock := c })).disk

theorem work_of_reached {d₀ d : Disk} (hp : p.Tidy d₀.base) (hd : d₀.Named)
    (hu : d₀.Utf8 (p.directory.location d₀.base)) (hno : d₀.file? (p.ledgerLocation d₀.base) = none)
    (h : Reached p d₀ d) (c : Clock) : Work p { disk := d, clock := c } := by
  induction h generalizing c with
  | start => exact ⟨⟨hp, hd, hu, Ledger.sound_empty _ _⟩, fun hfile => absurd hno hfile⟩
  | run s c₁ _ hs ih => exact (work_of_run hs (ih c₁)).reload c (Ledger.sound_empty _ _)

def SameBut (l : Location) (w w' : Workspace) : Prop := ∀ m, m ≠ l → w'.disk.file? m = w.disk.file? m

/-- What a run with a ledger and a run whose ledger's file was removed begin with. -/
theorem parted_unlink {d : Disk} {c : Clock} {l l' : Ledger} (h : Held p ⟨d, c, l⟩)
    (hs : l'.Sound (d.unlink (p.ledgerLocation d.base)) p.directory) :
    Parted p ⟨d, c, l⟩ ⟨d.unlink (p.ledgerLocation d.base), c, l'⟩ := by
  obtain ⟨found, hlook, -⟩ := h.kept.ledger
  have hat := Disk.at?_of_look_file hlook
  have hapart : ∀ name, p.directory.location d.base ++ [name] ≠ p.ledgerPath.location d.base := h.tidy.apart
  have hnear := Disk.near_unlink hat
  have hself := Disk.at?_unlink_self hat
  rw [Project.ledgerLocation_eq] at hs ⊢
  generalize d.unlink (p.ledgerPath.location d.base) = d' at hs hnear hself
  have hbase : d'.base = d.base := hnear.base
  refine ⟨⟨hnear, rfl⟩, h, ⟨?_, fun m name hm => ?_, fun name content hfile => ?_, hs⟩⟩
  · show p.Tidy d'.base
    rw [hbase]
    exact h.tidy
  · refine h.named m name (fun hnone => hm ?_)
    show d'.at? (m ++ [name]) = none
    by_cases hledger : m ++ [name] = p.ledgerPath.location d.base
    · rw [hledger, hself]
    · rw [hnear.off _ hledger]
      exact hnone
  · change d'.file? (p.directory.location d'.base ++ [name]) = some content at hfile
    rw [hbase, hnear.file? (hapart name)] at hfile
    exact h.utf8 name content hfile

theorem load_unlink {d : Disk} (h : Kept p d) :
    Ledger.load (d.unlink (p.ledgerLocation d.base)) p.ledgerPath = .ok .empty := by
  obtain ⟨found, hlook, -⟩ := h.ledger
  have hat := Disk.at?_of_look_file hlook
  have hnear := Disk.near_unlink hat
  have hself := Disk.at?_unlink_self hat
  rw [Project.ledgerLocation_eq]
  obtain ⟨t, hfollow, hholds⟩ := Disk.look_ok.1 hlook
  have hloc := Disk.location_of_follow hfollow
  cases t with
  | directory here => cases hholds
  | entry here name slash =>
    refine Ledger.load_of_missing (Disk.follow_mono hnear.keeps hfollow) (Disk.lookIn_ok.2 ⟨hholds.1, ?_⟩)
    change here ++ [name] = p.ledgerPath.location d.base at hloc
    rw [hloc]
    exact hself

theorem plain_smallSchema : ∀ e ∈ smallSchema.entities, e.Plain := by
  intro e he
  rw [smallSchema, List.mem_singleton] at he
  subst he
  exact ⟨by decide, by decide⟩

theorem searchable_smallSchema : ∀ e ∈ smallSchema.entities, e.Searchable := by
  intro e he
  rw [smallSchema, List.mem_singleton] at he
  subst he
  exact fun name hname => List.mem_singleton.1 hname ▸ (by decide : isSearchable "x" = true)

theorem utf8_fresh (l : Location) : freshWorkspace.disk.Utf8 l := by
  intro name content h
  rw [file?_fresh] at h
  cases h

theorem small_leaves_ledger :
    ((endState (run smallProject smallSchema freshWorkspace)).disk.file? ["p", "l"]).isSome = true := by decide +kernel

/-- **A record that lists all columns is all that a plan needs.** -/
theorem plan_of_recorded {table : String} {r : TableRecord} {columns : List ColumnDefinition}
    (hr : w.ledger.Live w.disk p.directory table r) (hall : ∀ x ∈ columns, x.name ∈ r.columns) :
    plan p table columns w = .ok (.updateMigration, []) := by
  have hmissing : w.ledger.missingColumns w.disk p.directory table ColumnDefinition.name columns = .ok [] := by
    induction columns with
    | nil => rfl
    | cons x rest ih =>
      have hknown := Ledger.columnExists_of_recorded hr (hall x List.mem_cons_self)
      exact except_bind_ok.2 ⟨true, hknown,
        except_bind_ok.2 ⟨[], ih fun y hy => hall y (List.mem_cons_of_mem _ hy), rfl⟩⟩
  exact except_bind_ok.2 ⟨true, Ledger.tableExists_of_live hr, except_bind_ok.2 ⟨[], hmissing, rfl⟩⟩

/-- **Without a record, a column that cannot be looked for is an error.** -/
theorem plan_of_not_searchable {table : String} {x : ColumnDefinition} (columns : List ColumnDefinition)
    (hno : w.ledger.table? table = none) (hcreated : Created w.disk p.directory table)
    (hx : isSearchable x.name = false) :
    plan p table (x :: columns) w = .error (.schema (.columnTooLong x.name Migration.patternLimit)) := by
  have hlive : w.ledger.liveRecord w.disk p.directory table = .ok none := by
    unfold Ledger.liveRecord
    rw [hno]
  obtain ⟨name, hlists, -⟩ := id hcreated
  obtain ⟨names, hnames⟩ := Ledger.namesIn_of_lists hlists
  obtain ⟨known, hknown⟩ := Ledger.tableExists_total w.ledger table hnames
  obtain rfl : known = true := (Ledger.tableExists_ok hknown).2 (.inr hcreated)
  have hcolumn : w.ledger.columnExists w.disk p.directory table x.name =
      .error (.schema (.columnTooLong x.name Migration.patternLimit)) := by
    unfold Ledger.columnExists
    rw [except_bind_of_ok hlive, if_neg (by simp), Migration.columnExists_of_not_searchable hx]
  exact (except_bind_of_ok hknown _).trans (except_bind_of_error (except_bind_of_error hcolumn _) _)

/-- **A run records the columns that cannot be looked for**: it cannot have found them. -/
theorem recorded_of_not_searchable {s : Schema} {report : Report} (hp : p.Tidy w.disk.base) (hd : w.disk.Named)
    (htables : ∀ e ∈ s.entities, '/' ∉ e.tableName.toList) (hdirectory : p.directory.text ≠ "")
    (h : run p s w = .ok report w₁) (he : e ∈ s.entities) :
    Ledger.load w₁.disk p.ledgerPath = .ok w₁.ledger ∧ ∃ r, w₁.ledger.Live w₁.disk p.directory e.tableName r ∧
      ∀ column ∈ e.columns.entries.map (·.1), isSearchable column = false → column ∈ r.columns := by
  obtain ⟨l, -, hentities⟩ := run_ok.1 h
  obtain ⟨r, hlive, hcolumns⟩ := (finished_of_entities hentities hp hd htables hdirectory e he).settled
  refine ⟨(saved_of_entities hentities (List.ne_nil_of_mem he)).load, r, hlive, fun column hc hsearch => ?_⟩
  rcases hcolumns column hc with hrecorded | ⟨hsearch', -⟩
  · exact hrecorded
  · rw [hsearch] at hsearch'
    cases hsearch'

/-- **With a record of all its columns, an entity goes through as what an update by nothing leaves to do.** -/
theorem run_of_recorded {base : Location} {r : TableRecord} {columns : List ColumnDefinition} (hp : p.Tidy base)
    (hproblems : e.problems = [])
    (hcolumns : (e.requiredColumns >>= Migration.resolve).mapError Error.problem = .ok columns)
    (hload : Ledger.load w.disk p.ledgerPath = .ok w.ledger)
    (hr : w.ledger.Live w.disk p.directory e.tableName r) (hall : ∀ x ∈ columns, x.name ∈ r.columns)
    (h : goesThrough (enactAll p p.ledgerPath e .updateMigration [] (Template.builtin .updateMigration) w) = true)
    (l : Ledger) : goesThrough (run p ⟨[e]⟩ { w with ledger := l }) = true := by
  have hsettle : settle p e w = .ok (.updateMigration, [], Template.builtin .updateMigration) :=
    settle_ok.2 ⟨columns, hcolumns, plan_of_recorded hr hall, load_of_tidy hp _ _⟩
  obtain ⟨artifacts, hentity⟩ := exists_of_goesThrough h
  rw [← entity_of_settled hproblems hsettle] at hentity
  have hentities : entities p p.ledgerPath [e] w = .ok (artifacts ++ []) _ :=
    entities_cons_ok.2 ⟨artifacts, _, [], hentity, rfl, rfl⟩
  have hrun : run p ⟨[e]⟩ { w with ledger := l } = .ok ⟨artifacts ++ []⟩ _ := run_ok.2 ⟨w.ledger, hload, hentities⟩
  rw [hrun]
  rfl

/-- **Without a ledger, a column that cannot be looked for ends the run.** -/
theorem run_of_not_searchable {x : ColumnDefinition} {columns : List ColumnDefinition} {es : List Entity}
    (hproblems : e.problems = [])
    (hcolumns : (e.requiredColumns >>= Migration.resolve).mapError Error.problem = .ok (x :: columns))
    (hload : Ledger.load w.disk p.ledgerPath = .ok .empty) (hcreated : Created w.disk p.directory e.tableName)
    (hx : isSearchable x.name = false) :
    run p ⟨e :: es⟩ w = .error (.schema (.columnTooLong x.name Migration.patternLimit)) { w with ledger := .empty } := by
  have hplan := @plan_of_not_searchable p { w with ledger := .empty } e.tableName x columns rfl hcreated hx
  have hsettle : settle p e { w with ledger := .empty } =
      .error (.schema (.columnTooLong x.name Migration.patternLimit)) := by
    rw [settle_eq, except_bind_of_ok hcolumns]
    exact except_bind_of_error hplan _
  have hmigration : migration p p.ledgerPath e { w with ledger := .empty } =
      .error (.schema (.columnTooLong x.name Migration.patternLimit)) { w with ledger := .empty } := by
    rw [migration_eq, hsettle]
  rw [run_of_load hload, entities]
  unfold entity
  rw [hproblems]
  exact bind_of_error (bind_of_error (bind_of_error hmigration))

theorem held_of_recorded {d : Disk} {c : Clock} {l : Ledger} {table : String} {r : TableRecord}
    (h : Work p { disk := d, clock := c }) (hload : Ledger.load d p.ledgerPath = .ok l)
    (hr : l.table? table = some r) : Held p ⟨d, c, l⟩ := by
  have hfile : d.file? (p.ledgerLocation d.base) ≠ none := by
    intro hno
    rw [Ledger.load_of_no_file hload hno] at hr
    cases hr
  exact ⟨(h.reload c (h.sound_of_load hload)).toStored, h.kept hfile⟩

theorem created_unlink {d : Disk} {c : Clock} {l : Ledger} {table : String} {r : TableRecord}
    (h : Held p ⟨d, c, l⟩) (hdirectory : p.directory.text ≠ "") (hr : l.table? table = some r) :
    Created (d.unlink (p.ledgerLocation d.base)) p.directory table := by
  have hparted := @parted_unlink p d c l .empty h (Ledger.sound_empty _ _)
  refine (exists_listed_iff hparted (fun name _ => Migration.bears name (Migration.createMarker table) = true)).2 ?_
  exact (h.sound hdirectory table r hr).1

/-- A name that no pattern can be made of.  It is never spelled out, for nothing below depends on its characters but its
size and that none of them is a brace. -/
@[irreducible]
def longColumn : String := String.ofList (List.replicate 400000 'a')

def longEntity : Entity := { name := "A", table := some "t", columns := NameMap.empty.insert longColumn {} }

def longSchema : Schema := ⟨[longEntity]⟩

theorem utf8ByteSize_replicate (n : Nat) : (String.ofList (List.replicate n 'a')).utf8ByteSize = n := by
  induction n with
  | zero => rfl
  | succ n ih =>
    rw [List.replicate_succ, String.ofList_cons, String.utf8ByteSize_append, ih, String.utf8ByteSize_singleton,
      show 'a'.utf8Size = 1 from rfl, Nat.add_comm]

theorem size_long : longColumn.utf8ByteSize = 400000 := by
  unfold longColumn
  exact utf8ByteSize_replicate 400000

theorem not_searchable_long : isSearchable longColumn = false := by
  rw [Bool.eq_false_iff, Ne, Migration.isSearchable_iff, size_long]
  decide

theorem brace_not_mem_long : '{' ∉ longColumn.toList := by
  unfold longColumn
  rw [String.toList_ofList, List.mem_replicate]
  exact fun hbrace => absurd hbrace.2 (by decide)

theorem names_long : longEntity.columns.entries.map (·.1) = [longColumn] := rfl

theorem plain_longSchema : ∀ e ∈ longSchema.entities, e.Plain := by
  intro e he
  rw [longSchema, List.mem_singleton] at he
  subst he
  refine ⟨by decide, fun name hname => ?_⟩
  rw [names_long, List.mem_singleton] at hname
  subst hname
  rw [Bool.eq_false_iff]
  intro hoccurs
  obtain ⟨before, after, htext⟩ := Text.occursIn_iff.1 hoccurs
  refine brace_not_mem_long ?_
  rw [htext]
  exact List.mem_append_left _ (List.mem_append_right _ (by decide))

theorem long_problems : longEntity.problems = [] := by decide +kernel

theorem long_columns : (longEntity.requiredColumns >>= Migration.resolve).mapError Error.problem =
    .ok [⟨longColumn, .string, {}⟩] := by rfl

theorem long_goesThrough : goesThrough (run smallProject longSchema freshWorkspace) = true := by decide +kernel

theorem long_goesThrough_again : goesThrough (enactAll smallProject smallProject.ledgerPath longEntity
    .updateMigration [] (Template.builtin .updateMigration)
    { endState (run smallProject longSchema freshWorkspace) with clock := freshWorkspace.clock }) = true := by
  decide +kernel

end Scaffold.Generation
