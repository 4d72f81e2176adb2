import Scaffold.Proofs.Generation.Tidy
/-!
# Proofs.Generation.Log — the migrations that a run writes, however it ends

A run that breaks off has written migrations that no report tells of; its log has them all.  An entity adds one
migration to the log or none, and after it nothing is written but the ledger and the classes of the entity (`logged`).
So what every entity keeps of the log and the workspace, a run keeps, however it ends (`runLog_keeps`).  The log of a
run that goes through is what its report tells (`runLog_of_ok`).
-/
namespace Scaffold.Generation

open Disk (Path Grows AddsDirectories Placed Replaced)
open Migration (ColumnDefinition)

/-- **A migration of a history**: the entity it was written for, its kind and file name, and the columns that its text
adds. -/
structure Entry where
  entity : Entity
  kind : ArtifactKind
  name : String
  columns : List ColumnDefinition

namespace Entry

def table (x : Entry) : String := x.entity.tableName

def artifact (p : Project) (x : Entry) : Artifact := ⟨x.entity.name, x.kind, p.directory.join ⟨x.name⟩, .written⟩

def text (x : Entry) : String := migrationText (Template.builtin x.kind) x.table x.columns

end Entry

/-! ## The log of a run -/

/-- What the migration of an entity adds to the log, once it has found its place. -/
def migrationLog (p : Project) (e : Entity) (w : Workspace) : List Entry :=
  match settle p e w with
  | .error _ => []
  | .ok (kind, pending, template) =>
    match placeMigration (p.layout.migrationsIn p.root) kind e.tableName p.layout.extension
        (migrationText template e.tableName pending) attempts w with
    | .error _ _ => []
    | .ok (_, name) _ => [⟨e, kind, name, pending⟩]

def entityLog (p : Project) (e : Entity) (w : Workspace) : List Entry :=
  match e.problems with
  | _ :: _ => []
  | [] => migrationLog p e w

def entitiesLog (p : Project) (ledgerPath : Path) : List Entity → Workspace → List Entry
  | [], _ => []
  | e :: rest, w => entityLog p e w ++
    match entity p ledgerPath e w with
    | .error _ _ => []
    | .ok _ w' => entitiesLog p ledgerPath rest w'

/-- **The migrations that a run writes**, however it ends. -/
def runLog (p : Project) (s : Schema) (w : Workspace) : List Entry :=
  match Ledger.load w.disk p.ledgerPath with
  | .error _ => []
  | .ok l => entitiesLog p p.ledgerPath s.entities { w with ledger := l }

variable {p : Project} {ledgerPath : Path} {e : Entity} {w w' w₁ w₂ : Workspace} {log : List Entry} {x : Entry}
  {a : Artifact}

/-- **If the files among the migrations are those of a log, they stay so** when a migration is recorded and logged. -/
theorem Recorded.only_append {kind : ArtifactKind} {pending : List ColumnDefinition} {template name : String}
    (h : Recorded p e kind pending template name w w₁) (hname : Disk.IsName name) (hx : x.name = name)
    (honly : ∀ other, w.disk.file? (p.directory.location w.disk.base ++ [other]) ≠ none → ∃ y ∈ log, y.name = other)
    {other : String} (hfile : w₁.disk.file? (p.directory.location w₁.disk.base ++ [other]) ≠ none) :
    ∃ y ∈ log ++ [x], y.name = other := by
  by_cases hother : other = name
  · exact ⟨x, by simp, by rw [hx, hother]⟩
  · have helsewhere : p.directory.location w.disk.base ++ [other] ≠
        (p.directory.join ⟨name⟩).location w.disk.base := by
      intro heq
      rw [Path.location_join hname] at heq
      exact hother (List.singleton_inj.1 (List.append_cancel_left heq))
    rw [h.placed.base, Disk.file?_elsewhere h.placed.elsewhere helsewhere] at hfile
    obtain ⟨y, hy, hyn⟩ := honly other hfile
    exact ⟨y, List.mem_append_left _ hy, hyn⟩

/-! ## What an entity does to the workspace -/

/-- **What may follow a migration**: the ledger is saved and the classes of the entity are written, and the ledger in
memory stays. -/
structure Follows (p : Project) (ledgerPath : Path) (e : Entity) (w w' : Workspace) : Prop where
  grows : Grows (ledgerPath.location w.disk.base) w.disk w'.disk
  ledger : w'.ledger = w.ledger
  elsewhere : ∀ l, l ≠ ledgerPath.location w.disk.base → l ≠ (modelPath p e).location w.disk.base →
    l ≠ (resourcePath p e).location w.disk.base → w'.disk.file? l = w.disk.file? l

theorem Follows.trans (h : Follows p ledgerPath e w w₁) (h' : Follows p ledgerPath e w₁ w₂) :
    Follows p ledgerPath e w w₂ := by
  have hgrows := h'.grows
  have helsewhere := h'.elsewhere
  rw [h.grows.base] at hgrows helsewhere
  refine ⟨h.grows.trans hgrows, h'.ledger.trans h.ledger, fun l hledger hmodel hresource => ?_⟩
  rw [helsewhere l hledger hmodel hresource, h.elsewhere l hledger hmodel hresource]

theorem follows_of_adds {d : Disk} (h : AddsDirectories w.disk d) : Follows p ledgerPath e w { w with disk := d } :=
  ⟨h.grows _, rfl, fun l _ _ _ => h.file? l⟩

theorem follows_of_saved {content : ByteArray} {d : Disk} (h : Replaced ledgerPath content w.disk d) :
    Follows p ledgerPath e w { w with disk := d } :=
  ⟨h.grows, rfl, fun _ hl _ _ => Disk.file?_elsewhere h.elsewhere hl⟩

theorem follows_of_classed {kind : ArtifactKind} {path : Path} {r : EStateM.Result Error Workspace Artifact}
    (h : Classed e kind path w r) (hpath : path = modelPath p e ∨ path = resourcePath p e) :
    Follows p ledgerPath e w (endState r) := by
  cases h with
  | stopped err d hadds => exact follows_of_adds hadds
  | skipped d hadds _ => exact follows_of_adds hadds
  | written content d hplaced =>
    refine ⟨hplaced.grows _, rfl, fun l _ hmodel hresource => Disk.file?_elsewhere hplaced.elsewhere ?_⟩
    rcases hpath with rfl | rfl
    · exact hmodel
    · exact hresource

/-- **What an entity has added to the log when it ends, and what it has done to the workspace.** -/
inductive Logged (p : Project) (ledgerPath : Path) (e : Entity) (w : Workspace) : List Entry → Workspace → Prop where
  | nothing {w' : Workspace} : AddsDirectories w.disk w'.disk → w'.ledger = w.ledger → Logged p ledgerPath e w [] w'
  | one {kind : ArtifactKind} {pending : List ColumnDefinition} {template name : String} {w₁ w' : Workspace} :
      Recorded p e kind pending template name w w₁ → Follows p ledgerPath e w₁ w' →
      Logged p ledgerPath e w [⟨e, kind, name, pending⟩] w'

theorem Logged.follows (h : Logged p ledgerPath e w [x] w₁) (hf : Follows p ledgerPath e w₁ w') :
    Logged p ledgerPath e w [x] w' := by
  cases h with
  | one hrec hbefore => exact .one hrec (hbefore.trans hf)

theorem logged_migration (p : Project) (ledgerPath : Path) (e : Entity) (w : Workspace) :
    Logged p ledgerPath e w (migrationLog p e w) (endState (migration p ledgerPath e w)) := by
  unfold migrationLog
  rw [migration_eq]
  cases hs : settle p e w with
  | error err => exact .nothing (.refl _) rfl
  | ok decided =>
    obtain ⟨kind, pending, template⟩ := decided
    dsimp only
    rcases enact_cases ledgerPath hs with ⟨name, _, w₁, hp, hrec, henact⟩ | ⟨err, d, c, hp, hadds, henact⟩
    · rw [hp, henact]
      refine .one hrec ?_
      rcases save_cases w₁.ledger ledgerPath w₁.disk with ⟨d', hsave, hrep⟩ | ⟨f, d', hsave, hadds⟩
      · rw [bind_of_ok (onDisk_of_ok hsave)]
        exact follows_of_saved hrep
      · rw [bind_of_error (onDisk_of_error hsave)]
        exact follows_of_adds hadds
    · rw [hp, henact]
      exact .nothing hadds rfl

/-- **A migration that goes through is in the log**, as it is reported. -/
theorem migrationLog_of_ok (h : migration p ledgerPath e w = .ok a w') :
    ∃ x, migrationLog p e w = [x] ∧ x.entity = e ∧ x.artifact p = a := by
  rw [migration_eq] at h
  unfold migrationLog
  cases hs : settle p e w with
  | error err =>
    rw [hs] at h
    cases h
  | ok decided =>
    obtain ⟨kind, pending, template⟩ := decided
    rw [hs] at h
    dsimp only at h ⊢
    rcases enact_cases ledgerPath hs with ⟨name, _, w₁, hp, -, henact⟩ | ⟨err, d, c, -, -, henact⟩
    · rw [henact] at h
      obtain ⟨-, w₂, -, hreport⟩ := bind_ok.1 h
      cases hreport
      rw [hp]
      exact ⟨⟨e, kind, name, pending⟩, rfl, rfl, rfl⟩
    · rw [henact] at h
      cases h

/-- **However an entity ends, the log has what it has written.** -/
theorem logged (p : Project) (ledgerPath : Path) (e : Entity) (w : Workspace) :
    Logged p ledgerPath e w (entityLog p e w) (endState (entity p ledgerPath e w)) := by
  unfold entityLog entity
  cases e.problems with
  | cons problem rest => exact .nothing (.refl _) rfl
  | nil =>
    dsimp only
    have hlog := logged_migration p ledgerPath e w
    cases hm : migration p ledgerPath e w with
    | error err w' =>
      rw [hm] at hlog
      rw [bind_of_error hm]
      exact hlog
    | ok a w₁ =>
      obtain ⟨x, hx, -, -⟩ := migrationLog_of_ok hm
      rw [hm, hx] at hlog
      rw [bind_of_ok hm, hx]
      refine hlog.follows ?_
      have hmodel : Follows p ledgerPath e w₁ (endState (model p e w₁)) :=
        follows_of_classed (classed_model p e w₁) (.inl rfl)
      cases hc : model p e w₁ with
      | error err w' =>
        rw [hc] at hmodel
        rw [bind_of_error hc]
        exact hmodel
      | ok m w₂ =>
        rw [hc] at hmodel
        rw [bind_of_ok hc, endState_bind_pure]
        exact hmodel.trans (follows_of_classed (classed_resource p e w₂) (.inr rfl))

/-! ## Runs -/

/-- **An invariant of log and workspace that every entity keeps, entities keep**, however they end. -/
theorem entitiesLog_invariant {I : List Entry → Workspace → Prop} {es : List Entity}
    (hstep : ∀ e ∈ es, ∀ log w, I log w → I (log ++ entityLog p e w) (endState (entity p ledgerPath e w)))
    (h : I log w) : I (log ++ entitiesLog p ledgerPath es w) (endState (entities p ledgerPath es w)) := by
  induction es generalizing log w with
  | nil =>
    show I (log ++ []) w
    rw [List.append_nil]
    exact h
  | cons e rest ih =>
    have hhere := hstep e List.mem_cons_self log w h
    rw [entitiesLog, entities]
    cases he : entity p ledgerPath e w with
    | error err w' =>
      rw [he] at hhere
      rw [bind_of_error he, List.append_nil]
      exact hhere
    | ok here w₁ =>
      rw [he] at hhere
      have hrest := ih (fun f hf => hstep f (List.mem_cons_of_mem _ hf)) hhere
      rw [List.append_assoc] at hrest
      rw [bind_of_ok he, endState_bind_pure]
      exact hrest

/-- **An invariant of log and workspace that every entity keeps, a run keeps from the moment its ledger is loaded.** -/
theorem runLog_invariant (I : List Entry → Workspace → Prop) (log : List Entry) (s : Schema) (w : Workspace)
    (hstep : ∀ e ∈ s.entities, ∀ log w, I log w → I (log ++ entityLog p e w) (endState (entity p p.ledgerPath e w)))
    (hstart : ∀ l, Ledger.load w.disk p.ledgerPath = .ok l → I log { w with ledger := l }) :
    (runLog p s w = [] ∧ ∃ err, run p s w = .error err w) ∨ I (log ++ runLog p s w) (endState (run p s w)) := by
  unfold runLog
  rw [run_eq, show p.layout.ledgerIn p.root = p.ledgerPath from rfl]
  cases hl : Ledger.load w.disk p.ledgerPath with
  | error err => exact .inl ⟨rfl, err, rfl⟩
  | ok l =>
    refine .inr ?_
    dsimp only
    rw [endState_bind_pure]
    exact entitiesLog_invariant hstep (hstart l hl)

/-- **What holds of log and workspace whatever an entity does, entities keep**, however they end. -/
theorem entitiesLog_keeps {I : List Entry → Workspace → Prop} {es : List Entity}
    (hstep : ∀ e ∈ es, ∀ log w new w', I log w → Logged p ledgerPath e w new w' → I (log ++ new) w') (h : I log w) :
    I (log ++ entitiesLog p ledgerPath es w) (endState (entities p ledgerPath es w)) :=
  entitiesLog_invariant (fun e he log w hI => hstep e he log w _ _ hI (logged p ledgerPath e w)) h

/-- **What holds of log and workspace whatever an entity does, a run keeps from the moment its ledger is loaded.** -/
theorem runLog_keeps (I : List Entry → Workspace → Prop) (log : List Entry) (s : Schema) (w : Workspace)
    (hstep : ∀ e ∈ s.entities, ∀ log w new w', I log w → Logged p p.ledgerPath e w new w' → I (log ++ new) w')
    (hstart : ∀ l, Ledger.load w.disk p.ledgerPath = .ok l → I log { w with ledger := l }) :
    (runLog p s w = [] ∧ ∃ err, run p s w = .error err w) ∨ I (log ++ runLog p s w) (endState (run p s w)) :=
  runLog_invariant I log s w (fun e he log w hI => hstep e he log w _ _ hI (logged p p.ledgerPath e w)) hstart

/-! ## What the log tells -/

namespace Logged

theorem grows (h : Logged p ledgerPath e w log w') : Grows (ledgerPath.location w.disk.base) w.disk w'.disk := by
  cases h with
  | nothing hadds _ => exact hadds.grows _
  | one hrec hfollows =>
    have hlater := hfollows.grows
    rw [hrec.placed.base] at hlater
    exact (grows_of_recorded hrec _).trans hlater

theorem file_cases (h : Logged p ledgerPath e w log w') {l : Location} (hl : w'.disk.file? l ≠ none) :
    w.disk.file? l ≠ none ∨ (∃ x ∈ log, (x.artifact p).location w.disk.base = l) ∨
      l = ledgerPath.location w.disk.base ∨ l = (modelPath p e).location w.disk.base ∨
      l = (resourcePath p e).location w.disk.base := by
  cases h with
  | nothing hadds _ =>
    rw [hadds.file?] at hl
    exact .inl hl
  | @one kind pending template name w₁ _ hrec hfollows =>
    have helsewhere := hfollows.elsewhere l
    rw [hrec.placed.base] at helsewhere
    by_cases hclass : l = ledgerPath.location w.disk.base ∨ l = (modelPath p e).location w.disk.base ∨
        l = (resourcePath p e).location w.disk.base
    · exact .inr (.inr hclass)
    · simp only [not_or] at hclass
      rw [helsewhere hclass.1 hclass.2.1 hclass.2.2] at hl
      rcases (Disk.file?_ne_none_iff hrec.placed.there hrec.placed.elsewhere l).1 hl with hold | hnew
      · exact .inl hold
      · exact .inr (.inl ⟨⟨e, kind, name, pending⟩, List.mem_singleton_self _, hnew.symm⟩)

theorem isFile (h : Logged p ledgerPath e w log w') (hx : x ∈ log) :
    w.disk.at? ((x.artifact p).location w.disk.base) = none ∧ w'.disk.isFile (x.artifact p).path = true := by
  cases h with
  | nothing _ _ => cases hx
  | one hrec hfollows =>
    cases List.mem_singleton.1 hx
    exact ⟨hrec.placed.free, hfollows.grows.isFile (Disk.isFile_iff.2 ⟨_, hrec.placed.look⟩)⟩

end Logged

/-- **A log tells what was written between two disks**: its migrations took places where nothing stood and are files
now, and any other new file is the ledger or a class. -/
structure Told (p : Project) (es : List Entity) (d : Disk) (log : List Entry) (d' : Disk) : Prop where
  grows : Grows (p.ledgerLocation d.base) d d'
  placed : ∀ x ∈ log, d.at? ((x.artifact p).location d.base) = none ∧ d'.isFile (x.artifact p).path = true
  files : ∀ l, d.file? l = none → d'.file? l ≠ none → (∃ x ∈ log, (x.artifact p).location d.base = l) ∨
    l = p.ledgerLocation d.base ∨
    ∃ e ∈ es, l = (modelPath p e).location d.base ∨ l = (resourcePath p e).location d.base

theorem Told.start (p : Project) (es : List Entity) (d : Disk) : Told p es d [] d :=
  ⟨.refl _ _, fun _ hx => (by cases hx), fun _ hfree hl => absurd hfree hl⟩

theorem Told.logged {es : List Entity} {d : Disk} {new : List Entry} (h : Told p es d log w.disk) (he : e ∈ es)
    (hnew : Logged p p.ledgerPath e w new w') : Told p es d (log ++ new) w'.disk := by
  have hgrows := hnew.grows
  have hcases := @hnew.file_cases
  have hplaced := @hnew.isFile
  rw [h.grows.base] at hgrows hcases hplaced
  refine ⟨h.grows.trans hgrows, fun x hx => ?_, fun l hfree hl => ?_⟩
  · rcases List.mem_append.1 hx with hx | hx
    · obtain ⟨hfree, hfile⟩ := h.placed x hx
      exact ⟨hfree, hgrows.isFile hfile⟩
    · obtain ⟨hfree, hfile⟩ := hplaced x hx
      exact ⟨h.grows.at?_none hfree, hfile⟩
  · rcases hcases hl with hold | ⟨x, hx, hloc⟩ | hledger | hclass
    · rcases h.files l hfree hold with ⟨x, hx, hloc⟩ | hother
      · exact .inl ⟨x, List.mem_append_left _ hx, hloc⟩
      · exact .inr hother
    · exact .inl ⟨x, List.mem_append_right _ hx, hloc⟩
    · exact .inr (.inl hledger)
    · exact .inr (.inr ⟨e, he, hclass⟩)

/-- **The log of a run tells what the run has written**, however it ends. -/
theorem told_of_run (p : Project) (s : Schema) (w : Workspace) :
    Told p s.entities w.disk (runLog p s w) (endState (run p s w)).disk := by
  have hrun := runLog_keeps (fun log w' => Told p s.entities w.disk log w'.disk) [] s w
    (fun e he log w₁ new w₂ h hnew => h.logged he hnew) (fun l _ => .start p s.entities w.disk)
  rcases hrun with ⟨hnone, err, herr⟩ | hend
  · rw [hnone, herr]
    exact .start p s.entities w.disk
  · exact hend

theorem entityLog_of_ok {artifacts : List Artifact} (h : entity p ledgerPath e w = .ok artifacts w') :
    ∃ x, entityLog p e w = [x] ∧ x.entity = e ∧ artifacts.filter (·.kind.isMigration) = [x.artifact p] := by
  obtain ⟨hproblems, a, w₁, m, w₂, r, hmig, hmod, hres, rfl⟩ := entity_ok.1 h
  obtain ⟨x, hx, hentity, hartifact⟩ := migrationLog_of_ok hmig
  refine ⟨x, ?_, hentity, ?_⟩
  · unfold entityLog
    rw [hproblems]
    exact hx
  · rw [hartifact]
    exact filter_migrations (Migrated.of_eq hmig).isMigration (Classed.of_model hmod).kind_of_ok
      (Classed.of_resource hres).kind_of_ok

theorem entitiesLog_of_ok {es : List Entity} {artifacts : List Artifact}
    (h : entities p ledgerPath es w = .ok artifacts w') : (entitiesLog p ledgerPath es w).map (·.entity) = es ∧
      (entitiesLog p ledgerPath es w).map (Entry.artifact p) = artifacts.filter (·.kind.isMigration) := by
  induction es generalizing w artifacts with
  | nil =>
    cases h
    exact ⟨rfl, rfl⟩
  | cons e rest ih =>
    obtain ⟨here, w₁, after, he, ha, rfl⟩ := entities_cons_ok.1 h
    obtain ⟨x, hx, hentity, hartifact⟩ := entityLog_of_ok he
    obtain ⟨hentities, hartifacts⟩ := ih ha
    rw [entitiesLog, hx, he, List.singleton_append, List.map_cons, List.map_cons, hentities, hartifacts, hentity,
      List.filter_append, hartifact]
    exact ⟨rfl, rfl⟩

/-- **The log of a run that goes through has a migration for every entity**, and the report tells of them all. -/
theorem runLog_of_ok {s : Schema} {report : Report} (h : run p s w = .ok report w') :
    (runLog p s w).map (·.entity) = s.entities ∧ (runLog p s w).map (Entry.artifact p) = report.migrations := by
  obtain ⟨l, hload, hrun⟩ := run_ok.1 h
  unfold runLog
  rw [show Ledger.load w.disk p.ledgerPath = .ok l from hload]
  exact entitiesLog_of_ok hrun

end Scaffold.Generation
