import Scaffold.Proofs.Generation.Creation
import Scaffold.Proofs.Generation.Split
import Scaffold.Proofs.Schema.Problems
/-!
# Proofs.Generation.Problem — a run stops at the first problem of its schema

Once an entity has no problems, its files can only fail for other reasons: a file cannot be read or written, a column's
name is too long to be looked for, or the calendar ends (`external_entity`).  So a run over a schema without problems
raises no other error, and a run over any other does what a run over the entities before the first problem does, and
raises that problem (`stops_at_first_problem`).
-/
namespace Scaffold

open Disk (Path)

/-- An error whose cause is no problem of an entity. -/
def Error.IsExternal : Error → Prop
  | .unreadable _ _ | .unwritable _ _ | .calendarEnd | .schema (.columnTooLong _ _) => True
  | _ => False

theorem Error.IsExternal.isValidation {err : Error} (h : err.IsExternal) : err.isValidation = false := by
  cases err <;> first | rfl | cases h

/-- A question that only external errors leave without an answer. -/
def External {α : Type} (x : Except Error α) : Prop := ∀ err, x = .error err → err.IsExternal

namespace External

variable {α β : Type}

theorem ok (a : α) : External (.ok a) := fun _ h => by cases h

theorem error {err : Error} (h : err.IsExternal) : External (.error err : Except Error α) := fun _ h' => by
  cases h'
  exact h

theorem bind {x : Except Error α} {f : α → Except Error β} (hx : External x) (hf : ∀ a, External (f a)) :
    External (x >>= f) := by
  intro err h
  cases hr : x with
  | error err' =>
    rw [hr] at h
    cases h
    exact hx err hr
  | ok a =>
    rw [hr] at h
    exact hf a err h

theorem mapError {ε : Type} {x : Except ε α} {g : ε → Error} (hg : ∀ e, (g e).IsExternal) :
    External (x.mapError g) := by
  cases x with
  | ok a => exact .ok a
  | error e => exact .error (hg e)

end External

/-! ## Questions -/

theorem Migration.external_namesIn (d : Disk) (directory : Path) : External (namesIn d directory) := by
  unfold namesIn
  split
  · exact .ok _
  · exact .ok _
  · exact .error trivial

theorem Migration.external_tableExists (d : Disk) (directory : Path) (table : String) :
    External (tableExists d directory table) :=
  (external_namesIn d directory).bind fun _ => .ok _

theorem Migration.external_anyDefines (d : Disk) (directory : Path) (column : String) (names : List String) :
    External (anyDefines d directory column names) := by
  induction names with
  | nil => exact .ok _
  | cons name rest ih =>
    cases hr : d.readText (directory.join ⟨name⟩) with
    | error f =>
      rw [anyDefines_of_error hr]
      exact .error trivial
    | ok text =>
      rw [anyDefines_of_ok hr]
      split
      · exact .ok _
      · exact ih

theorem Migration.external_columnExists (d : Disk) (directory : Path) (table column : String) :
    External (columnExists d directory table column) := by
  cases hs : isSearchable column with
  | true =>
    rw [columnExists_of_searchable hs]
    exact (external_namesIn d directory).bind fun _ => external_anyDefines d directory column _
  | false =>
    rw [columnExists_of_not_searchable hs]
    exact .error trivial

namespace Ledger

variable (l : Ledger) (d : Disk) (directory : Path) (table : String)

theorem external_load (p : Path) : External (load d p) := by
  unfold load
  split
  · exact .ok _
  · exact .error trivial
  · exact .mapError fun _ => trivial

theorem external_liveRecord : External (l.liveRecord d directory table) := by
  unfold liveRecord
  split
  · exact .ok _
  · exact (Migration.external_namesIn d directory).bind fun _ => .ok _

theorem external_tableExists : External (l.tableExists d directory table) := by
  refine (l.external_liveRecord d directory table).bind fun found => ?_
  cases found with
  | some record => exact .ok _
  | none => exact Migration.external_tableExists d directory table

theorem external_columnExists (column : String) : External (l.columnExists d directory table column) := by
  refine (l.external_liveRecord d directory table).bind fun found => ?_
  split
  · exact .ok _
  · exact Migration.external_columnExists d directory table column

theorem external_missingColumns {α : Type} (nameOf : α → String) (columns : List α) :
    External (l.missingColumns d directory table nameOf columns) := by
  induction columns with
  | nil => exact .ok _
  | cons column rest ih =>
    exact (l.external_columnExists d directory table (nameOf column)).bind fun _ => ih.bind fun _ => .ok _

end Ledger

theorem Template.external_load (d : Disk) (stubs : Option Path) (kind : ArtifactKind) :
    External (load d stubs kind) := by
  unfold load
  split
  · exact .ok _
  · dsimp only
    split
    · exact .mapError fun _ => trivial
    · exact .ok _

namespace Generation

variable {p : Project} {ledgerPath : Path} {e : Entity}

theorem external_plan (p : Project) (table : String) (columns : List Migration.ColumnDefinition) (w : Workspace) :
    External (plan p table columns w) := by
  refine (w.ledger.external_tableExists w.disk _ table).bind fun known => ?_
  cases known with
  | true => exact (w.ledger.external_missingColumns w.disk _ table _ columns).bind fun _ => .ok _
  | false => exact .ok _

/-! ## Steps -/

/-- An action that raises no error but external ones. -/
def RaisesExternal {α : Type} (act : Generation α) : Prop :=
  ∀ w err w', act w = .error err w' → err.IsExternal

namespace RaisesExternal

variable {α β : Type}

theorem pure (a : α) : RaisesExternal (Pure.pure a : Generation α) := fun _ _ _ h => by cases h

theorem bind {act : Generation α} {next : α → Generation β} (h : RaisesExternal act)
    (hn : ∀ a, RaisesExternal (next a)) : RaisesExternal (act >>= next) := by
  intro w err w' herr
  cases ha : act w with
  | error err' w₁ =>
    rw [bind_of_error ha] at herr
    cases herr
    exact h w err w' ha
  | ok a w₁ =>
    rw [bind_of_ok ha] at herr
    exact hn a w₁ err w' herr

theorem ask {question : Workspace → Except Error α} (h : ∀ w, External (question w)) :
    RaisesExternal (Generation.ask question) := by
  intro w err w' herr
  cases hq : question w with
  | ok a =>
    rw [ask_of_ok hq] at herr
    cases herr
  | error err' =>
    rw [ask_of_error hq] at herr
    cases herr
    exact h w err hq

theorem onDisk (path : Path) (action : Disk.Action α) : RaisesExternal (Generation.onDisk path action) := by
  intro w err w' herr
  cases ha : action w.disk with
  | ok a d =>
    rw [onDisk_of_ok ha] at herr
    cases herr
  | error f d =>
    rw [onDisk_of_error ha] at herr
    cases herr
    trivial

theorem nextStamp : RaisesExternal Generation.nextStamp := by
  intro w err w' herr
  unfold Generation.nextStamp at herr
  split at herr
  · cases herr
  · cases herr
    trivial

end RaisesExternal

theorem external_placeMigration (directory : Path) (kind : ArtifactKind) (table extension content : String)
    (tries : Nat) : RaisesExternal (placeMigration directory kind table extension content tries) := by
  induction tries with
  | zero =>
    intro w err w' herr
    cases herr
    trivial
  | succ tries ih =>
    refine RaisesExternal.nextStamp.bind fun stamp => (RaisesExternal.onDisk _ _).bind fun outcome => ?_
    cases outcome with
    | written => exact .pure _
    | skipped => exact ih
    | collision => exact ih

/-- **The migration of an entity without problems fails for external reasons only.** -/
theorem external_migration (h : e.problems = []) : RaisesExternal (migration p ledgerPath e) := by
  obtain ⟨columns, hcolumns⟩ := Entity.exists_resolved h
  have hresolved : External ((e.requiredColumns >>= Migration.resolve).mapError Error.problem) := by
    rw [hcolumns]
    exact .ok columns
  -- Only the first of the questions asks what could be wrong with the entity.
  have hsettle : ∀ w, External (settle p e w) := fun w =>
    hresolved.bind fun columns => (external_plan p _ columns w).bind fun decided =>
      (Template.external_load w.disk _ decided.1).bind fun _ => .ok _
  have hrecord : RaisesExternal (recordWith p.tools p e) := by
    refine (RaisesExternal.ask hsettle).bind fun settled => ?_
    refine (external_placeMigration _ _ _ _ _ _).bind fun placed => ?_
    exact RaisesExternal.bind (fun _ _ _ herr => by cases herr) fun _ => .pure _
  refine hrecord.bind fun artifact => ?_
  refine RaisesExternal.bind (fun _ _ _ herr => by cases herr) fun w => ?_
  exact (RaisesExternal.onDisk _ _).bind fun _ => .pure _

theorem external_classWith {text : Workspace → Except Error String} (h : ∀ w, External (text w))
    (kind : ArtifactKind) (e : Entity) (path : Path) : RaisesExternal (classWith .never kind text e path) :=
  (RaisesExternal.ask h).bind fun _ => (RaisesExternal.onDisk _ _).bind fun _ => .pure _

theorem external_model (h : e.problems = []) : RaisesExternal (model p e) := by
  obtain ⟨methods, hmethods⟩ := Entity.exists_methods h
  obtain ⟨fillable, hfillable⟩ := Entity.exists_fillable h
  have hparts : modelParts e = .ok (fillable, Model.hidden e.columns.entries, methods) :=
    except_bind_ok.2 ⟨_, Entity.requiredColumns_of_problems h, except_bind_ok.2 ⟨methods, hmethods,
      except_bind_ok.2 ⟨fillable, hfillable, rfl⟩⟩⟩
  have hexternal : External ((modelParts e).mapError Error.problem) := by
    rw [hparts]
    exact .ok _
  exact external_classWith
    (fun w => hexternal.bind fun _ => (Template.external_load w.disk _ .model).bind fun _ => .ok _) _ _ _

theorem external_resource (p : Project) (e : Entity) : RaisesExternal (resource p e) :=
  external_classWith (fun w => (Template.external_load w.disk _ .resource).bind fun _ => .ok _) _ _ _

theorem external_entity (h : e.problems = []) : RaisesExternal (entity p ledgerPath e) := by
  unfold entity
  rw [h]
  exact (external_migration h).bind fun _ => (external_model h).bind fun _ =>
    (external_resource p e).bind fun _ => .pure _

theorem external_entities {es : List Entity} (h : ∀ e ∈ es, e.problems = []) :
    RaisesExternal (entities p ledgerPath es) := by
  induction es with
  | nil => exact .pure _
  | cons e rest ih =>
    exact (external_entity (h e List.mem_cons_self)).bind fun _ =>
      (ih fun f hf => h f (List.mem_cons_of_mem _ hf)).bind fun _ => .pure _

/-! ## Runs -/

/-- **A run over a schema without problems fails for external reasons only.** -/
theorem external_run {s : Schema} (h : s.problems = []) : RaisesExternal (run p s) := by
  have hload : RaisesExternal (loadLedger p.ledgerPath) :=
    (RaisesExternal.ask fun w => Ledger.external_load w.disk _).bind fun _ => fun _ _ _ herr => by cases herr
  exact hload.bind fun _ => (external_entities (List.flatMap_eq_nil_iff.1 h)).bind fun _ => .pure _

theorem entity_of_problem {problem : Problem} {others : List Problem} (h : e.problems = problem :: others)
    (w : Workspace) : entity p ledgerPath e w = .error (.problem problem) w := by
  unfold entity
  rw [h]
  rfl

/-- **Entities up to the first with a problem are handled as if they were all.** -/
theorem entities_of_problem {es fs : List Entity} {problem : Problem} {others : List Problem}
    (h : e.problems = problem :: others) (w : Workspace) :
    entities p ledgerPath (es ++ e :: fs) w = match entities p ledgerPath es w with
      | .ok _ w' => .error (.problem problem) w'
      | .error err w' => .error err w' := by
  rw [entities_append]
  cases he : entities p ledgerPath es w with
  | error err w' => rw [bind_of_error he]
  | ok artifacts w' =>
    have hrest : entities p ledgerPath (e :: fs) w' = .error (.problem problem) w' :=
      bind_of_error (entity_of_problem h w')
    rw [bind_of_ok he, bind_of_error hrest]

theorem entitiesLog_of_problem {es fs : List Entity} {problem : Problem} {others : List Problem}
    (h : e.problems = problem :: others) (w : Workspace) :
    entitiesLog p ledgerPath (es ++ e :: fs) w = entitiesLog p ledgerPath es w := by
  induction es generalizing w with
  | nil =>
    have hnone : entityLog p e w = [] := by
      unfold entityLog
      rw [h]
    rw [List.nil_append, entitiesLog.eq_def]
    dsimp only
    rw [hnone, entity_of_problem h w]
    rfl
  | cons f rest ih =>
    rw [List.cons_append, entitiesLog, entitiesLog]
    cases entity p ledgerPath f w with
    | error err w' => rfl
    | ok artifacts w' =>
      dsimp only
      rw [ih w']

/-- **A run fails on what its schema says exactly where the schema has a problem.**  Without problems, no error that it
raises is about the schema.  Otherwise let `e` be the first entity that has one.  The run ends as the run over the
entities before `e` does, in the same state and with the same migrations written, and so without anything written for
`e` or later; the error is the same if that run fails, and if not it is the first problem of `e`, which is the first of
the schema. -/
theorem stops_at_first_problem (p : Project) (s : Schema) (w : Workspace) :
    (s.problems = [] → ∀ err w', run p s w = .error err w' → err.isValidation = false) ∧
    ∀ es e fs problem others, s.entities = es ++ e :: fs → (∀ f ∈ es, f.problems = []) →
      e.problems = problem :: others →
      s.problems.head? = some problem ∧ runLog p s w = runLog p ⟨es⟩ w ∧
      run p s w = match run p ⟨es⟩ w with
        | .ok _ w' => .error (.problem problem) w'
        | .error err w' => .error err w' := by
  refine ⟨fun h err w' herr => (external_run h w err w' herr).isValidation, ?_⟩
  intro es e fs problem others hs hclean he
  obtain rfl : s = ⟨es ++ e :: fs⟩ := by rw [← hs]
  refine ⟨?_, ?_, ?_⟩
  · unfold Schema.problems
    rw [List.flatMap_append, List.flatMap_eq_nil_iff.2 hclean, List.nil_append, List.flatMap_cons, he]
    rfl
  · unfold runLog
    split
    · rfl
    · exact entitiesLog_of_problem he _
  · cases hl : Ledger.load w.disk p.ledgerPath with
    | error err =>
      rw [run_of_load_error hl, run_of_load_error hl]
    | ok l =>
      rw [run_of_load hl, run_of_load hl]
      have hall : entities p p.ledgerPath (es ++ e :: fs) { w with ledger := l } = _ :=
        entities_of_problem he { w with ledger := l }
      cases hes : Generation.entities p p.ledgerPath es { w with ledger := l } with
      | error err w' =>
        rw [hes] at hall
        rw [bind_of_error hall, bind_of_error hes]
      | ok artifacts w' =>
        rw [hes] at hall
        rw [bind_of_error hall, bind_of_ok hes]
        rfl

/-- An entity whose column has a type that there is none of. -/
def brokenEntity : Entity := { name := "B", columns := NameMap.empty.insert "x" { declaredType := some "uuid" } }

/-- Where only the ledger is at fault, the error is none of the schema's; and an entity that is broken stops a run
behind the entity before it. -/
theorem stops_at_first_problem_broken :
    (∃ err w', run unsavedProject smallSchema freshWorkspace = .error err w' ∧ err.isValidation = false) ∧
    ∃ report w', run smallProject smallSchema freshWorkspace = .ok report w' ∧
      run smallProject ⟨smallSchema.entities ++ brokenEntity :: smallSchema.entities⟩ freshWorkspace =
        .error (.problem (.columnType "x" "uuid")) w' := by
  constructor
  · have hfails := unsaved_breaksOff
    cases hrun : run unsavedProject smallSchema freshWorkspace with
    | ok report w' =>
      rw [hrun] at hfails
      cases hfails
    | error err w' =>
      have hclean : smallSchema.problems = [] := by decide
      exact ⟨err, w', rfl, (stops_at_first_problem unsavedProject smallSchema freshWorkspace).1 hclean err w' hrun⟩
  · have hclean : ∀ f ∈ smallSchema.entities, f.problems = [] := by decide
    have hbroken : brokenEntity.problems = [.columnType "x" "uuid"] := by decide
    obtain ⟨report, hfirst⟩ := exists_of_goesThrough small_goesThrough
    have hrun := ((stops_at_first_problem smallProject
      ⟨smallSchema.entities ++ brokenEntity :: smallSchema.entities⟩ freshWorkspace).2 smallSchema.entities brokenEntity
      smallSchema.entities _ _ rfl hclean hbroken).2.2
    have halone : run smallProject ⟨smallSchema.entities⟩ freshWorkspace = .ok report _ := hfirst
    rw [halone] at hrun
    exact ⟨report, _, hfirst, hrun⟩

end Generation

end Scaffold
