import Scaffold.Generation.Classes
import Scaffold.Generation.Migration
import Scaffold.Proofs.Disk.Writing
/-!
# Proofs.Generation.Step — everything that a step of a run can do

A step writes a migration or a class.  `Migrated` and `Classed` say of every way in which a step can end what it has
done to the workspace by then; what holds of runs is proved from these two and not from the steps themselves.
-/
namespace Scaffold.Generation

open Disk (Path AddsDirectories Placed Replaced)
open Calendar (Instant)

theorem ask_of_ok {α : Type} {question : Workspace → Except Error α} {w : Workspace} {a : α}
    (h : question w = .ok a) : ask question w = .ok a w := by
  unfold ask
  rw [h]

theorem ask_of_error {α : Type} {question : Workspace → Except Error α} {w : Workspace} {e : Error}
    (h : question w = .error e) : ask question w = .error e w := by
  unfold ask
  rw [h]

theorem get_apply (w : Workspace) : (get : Generation Workspace) w = .ok w w := rfl

theorem onDisk_of_ok {α : Type} {p : Path} {action : Disk.Action α} {w : Workspace} {a : α} {d : Disk}
    (h : action w.disk = .ok a d) : onDisk p action w = .ok a { w with disk := d } := by
  unfold onDisk
  rw [h]

theorem onDisk_of_error {α : Type} {p : Path} {action : Disk.Action α} {w : Workspace} {f : Disk.Fault} {d : Disk}
    (h : action w.disk = .error f d) : onDisk p action w = .error (.unwritable p (.disk f)) { w with disk := d } := by
  unfold onDisk
  rw [h]

/-! ## Migrations -/

/-- What is settled once the columns are resolved. -/
def settleFor (p : Project) (e : Entity) (w : Workspace) (columns : List Migration.ColumnDefinition) :
    Except Error (ArtifactKind × List Migration.ColumnDefinition × String) :=
  plan p e.tableName columns w >>= fun decided =>
    Template.load w.disk (p.layout.stubsIn p.root) decided.1 >>= fun template =>
      .ok (decided.1, decided.2, template)

theorem settle_eq (p : Project) (e : Entity) (w : Workspace) :
    settle p e w = ((e.requiredColumns >>= Migration.resolve).mapError .problem >>= settleFor p e w) := rfl

/-- What is done once that is decided. -/
def enact (p : Project) (ledgerPath : Path) (e : Entity) (kind : ArtifactKind)
    (pending : List Migration.ColumnDefinition) (template : String) : Generation Artifact := do
  let (path, name) ← placeMigration (p.layout.migrationsIn p.root) kind e.tableName p.layout.extension
    (migrationText template e.tableName pending) attempts
  modify fun w =>
    { w with ledger := recordMigration kind e.tableName name (pending.map (·.name)) w.ledger }
  onDisk ledgerPath ((← get).ledger.save ledgerPath)
  return ⟨e.name, kind, path, .written⟩

/-- **Once a migration has found its place, it is recorded and the ledger is saved.** -/
theorem enact_of_placed {p : Project} {ledgerPath : Path} {e : Entity} {kind : ArtifactKind}
    {pending : List Migration.ColumnDefinition} {template : String} {path : Path} {name : String} {w w₀ : Workspace}
    (h : placeMigration (p.layout.migrationsIn p.root) kind e.tableName p.layout.extension
      (migrationText template e.tableName pending) attempts w = .ok (path, name) w₀) {w₁ : Workspace}
    (hw₁ : w₁ = { w₀ with ledger := recordMigration kind e.tableName name (pending.map (·.name)) w₀.ledger }) :
    enact p ledgerPath e kind pending template w =
      (onDisk ledgerPath (w₁.ledger.save ledgerPath) >>= fun _ => pure ⟨e.name, kind, path, .written⟩) w₁ := by
  unfold enact
  rw [bind_of_ok h]
  dsimp only
  rw [bind_of_ok (t := w₁) (a := ⟨⟩) (by rw [hw₁]; rfl), bind_of_ok (get_apply w₁)]

theorem enact_of_error {p : Project} {ledgerPath : Path} {e : Entity} {kind : ArtifactKind}
    {pending : List Migration.ColumnDefinition} {template : String} {err : Error} {w w₀ : Workspace}
    (h : placeMigration (p.layout.migrationsIn p.root) kind e.tableName p.layout.extension
      (migrationText template e.tableName pending) attempts w = .error err w₀) :
    enact p ledgerPath e kind pending template w = .error err w₀ := by
  unfold enact
  exact bind_of_error h

/-- **A migration is settled first and enacted after.** -/
theorem migration_eq (p : Project) (ledgerPath : Path) (e : Entity) (w : Workspace) :
    migration p ledgerPath e w = match settle p e w with
      | .error err => .error err w
      | .ok (kind, pending, template) => enact p ledgerPath e kind pending template w := by
  unfold migration migrationWith recordWith settle
  cases hs : settleWith p.tools e w with
  | error err => rw [bind_of_error (bind_of_error (ask_of_error hs))]
  | ok settled =>
    obtain ⟨kind, pending, template⟩ := settled
    rw [bind_assoc, bind_of_ok (ask_of_ok hs)]
    simp only [bind_assoc, pure_bind]
    rfl

theorem settle_ok {p : Project} {e : Entity} {w : Workspace} {kind : ArtifactKind}
    {pending : List Migration.ColumnDefinition} {template : String} :
    settle p e w = .ok (kind, pending, template) ↔
      ∃ columns, (e.requiredColumns >>= Migration.resolve).mapError Error.problem = .ok columns ∧
        plan p e.tableName columns w = .ok (kind, pending) ∧
        Template.load w.disk (p.layout.stubsIn p.root) kind = .ok template := by
  rw [settle_eq, except_bind_ok]
  refine exists_congr (fun columns => and_congr_right (fun _ => ?_))
  unfold settleFor
  constructor
  · intro h
    obtain ⟨decided, hp, h⟩ := except_bind_ok.1 h
    obtain ⟨text, ht, h⟩ := except_bind_ok.1 h
    cases h
    exact ⟨hp, ht⟩
  · rintro ⟨hp, ht⟩
    exact except_bind_ok.2 ⟨_, hp, except_bind_ok.2 ⟨_, ht, rfl⟩⟩

theorem entries_of_resolve {columns : List (String × Column)} {definitions : List Migration.ColumnDefinition}
    (h : Migration.resolve columns = .ok definitions) : definitions.map (fun d => (d.name, d.column)) = columns := by
  unfold Migration.resolve at h
  induction columns generalizing definitions with
  | nil =>
    cases h
    rfl
  | cons column rest ih =>
    rw [List.mapM_cons] at h
    obtain ⟨first, hfirst, h⟩ := except_bind_ok.1 h
    obtain ⟨others, hothers, h⟩ := except_bind_ok.1 h
    obtain ⟨kind, -, hfirst⟩ := except_bind_ok.1 hfirst
    cases h
    cases hfirst
    rw [List.map_cons, ih hothers]

theorem entries_of_columns {e : Entity} {columns : List Migration.ColumnDefinition}
    (h : (e.requiredColumns >>= Migration.resolve).mapError Error.problem = .ok columns) :
    columns.map (fun d => (d.name, d.column)) = e.columns.entries := by
  obtain ⟨required, hrequired, hresolve⟩ := except_bind_ok.1 (mapError_ok.1 h)
  unfold Entity.requiredColumns at hrequired
  split at hrequired
  · cases hrequired
  · cases hrequired
    exact entries_of_resolve hresolve

theorem names_of_columns {e : Entity} {columns : List Migration.ColumnDefinition}
    (h : (e.requiredColumns >>= Migration.resolve).mapError Error.problem = .ok columns) :
    columns.map (·.name) = e.columns.entries.map (·.1) := by
  rw [← entries_of_columns h, List.map_map]
  rfl

theorem isMigration_of_plan {p : Project} {table : String} {columns pending : List Migration.ColumnDefinition}
    {kind : ArtifactKind} {w : Workspace} (h : plan p table columns w = .ok (kind, pending)) :
    kind.isMigration = true := by
  unfold plan planIn at h
  obtain ⟨known, -, h⟩ := except_bind_ok.1 h
  cases known with
  | true =>
    obtain ⟨missing, -, h⟩ := except_bind_ok.1 h
    cases h
    rfl
  | false =>
    cases h
    rfl

section Tries

variable {directory : Path} {kind : ArtifactKind} {table extension content : String} {tries : Nat} {w : Workspace}

theorem nextStamp_of_some {i : Instant} {c : Clock} (h : w.clock.next = some (i, c)) :
    nextStamp w = .ok (Calendar.stamp i) { w with clock := c } := by
  unfold nextStamp
  rw [h]

theorem nextStamp_of_none (h : w.clock.next = none) : nextStamp w = .error .calendarEnd w := by
  unfold nextStamp
  rw [h]

theorem placeMigrationWith_of_none (device : Disk.Breaks) (h : w.clock.next = none) :
    placeMigrationWith device directory kind table extension content (tries + 1) w = .error .calendarEnd w := by
  rw [placeMigrationWith]
  exact bind_of_error (nextStamp_of_none h)

/-- A try asks the clock for an instant and writes the file that is named after it unless the name is taken. -/
theorem placeMigrationWith_of_some (device : Disk.Breaks) {i : Instant} {c : Clock}
    (h : w.clock.next = some (i, c)) :
    placeMigrationWith device directory kind table extension content (tries + 1) w =
      (onDisk (directory.join ⟨Migration.fileName kind (Calendar.stamp i) table extension⟩)
          (Disk.writeNewWith device (directory.join ⟨Migration.fileName kind (Calendar.stamp i) table extension⟩)
            content.toUTF8) >>=
        fun outcome => match outcome with
          | .written => return (directory.join ⟨Migration.fileName kind (Calendar.stamp i) table extension⟩,
              Migration.fileName kind (Calendar.stamp i) table extension)
          | _ => placeMigrationWith device directory kind table extension content tries) { w with clock := c } := by
  rw [placeMigrationWith]
  exact bind_of_ok (nextStamp_of_some h)

theorem placeMigration_of_none (h : w.clock.next = none) :
    placeMigration directory kind table extension content (tries + 1) w = .error .calendarEnd w :=
  placeMigrationWith_of_none .never h

theorem placeMigration_of_some {i : Instant} {c : Clock} (h : w.clock.next = some (i, c)) :
    placeMigration directory kind table extension content (tries + 1) w =
      (onDisk (directory.join ⟨Migration.fileName kind (Calendar.stamp i) table extension⟩)
          (Disk.writeNew (directory.join ⟨Migration.fileName kind (Calendar.stamp i) table extension⟩)
            content.toUTF8) >>=
        fun outcome => match outcome with
          | .written => return (directory.join ⟨Migration.fileName kind (Calendar.stamp i) table extension⟩,
              Migration.fileName kind (Calendar.stamp i) table extension)
          | _ => placeMigration directory kind table extension content tries) { w with clock := c } :=
  placeMigrationWith_of_some .never h

end Tries

/-- **A migration finds its place, or directories were made in vain, or the device breaks off the filling of its
file**; then that file is there and holds the part that was taken. -/
theorem placeMigrationWith_cases (device : Disk.Breaks) (directory : Path) (kind : ArtifactKind)
    (table extension content : String) (tries : Nat) (w : Workspace) :
    (∃ name d c, placeMigrationWith device directory kind table extension content tries w =
        .ok (directory.join ⟨name⟩, name) { w with disk := d, clock := c } ∧
      (∃ at_, name = Migration.fileName kind (Calendar.stamp at_) table extension) ∧
      Placed (directory.join ⟨name⟩) content.toUTF8 w.disk d) ∨
    (∃ err d c, placeMigrationWith device directory kind table extension content tries w =
        .error err { w with disk := d, clock := c } ∧ AddsDirectories w.disk d) ∨
    ∃ name broken d c, device ((directory.join ⟨name⟩).location w.disk.base) content.toUTF8 = some broken ∧
      placeMigrationWith device directory kind table extension content tries w =
        .error (.unwritable (directory.join ⟨name⟩) (.disk broken.fault)) { w with disk := d, clock := c } ∧
      Placed (directory.join ⟨name⟩) (content.toUTF8.extract 0 broken.taken) w.disk d := by
  induction tries generalizing w with
  | zero => exact .inr (.inl ⟨_, w.disk, w.clock, rfl, .refl _⟩)
  | succ tries ih =>
    cases hn : w.clock.next with
    | none => exact .inr (.inl ⟨.calendarEnd, w.disk, w.clock, placeMigrationWith_of_none device hn, .refl _⟩)
    | some ticked =>
      obtain ⟨at_, c⟩ := ticked
      rw [placeMigrationWith_of_some device hn]
      generalize hname : Migration.fileName kind (Calendar.stamp at_) table extension = name
      rcases Disk.writeNewWith_cases device (directory.join ⟨name⟩) content.toUTF8 w.disk with
        ⟨d, hw, hplaced⟩ | ⟨d, hw, hadds, -⟩ | ⟨f, d, hw, hadds⟩ | ⟨broken, d, hdevice, hw, hplaced⟩
      · rw [bind_of_ok (onDisk_of_ok (w := { w with clock := c }) hw)]
        exact .inl ⟨name, d, c, rfl, ⟨at_, hname.symm⟩, hplaced⟩
      · rw [bind_of_ok (onDisk_of_ok (w := { w with clock := c }) hw)]
        -- The name was taken, so all is as before but for directories, and the next one is tried.
        rcases ih { w with disk := d, clock := c } with
          ⟨name', d', c', hr, hn', hp⟩ | ⟨err, d', c', hr, hadds'⟩ | ⟨name', broken, d', c', hdevice, hr, hp⟩
        · exact .inl ⟨name', d', c', hr, hn', hp.of_addsDirectories hadds⟩
        · exact .inr (.inl ⟨err, d', c', hr, hadds.trans hadds'⟩)
        · rw [hadds.base] at hdevice
          exact .inr (.inr ⟨name', broken, d', c', hdevice, hr, hp.of_addsDirectories hadds⟩)
      · exact .inr (.inl ⟨_, d, c, bind_of_error (onDisk_of_error (w := { w with clock := c }) hw), hadds⟩)
      · exact .inr (.inr ⟨name, broken, d, c, hdevice,
          bind_of_error (onDisk_of_error (w := { w with clock := c }) hw), hplaced⟩)

/-- A migration finds its place, or directories were made in vain. -/
theorem placeMigration_cases (directory : Path) (kind : ArtifactKind) (table extension content : String)
    (tries : Nat) (w : Workspace) :
    (∃ name d c, placeMigration directory kind table extension content tries w =
        .ok (directory.join ⟨name⟩, name) { w with disk := d, clock := c } ∧
      (∃ at_, name = Migration.fileName kind (Calendar.stamp at_) table extension) ∧
      Placed (directory.join ⟨name⟩) content.toUTF8 w.disk d) ∨
    ∃ err d c, placeMigration directory kind table extension content tries w =
        .error err { w with disk := d, clock := c } ∧ AddsDirectories w.disk d := by
  rcases placeMigrationWith_cases .never directory kind table extension content tries w with
    hplaced | hstopped | ⟨name, broken, d, c, hnever, -⟩
  · exact .inl hplaced
  · exact .inr hstopped
  · cases hnever

/-- **A migration was placed and recorded**: what was settled, the name that was found, and the workspace before the
ledger is saved. -/
structure Recorded (p : Project) (e : Entity) (kind : ArtifactKind) (pending : List Migration.ColumnDefinition)
    (template name : String) (w w₁ : Workspace) : Prop where
  settled : settle p e w = .ok (kind, pending, template)
  named : ∃ at_, name = Migration.fileName kind (Calendar.stamp at_) e.tableName p.layout.extension
  placed : Placed ((p.layout.migrationsIn p.root).join ⟨name⟩) (migrationText template e.tableName pending).toUTF8
    w.disk w₁.disk
  ledger : w₁.ledger = recordMigration kind e.tableName name (pending.map (·.name)) w.ledger

theorem Recorded.isMigration {p : Project} {e : Entity} {kind : ArtifactKind} {pending : List Migration.ColumnDefinition}
    {template name : String} {w w₁ : Workspace} (h : Recorded p e kind pending template name w w₁) :
    kind.isMigration = true := by
  obtain ⟨columns, -, hplan, -⟩ := settle_ok.1 h.settled
  exact isMigration_of_plan hplan

theorem saveWith_cases (device : Disk.Breaks) (l : Ledger) (p : Path) (d : Disk) :
    (∃ d', l.saveWith device p d = .ok () d' ∧ Replaced p l.toText.toUTF8 d d') ∨
    (∃ f d', l.saveWith device p d = .error f d' ∧ AddsDirectories d d') ∨
    ∃ broken d', device (p.location d.base) l.toText.toUTF8 = some broken ∧
      l.saveWith device p d = .error broken.fault d' ∧ Replaced p (l.toText.toUTF8.extract 0 broken.taken) d d' :=
  Disk.provideParents_writeWith_cases device p l.toText.toUTF8 d

theorem save_cases (l : Ledger) (p : Path) (d : Disk) :
    (∃ d', l.save p d = .ok () d' ∧ Replaced p l.toText.toUTF8 d d') ∨
    ∃ f d', l.save p d = .error f d' ∧ AddsDirectories d d' :=
  Disk.provideParents_write_cases p l.toText.toUTF8 d

/-- **How the migration of an entity can end.** -/
inductive Migrated (p : Project) (ledgerPath : Path) (e : Entity) (w : Workspace) :
    EStateM.Result Error Workspace Artifact → Prop where
  | stopped (err : Error) (d : Disk) (c : Clock) : AddsDirectories w.disk d →
      Migrated p ledgerPath e w (.error err ⟨d, c, w.ledger⟩)
  | unsaved (kind : ArtifactKind) (pending : List Migration.ColumnDefinition) (template name : String)
      (w₁ : Workspace) (f : Disk.Fault) (d : Disk) :
      Recorded p e kind pending template name w w₁ → AddsDirectories w₁.disk d →
      Migrated p ledgerPath e w (.error (.unwritable ledgerPath (.disk f)) { w₁ with disk := d })
  | saved (kind : ArtifactKind) (pending : List Migration.ColumnDefinition) (template name : String)
      (w₁ : Workspace) (d : Disk) :
      Recorded p e kind pending template name w w₁ → Replaced ledgerPath w₁.ledger.toText.toUTF8 w₁.disk d →
      Migrated p ledgerPath e w
        (.ok ⟨e.name, kind, (p.layout.migrationsIn p.root).join ⟨name⟩, .written⟩ { w₁ with disk := d })

/-- **What is settled is placed and recorded, so that the ledger is left to save, or it finds no place.** -/
theorem enact_cases {p : Project} {e : Entity} {w : Workspace} {kind : ArtifactKind}
    {pending : List Migration.ColumnDefinition} {template : String} (ledgerPath : Path)
    (hs : settle p e w = .ok (kind, pending, template)) :
    (∃ name w₀ w₁, placeMigration (p.layout.migrationsIn p.root) kind e.tableName p.layout.extension
        (migrationText template e.tableName pending) attempts w =
          .ok ((p.layout.migrationsIn p.root).join ⟨name⟩, name) w₀ ∧
      Recorded p e kind pending template name w w₁ ∧
      enact p ledgerPath e kind pending template w = (onDisk ledgerPath (w₁.ledger.save ledgerPath) >>= fun _ =>
        pure ⟨e.name, kind, (p.layout.migrationsIn p.root).join ⟨name⟩, .written⟩) w₁) ∨
    ∃ err d c, placeMigration (p.layout.migrationsIn p.root) kind e.tableName p.layout.extension
        (migrationText template e.tableName pending) attempts w = .error err ⟨d, c, w.ledger⟩ ∧
      AddsDirectories w.disk d ∧ enact p ledgerPath e kind pending template w = .error err ⟨d, c, w.ledger⟩ := by
  rcases placeMigration_cases (p.layout.migrationsIn p.root) kind e.tableName p.layout.extension
      (migrationText template e.tableName pending) attempts w with
    ⟨name, d, c, hp, hnamed, hplaced⟩ | ⟨err, d, c, hp, hadds⟩
  · exact .inl ⟨name, _, _, hp, ⟨hs, hnamed, hplaced, rfl⟩, enact_of_placed hp rfl⟩
  · exact .inr ⟨err, d, c, hp, hadds, enact_of_error hp⟩

theorem migrated (p : Project) (ledgerPath : Path) (e : Entity) (w : Workspace) :
    Migrated p ledgerPath e w (migration p ledgerPath e w) := by
  rw [migration_eq]
  cases hs : settle p e w with
  | error err => exact .stopped err w.disk w.clock (.refl _)
  | ok decided =>
    obtain ⟨kind, pending, template⟩ := decided
    dsimp only
    rcases enact_cases ledgerPath hs with ⟨name, -, w₁, -, hrec, henact⟩ | ⟨err, d, c, -, hadds, henact⟩
    · rw [henact]
      rcases save_cases w₁.ledger ledgerPath w₁.disk with ⟨d', hsave, hrep⟩ | ⟨f, d', hsave, hadds⟩
      · rw [bind_of_ok (onDisk_of_ok hsave)]
        exact .saved kind pending template name w₁ d' hrec hrep
      · rw [bind_of_error (onDisk_of_error hsave)]
        exact .unsaved kind pending template name w₁ f d' hrec hadds
    · rw [henact]
      exact .stopped err d c hadds

namespace Migrated

variable {p : Project} {ledgerPath : Path} {e : Entity} {w w' : Workspace}

theorem of_eq {r : EStateM.Result Error Workspace Artifact} (h : migration p ledgerPath e w = r) :
    Migrated p ledgerPath e w r :=
  h ▸ migrated p ledgerPath e w

theorem isMigration {a : Artifact} (h : Migrated p ledgerPath e w (.ok a w')) : a.kind.isMigration = true := by
  cases h with
  | saved kind pending template name w₁ d hrec hrep => exact hrec.isMigration

end Migrated

/-! ## Classes -/

/-- **How writing a class can end.** -/
inductive Classed (e : Entity) (kind : ArtifactKind) (path : Path) (w : Workspace) :
    EStateM.Result Error Workspace Artifact → Prop where
  | stopped (err : Error) (d : Disk) : AddsDirectories w.disk d →
    Classed e kind path w (.error err { w with disk := d })
  | skipped (d : Disk) : AddsDirectories w.disk d → d.occupied path = true →
      Classed e kind path w (.ok ⟨e.name, kind, path, .skipped⟩ { w with disk := d })
  | written (content : String) (d : Disk) : Placed path content.toUTF8 w.disk d →
      Classed e kind path w (.ok ⟨e.name, kind, path, .written⟩ { w with disk := d })

/-- **A class that is written ends in one of these ways, or the device breaks off its filling**; then the file is there
and holds the part that was taken. -/
theorem writeClassWith_cases (device : Disk.Breaks) (e : Entity) (kind : ArtifactKind) (path : Path) (content : String)
    (w : Workspace) :
    Classed e kind path w (writeClassWith device kind e path content w) ∨
    ∃ broken d, device (path.location w.disk.base) content.toUTF8 = some broken ∧
      writeClassWith device kind e path content w =
        .error (.unwritable path (.disk broken.fault)) { w with disk := d } ∧
      Placed path (content.toUTF8.extract 0 broken.taken) w.disk d := by
  unfold writeClassWith
  rcases Disk.writeIfAbsentWith_cases device path content.toUTF8 w.disk with
    ⟨d, hw, hplaced⟩ | ⟨d, hw, hadds, hocc⟩ | ⟨f, d, hw, hadds⟩ | ⟨broken, d, hdevice, hw, hplaced⟩
  · rw [bind_of_ok (onDisk_of_ok hw)]
    exact .inl (.written content d hplaced)
  · rw [bind_of_ok (onDisk_of_ok hw)]
    exact .inl (.skipped d hadds hocc)
  · rw [bind_of_error (onDisk_of_error hw)]
    exact .inl (.stopped _ d hadds)
  · exact .inr ⟨broken, d, hdevice, bind_of_error (onDisk_of_error hw), hplaced⟩

theorem classed_writeClass (e : Entity) (kind : ArtifactKind) (path : Path) (content : String) (w : Workspace) :
    Classed e kind path w (writeClassWith .never kind e path content w) := by
  rcases writeClassWith_cases .never e kind path content w with hclass | ⟨broken, d, hnever, -⟩
  · exact hclass
  · cases hnever

section

variable {device : Disk.Breaks} {kind : ArtifactKind} {text : Workspace → Except Error String} {e : Entity} {path : Path}
  {w : Workspace}

theorem classWith_of_error {err : Error} (h : text w = .error err) :
    classWith device kind text e path w = .error err w := bind_of_error (ask_of_error h)

theorem classWith_of_ok {content : String} (h : text w = .ok content) :
    classWith device kind text e path w = writeClassWith device kind e path content w := bind_of_ok (ask_of_ok h)

end

theorem classed_classWith (kind : ArtifactKind) (text : Workspace → Except Error String) (e : Entity) (path : Path)
    (w : Workspace) : Classed e kind path w (classWith .never kind text e path w) := by
  cases htext : text w with
  | error err =>
    rw [classWith_of_error htext]
    exact .stopped err w.disk (.refl _)
  | ok content =>
    rw [classWith_of_ok htext]
    exact classed_writeClass e kind path content w

theorem classed_model (p : Project) (e : Entity) (w : Workspace) :
    Classed e .model (modelPath p e) w (model p e w) := classed_classWith _ _ e _ w

theorem classed_resource (p : Project) (e : Entity) (w : Workspace) :
    Classed e .resource (resourcePath p e) w (resource p e w) := classed_classWith _ _ e _ w

namespace Classed

variable {p : Project} {e : Entity} {w : Workspace} {r : EStateM.Result Error Workspace Artifact}

theorem of_model (h : model p e w = r) : Classed e .model (modelPath p e) w r := h ▸ classed_model p e w

theorem of_resource (h : resource p e w = r) : Classed e .resource (resourcePath p e) w r := h ▸ classed_resource p e w

theorem kind_of_ok {kind : ArtifactKind} {path : Path} {a : Artifact} {w' : Workspace}
    (h : Classed e kind path w (.ok a w')) : a.kind = kind := by
  cases h <;> rfl

end Classed

end Scaffold.Generation
