import Scaffold.Proofs.Calendar.Stamp
import Scaffold.Proofs.Clock
import Scaffold.Proofs.Generation.Log
/-!
# Proofs.Generation.Stamps — migrations are listed in the order in which they are written

Each migration is named after an instant that the clock hands out for it, and an instant is skipped only where its name
is taken (`stamped`).  The instants of a clock increase and stamps stand in the order of time.  So over any runs that
share a clock, later migrations have later names (`names_increase`).
-/
namespace Scaffold

open Disk (Path Grows)
open Calendar (Instant HasFourDigits)

/-- The name that a migration of a table has if it is named after an instant. -/
def Project.migrationName (p : Project) (kind : ArtifactKind) (table : String) (i : Instant) : String :=
  Migration.fileName kind (Calendar.stamp i) table p.layout.extension

theorem Project.migrationName_eq (p : Project) (kind : ArtifactKind) (table : String) (i : Instant) :
    p.migrationName kind table i =
      Calendar.stamp i ++ ("_" ++ (Migration.markerOf kind table ++ ("." ++ p.layout.extension))) := by
  unfold migrationName Migration.fileName
  simp only [String.append_assoc]

namespace Generation

variable {p : Project} {ledgerPath : Path} {e : Entity} {w w' w₁ : Workspace} {c c' c'' : Clock} {x : Entry}
  {log : List Entry} {names : List String}

/-! ## Places -/

theorem grows_placeMigration (directory : Path) (kind : ArtifactKind) (table extension content : String)
    (tries : Nat) (w : Workspace) :
    Grows [] w.disk (endState (placeMigration directory kind table extension content tries w)).disk := by
  rcases placeMigration_cases directory kind table extension content tries w with
    ⟨name, d, c, hp, -, hplaced⟩ | ⟨err, d, c, hp, hadds⟩
  · rw [hp]
    exact hplaced.grows []
  · rw [hp]
    exact hadds.grows []

/-- **The instants that are handed out for a migration**: the one that it is named after comes last, and where it was
skipped before, the name is taken. -/
theorem placeMigration_instants (directory : Path) (kind : ArtifactKind) (table extension content : String)
    (tries : Nat) (w : Workspace) :
    ∃ skipped, match placeMigration directory kind table extension content tries w with
      | .error _ w' => w.clock.HandsOut skipped w'.clock
      | .ok (_, name) w' => ∃ i, w.clock.HandsOut (skipped ++ [i]) w'.clock ∧
          name = Migration.fileName kind (Calendar.stamp i) table extension ∧
          ∀ j ∈ skipped,
            w'.disk.occupied (directory.join ⟨Migration.fileName kind (Calendar.stamp j) table extension⟩) = true := by
  induction tries generalizing w with
  | zero => exact ⟨[], .nothing w.clock⟩
  | succ tries ih =>
    cases hn : w.clock.next with
    | none =>
      rw [placeMigration_of_none hn]
      exact ⟨[], .nothing w.clock⟩
    | some ticked =>
      obtain ⟨i, c⟩ := ticked
      rw [placeMigration_of_some hn]
      rcases Disk.writeNew_cases (directory.join ⟨Migration.fileName kind (Calendar.stamp i) table extension⟩)
        content.toUTF8 w.disk with ⟨d, hw, -⟩ | ⟨d, hw, -, htaken⟩ | ⟨f, d, hw, -⟩
      · rw [bind_of_ok (onDisk_of_ok (w := { w with clock := c }) hw)]
        exact ⟨[], i, .one hn, rfl, fun j hj => by cases hj⟩
      · -- The name is taken, and stays so while the remaining tries go on.
        rw [bind_of_ok (onDisk_of_ok (w := { w with clock := c }) hw)]
        dsimp only
        obtain ⟨skipped, hrest⟩ := ih { w with disk := d, clock := c }
        have hgrows := grows_placeMigration directory kind table extension content tries
          { w with disk := d, clock := c }
        refine ⟨i :: skipped, ?_⟩
        cases hplace : placeMigration directory kind table extension content tries { w with disk := d, clock := c } with
        | error err w' =>
          rw [hplace] at hrest
          exact .next hn hrest
        | ok placed w' =>
          rw [hplace] at hrest hgrows
          obtain ⟨at_, hinstants, hname, hskipped⟩ := hrest
          refine ⟨at_, .next hn hinstants, hname, fun j hj => ?_⟩
          rcases List.mem_cons.1 hj with rfl | hj
          · exact hgrows.occupied htaken
          · exact hskipped j hj
      · rw [bind_of_error (onDisk_of_error (w := { w with clock := c }) hw)]
        exact ⟨[i], .one hn⟩

/-! ## Entities -/

/-- **The instants that an entity uses up**: those that are skipped for its migration and the one that this is named
after. -/
inductive Stamped (p : Project) (w : Workspace) : List Entry → Workspace → Prop where
  | nothing {instants : List Instant} {w' : Workspace} : w.clock.HandsOut instants w'.clock → Stamped p w [] w'
  | one {x : Entry} {skipped : List Instant} {i : Instant} {w' : Workspace} :
      w.clock.HandsOut (skipped ++ [i]) w'.clock → x.name = p.migrationName x.kind x.table i →
      (∀ j ∈ skipped, w'.disk.occupied (p.directory.join ⟨p.migrationName x.kind x.table j⟩) = true) →
      Stamped p w [x] w'

theorem Stamped.grows {spared : Location} (h : Stamped p w log w₁) (hclock : w'.clock = w₁.clock)
    (hgrows : Grows spared w₁.disk w'.disk) : Stamped p w log w' := by
  cases h with
  | nothing hinstants => exact .nothing (hclock ▸ hinstants)
  | one hinstants hname hskipped => exact .one (hclock ▸ hinstants) hname fun j hj => hgrows.occupied (hskipped j hj)

theorem Stamped.classed {kind : ArtifactKind} {path : Path} {r : EStateM.Result Error Workspace Artifact}
    (h : Stamped p w log w₁) (hclass : Classed e kind path w₁ r) : Stamped p w log (endState r) := by
  cases hclass with
  | stopped err d hadds => exact h.grows rfl (hadds.grows [])
  | skipped d hadds _ => exact h.grows rfl (hadds.grows [])
  | written content d hplaced => exact h.grows rfl (hplaced.grows [])

theorem stamped_migration (p : Project) (ledgerPath : Path) (e : Entity) (w : Workspace) :
    Stamped p w (migrationLog p e w) (endState (migration p ledgerPath e w)) := by
  unfold migrationLog
  rw [migration_eq]
  cases hs : settle p e w with
  | error err => exact .nothing (.nothing w.clock)
  | ok decided =>
    obtain ⟨kind, pending, template⟩ := decided
    dsimp only
    obtain ⟨skipped, hinstants⟩ := placeMigration_instants (p.layout.migrationsIn p.root) kind e.tableName
      p.layout.extension (migrationText template e.tableName pending) attempts w
    cases hplace : placeMigration (p.layout.migrationsIn p.root) kind e.tableName p.layout.extension
        (migrationText template e.tableName pending) attempts w with
    | error err w' =>
      rw [hplace] at hinstants
      rw [enact_of_error hplace]
      exact .nothing hinstants
    | ok placed w₁ =>
      obtain ⟨path, name⟩ := placed
      rw [hplace] at hinstants
      obtain ⟨i, hinstants, hname, hskipped⟩ := hinstants
      rw [enact_of_placed hplace rfl]
      generalize hw₂ : ({ w₁ with ledger := recordMigration kind e.tableName name (pending.map (·.name)) w₁.ledger } :
        Workspace) = w₂
      have hstamped : Stamped p w [⟨e, kind, name, pending⟩] w₂ := by
        subst hw₂
        exact .one hinstants hname hskipped
      rcases save_cases w₂.ledger ledgerPath w₂.disk with ⟨d, hsave, hrep⟩ | ⟨f, d, hsave, hadds⟩
      · rw [bind_of_ok (onDisk_of_ok hsave)]
        exact hstamped.grows rfl hrep.grows
      · rw [bind_of_error (onDisk_of_error hsave)]
        exact hstamped.grows rfl (hadds.grows [])

/-- **However an entity ends, its migration has the first free name of the instants that it uses up.** -/
theorem stamped (p : Project) (ledgerPath : Path) (e : Entity) (w : Workspace) :
    Stamped p w (entityLog p e w) (endState (entity p ledgerPath e w)) := by
  have hmigration := stamped_migration p ledgerPath e w
  unfold entityLog
  cases hproblems : e.problems with
  | cons problem rest =>
    unfold entity
    rw [hproblems]
    exact .nothing (.nothing w.clock)
  | nil => exact entity_of_migration hproblems hmigration fun _ _ _ _ h => h.classed

/-! ## Runs -/

/-- Names that begin with the stamps of instants that a clock hands out, in the order in which it does. -/
def Named (c : Clock) (names : List String) (c' : Clock) : Prop :=
  ∃ instants, c.HandsOut instants c' ∧ ∃ marks : List (Instant × String),
    (marks.map (·.1)).Sublist instants ∧ names = marks.map fun mark => Calendar.stamp mark.1 ++ mark.2

namespace Named

theorem nothing (c : Clock) : Named c [] c := ⟨[], .nothing c, [], .slnil, rfl⟩

theorem append {later : List String} (h : Named c names c') (h' : Named c' later c'') :
    Named c (names ++ later) c'' := by
  obtain ⟨instants, hinstants, marks, hmarks, rfl⟩ := h
  obtain ⟨instants', hinstants', marks', hmarks', rfl⟩ := h'
  refine ⟨instants ++ instants', hinstants.trans hinstants', marks ++ marks', ?_, ?_⟩
  · rw [List.map_append]
    exact hmarks.append hmarks'
  · rw [List.map_append]

theorem of_stamped (h : Stamped p w log w') : Named w.clock (log.map (·.name)) w'.clock := by
  cases h with
  | @nothing instants _ hinstants => exact ⟨instants, hinstants, [], List.nil_sublist instants, rfl⟩
  | @one x skipped i _ hinstants hname _ =>
    rw [Project.migrationName_eq] at hname
    refine ⟨skipped ++ [i], hinstants,
      [(i, "_" ++ (Migration.markerOf x.kind x.table ++ ("." ++ p.layout.extension)))],
      List.sublist_append_right skipped [i], ?_⟩
    rw [List.map_singleton, List.map_singleton, hname]

/-- **Names with the stamps of increasing instants increase**, as long as these have years of four digits. -/
theorem increases (h : Named c names c') : ∃ instants, c.HandsOut instants c' ∧
    ((∀ i ∈ instants, HasFourDigits i) → names.Pairwise Text.Before) := by
  obtain ⟨instants, hinstants, marks, hmarks, rfl⟩ := h
  refine ⟨instants, hinstants, fun hyears => ?_⟩
  have hordered := List.pairwise_map.1 (hinstants.increases.sublist hmarks)
  have hdigits : ∀ mark ∈ marks, HasFourDigits mark.1 := fun mark hmark =>
    hyears _ (hmarks.subset (List.mem_map_of_mem hmark))
  exact List.pairwise_map.2 (hordered.imp_of_mem fun {a b} ha hb hlt =>
    Calendar.stamp_append_before (hdigits a ha) (hdigits b hb) hlt a.2 b.2)

end Named

theorem named_of_entities (p : Project) (ledgerPath : Path) (es : List Entity) (w : Workspace) :
    Named w.clock ((entitiesLog p ledgerPath es w).map (·.name)) (endState (entities p ledgerPath es w)).clock := by
  have hstart : Named w.clock (([] : List Entry).map (·.name)) w.clock := .nothing w.clock
  exact entitiesLog_invariant (I := fun log w' => Named w.clock (log.map (·.name)) w'.clock)
    (fun e _ log w₁ h => by
      rw [List.map_append]
      exact h.append (.of_stamped (stamped p ledgerPath e w₁))) hstart

theorem named_of_run (p : Project) (s : Schema) (w : Workspace) :
    Named w.clock ((runLog p s w).map (·.name)) (endState (run p s w)).clock := by
  unfold runLog
  rw [run_eq, show p.layout.ledgerIn p.root = p.ledgerPath from rfl]
  cases Ledger.load w.disk p.ledgerPath with
  | error err => exact .nothing w.clock
  | ok l =>
    dsimp only
    rw [endState_bind_pure]
    exact named_of_entities p p.ledgerPath s.entities { w with ledger := l }

/-- **Runs that share a clock**, one after the other: the clock before the first, the file names of the migrations that
they write, in this order, and the clock after the last.  Each run has a project, a schema and a disk of its own, and
may end in any way. -/
inductive Sharing : Clock → List String → Clock → Prop where
  | start (c : Clock) : Sharing c [] c
  | run {c : Clock} {names : List String} {w : Workspace} (p : Project) (s : Schema) : Sharing c names w.clock →
      Sharing c (names ++ (runLog p s w).map (·.name)) (endState (Generation.run p s w)).clock

/-- **Runs that share a clock name their migrations in increasing order.**  The wall of the clock may repeat itself and
go backwards, the disks may hold anything, and runs may fail, if only no instant is handed out in a year without four
digits. -/
theorem names_increase (h : Sharing c names c') : ∃ instants, c.HandsOut instants c' ∧
    ((∀ i ∈ instants, HasFourDigits i) → names.Pairwise Text.Before) := by
  have hnamed : Named c names c' := by
    induction h with
    | start => exact .nothing _
    | run p s _ ih => exact ih.append (named_of_run p s _)
  exact hnamed.increases

def withClockOf (w : Workspace) : Workspace := { disk := {}, clock := w.clock }

theorem names_small : (runLog smallProject smallSchema freshWorkspace).map (·.name) =
    ["0000_01_01_000000_create_t_table.php"] := by
  decide +kernel

/-- A run with the clock of an earlier one begins one second later. -/
theorem names_small_later : let w := withClockOf (endState (run smallProject smallSchema freshWorkspace))
    (runLog smallProject smallSchema w).map (·.name) = ["0000_01_01_000001_create_t_table.php"] ∧
      (endState (run smallProject smallSchema w)).clock.last = some 1 := by
  decide +kernel

theorem hasFourDigits_small : ∀ i : Int, 0 ≤ i → i < 2 → HasFourDigits i := by
  intro i hlow hhigh
  rcases (show i = 0 ∨ i = 1 by omega) with rfl | rfl <;> decide

theorem names_increase_small : ∃ c',
    Sharing freshWorkspace.clock
      ["0000_01_01_000000_create_t_table.php", "0000_01_01_000001_create_t_table.php"] c' ∧
    ["0000_01_01_000000_create_t_table.php", "0000_01_01_000001_create_t_table.php"].Pairwise Text.Before := by
  obtain ⟨hsecond, hlast⟩ := names_small_later
  have hfirst := Sharing.run (w := freshWorkspace) smallProject smallSchema (.start _)
  rw [names_small] at hfirst
  generalize endState (run smallProject smallSchema freshWorkspace) = w at hfirst hsecond hlast
  have hshared := Sharing.run (w := withClockOf w) smallProject smallSchema hfirst
  rw [hsecond] at hshared
  obtain ⟨instants, hinstants, hordered⟩ := names_increase hshared
  refine ⟨_, hshared, hordered fun i hi => ?_⟩
  have hlow : 0 ≤ i := hinstants.upcoming_le i hi
  obtain ⟨last, hlatest, hhigh⟩ := hinstants.le_last i hi
  rw [hlast] at hlatest
  cases hlatest
  exact hasFourDigits_small i hlow (Int.lt_add_one_of_le hhigh)

end Generation

end Scaffold
