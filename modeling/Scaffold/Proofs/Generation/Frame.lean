import Scaffold.Proofs.Generation.Run
/-!
# Proofs.Generation.Frame — what a run leaves alone, and what it adds

A run changes no file but its ledger, whether it goes through or breaks off.  A run that goes through adds the files
of its written artifacts, each in a place of its own where nothing stood, and its ledger; whatever it skipped led to
something by then (`run_frame`).
-/
namespace Scaffold

open Disk (Path Grows AddsDirectories Placed Replaced)

def Artifact.location (base : Location) (a : Artifact) : Location := a.path.location base

def Project.ledgerLocation (p : Project) (base : Location) : Location := (p.layout.ledgerIn p.root).location base

namespace Generation

variable {p : Project} {ledgerPath : Path}

/-! ## Nothing disappears -/

/-- **Every step makes the disk grow**, with the ledger's file spared. -/
theorem keeps_grows_migration (d₀ : Disk) (e : Entity) :
    Keeps (fun w => Grows (ledgerPath.location d₀.base) d₀ w.disk) (migration p ledgerPath e) := by
  intro w hw
  have hbase : w.disk.base = d₀.base := hw.base
  cases hm : migration p ledgerPath e w with
  | error err w' =>
    cases Migrated.of_eq hm with
    | stopped _ d c hadds => exact hw.trans (hadds.grows _)
    | unsaved kind pending template name w₁ f d hrec hadds =>
      exact hw.trans ((hrec.placed.grows _).trans (hadds.grows _))
  | ok a w' =>
    cases Migrated.of_eq hm with
    | saved kind pending template name w₁ d hrec hrep =>
      have hsave := hrep.grows
      rw [hrec.placed.base, hbase] at hsave
      exact hw.trans ((hrec.placed.grows _).trans hsave)

theorem grows_of_classed {e : Entity} {kind : ArtifactKind} {path : Path} {w : Workspace}
    {r : EStateM.Result Error Workspace Artifact} (h : Classed e kind path w r) (spared : Location) :
    Grows spared w.disk (endState r).disk := by
  cases h with
  | stopped err d hadds => exact hadds.grows spared
  | skipped d hadds hocc => exact hadds.grows spared
  | written content d hplaced => exact hplaced.grows spared

theorem keeps_grows_entity (d₀ : Disk) (e : Entity) :
    Keeps (fun w => Grows (ledgerPath.location d₀.base) d₀ w.disk) (entity p ledgerPath e) := by
  refine entity_keeps (keeps_grows_migration d₀ e) ?_ ?_
  · exact fun w hw => hw.trans (grows_of_classed (classed_model p e w) _)
  · exact fun w hw => hw.trans (grows_of_classed (classed_resource p e w) _)

/-- **Whatever stood on the disk stands there after a run**, and no file but the ledger has changed. -/
theorem run_grows (p : Project) (s : Schema) (w : Workspace) :
    Grows (p.ledgerLocation w.disk.base) w.disk (endState (run p s w)).disk := by
  have h := run_keeps (p := p) (s := s) (w := w)
    (I := fun w' => Grows (p.ledgerLocation w.disk.base) w.disk w'.disk) (fun l _ => .refl _ _)
    (fun e _ => keeps_grows_entity w.disk e)
  rcases h with ⟨err, h⟩ | h
  · rw [h]
    exact .refl _ _
  · exact h

/-! ## What a step adds -/

/-- **What a step that handled an artifact has done**: the artifact is written where nothing stood, or skipped where
something stands; a migration writes the ledger too, and nothing else becomes a file. -/
structure Accounted (ledger : Location) (d d' : Disk) (a : Artifact) : Prop where
  base : d'.base = d.base
  grows : Grows ledger d d'
  outcome : a.outcome = .written ∧ d.at? (a.location d.base) = none ∧ d'.isFile a.path = true ∨
    a.outcome = .skipped ∧ AddsDirectories d d' ∧ d'.occupied a.path = true
  files : ∀ l, d'.file? l ≠ none ↔ d.file? l ≠ none ∨ a.outcome = .written ∧ a.location d.base = l ∨
    l = ledger ∧ a.kind.isMigration = true

theorem accounted_of_classed {ledger : Location} {e : Entity} {kind : ArtifactKind} {path : Path}
    {w w' : Workspace} {a : Artifact} (hkind : kind.isMigration = false) (h : Classed e kind path w (.ok a w')) :
    Accounted ledger w.disk w'.disk a := by
  have hgrows := grows_of_classed h ledger
  cases h with
  | skipped d hadds hocc =>
    refine ⟨hadds.base, hgrows, .inr ⟨rfl, hadds, hocc⟩, fun l => ?_⟩
    rw [hadds.file? l]
    simp [hkind]
  | written content d hplaced =>
    refine ⟨hplaced.base, hgrows, .inl ⟨rfl, hplaced.free, Disk.isFile_iff.2 ⟨_, hplaced.look⟩⟩, fun l => ?_⟩
    rw [Disk.file?_ne_none_iff hplaced.there hplaced.elsewhere l]
    simp [hkind, Artifact.location, eq_comm]

theorem accounted_of_migrated {e : Entity} {w w' : Workspace} {a : Artifact}
    (h : Migrated p ledgerPath e w (.ok a w')) :
    Accounted (ledgerPath.location w.disk.base) w.disk w'.disk a := by
  cases h with
  | saved kind pending template name w₁ d hrec hrep =>
    have hplaced := hrec.placed
    have hsave := hrep.grows
    have hfiles := Disk.file?_ne_none_iff hrep.there hrep.elsewhere
    rw [hplaced.base] at hsave hfiles
    have hkind := hrec.isMigration
    refine ⟨hrep.base.trans hplaced.base, (hplaced.grows _).trans hsave, .inl ⟨rfl, hplaced.free, ?_⟩, fun l => ?_⟩
    · exact hsave.isFile (Disk.isFile_iff.2 ⟨_, hplaced.look⟩)
    · rw [hfiles l, Disk.file?_ne_none_iff hplaced.there hplaced.elsewhere l]
      simp [hkind, Artifact.location, eq_comm, or_assoc]

theorem accounted_of_emits {w w' : Workspace} {a : Artifact} (h : Emits p ledgerPath w a w') :
    Accounted (ledgerPath.location w.disk.base) w.disk w'.disk a := by
  cases h with
  | migration h => exact accounted_of_migrated (.of_eq h)
  | model h => exact accounted_of_classed rfl (.of_model h)
  | resource h => exact accounted_of_classed rfl (.of_resource h)

/-! ## What a chain of steps adds -/

theorem grows_of_chain {w w' : Workspace} {artifacts : List Artifact} (h : Chain p ledgerPath w artifacts w') :
    Grows (ledgerPath.location w.disk.base) w.disk w'.disk := by
  induction h with
  | nil w => exact .refl _ _
  | cons he _ ih =>
    have hstep := accounted_of_emits he
    rw [hstep.base] at ih
    exact hstep.grows.trans ih

/-- **The files after a chain of steps** are those before, those of the written artifacts, and the ledger if there
was a migration. -/
theorem files_of_chain {w w' : Workspace} {artifacts : List Artifact} (h : Chain p ledgerPath w artifacts w')
    (l : Location) : w'.disk.file? l ≠ none ↔ w.disk.file? l ≠ none ∨
      (∃ a ∈ artifacts, a.outcome = .written ∧ a.location w.disk.base = l) ∨
      l = ledgerPath.location w.disk.base ∧ ∃ a ∈ artifacts, a.kind.isMigration = true := by
  induction h with
  | nil w => simp
  | cons he _ ih =>
    have hstep := accounted_of_emits he
    rw [hstep.base] at ih
    rw [ih, hstep.files l]
    simp only [List.mem_cons, exists_eq_or_imp, and_or_left]
    exact Iff.of_eq (by ac_rfl)

/-- **Every written artifact of a chain has a place of its own, and nothing stood there.** -/
theorem written_of_chain {w w' : Workspace} {artifacts : List Artifact} (h : Chain p ledgerPath w artifacts w') :
    ((artifacts.filter (·.outcome == .written)).map (·.location w.disk.base)).Nodup ∧
    ∀ a ∈ artifacts, a.outcome = .written →
      w.disk.at? (a.location w.disk.base) = none ∧ w'.disk.isFile a.path = true := by
  induction h with
  | nil w => simp
  | @cons w w₁ w' a rest he hrest ih =>
    have hstep := accounted_of_emits he
    have hlater := grows_of_chain hrest
    rw [hstep.base] at ih
    obtain ⟨hnodup, hfree⟩ := ih
    refine ⟨?_, fun b hb hwritten => ?_⟩
    · rcases hstep.outcome with ⟨hw, -, hfile⟩ | ⟨hs, -, -⟩
      · rw [List.filter_cons_of_pos (by simp [hw]), List.map_cons, List.nodup_cons]
        refine ⟨fun hmem => ?_, hnodup⟩
        obtain ⟨b, hb, hloc⟩ := List.mem_map.1 hmem
        obtain ⟨hb, hbw⟩ := List.mem_filter.1 hb
        have hnone := (hfree b hb (by simpa using hbw)).1
        obtain ⟨content, hlook⟩ := Disk.isFile_iff.1 hfile
        -- A later artifact in the same place would have been written where a file stood.
        have hthere := Disk.at?_of_look_file hlook
        rw [hstep.base] at hthere
        rw [hloc] at hnone
        unfold Artifact.location at hnone
        rw [hnone] at hthere
        cases hthere
      · rw [List.filter_cons_of_neg (by simp [hs])]
        exact hnodup
    · rcases List.mem_cons.1 hb with rfl | hb
      · rcases hstep.outcome with ⟨-, hnone, hfile⟩ | ⟨hs, -, -⟩
        · exact ⟨hnone, hlater.isFile hfile⟩
        · rw [hs] at hwritten
          cases hwritten
      · obtain ⟨hnone, hfile⟩ := hfree b hb hwritten
        exact ⟨hstep.grows.at?_none hnone, hfile⟩

/-- An artifact between two stretches of a chain found something at its path: a directory, or a file that stood there
before the chain, that an earlier step had generated, or that is the ledger an earlier step had saved. -/
def FoundTaken (p : Project) (ledgerPath : Path) (w : Workspace) (before : List Artifact) (a : Artifact)
    (after : List Artifact) (w' : Workspace) : Prop :=
  ∃ w₁ w₂, Chain p ledgerPath w before w₁ ∧ Emits p ledgerPath w₁ a w₂ ∧ Chain p ledgerPath w₂ after w' ∧
    (w₂.disk.look a.path = .ok .directory ∨ ∃ content, w₂.disk.look a.path = .ok (.file content) ∧
      (w.disk.file? (a.location w.disk.base) ≠ none ∨
        (∃ b ∈ before, b.outcome = .written ∧ b.location w.disk.base = a.location w.disk.base) ∨
        a.location w.disk.base = ledgerPath.location w.disk.base ∧ ∃ b ∈ before, b.kind.isMigration = true))

theorem foundTaken_of_chain {w w' : Workspace} {before after : List Artifact} {a : Artifact}
    (h : Chain p ledgerPath w (before ++ a :: after) w') (hskipped : a.outcome = .skipped) :
    FoundTaken p ledgerPath w before a after w' := by
  obtain ⟨w₁, hbefore, hrest⟩ := h.split
  cases hrest with
  | @cons _ w₂ _ _ _ he hafter =>
    refine ⟨w₁, w₂, hbefore, he, hafter, ?_⟩
    have hstep := accounted_of_emits he
    have hbase : w₁.disk.base = w.disk.base := (grows_of_chain hbefore).base
    rcases hstep.outcome with ⟨hw, -, -⟩ | ⟨-, hadds, hocc⟩
    · rw [hskipped] at hw
      cases hw
    · obtain ⟨node, hlook⟩ := Disk.occupied_iff.1 hocc
      cases node with
      | directory => exact .inl hlook
      | file content =>
        refine .inr ⟨content, hlook, ?_⟩
        have hthere := Disk.file?_eq_some.2 (Disk.at?_of_look_file hlook)
        rw [hadds.file?, hadds.base, hbase] at hthere
        exact (files_of_chain hbefore _).1 (by rw [Artifact.location, hthere]; simp)

theorem exists_migration_of_entities {es : List Entity} {w w' : Workspace} {artifacts : List Artifact}
    (h : entities p ledgerPath es w = .ok artifacts w') :
    (∃ a ∈ artifacts, a.kind.isMigration = true) ↔ es ≠ [] := by
  cases es with
  | nil =>
    cases h
    simp
  | cons e rest =>
    obtain ⟨here, w₁, after, he, ha, rfl⟩ := entities_cons_ok.1 h
    obtain ⟨-, a, w₂, m, w₃, r, hmig, -, -, rfl⟩ := entity_ok.1 he
    simp [(Migrated.of_eq hmig).isMigration]

/-- **A run never overwrites.**  However it ends, every file but the ledger is there as before.  If it goes through,
the new files are those of its written artifacts, and the ledger if there was none and the schema has entities; the
written artifacts are files in different places where nothing stood; and a skipped artifact's path led, when it was
skipped, to a directory, or to a file that was there before the run or that an earlier step of it has written. -/
theorem run_frame (p : Project) (s : Schema) (w : Workspace) :
    (∀ l content, w.disk.file? l = some content → l ≠ p.ledgerLocation w.disk.base →
      (endState (run p s w)).disk.file? l = some content) ∧
    ∀ report w', run p s w = .ok report w' →
      (∀ l, w.disk.file? l = none ∧ w'.disk.file? l ≠ none ↔
        (∃ a ∈ report.written, a.location w.disk.base = l) ∨
        l = p.ledgerLocation w.disk.base ∧ w.disk.file? l = none ∧ s.entities ≠ []) ∧
      (report.written.map (·.location w.disk.base)).Nodup ∧
      (∀ a ∈ report.written, w.disk.at? (a.location w.disk.base) = none ∧ w'.disk.isFile a.path = true) ∧
      ∀ before a after, report.artifacts = before ++ a :: after → a.outcome = .skipped →
        ∃ l, Ledger.load w.disk (p.layout.ledgerIn p.root) = .ok l ∧
          FoundTaken p (p.layout.ledgerIn p.root) { w with ledger := l } before a after w' := by
  refine ⟨fun l content hl hne => (run_grows p s w).file? hl hne, fun report w' h => ?_⟩
  obtain ⟨ledger, hload, hrun⟩ := run_ok.1 h
  have hchain := chain_of_entities hrun
  obtain ⟨hnodup, hwritten⟩ := written_of_chain hchain
  have hmem : ∀ a, a ∈ report.written ↔ a ∈ report.artifacts ∧ a.outcome = .written := fun a => by
    simp [Report.written]
  refine ⟨fun l => ?_, hnodup, fun a ha => hwritten a ((hmem a).1 ha).1 ((hmem a).1 ha).2,
    fun before a after hr hs => ?_⟩
  · rw [files_of_chain hchain l, exists_migration_of_entities hrun]
    constructor
    · rintro ⟨hnone, hsome | ⟨a, ha, haw, hal⟩ | ⟨hl, hne⟩⟩
      · exact absurd hnone hsome
      · exact .inl ⟨a, (hmem a).2 ⟨ha, haw⟩, hal⟩
      · exact .inr ⟨hl, hnone, hne⟩
    · rintro (⟨a, ha, hal⟩ | ⟨hl, hnone, hne⟩)
      · obtain ⟨ha, haw⟩ := (hmem a).1 ha
        have hfree := (hwritten a ha haw).1
        rw [hal] at hfree
        refine ⟨?_, .inr (.inl ⟨a, ha, haw, hal⟩)⟩
        unfold Disk.file?
        rw [hfree]
      · exact ⟨hnone, .inr (.inr ⟨hl, hne⟩)⟩
  · rw [hr] at hchain
    exact ⟨ledger, hload, foundTaken_of_chain hchain hs⟩

/-! ## A small project -/

/-- A project with a directory for each kind of file, and its ledger beside them. -/
def smallProject : Project :=
  ⟨⟨"p"⟩, { migrations := ⟨"m"⟩, models := ⟨"c"⟩, resources := ⟨"r"⟩, ledger := ⟨"l"⟩ }⟩

/-- A schema of one entity with one column. -/
def smallSchema : Schema := ⟨[{ name := "A", table := some "t", columns := NameMap.empty.insert "x" {} }]⟩

/-- An empty disk, and a clock that stands still. -/
def freshWorkspace : Workspace := { disk := {}, clock := .fixed ⟨0, 0⟩ }

theorem file?_fresh (l : Location) : freshWorkspace.disk.file? l = none := by
  cases l with
  | nil => rfl
  | cons name rest => rfl

theorem small_goesThrough : goesThrough (run smallProject smallSchema freshWorkspace) = true := by decide +kernel

/-- On an empty disk, the files are those of the report and the ledger. -/
theorem run_frame_small : ∃ report w', run smallProject smallSchema freshWorkspace = .ok report w' ∧
    ∀ l, w'.disk.file? l ≠ none ↔ (∃ a ∈ report.written, a.location [] = l) ∨ l = ["p", "l"] := by
  have hbase : freshWorkspace.disk.base = [] := rfl
  have hledger : smallProject.ledgerLocation [] = ["p", "l"] := by decide +kernel
  obtain ⟨report, h⟩ := exists_of_goesThrough small_goesThrough
  obtain ⟨hnew, -⟩ := (run_frame smallProject smallSchema freshWorkspace).2 report _ h
  refine ⟨report, _, h, fun l => ?_⟩
  have hfiles := hnew l
  rw [hbase, hledger] at hfiles
  simpa [file?_fresh, smallSchema] using hfiles

end Generation

end Scaffold
