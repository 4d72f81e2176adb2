import Scaffold.Generation.Run
import Scaffold.Proofs.Generation.Step
/-!
# Proofs.Generation.Run — a run is its steps, one after the other

A run that goes through is a chain of steps (`Emits`), and every stretch of its report is a stretch of that chain.
What every step keeps, a run keeps, whether it goes through or breaks off (`run_keeps`).
-/
namespace Scaffold.Generation

open Disk (Path)

variable {p : Project} {ledgerPath : Path}

/-- An action keeps what it finds, however it ends. -/
def Keeps {α : Type} (I : Workspace → Prop) (act : Generation α) : Prop := ∀ w, I w → I (endState (act w))

theorem Keeps.of_ok {α : Type} {I : Workspace → Prop} {act : Generation α} (h : Keeps I act) {w w' : Workspace} {a : α}
    (hw : I w) (hok : act w = .ok a w') : I w' := by
  have := h w hw
  rw [hok] at this
  exact this

theorem Keeps.of_error {α : Type} {I : Workspace → Prop} {act : Generation α} (h : Keeps I act) {w w' : Workspace}
    {e : Error} (hw : I w) (herr : act w = .error e w') : I w' := by
  have := h w hw
  rw [herr] at this
  exact this

theorem keeps_bind {α β : Type} {I : Workspace → Prop} {act : Generation α} {next : α → Generation β}
    (h : Keeps I act) (hn : ∀ a, Keeps I (next a)) : Keeps I (act >>= next) := by
  intro w hw
  cases ha : act w with
  | error e w' =>
    rw [bind_of_error ha]
    exact h.of_error hw ha
  | ok a w' =>
    rw [bind_of_ok ha]
    exact hn a w' (h.of_ok hw ha)

theorem keeps_bind_of_ok {α β : Type} {I J : Workspace → Prop} {act : Generation α} {next : α → Generation β}
    (h : Keeps I act) (hok : ∀ w a w', I w → act w = .ok a w' → J w') (hn : ∀ a, Keeps J (next a))
    (hJ : ∀ w, J w → I w) : Keeps I (act >>= next) := by
  intro w hw
  cases ha : act w with
  | error e w' =>
    rw [bind_of_error ha]
    exact h.of_error hw ha
  | ok a w' =>
    rw [bind_of_ok ha]
    exact hJ _ (hn a w' (hok w a w' hw ha))

theorem keeps_pure {α : Type} (I : Workspace → Prop) (a : α) : Keeps I (pure a : Generation α) := fun _ h => h

/-- **What the three steps of an entity keep, handling it keeps.** -/
theorem entity_keeps {I : Workspace → Prop} {e : Entity} (hmigration : Keeps I (migration p ledgerPath e))
    (hmodel : Keeps I (model p e)) (hresource : Keeps I (resource p e)) : Keeps I (entity p ledgerPath e) := by
  unfold entity
  cases e.problems with
  | cons problem rest => exact fun _ h => h
  | nil =>
    refine keeps_bind hmigration (fun _ => keeps_bind hmodel (fun _ => keeps_bind hresource (fun _ => ?_)))
    exact keeps_pure I _

/-- **What holds behind the migration of an entity and is kept by writing classes holds behind the entity.** -/
theorem entity_of_migration {I : Workspace → Prop} {e : Entity} {w : Workspace} (hproblems : e.problems = [])
    (h : I (endState (migration p ledgerPath e w)))
    (hclassed : ∀ kind path w r, I w → Classed e kind path w r → I (endState r)) :
    I (endState (entity p ledgerPath e w)) := by
  have hmodel : Keeps I (model p e) := fun w hw => hclassed _ _ w _ hw (classed_model p e w)
  have hresource : Keeps I (resource p e) := fun w hw => hclassed _ _ w _ hw (classed_resource p e w)
  unfold entity
  rw [hproblems]
  dsimp only
  cases hm : migration p ledgerPath e w with
  | error err w' =>
    rw [hm] at h
    rw [bind_of_error hm]
    exact h
  | ok a w₁ =>
    rw [hm] at h
    rw [bind_of_ok hm]
    exact keeps_bind hmodel (fun _ => keeps_bind hresource fun _ => keeps_pure I _) w₁ h

theorem entities_keeps {I : Workspace → Prop} {es : List Entity}
    (h : ∀ e ∈ es, Keeps I (entity p ledgerPath e)) : Keeps I (entities p ledgerPath es) := by
  induction es with
  | nil => exact keeps_pure I _
  | cons e rest ih =>
    rw [entities]
    refine keeps_bind (h e List.mem_cons_self) (fun _ => keeps_bind (ih fun e' he => ?_) (fun _ => keeps_pure I _))
    exact h e' (List.mem_cons_of_mem _ he)

theorem run_eq (p : Project) (s : Schema) (w : Workspace) :
    run p s w = match Ledger.load w.disk (p.layout.ledgerIn p.root) with
      | .error err => .error err w
      | .ok l => (entities p (p.layout.ledgerIn p.root) s.entities >>= fun artifacts => pure ⟨artifacts⟩)
          { w with ledger := l } := by
  unfold run loadLedger
  generalize hl : Ledger.load w.disk (p.layout.ledgerIn p.root) = loaded
  cases loaded with
  | error err =>
    rw [bind_of_error (bind_of_error (ask_of_error hl))]
  | ok l =>
    rw [bind_of_ok (t := { w with ledger := l }) (a := ⟨⟩) (by rw [bind_of_ok (ask_of_ok hl)]; rfl)]

/-- **What every entity keeps, a run keeps from the moment its ledger is loaded.** -/
theorem run_keeps {I : Workspace → Prop} {s : Schema} {w : Workspace}
    (hstart : ∀ l, Ledger.load w.disk (p.layout.ledgerIn p.root) = .ok l → I { w with ledger := l })
    (h : ∀ e ∈ s.entities, Keeps I (entity p (p.layout.ledgerIn p.root) e)) :
    (∃ err, run p s w = .error err w) ∨ I (endState (run p s w)) := by
  rw [run_eq]
  cases hl : Ledger.load w.disk (p.layout.ledgerIn p.root) with
  | error err => exact .inl ⟨err, rfl⟩
  | ok l => exact .inr (keeps_bind (entities_keeps h) (fun _ => keeps_pure I _) _ (hstart l hl))

/-! ## Runs that go through -/

theorem filter_migrations {a m r : Artifact} (ha : a.kind.isMigration = true) (hm : m.kind = .model)
    (hr : r.kind = .resource) : [a, m, r].filter (·.kind.isMigration) = [a] := by
  rw [List.filter_cons_of_pos (by exact ha), List.filter_cons_of_neg (by rw [hm]; decide),
    List.filter_cons_of_neg (by rw [hr]; decide), List.filter_nil]

/-- **A run goes through exactly when its ledger loads and all of its entities go through.** -/
theorem run_ok {s : Schema} {w w' : Workspace} {report : Report} :
    run p s w = .ok report w' ↔ ∃ l, Ledger.load w.disk (p.layout.ledgerIn p.root) = .ok l ∧
      entities p (p.layout.ledgerIn p.root) s.entities { w with ledger := l } = .ok report.artifacts w' := by
  rw [run_eq]
  cases hl : Ledger.load w.disk (p.layout.ledgerIn p.root) with
  | error err =>
    constructor
    · intro h
      cases h
    · rintro ⟨l, h, -⟩
      cases h
  | ok l =>
    simp only [Except.ok.injEq, exists_eq_left']
    rw [bind_ok]
    constructor
    · rintro ⟨artifacts, w₁, h, hr⟩
      cases hr
      exact h
    · intro h
      exact ⟨report.artifacts, w', h, rfl⟩

theorem entity_ok {e : Entity} {w w' : Workspace} {artifacts : List Artifact} :
    entity p ledgerPath e w = .ok artifacts w' ↔ e.problems = [] ∧ ∃ a w₁ m w₂ r,
      migration p ledgerPath e w = .ok a w₁ ∧ model p e w₁ = .ok m w₂ ∧ resource p e w₂ = .ok r w' ∧
      artifacts = [a, m, r] := by
  unfold entity
  cases hp : e.problems with
  | cons problem rest =>
    constructor
    · intro h
      cases h
    · rintro ⟨h, -⟩
      cases h
  | nil =>
    simp only [true_and]
    constructor
    · intro h
      obtain ⟨a, w₁, ha, h⟩ := bind_ok.1 h
      obtain ⟨m, w₂, hm, h⟩ := bind_ok.1 h
      obtain ⟨r, w₃, hr, h⟩ := bind_ok.1 h
      cases h
      exact ⟨a, w₁, m, w₂, r, ha, hm, hr, rfl⟩
    · rintro ⟨a, w₁, m, w₂, r, ha, hm, hr, rfl⟩
      exact bind_ok.2 ⟨a, w₁, ha, bind_ok.2 ⟨m, w₂, hm, bind_ok.2 ⟨r, w', hr, rfl⟩⟩⟩

/-- What is left to do for an entity once its migration is settled. -/
def enactAll (p : Project) (ledgerPath : Path) (e : Entity) (kind : ArtifactKind)
    (pending : List Migration.ColumnDefinition) (template : String) : Generation (List Artifact) := do
  let migration ← enact p ledgerPath e kind pending template
  let model ← model p e
  let resource ← resource p e
  return [migration, model, resource]

theorem entity_of_settled {kind : ArtifactKind} {e : Entity} {w : Workspace} {template : String}
    {pending : List Migration.ColumnDefinition} (hproblems : e.problems = [])
    (h : settle p e w = .ok (kind, pending, template)) :
    entity p ledgerPath e w = enactAll p ledgerPath e kind pending template w := by
  have hmigration : migration p ledgerPath e w = enact p ledgerPath e kind pending template w := by
    rw [migration_eq, h]
  unfold entity enactAll
  rw [hproblems]
  show EStateM.bind _ _ w = EStateM.bind _ _ w
  unfold EStateM.bind
  rw [hmigration]

/-- The migrations that are reported of entities, by entity and kind, if these have gone through. -/
def kindsOf (r : EStateM.Result Error Workspace (List Artifact)) : Option (List (String × ArtifactKind)) :=
  match r with
  | .ok artifacts _ => some ((artifacts.filter (·.kind.isMigration)).map fun a => (a.entity, a.kind))
  | .error _ _ => none

theorem kindsOf_eq_some {r : EStateM.Result Error Workspace (List Artifact)} {kinds : List (String × ArtifactKind)}
    (h : kindsOf r = some kinds) : ∃ artifacts, r = .ok artifacts (endState r) ∧
      (artifacts.filter (·.kind.isMigration)).map (fun a => (a.entity, a.kind)) = kinds := by
  cases r with
  | ok artifacts w => exact ⟨artifacts, rfl, Option.some.inj h⟩
  | error err w => cases h

theorem entities_cons_ok {e : Entity} {rest : List Entity} {w w' : Workspace} {artifacts : List Artifact} :
    entities p ledgerPath (e :: rest) w = .ok artifacts w' ↔ ∃ here w₁ after,
      entity p ledgerPath e w = .ok here w₁ ∧ entities p ledgerPath rest w₁ = .ok after w' ∧
      artifacts = here ++ after := by
  rw [entities, bind_ok]
  constructor
  · rintro ⟨here, w₁, he, h⟩
    obtain ⟨after, w₂, ha, h⟩ := bind_ok.1 h
    cases h
    exact ⟨here, w₁, after, he, ha, rfl⟩
  · rintro ⟨here, w₁, after, he, ha, rfl⟩
    exact ⟨here, w₁, he, bind_ok.2 ⟨after, w', ha, rfl⟩⟩

/-- A step that handled an artifact. -/
inductive Emits (p : Project) (ledgerPath : Path) : Workspace → Artifact → Workspace → Prop where
  | migration {e : Entity} {w w' : Workspace} {a : Artifact} :
      Generation.migration p ledgerPath e w = .ok a w' → Emits p ledgerPath w a w'
  | model {e : Entity} {w w' : Workspace} {a : Artifact} :
      Generation.model p e w = .ok a w' → Emits p ledgerPath w a w'
  | resource {e : Entity} {w w' : Workspace} {a : Artifact} :
      Generation.resource p e w = .ok a w' → Emits p ledgerPath w a w'

/-- Steps in a row, with what they handled. -/
inductive Chain (p : Project) (ledgerPath : Path) : Workspace → List Artifact → Workspace → Prop where
  | nil (w : Workspace) : Chain p ledgerPath w [] w
  | cons {w w₁ w' : Workspace} {a : Artifact} {rest : List Artifact} :
      Emits p ledgerPath w a w₁ → Chain p ledgerPath w₁ rest w' → Chain p ledgerPath w (a :: rest) w'

theorem Chain.append {w w₁ w' : Workspace} {front back : List Artifact} (h : Chain p ledgerPath w front w₁)
    (h' : Chain p ledgerPath w₁ back w') : Chain p ledgerPath w (front ++ back) w' := by
  induction h with
  | nil w => exact h'
  | cons he _ ih => exact .cons he (ih h')

theorem Chain.split {w w' : Workspace} {front back : List Artifact} (h : Chain p ledgerPath w (front ++ back) w') :
    ∃ w₁, Chain p ledgerPath w front w₁ ∧ Chain p ledgerPath w₁ back w' := by
  induction front generalizing w with
  | nil => exact ⟨w, .nil w, h⟩
  | cons a rest ih =>
    cases h with
    | cons he hrest =>
      obtain ⟨w₁, hfront, hback⟩ := ih hrest
      exact ⟨w₁, .cons he hfront, hback⟩

theorem chain_of_entity {e : Entity} {w w' : Workspace} {artifacts : List Artifact}
    (h : entity p ledgerPath e w = .ok artifacts w') : Chain p ledgerPath w artifacts w' := by
  obtain ⟨-, a, w₁, m, w₂, r, hmig, hmod, hres, rfl⟩ := entity_ok.1 h
  exact .cons (.migration hmig) (.cons (.model hmod) (.cons (.resource hres) (.nil _)))

/-- **Entities that go through are a chain of steps.** -/
theorem chain_of_entities {es : List Entity} {w w' : Workspace} {artifacts : List Artifact}
    (h : entities p ledgerPath es w = .ok artifacts w') : Chain p ledgerPath w artifacts w' := by
  induction es generalizing w artifacts with
  | nil =>
    cases h
    exact .nil _
  | cons e rest ih =>
    obtain ⟨here, w₁, after, he, ha, rfl⟩ := entities_cons_ok.1 h
    exact (chain_of_entity he).append (ih ha)

end Scaffold.Generation
