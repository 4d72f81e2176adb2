import Mathlib.Data.List.Forall2
import Scaffold.Proofs.Generation.Rerun
/-!
# Proofs.Generation.Reported — what a run that goes through reports

Every entity has a share of the report, which its own steps have made on a disk that has only grown until then and only
grows from then on (`shares_of_entities`).  A share is a triple: a migration that was written, a model and a resource
(`triple_of_entity`).  A name that was found taken does not come into it, for a migration goes on to the next stamp and
a class is left out.  So the report is the triples of the entities, one after the other (`run_reports`).
-/
namespace Scaffold.Generation

open Disk (Path Grows)

variable {p : Project} {ledgerPath : Path} {e : Entity} {es : List Entity} {w w' : Workspace}
  {here artifacts : List Artifact} {triples : List (List Artifact)}

/-- **What is reported of an entity**: a migration, which is written, then the model and the resource, each of them
written or left out; all at the paths of the layout. -/
inductive Triple (p : Project) (e : Entity) : List Artifact → Prop where
  | mk {kind : ArtifactKind} {at_ : Calendar.Instant} {m r : Disk.Outcome} :
      kind = .createMigration ∨ kind = .updateMigration → m = .written ∨ m = .skipped → r = .written ∨ r = .skipped →
      Triple p e [
        ⟨e.name, kind,
          p.directory.join ⟨Migration.fileName kind (Calendar.stamp at_) e.tableName p.layout.extension⟩, .written⟩,
        ⟨e.name, .model, modelPath p e, m⟩,
        ⟨e.name, .resource, resourcePath p e, r⟩]

theorem exists_of_mem_right {α β : Type} {R : α → β → Prop} {as : List α} {bs : List β} (h : List.Forall₂ R as bs)
    {b : β} (hb : b ∈ bs) : ∃ a ∈ as, R a b := by
  induction h with
  | nil => cases hb
  | @cons a first as bs hfirst _ ih =>
    rcases List.mem_cons.1 hb with rfl | hb
    · exact ⟨a, List.mem_cons_self, hfirst⟩
    · obtain ⟨a', ha', hrel⟩ := ih hb
      exact ⟨a', List.mem_cons_of_mem _ ha', hrel⟩

theorem isMigration_iff {kind : ArtifactKind} :
    kind.isMigration = true ↔ kind = .createMigration ∨ kind = .updateMigration := by
  cases kind <;> simp [ArtifactKind.isMigration]

theorem outcome_of_classed {kind : ArtifactKind} {path : Path} {a : Artifact}
    (h : Classed e kind path w (.ok a w')) :
    ∃ outcome, (outcome = .written ∨ outcome = .skipped) ∧ a = ⟨e.name, kind, path, outcome⟩ := by
  cases h with
  | skipped d _ _ => exact ⟨.skipped, .inr rfl, rfl⟩
  | written content d _ => exact ⟨.written, .inl rfl, rfl⟩

/-- **An entity that goes through is reported by a triple.** -/
theorem triple_of_entity (h : entity p ledgerPath e w = .ok here w') : Triple p e here := by
  obtain ⟨-, a, w₁, m, w₂, r, hmig, hmod, hres, rfl⟩ := entity_ok.1 h
  have hmigrated := Migrated.of_eq hmig
  have hmodel := Classed.of_model hmod
  have hresource := Classed.of_resource hres
  obtain ⟨mo, hmo, rfl⟩ := outcome_of_classed hmodel
  obtain ⟨ro, hro, rfl⟩ := outcome_of_classed hresource
  cases hmigrated with
  | saved kind pending template name w₀ d hrec hrep =>
    obtain ⟨at_, rfl⟩ := hrec.named
    exact .mk (isMigration_iff.1 hrec.isMigration) hmo hro

namespace Triple

theorem ne_collision (h : Triple p e here) : ∀ a ∈ here, a.outcome ≠ .collision := by
  have houtcome : ∀ outcome : Disk.Outcome, outcome = .written ∨ outcome = .skipped → outcome ≠ .collision := by
    rintro _ (rfl | rfl) <;> decide
  obtain ⟨-, hm, hr⟩ := h
  simp only [List.forall_mem_cons]
  exact ⟨houtcome _ (.inl rfl), houtcome _ hm, houtcome _ hr, fun a ha => by cases ha⟩

theorem length_migrations (h : Triple p e here) : (here.filter (·.kind.isMigration)).length = 1 := by
  obtain ⟨rfl | rfl, -, -⟩ := h <;> rfl

theorem length_models (h : Triple p e here) : (here.filter (·.kind == .model)).length = 1 := by
  obtain ⟨rfl | rfl, -, -⟩ := h <;> rfl

theorem length_resources (h : Triple p e here) : (here.filter (·.kind == .resource)).length = 1 := by
  obtain ⟨rfl | rfl, -, -⟩ := h <;> rfl

theorem length_outcomes (h : Triple p e here) :
    (here.filter (·.outcome == .written)).length + (here.filter (·.outcome == .skipped)).length = 3 := by
  obtain ⟨-, rfl | rfl, rfl | rfl⟩ := h <;> rfl

end Triple

/-- **An entity's share of a report**: its own steps have made it, on a disk grown from the first, and the last is grown
from where they have ended. -/
def Share (p : Project) (ledgerPath : Path) (w w' : Workspace) (e : Entity) (here : List Artifact) : Prop :=
  ∃ v v', Grows (ledgerPath.location w.disk.base) w.disk v.disk ∧ entity p ledgerPath e v = .ok here v' ∧
    Grows (ledgerPath.location w.disk.base) v'.disk w'.disk

/-- **A report is the shares of the entities, one after the other.** -/
theorem shares_of_entities (h : entities p ledgerPath es w = .ok artifacts w') :
    ∃ shares, List.Forall₂ (Share p ledgerPath w w') es shares ∧ artifacts = shares.flatten := by
  induction es generalizing w artifacts with
  | nil =>
    cases h
    exact ⟨[], .nil, rfl⟩
  | cons e rest ih =>
    obtain ⟨first, w₁, after, he, ha, rfl⟩ := entities_cons_ok.1 h
    have hbefore := grows_of_chain (chain_of_entity he)
    have hlater := grows_of_chain (chain_of_entities ha)
    rw [hbefore.base] at hlater
    obtain ⟨shares, hshares, rfl⟩ := ih ha
    refine ⟨first :: shares, .cons ⟨w, w₁, .refl _ _, he, hlater⟩ (hshares.imp fun f part => ?_), rfl⟩
    rintro ⟨v, v', hv, hf, hv'⟩
    rw [hbefore.base] at hv hv'
    exact ⟨v, v', hbefore.trans hv, hf, hv'⟩

/-- What adds up over lists and is the same for every triple is that many times the number of the triples. -/
theorem measure_flatten (measure : List Artifact → Nat) {n : Nat} (hnil : measure [] = 0)
    (happend : ∀ l l', measure (l ++ l') = measure l + measure l') (hn : ∀ e here, Triple p e here → measure here = n)
    (h : List.Forall₂ (Triple p) es triples) : measure triples.flatten = n * es.length := by
  induction h with
  | nil => exact hnil
  | @cons e here rest triples he _ ih =>
    rw [List.flatten_cons, happend, hn e here he, ih, List.length_cons, Nat.mul_succ, Nat.add_comm]

theorem length_filter_flatten {keep : Artifact → Bool} {n : Nat}
    (hn : ∀ e here, Triple p e here → (here.filter keep).length = n) (h : List.Forall₂ (Triple p) es triples) :
    (triples.flatten.filter keep).length = n * es.length :=
  measure_flatten (fun l => (l.filter keep).length) rfl
    (fun l l' => by rw [List.filter_append, List.length_append]) hn h

/-- **A run that goes through reports a triple for every entity**, in the order of the schema, and nothing else.  So no
name was found taken in the end, there are as many models, resources and migrations as entities, and what was written
and what was left out are three times as many. -/
theorem run_reports {s : Schema} {report : Report} (h : run p s w = .ok report w') :
    (∃ triples, List.Forall₂ (Triple p) s.entities triples ∧ report.artifacts = triples.flatten) ∧
    (∀ a ∈ report.artifacts, a.outcome ≠ .collision) ∧
    report.count .model = s.size ∧ report.count .resource = s.size ∧ report.migrations.length = s.size ∧
    report.written.length + report.skipped.length = 3 * s.size := by
  obtain ⟨l, -, hrun⟩ := run_ok.1 h
  obtain ⟨triples, hshares, hreport⟩ := shares_of_entities hrun
  have htriples : List.Forall₂ (Triple p) s.entities triples := by
    refine hshares.imp fun e here hshare => ?_
    obtain ⟨v, v', -, hentity, -⟩ := hshare
    exact triple_of_entity hentity
  refine ⟨⟨triples, htriples, hreport⟩, fun a ha => ?_, ?_, ?_, ?_, ?_⟩
  · rw [hreport, List.mem_flatten] at ha
    obtain ⟨here, hhere, ha⟩ := ha
    obtain ⟨e, -, htriple⟩ := exists_of_mem_right htriples hhere
    exact htriple.ne_collision a ha
  · unfold Report.count Schema.size
    rw [hreport, length_filter_flatten (fun e here => Triple.length_models) htriples, Nat.one_mul]
  · unfold Report.count Schema.size
    rw [hreport, length_filter_flatten (fun e here => Triple.length_resources) htriples, Nat.one_mul]
  · unfold Report.migrations Schema.size
    rw [hreport, length_filter_flatten (fun e here => Triple.length_migrations) htriples, Nat.one_mul]
  · unfold Report.written Report.skipped Schema.size
    rw [hreport]
    refine measure_flatten
      (fun l => (l.filter (·.outcome == .written)).length + (l.filter (·.outcome == .skipped)).length) rfl
      (fun l l' => ?_) (fun e here => Triple.length_outcomes) htriples
    simp only [List.filter_append, List.length_append]
    omega

/-- The report of a run over the small schema. -/
theorem run_reports_small : ∃ report w', run smallProject smallSchema freshWorkspace = .ok report w' ∧
    report.count .model = 1 ∧ report.written.length + report.skipped.length = 3 := by
  obtain ⟨report, h⟩ := exists_of_goesThrough small_goesThrough
  obtain ⟨-, -, hmodels, -, -, houtcomes⟩ := run_reports h
  exact ⟨report, _, h, hmodels, houtcomes⟩

end Scaffold.Generation
