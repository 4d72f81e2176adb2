import Scaffold.Proofs.Generation.Frame
import Scaffold.Proofs.Ledger.Probe
import Scaffold.Proofs.Ledger.Records
import Scaffold.Proofs.Migration.Name
/-!
# Proofs.Generation.Tidy — projects whose migrations can be found again

In a tidy project no stub replaces a template, no slash comes into a file name, and the ledger is not one of the
migrations.  A migration that a run writes there is found by every later scan, with the text that was written.
-/
namespace Scaffold

open Disk (Path Grows Placed Replaced AddsDirectories IsName)

def Project.directory (p : Project) : Path := p.layout.migrationsIn p.root

def Project.ledgerPath (p : Project) : Path := p.layout.ledgerIn p.root

/-- **A project without stubs, whose ledger is none of its migrations** and whose file names hold no slash. -/
structure Project.Tidy (p : Project) (base : Location) : Prop where
  stubs : p.layout.stubs = none
  extension : '/' ∉ p.layout.extension.toList
  apart : ∀ name, p.directory.location base ++ [name] ≠ p.ledgerLocation base

theorem Project.ledgerLocation_eq (p : Project) (base : Location) :
    p.ledgerLocation base = p.ledgerPath.location base := rfl

theorem Project.directory_ne_empty {p : Project} (h : p.root.text ≠ "") : p.directory.text ≠ "" :=
  Path.text_join_ne_empty h _

namespace Generation

variable {p : Project} {e : Entity} {kind : ArtifactKind} {pending : List Migration.ColumnDefinition}
  {template name : String} {w w' w₁ : Workspace} {a : Artifact} {d : Disk}

theorem load_of_tidy {base : Location} (hp : p.Tidy base) (d : Disk) (kind : ArtifactKind) :
    Template.load d (p.layout.stubsIn p.root) kind = .ok (Template.builtin kind) := by
  unfold Layout.stubsIn
  rw [hp.stubs]
  rfl

namespace Recorded

theorem template_eq {base : Location} (h : Recorded p e kind pending template name w w₁) (hp : p.Tidy base) :
    template = Template.builtin kind := by
  obtain ⟨columns, -, -, htemplate⟩ := settle_ok.1 h.settled
  rw [load_of_tidy hp] at htemplate
  cases htemplate
  rfl

theorem isName (h : Recorded p e kind pending template name w w₁) (hextension : '/' ∉ p.layout.extension.toList)
    (htable : '/' ∉ e.tableName.toList) : IsName name := by
  obtain ⟨at_, rfl⟩ := h.named
  exact Migration.isName_fileName htable hextension kind at_

theorem lists (h : Recorded p e kind pending template name w w₁) (hextension : '/' ∉ p.layout.extension.toList)
    (htable : '/' ∉ e.tableName.toList) (hdirectory : p.directory.text ≠ "") : w₁.disk.Lists p.directory name :=
  Disk.lists_of_look (h.isName hextension htable) hdirectory h.placed.look

theorem updates {r : TableRecord} (h : Recorded p e kind pending template name w w₁)
    (hlive : w.ledger.Live w.disk p.directory e.tableName r) : kind = .updateMigration := by
  obtain ⟨columns, -, hplan, -⟩ := settle_ok.1 h.settled
  exact update_of_live hplan hlive

theorem bears (h : Recorded p e kind pending template name w w₁) :
    Migration.bears name (Migration.markerOf kind e.tableName) = true := by
  obtain ⟨at_, rfl⟩ := h.named
  exact Migration.bears_fileName kind _ _ _

/-- **The new migration is found**, and its text is what was rendered. -/
theorem found {base : Location} (h : Recorded p e kind pending template name w w₁) (hp : p.Tidy base)
    (htable : '/' ∉ e.tableName.toList) (hdirectory : p.directory.text ≠ "") :
    w₁.disk.Lists p.directory name ∧
      w₁.disk.readText (p.directory.join ⟨name⟩) = .ok (migrationText (Template.builtin kind) e.tableName pending) := by
  have hplaced := h.placed
  rw [h.template_eq hp] at hplaced
  exact Migration.lists_of_placed (h.isName hp.extension htable) hdirectory hplaced

end Recorded

/-! ## Growth, step by step -/

theorem grows_of_saved (hrec : Recorded p e kind pending template name w w₁) (l : Ledger)
    (hrep : Replaced p.ledgerPath l.toText.toUTF8 w₁.disk d) :
    Grows (p.ledgerLocation w.disk.base) w₁.disk d := by
  have := hrep.grows
  rw [hrec.placed.base] at this
  exact this

theorem grows_of_recorded (hrec : Recorded p e kind pending template name w w₁) (spared : Location) :
    Grows spared w.disk w₁.disk :=
  hrec.placed.grows spared

theorem location_migration (hp : p.Tidy w.disk.base) (hname : IsName name) :
    (p.directory.join ⟨name⟩).location w.disk.base ≠ p.ledgerLocation w.disk.base := by
  rw [Path.location_join hname]
  exact hp.apart name

/-- What a ledger's file holds stays, unless that very file is spared. -/
theorem ledger_of_classed {kind : ArtifactKind} {path : Path} {l : Ledger}
    (hl : w.disk.look p.ledgerPath = .ok (.file l.toText.toUTF8)) (h : Classed e kind path w (.ok a w')) :
    w'.disk.look p.ledgerPath = .ok (.file l.toText.toUTF8) ∧ w'.ledger = w.ledger := by
  have hplace : p.ledgerPath.location w.disk.base ≠ [] := by
    intro hroot
    have := Disk.at?_of_look_file hl
    rw [hroot] at this
    cases this
  refine ⟨Ledger.look_of_grows hl (grows_of_classed h []) hplace, ?_⟩
  cases h with
  | skipped d _ _ => rfl
  | written content d _ => rfl

/-! ## The small project is tidy -/

theorem tidy_smallProject : smallProject.Tidy [] := by
  have hdirectory : smallProject.directory.location [] = ["p", "m"] := by decide +kernel
  have hledger : smallProject.ledgerLocation [] = ["p", "l"] := by decide +kernel
  refine ⟨rfl, by decide, fun name h => ?_⟩
  rw [hdirectory, hledger] at h
  revert h
  simp

theorem named_fresh : freshWorkspace.disk.Named := fun l name h => absurd (if_neg (by simp)) h

end Generation

end Scaffold
