import Scaffold.Proofs.Generation.Rerun
/-!
# Proofs.Generation.Split — a run may be cut in two

A run holds its ledger in memory; of two runs in a row the first leaves the ledger on the disk, and the second loads it
from there.  Every entity that goes through leaves the ledger in memory on the disk (`saved_of_entities`), so the second
run goes on with the very ledger that a single run would hold (`run_append`).
-/
namespace Scaffold.Generation

open Disk (Path)

theorem entities_append (p : Project) (ledgerPath : Path) (es fs : List Entity) :
    entities p ledgerPath (es ++ fs) = do
      let first ← entities p ledgerPath es
      let second ← entities p ledgerPath fs
      return first ++ second := by
  induction es with
  | nil =>
    show entities p ledgerPath fs = _
    simp only [entities, pure_bind, List.nil_append, bind_pure]
  | cons e rest ih =>
    show entities p ledgerPath (e :: (rest ++ fs)) = _
    simp only [entities, ih, bind_assoc, pure_bind, List.append_assoc]

theorem run_of_load {p : Project} {w : Workspace} {l : Ledger} (h : Ledger.load w.disk p.ledgerPath = .ok l)
    (es : List Entity) : run p ⟨es⟩ w =
      (entities p p.ledgerPath es >>= fun artifacts => pure ⟨artifacts⟩) { w with ledger := l } := by
  rw [run_eq, show p.layout.ledgerIn p.root = p.ledgerPath from rfl, h]

theorem run_of_load_error {p : Project} {w : Workspace} {err : Error}
    (h : Ledger.load w.disk p.ledgerPath = .error err) (es : List Entity) : run p ⟨es⟩ w = .error err w := by
  rw [run_eq, show p.layout.ledgerIn p.root = p.ledgerPath from rfl, h]

/-- What is between two runs: the ledger in memory is gone, and the disk and the clock are left. -/
def restart : Generation Unit := modify fun w => { disk := w.disk, clock := w.clock }

/-- **One run over all entities is two runs in a row**, the first over the entities up to anywhere and the second over
the rest, from the disk and the clock that the first has left.  Both ways end alike from every workspace: they go
through together, with the same files, clock and ledger and the reports put together, or they break off together, with
the same error and the same files. -/
theorem run_append (p : Project) (es fs : List Entity) : run p ⟨es ++ fs⟩ = do
    let first ← run p ⟨es⟩
    restart
    let second ← run p ⟨fs⟩
    return ⟨first.artifacts ++ second.artifacts⟩ := by
  funext w
  cases hl : Ledger.load w.disk p.ledgerPath with
  | error err => rw [bind_of_error (run_of_load_error hl es), run_of_load_error hl]
  | ok l =>
    rw [run_of_load hl, entities_append, bind_assoc]
    cases he : entities p p.ledgerPath es { w with ledger := l } with
    | error err w₁ =>
      have hfirst : run p ⟨es⟩ w = .error err w₁ := by rw [run_of_load hl, bind_of_error he]
      rw [bind_of_error he, bind_of_error hfirst]
    | ok first w₁ =>
      have hfirst : run p ⟨es⟩ w = .ok ⟨first⟩ w₁ := by
        rw [run_of_load hl, bind_of_ok he]
        rfl
      -- the second run loads what the first has held in memory
      have hreload : Ledger.load (⟨w₁.disk, w₁.clock, .empty⟩ : Workspace).disk p.ledgerPath = .ok w₁.ledger :=
        load_of_entities (w := { w with ledger := l }) hl he
      have hrestart : restart w₁ = .ok () ⟨w₁.disk, w₁.clock, .empty⟩ := rfl
      rw [bind_of_ok he, bind_of_ok hfirst, bind_of_ok hrestart, bind_assoc]
      cases hf : entities p p.ledgerPath fs w₁ with
      | error err w₂ =>
        have hsecond : run p ⟨fs⟩ ⟨w₁.disk, w₁.clock, .empty⟩ = .error err w₂ := by
          rw [run_of_load hreload, bind_of_error hf]
        rw [bind_of_error hf, bind_of_error hsecond]
      | ok second w₂ =>
        have hsecond : run p ⟨fs⟩ ⟨w₁.disk, w₁.clock, .empty⟩ = .ok ⟨second⟩ w₂ := by
          rw [run_of_load hreload, bind_of_ok hf]
          rfl
        rw [bind_of_ok hf, bind_of_ok hsecond]
        rfl

end Scaffold.Generation
