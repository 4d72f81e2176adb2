import Scaffold.Generation.Classes
import Scaffold.Generation.Migration
/-!
# Generation.Run — a run over all entities of a schema

Entities are handled in the order of the schema.  Nothing is written for an entity with a problem, and the first error
ends the run.
-/
namespace Scaffold.Generation

open Disk (Path)

/-- Writes the migration, the model and the admin resource of an entity. -/
def entity (p : Project) (ledgerPath : Path) (e : Entity) : Generation (List Artifact) := do
  match e.problems with
  | problem :: _ => throw (.problem problem)
  | [] =>
    let migration ← migration p ledgerPath e
    let model ← model p e
    let resource ← resource p e
    return [migration, model, resource]

def entities (p : Project) (ledgerPath : Path) : List Entity → Generation (List Artifact)
  | [] => return []
  | e :: rest => do
    let artifacts ← entity p ledgerPath e
    return artifacts ++ (← entities p ledgerPath rest)

def loadLedger (ledgerPath : Path) : Generation Unit := do
  let ledger ← ask fun w => Ledger.load w.disk ledgerPath
  modify fun w => { w with ledger }

/-- Generates everything for the entities of a schema. -/
def run (p : Project) (s : Schema) : Generation Report := do
  let ledgerPath := p.layout.ledgerIn p.root
  loadLedger ledgerPath
  return ⟨← entities p ledgerPath s.entities⟩

end Scaffold.Generation
