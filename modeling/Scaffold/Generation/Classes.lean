import Scaffold.Artifact
import Scaffold.Generation.Workspace
import Scaffold.Template
/-!
# Generation.Classes — the model and the admin resource of an entity

A class that is there already is left alone, for somebody may have edited it.
-/
namespace Scaffold.Generation

open Disk (Path)

def modelPath (p : Project) (e : Entity) : Path := (p.layout.modelsIn p.root).join ⟨p.layout.nameOf e.name⟩

def resourcePath (p : Project) (e : Entity) : Path :=
  (p.layout.resourcesIn p.root).join ⟨p.layout.nameOf (e.name ++ "Resource")⟩

def writeClassWith (device : Disk.Breaks) (kind : ArtifactKind) (e : Entity) (path : Path) (content : String) :
    Generation Artifact := do
  let outcome ← onDisk path (Disk.writeIfAbsentWith device path content.toUTF8)
  return ⟨e.name, kind, path, outcome⟩

/-- Writes a class whose text is looked up first. -/
def classWith (device : Disk.Breaks) (kind : ArtifactKind) (text : Workspace → Except Error String) (e : Entity)
    (path : Path) : Generation Artifact := do
  writeClassWith device kind e path (← ask text)

/-- What the model of an entity says: its fillable and hidden columns and the methods of its relations. -/
def modelParts (e : Entity) : Except Problem (String × String × String) := do
  let columns ← e.requiredColumns
  let methods ← Model.methods e.relations.entries
  let fillable ← Model.fillable columns
  return (fillable, Model.hidden columns, methods)

def renderModel (stubs : Option Path) (e : Entity) (w : Workspace) : Except Error String := do
  let (fillable, hidden, methods) ← (modelParts e).mapError .problem
  let template ← Template.load w.disk stubs .model
  return Template.fill template [
    ("model", e.name), ("table", e.tableName), ("fillable", fillable), ("hidden", hidden), ("relations", methods)]

def renderResource (stubs : Option Path) (e : Entity) (w : Workspace) : Except Error String := do
  let template ← Template.load w.disk stubs .resource
  return Template.fill template [
    ("model", e.name),
    ("formFields", Resource.formFields e.formFields),
    ("tableColumns", Resource.tableColumns e.tableColumns)]

def modelWith (t : Tools) (p : Project) (e : Entity) : Generation Artifact :=
  classWith t.device .model (renderModel t.stubs e) e (modelPath p e)

def resourceWith (t : Tools) (p : Project) (e : Entity) : Generation Artifact :=
  classWith t.device .resource (renderResource t.stubs e) e (resourcePath p e)

/-- Writes the model of an entity. -/
def model (p : Project) (e : Entity) : Generation Artifact := modelWith p.tools p e

/-- Writes the admin resource of an entity. -/
def resource (p : Project) (e : Entity) : Generation Artifact := resourceWith p.tools p e

end Scaffold.Generation
