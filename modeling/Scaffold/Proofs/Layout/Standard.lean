import Scaffold.Proofs.Generation.Tidy
/-!
# Proofs.Layout.Standard — where the standard layout puts files

Migrations, classes and the ledger go to different directories below the project's root, so the classes and the ledger
are none of the migrations.
-/
namespace Scaffold

open Disk (Path IsName)

variable {p : Project}

namespace Layout

theorem isName_parts : ∀ name ∈ ["database", "migrations", ".yamavel", "ledger.json", "app", "Models", "Filament",
    "Resources"], IsName name := by
  simp only [List.forall_mem_cons]
  refine ⟨?_, ?_, ?_, ?_, ?_, ?_, ?_, ?_, fun _ h => by cases h⟩
  all_goals exact ⟨by decide, by decide, by decide, by decide⟩

theorem isName_of_subset {parts : List String} (h : parts ⊆ ["database", "migrations", ".yamavel", "ledger.json", "app",
    "Models", "Filament", "Resources"]) : ∀ name ∈ parts, IsName name := fun name hn => isName_parts name (h hn)

theorem migrations_standard : ({} : Layout).migrations = ⟨"/".intercalate ["database", "migrations"]⟩ := rfl

theorem models_standard : ({} : Layout).models = ⟨"/".intercalate ["app", "Models"]⟩ := rfl

theorem resources_standard : ({} : Layout).resources = ⟨"/".intercalate ["app", "Filament", "Resources"]⟩ := rfl

theorem ledger_standard : ({} : Layout).ledger = ⟨"/".intercalate ["database", ".yamavel", "ledger.json"]⟩ := rfl

end Layout

namespace Project

theorem location_directory (h : p.layout = {}) (base : Location) :
    p.directory.location base = p.root.location base ++ ["database", "migrations"] := by
  unfold directory Layout.migrationsIn
  rw [h, Layout.migrations_standard]
  exact Path.location_join_names (Layout.isName_of_subset (by decide)) p.root base

theorem location_ledger (h : p.layout = {}) (base : Location) :
    p.ledgerLocation base = p.root.location base ++ ["database", ".yamavel", "ledger.json"] := by
  unfold ledgerLocation Layout.ledgerIn
  rw [h, Layout.ledger_standard]
  exact Path.location_join_names (Layout.isName_of_subset (by decide)) p.root base

theorem tidy_standard (h : p.layout = {}) (base : Location) : p.Tidy base := by
  refine ⟨by rw [h], by rw [h]; decide, fun name heq => ?_⟩
  rw [location_directory h, location_ledger h, List.append_assoc, List.append_cancel_left_eq] at heq
  simp at heq

theorem directory_ne_empty_standard (h : p.layout = {}) : p.directory.text ≠ "" := by
  unfold directory Layout.migrationsIn
  rw [h, Layout.migrations_standard, String.intercalate_cons_cons,
    Path.join_slash (Layout.isName_parts "database" (by decide)) (by decide)]
  refine Path.text_join_ne_empty (fun hempty => ?_) _
  rw [← String.toList_eq_nil_iff, Path.toList_join (Layout.isName_parts "database" (by decide))] at hempty
  simp at hempty

end Project

namespace Generation

variable {e : Entity}

theorem isName_modelFile (h : '/' ∉ e.name.toList) : IsName (e.name ++ ".php") :=
  Disk.isName_append (c := 'p') h (by decide) (by decide) (by decide)

theorem isName_resourceFile (h : '/' ∉ e.name.toList) : IsName (e.name ++ "Resource" ++ ".php") := by
  rw [String.append_assoc]
  exact Disk.isName_append (c := 'p') h (by decide) (by decide) (by decide)

theorem modelPath_standard (h : p.layout = {}) (e : Entity) :
    modelPath p e = (p.root.join ⟨"/".intercalate ["app", "Models"]⟩).join ⟨e.name ++ ".php"⟩ := by
  unfold modelPath Layout.modelsIn Layout.nameOf
  rw [h, Layout.models_standard, String.append_assoc]
  rfl

theorem resourcePath_standard (h : p.layout = {}) (e : Entity) : resourcePath p e =
    (p.root.join ⟨"/".intercalate ["app", "Filament", "Resources"]⟩).join ⟨e.name ++ "Resource" ++ ".php"⟩ := by
  unfold resourcePath Layout.resourcesIn Layout.nameOf
  rw [h, Layout.resources_standard, String.append_assoc]
  rfl

theorem location_modelPath (h : p.layout = {}) (hname : IsName (e.name ++ ".php")) (base : Location) :
    (modelPath p e).location base = p.root.location base ++ ["app", "Models", e.name ++ ".php"] := by
  rw [modelPath_standard h, Path.location_join hname, Path.location_join_names (Layout.isName_of_subset (by decide)),
    List.append_assoc]
  rfl

theorem location_resourcePath (h : p.layout = {}) (hname : IsName (e.name ++ "Resource" ++ ".php"))
    (base : Location) : (resourcePath p e).location base =
      p.root.location base ++ ["app", "Filament", "Resources", e.name ++ "Resource" ++ ".php"] := by
  rw [resourcePath_standard h, Path.location_join hname,
    Path.location_join_names (Layout.isName_of_subset (by decide)), List.append_assoc]
  rfl

/-- **No model is one of the migrations**, -/
theorem location_model (h : p.layout = {}) {e : Entity} (hname : IsName (e.name ++ ".php")) (base : Location)
    (name : String) : p.directory.location base ++ [name] ≠ (modelPath p e).location base := by
  rw [location_modelPath h hname, Project.location_directory h, List.append_assoc, ne_eq, List.append_cancel_left_eq]
  simp

/-- **and no admin resource is.** -/
theorem location_resource (h : p.layout = {}) {e : Entity} (hname : IsName (e.name ++ "Resource" ++ ".php"))
    (base : Location) (name : String) : p.directory.location base ++ [name] ≠ (resourcePath p e).location base := by
  rw [location_resourcePath h hname, Project.location_directory h, List.append_assoc, ne_eq,
    List.append_cancel_left_eq]
  simp

def standardProject : Project := ⟨⟨"p"⟩, {}⟩

end Generation

end Scaffold
