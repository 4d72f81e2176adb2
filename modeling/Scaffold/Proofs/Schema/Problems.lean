import Scaffold.Artifact
import Scaffold.Migration.Statement
import Scaffold.Proofs.Effect
/-!
# Proofs.Schema.Problems — an entity without problems has all that is needed

The list of an entity's problems collects everything that is wrong with it.  What its files are made of is asked for by
functions that stop at the first thing that is wrong.  Where the list is empty, none of them stops.
-/
namespace Scaffold

theorem faultOf_eq_nil {ε α : Type} {x : Except ε α} : faultOf x = [] ↔ ∃ a, x = .ok a := by
  cases x with
  | ok a => exact ⟨fun _ => ⟨a, rfl⟩, fun _ => rfl⟩
  | error err =>
    constructor
    · intro h
      cases h
    · rintro ⟨a, h⟩
      cases h

theorem exists_mapM_ok {ε α β : Type} {f : α → Except ε β} {l : List α} (h : ∀ a ∈ l, ∃ b, f a = .ok b) :
    ∃ bs, l.mapM f = .ok bs := by
  induction l with
  | nil => exact ⟨[], rfl⟩
  | cons a rest ih =>
    obtain ⟨b, hb⟩ := h a List.mem_cons_self
    obtain ⟨bs, hbs⟩ := ih (fun x hx => h x (List.mem_cons_of_mem _ hx))
    refine ⟨b :: bs, ?_⟩
    rw [List.mapM_cons]
    exact except_bind_ok.2 ⟨b, hb, except_bind_ok.2 ⟨bs, hbs, rfl⟩⟩

namespace Entity

variable {e : Entity}

theorem requiredColumns_of_problems (h : e.problems = []) : e.requiredColumns = .ok e.columns.entries := by
  have hcolumns := (List.append_eq_nil_iff.1 h).1
  unfold columnProblems at hcolumns
  unfold requiredColumns at hcolumns ⊢
  split
  · rename_i hempty
    rw [if_pos hempty] at hcolumns
    cases hcolumns
  · rfl

theorem kind_of_problems (h : e.problems = []) :
    ∀ column ∈ e.columns.entries, ∃ kind, column.2.kind column.1 = .ok kind := by
  have hcolumns := (List.append_eq_nil_iff.1 h).1
  unfold columnProblems at hcolumns
  rw [requiredColumns_of_problems h] at hcolumns
  intro column hc
  exact faultOf_eq_nil.1 (List.flatMap_eq_nil_iff.1 hcolumns column hc)

theorem relation_of_problems (h : e.problems = []) : ∀ relation ∈ e.relations.entries,
    (∃ kind, relation.2.kind relation.1 = .ok kind) ∧ ∃ target, relation.2.target relation.1 = .ok target := by
  have hrelations := (List.append_eq_nil_iff.1 h).2
  intro relation hr
  obtain ⟨hkind, htarget⟩ := List.append_eq_nil_iff.1 (List.flatMap_eq_nil_iff.1 hrelations relation hr)
  exact ⟨faultOf_eq_nil.1 hkind, faultOf_eq_nil.1 htarget⟩

/-- **The columns of an entity without problems can be resolved.** -/
theorem exists_resolved (h : e.problems = []) :
    ∃ columns, (e.requiredColumns >>= Migration.resolve) = .ok columns := by
  have hresolve : ∃ columns, Migration.resolve e.columns.entries = .ok columns := by
    refine exists_mapM_ok (fun column hc => ?_)
    obtain ⟨kind, hkind⟩ := kind_of_problems h column hc
    exact ⟨⟨column.1, kind, column.2⟩, except_bind_ok.2 ⟨kind, hkind, rfl⟩⟩
  obtain ⟨columns, hcolumns⟩ := hresolve
  exact ⟨columns, except_bind_ok.2 ⟨_, requiredColumns_of_problems h, hcolumns⟩⟩

theorem exists_methods (h : e.problems = []) : ∃ text, Model.methods e.relations.entries = .ok text := by
  have hmethods : ∃ texts, (e.relations.entries.mapM fun relation => do
      return Model.method relation.1 (← relation.2.kind relation.1) (← relation.2.target relation.1)) = .ok texts := by
    refine exists_mapM_ok (fun relation hr => ?_)
    obtain ⟨⟨kind, hkind⟩, target, htarget⟩ := relation_of_problems h relation hr
    exact ⟨Model.method relation.1 kind target,
      except_bind_ok.2 ⟨kind, hkind, except_bind_ok.2 ⟨target, htarget, rfl⟩⟩⟩
  obtain ⟨texts, htexts⟩ := hmethods
  exact ⟨_, except_bind_ok.2 ⟨texts, htexts, rfl⟩⟩

theorem exists_fillable (h : e.problems = []) : ∃ text, Model.fillable e.columns.entries = .ok text := by
  have hkinds : ∃ kinds, (e.columns.entries.mapM fun column => do return (column.1, ← column.2.kind column.1)) =
      .ok kinds := by
    refine exists_mapM_ok (fun column hc => ?_)
    obtain ⟨kind, hkind⟩ := kind_of_problems h column hc
    exact ⟨(column.1, kind), except_bind_ok.2 ⟨kind, hkind, rfl⟩⟩
  obtain ⟨kinds, hkinds⟩ := hkinds
  exact ⟨_, except_bind_ok.2 ⟨kinds, hkinds, rfl⟩⟩

end Entity

end Scaffold
