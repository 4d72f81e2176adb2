/-!
# Schema.NameMap — what is declared under names, in the order of the document

A name is declared once.  Declaring it again replaces what it stands for and leaves its place.
-/
namespace Scaffold

/-- The entries with a name declared. -/
def declare {α : Type} (name : String) (value : α) : List (String × α) → List (String × α)
  | [] => [(name, value)]
  | entry :: rest => if entry.1 = name then (name, value) :: rest else entry :: declare name value rest

theorem mem_names_declare {α : Type} {name : String} {value : α} {entries : List (String × α)} {other : String} :
    other ∈ (declare name value entries).map (·.1) ↔ other = name ∨ other ∈ entries.map (·.1) := by
  induction entries with
  | nil => simp [declare]
  | cons entry rest ih =>
    by_cases h : entry.1 = name
    · simp [declare, h]
    · simp only [declare, h, if_false, List.map_cons, List.mem_cons, ih]
      grind

/-- Names stay different from each other. -/
theorem nodup_names_declare {α : Type} {name : String} {value : α} {entries : List (String × α)}
    (h : (entries.map (·.1)).Nodup) : ((declare name value entries).map (·.1)).Nodup := by
  induction entries with
  | nil => simp [declare]
  | cons entry rest ih =>
    rw [List.map_cons, List.nodup_cons] at h
    by_cases hn : entry.1 = name
    · rw [declare, if_pos hn, List.map_cons, List.nodup_cons]
      exact ⟨hn ▸ h.1, h.2⟩
    · rw [declare, if_neg hn, List.map_cons, List.nodup_cons, mem_names_declare]
      exact ⟨fun m => m.elim hn h.1, ih h.2⟩

/-- A map from names, in the order in which the names were first declared. -/
structure NameMap (α : Type) where
  entries : List (String × α)
  distinct : (entries.map (·.1)).Nodup

namespace NameMap

variable {α : Type}

def empty : NameMap α := ⟨[], List.nodup_nil⟩

instance : Inhabited (NameMap α) := ⟨empty⟩

def insert (m : NameMap α) (name : String) (value : α) : NameMap α :=
  ⟨declare name value m.entries, nodup_names_declare m.distinct⟩

def isEmpty (m : NameMap α) : Bool := m.entries.isEmpty

end NameMap

end Scaffold
