import Scaffold.Disk.Path
/-!
# Disk.Basic — directories and files by location

A location is the list of names that lead from the root to a file or directory.  A disk holds one node at a location
or none, and the root is always a directory.  What a disk holds is what `Disk.at?` answers; how its nodes are listed
does not count.
-/
namespace Scaffold

/-- The names that lead from the root. -/
abbrev Location := List String

inductive Node where
  | directory
  | file (content : ByteArray)
  deriving BEq

/-- A disk, and the directory from which relative paths lead. -/
structure Disk where
  nodes : List (Location × Node) := []
  base : Location := []

theorem lookup_filter_self {κ α : Type} [BEq κ] [LawfulBEq κ] (key : κ) (entries : List (κ × α)) :
    (entries.filter (·.1 != key)).lookup key = none := by
  rw [List.lookup_eq_none_iff]
  intro entry hentry
  have hne : entry.1 ≠ key := by simpa using (List.mem_filter.1 hentry).2
  simpa using hne.symm

/-- Leaving out the entries of one key does not show at another. -/
theorem lookup_filter_of_ne {κ α : Type} [BEq κ] [LawfulBEq κ] {key other : κ} (h : other ≠ key)
    (entries : List (κ × α)) : (entries.filter (·.1 != key)).lookup other = entries.lookup other := by
  induction entries with
  | nil => rfl
  | cons entry rest ih =>
    by_cases hentry : entry.1 = key
    · have hne : (other == entry.1) = false := by simpa [hentry] using h
      rw [List.filter_cons_of_neg (by simp [hentry]), List.lookup_cons, hne]
      exact ih
    · rw [List.filter_cons_of_pos (by simpa using hentry), List.lookup_cons, List.lookup_cons, ih]

namespace Disk

def at? (d : Disk) (l : Location) : Option Node := if l = [] then some .directory else d.nodes.lookup l

def file? (d : Disk) (l : Location) : Option ByteArray :=
  match d.at? l with
  | some (.file content) => some content
  | _ => none

/-- The disk with a node at a location, in place of what stood there. -/
def put (d : Disk) (l : Location) (node : Node) : Disk :=
  { d with nodes := (l, node) :: d.nodes.filter (·.1 != l) }

/-- The disk without a location and all that lies below it. -/
def erase (d : Disk) (l : Location) : Disk := { d with nodes := d.nodes.filter (!l.isPrefixOf ·.1) }

def namesIn (d : Disk) (l : Location) : List String :=
  d.nodes.filterMap fun (location, _) =>
    match location.getLast? with
    | some name => if location = l ++ [name] then some name else none
    | none => none

theorem at?_put_self {d : Disk} {l : Location} {node : Node} (h : l ≠ []) : (d.put l node).at? l = some node := by
  simp [at?, put, h]

theorem at?_put_of_ne {d : Disk} {l m : Location} {node : Node} (h : m ≠ l) : (d.put l node).at? m = d.at? m := by
  have hm : (m == l) = false := by simpa using h
  simp [at?, put, List.lookup_cons, hm, lookup_filter_of_ne h]

theorem put_put (d : Disk) (l : Location) (a b : Node) : (d.put l a).put l b = d.put l b := by
  simp [put, List.filter_filter]

end Disk

end Scaffold
