import Scaffold.Probe
import Scaffold.Proofs.Disk.Names
import Scaffold.Proofs.Disk.Writing
import Scaffold.Proofs.Ledger.RoundTrip
/-!
# Proofs.Migration.Scan — what a scan of the migrations tells

A scan answers for the disk it looks at (`tableExists_ok`, `columnExists_ok`), and for a column only if that can be
looked for.  What it has found once it finds on every disk grown from there, as long as the spared file is none of the
migrations.
-/
namespace Scaffold

open Disk (Path Grows Placed IsName)

/-- What stands on the disk stands under names. -/
def Disk.Named (d : Disk) : Prop := ∀ l name, d.at? (l ++ [name]) ≠ none → IsName name

theorem Disk.Named.grows {d d' : Disk} {spared : Location} (h : d.Named) (hg : Grows spared d d') : d'.Named := by
  intro l name hl
  by_cases hnone : d.at? (l ++ [name]) = none
  · exact hg.named l name hnone hl
  · exact h l name hnone

theorem Disk.mem_nodes {d : Disk} {l : Location} {node : Node} (h : d.at? l = some node) (hl : l ≠ []) :
    (l, node) ∈ d.nodes := by
  unfold Disk.at? at h
  rw [if_neg hl] at h
  obtain ⟨front, back, hnodes, -⟩ := List.lookup_eq_some_iff.1 h
  rw [hnodes]
  exact List.mem_append_right _ List.mem_cons_self

theorem Disk.named_of_nodes {d : Disk} (h : ∀ entry ∈ d.nodes, ∀ name ∈ entry.1.getLast?, IsName name) : d.Named := by
  intro l name hthere
  obtain ⟨node, hnode⟩ := Option.ne_none_iff_exists'.1 hthere
  exact h _ (Disk.mem_nodes hnode (by simp)) name (by simp)

theorem Disk.Lists.isName {d : Disk} {p : Path} {name : String} (h : d.Lists p name) (hd : d.Named) : IsName name := by
  obtain ⟨here, -, hat, -⟩ := Disk.lists_iff.1 h
  exact hd here name hat

theorem Disk.Lists.file?_ne_none {d : Disk} {p : Path} {name : String} (h : d.Lists p name) (hd : d.Named) :
    d.file? (p.location d.base ++ [name]) ≠ none := by
  obtain ⟨content, hlook⟩ := Disk.isFile_iff.1 h.isFile
  have hthere := Disk.file?_eq_some.2 (Disk.at?_of_look_file hlook)
  rw [Path.location_join (h.isName hd)] at hthere
  rw [hthere]
  simp

namespace Migration

variable {d d' : Disk} {directory : Path}

theorem mem_namesIn {names : List String} (h : namesIn d directory = .ok names) {name : String} :
    name ∈ names ↔ d.Lists directory name := by
  unfold namesIn at h
  cases hf : d.fileNames directory with
  | ok found =>
    rw [hf] at h
    cases h
    exact Disk.mem_iff_lists hf
  | error f =>
    rw [hf] at h
    have hnone : ¬ d.Lists directory name := by
      rintro ⟨found, hfound, -⟩
      rw [hf] at hfound
      cases hfound
    cases f <;> cases h
    simp [hnone]

/-- A migration that creates the table is there. -/
def Created (d : Disk) (directory : Path) (table : String) : Prop :=
  ∃ name, d.Lists directory name ∧ bears name (createMarker table) = true

/-- A migration that creates or updates the table is there, and its text defines the column. -/
def Defined (d : Disk) (directory : Path) (table column : String) : Prop :=
  ∃ name, d.Lists directory name ∧ (bears name (createMarker table) = true ∨ bears name (updateMarker table) = true) ∧
    ∃ text, d.readText (directory.join ⟨name⟩) = .ok text ∧ definesColumn column.toList text.toList = true

/-- The column can be looked for, and a migration of its table defines it. -/
def Scanned (d : Disk) (directory : Path) (table column : String) : Prop :=
  isSearchable column = true ∧ Defined d directory table column

/-- **A scan says that a table exists if a migration creates it.** -/
theorem tableExists_ok {table : String} {known : Bool} (h : tableExists d directory table = .ok known) :
    known = true ↔ Created d directory table := by
  unfold tableExists at h
  obtain ⟨names, hnames, h⟩ := except_bind_ok.1 h
  cases h
  rw [List.any_eq_true]
  constructor
  · rintro ⟨name, hname, hbears⟩
    exact ⟨name, (mem_namesIn hnames).1 hname, hbears⟩
  · rintro ⟨name, hlists, hbears⟩
    exact ⟨name, (mem_namesIn hnames).2 hlists, hbears⟩

theorem tableExists_error {err : Error} (h : namesIn d directory = .error err) (table : String) :
    tableExists d directory table = .error err := except_bind_of_error h _

theorem anyDefines_of_error {name : String} {f : Disk.Fault} (h : d.readText (directory.join ⟨name⟩) = .error f)
    (column : String) (rest : List String) :
    anyDefines d directory column (name :: rest) = .error (.unreadable (directory.join ⟨name⟩) (.disk f)) := by
  conv =>
    lhs
    unfold anyDefines
    rw [h]

theorem anyDefines_of_ok {name text : String} (h : d.readText (directory.join ⟨name⟩) = .ok text) (column : String)
    (rest : List String) :
    anyDefines d directory column (name :: rest) =
      if definesColumn column.toList text.toList then .ok true else anyDefines d directory column rest := by
  conv =>
    lhs
    unfold anyDefines
    rw [h]

theorem anyDefines_ok {column : String} {names : List String} {known : Bool}
    (h : anyDefines d directory column names = .ok known) :
    known = true ↔ ∃ name ∈ names, ∃ text, d.readText (directory.join ⟨name⟩) = .ok text ∧
      definesColumn column.toList text.toList = true := by
  induction names with
  | nil =>
    cases h
    simp
  | cons name rest ih =>
    cases hr : d.readText (directory.join ⟨name⟩) with
    | error f =>
      rw [anyDefines_of_error hr] at h
      cases h
    | ok text =>
      rw [anyDefines_of_ok hr] at h
      split at h
      · rename_i hdefines
        cases h
        exact ⟨fun _ => ⟨name, List.mem_cons_self, text, hr, hdefines⟩, fun _ => rfl⟩
      · rename_i hnot
        rw [ih h]
        constructor
        · rintro ⟨other, hother, found⟩
          exact ⟨other, List.mem_cons_of_mem _ hother, found⟩
        · rintro ⟨other, hother, found, hread, hdefines⟩
          rcases List.mem_cons.1 hother with rfl | hother
          · rw [hr] at hread
            cases hread
            exact absurd hdefines hnot
          · exact ⟨other, hother, found, hread, hdefines⟩

/-- **A column can be looked for if its name has no more than so many bytes.** -/
theorem isSearchable_iff {column : String} : isSearchable column = true ↔ column.utf8ByteSize ≤ 326072 := by
  unfold isSearchable patternSize patternLimit
  rw [decide_eq_true_iff]
  omega

theorem columnExists_of_searchable {column : String} (h : isSearchable column = true) (d : Disk) (directory : Path)
    (table : String) : columnExists d directory table column = findColumn d directory table column := if_pos h

theorem columnExists_of_not_searchable {column : String} (h : isSearchable column = false) (d : Disk)
    (directory : Path) (table : String) :
    columnExists d directory table column = .error (.schema (.columnTooLong column patternLimit)) := by
  unfold columnExists
  rw [h]
  rfl

theorem searchable_of_columnExists {table column : String} {known : Bool}
    (h : columnExists d directory table column = .ok known) : isSearchable column = true := by
  cases hs : isSearchable column with
  | true => rfl
  | false =>
    rw [columnExists_of_not_searchable hs] at h
    cases h

theorem findColumn_ok {table column : String} {known : Bool}
    (h : findColumn d directory table column = .ok known) : known = true ↔ Defined d directory table column := by
  unfold findColumn at h
  obtain ⟨names, hnames, h⟩ := except_bind_ok.1 h
  rw [anyDefines_ok h]
  refine exists_congr (fun name => ?_)
  rw [List.mem_filter, mem_namesIn hnames, Bool.or_eq_true, and_assoc]

/-- **A scan says that a column exists if a migration of its table defines it.** -/
theorem columnExists_ok {table column : String} {known : Bool}
    (h : columnExists d directory table column = .ok known) : known = true ↔ Scanned d directory table column := by
  have hs := searchable_of_columnExists h
  rw [columnExists_of_searchable hs] at h
  exact (findColumn_ok h).trans ⟨fun hdefined => ⟨hs, hdefined⟩, And.right⟩

theorem anyDefines_total (column : String) {names : List String}
    (h : ∀ name ∈ names, ∃ text, d.readText (directory.join ⟨name⟩) = .ok text) :
    ∃ known, anyDefines d directory column names = .ok known := by
  induction names with
  | nil => exact ⟨false, rfl⟩
  | cons name rest ih =>
    obtain ⟨text, htext⟩ := h name List.mem_cons_self
    rw [anyDefines_of_ok htext]
    split
    · exact ⟨true, rfl⟩
    · exact ih (fun n hn => h n (List.mem_cons_of_mem _ hn))

theorem columnExists_total (table : String) {column : String} (hs : isSearchable column = true) {names : List String}
    (h : namesIn d directory = .ok names)
    (hread : ∀ name, d.Lists directory name → ∃ text, d.readText (directory.join ⟨name⟩) = .ok text) :
    ∃ known, columnExists d directory table column = .ok known := by
  rw [columnExists_of_searchable hs]
  obtain ⟨known, hknown⟩ := anyDefines_total column
    (fun name hn => hread name ((mem_namesIn h).1 (List.mem_filter.1 hn).1))
  exact ⟨known, except_bind_ok.2 ⟨names, h, hknown⟩⟩

/-! ## On a grown disk -/

theorem Created.grows {spared : Location} {table : String} (h : Created d directory table) (hg : Grows spared d d') :
    Created d' directory table := by
  obtain ⟨name, hlists, hbears⟩ := h
  exact ⟨name, hlists.grows hg, hbears⟩

/-- **A column that a migration defines stays defined**, unless that migration is the file that is spared. -/
theorem Defined.grows {spared : Location} {table column : String} (h : Defined d directory table column)
    (hd : d.Named) (hapart : ∀ name, directory.location d.base ++ [name] ≠ spared) (hg : Grows spared d d') :
    Defined d' directory table column := by
  obtain ⟨name, hlists, hbears, text, hread, hdefines⟩ := h
  refine ⟨name, hlists.grows hg, hbears, text, hg.readText hread ?_, hdefines⟩
  rw [Path.location_join (hlists.isName hd)]
  exact hapart name

/-- **A column that a scan found stays found.** -/
theorem Scanned.grows {spared : Location} {table column : String} (h : Scanned d directory table column)
    (hd : d.Named) (hapart : ∀ name, directory.location d.base ++ [name] ≠ spared) (hg : Grows spared d d') :
    Scanned d' directory table column := ⟨h.1, h.2.grows hd hapart hg⟩

/-- A migration that was placed is found, and its text is what was written. -/
theorem lists_of_placed {name text : String} (hname : IsName name) (hdirectory : directory.text ≠ "")
    (h : Placed (directory.join ⟨name⟩) text.toUTF8 d d') :
    d'.Lists directory name ∧ d'.readText (directory.join ⟨name⟩) = .ok text :=
  ⟨Disk.lists_of_look hname hdirectory h.look, Disk.readText_ok.2 ⟨_, h.look, fromUTF8?_toUTF8 text⟩⟩

end Migration

end Scaffold
