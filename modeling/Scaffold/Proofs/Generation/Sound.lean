import Scaffold.Proofs.Generation.Tidy
import Scaffold.Proofs.Migration.Text
/-!
# Proofs.Generation.Sound — ledgers that tell nothing but what a scan finds

A ledger is sound when a scan finds every table that it records, and in the migrations every column.  With such a ledger
a plan is made from the scan alone if the columns can be looked for (`plan_of_sound`), and recording a migration that
was written keeps it sound (`sound_of_recorded`).
-/
namespace Scaffold

open Disk (Path Grows Placed Replaced AddsDirectories IsName)
open Migration (Created Defined Scanned ColumnDefinition isSearchable)

/-- **Everything that the ledger records is in the migrations.**  Below an empty path nothing is ever listed, and no
record counts. -/
def Ledger.Sound (l : Ledger) (d : Disk) (directory : Path) : Prop :=
  directory.text ≠ "" → ∀ table r, l.table? table = some r →
    Created d directory table ∧ ∀ column ∈ r.columns, Defined d directory table column

def Disk.Utf8 (d : Disk) (l : Location) : Prop :=
  ∀ name content, d.file? (l ++ [name]) = some content → ∃ text, String.fromUTF8? content = some text

/-- **An entity that a scan finds again**: no slash in its table, and the marker that is filled last in none of its
columns. -/
structure Entity.Plain (e : Entity) : Prop where
  table : '/' ∉ e.tableName.toList
  columns : ∀ name ∈ e.columns.entries.map (·.1), Text.occursIn (Template.marker "dropColumns") name.toList = false

/-- **An entity whose columns can all be looked for.** -/
def Entity.Searchable (e : Entity) : Prop := ∀ name ∈ e.columns.entries.map (·.1), isSearchable name = true

theorem not_lists_of_empty {d : Disk} {directory : Path} (h : directory.text = "") (name : String) :
    ¬ d.Lists directory name := by
  intro hlists
  obtain ⟨here, hreach, -⟩ := Disk.lists_iff.1 hlists
  have hfault := (Disk.reach_ok.1 hreach).1
  unfold Path.fault? at hfault
  rw [h] at hfault
  cases hfault

theorem Disk.utf8_of_nodes {d : Disk} {l : Location}
    (h : ∀ entry ∈ d.nodes, ∀ content, entry.2 = .file content → ∃ text, String.fromUTF8? content = some text) :
    d.Utf8 l := by
  intro name content hfile
  exact h _ (Disk.mem_nodes (Disk.file?_eq_some.1 hfile) (by simp)) content rfl

namespace Disk.Utf8

variable {d d' : Disk} {l : Location}

theorem adds (h : d.Utf8 l) (ha : AddsDirectories d d') : d'.Utf8 l := by
  intro name content hfile
  rw [ha.file?] at hfile
  exact h name content hfile

theorem placed {path : Path} {text : String} (h : d.Utf8 l) (hp : Placed path text.toUTF8 d d') : d'.Utf8 l := by
  intro name content hfile
  by_cases hl : l ++ [name] = path.location d.base
  · rw [hl, Disk.file?_eq_some.2 hp.there] at hfile
    cases hfile
    exact ⟨text, fromUTF8?_toUTF8 text⟩
  · rw [Disk.file?_elsewhere hp.elsewhere hl] at hfile
    exact h name content hfile

theorem replaced {path : Path} {content : ByteArray} (h : d.Utf8 l) (hp : Replaced path content d d')
    (hapart : ∀ name, l ++ [name] ≠ path.location d.base) : d'.Utf8 l := by
  intro name found hfile
  rw [Disk.file?_elsewhere hp.elsewhere (hapart name)] at hfile
  exact h name found hfile

theorem readable {directory : Path} (h : d.Utf8 (directory.location d.base)) (hd : d.Named) {name : String}
    (hl : d.Lists directory name) : ∃ text, d.readText (directory.join ⟨name⟩) = .ok text := by
  obtain ⟨content, hlook⟩ := Disk.isFile_iff.1 hl.isFile
  have hthere := Disk.file?_eq_some.2 (Disk.at?_of_look_file hlook)
  rw [Path.location_join (hl.isName hd)] at hthere
  obtain ⟨text, htext⟩ := h name content hthere
  exact ⟨text, Disk.readText_ok.2 ⟨content, hlook, htext⟩⟩

end Disk.Utf8

namespace Ledger

variable {l : Ledger} {d d' : Disk} {directory : Path} {table : String}

theorem sound_empty (d : Disk) (directory : Path) : empty.Sound d directory := by
  intro _ table r hr
  cases hr

theorem Sound.grows {spared : Location} (h : l.Sound d directory) (hd : d.Named)
    (hapart : ∀ name, directory.location d.base ++ [name] ≠ spared) (hg : Grows spared d d') :
    l.Sound d' directory := by
  intro hne table r hr
  obtain ⟨hcreated, hdefined⟩ := h hne table r hr
  exact ⟨hcreated.grows hg, fun column hc => (hdefined column hc).grows hd hapart hg⟩

/-- **With a sound ledger a table is known exactly if a scan finds it.** -/
theorem Sound.knownTable_iff (h : l.Sound d directory) :
    l.KnownTable d directory table ↔ Created d directory table := by
  constructor
  · rintro (⟨r, hr, name, -, hlists⟩ | hcreated)
    · by_cases hne : directory.text = ""
      · exact absurd hlists (not_lists_of_empty hne name)
      · exact (h hne table r hr).1
    · exact hcreated
  · exact .inr

/-- **With a sound ledger a column that can be looked for is known exactly if a scan finds it.** -/
theorem Sound.knownColumn_iff (h : l.Sound d directory) {column : String} (hs : isSearchable column = true) :
    l.KnownColumn d directory table column ↔ Scanned d directory table column := by
  constructor
  · rintro (⟨r, ⟨hr, name, -, hlists⟩, hc⟩ | hscanned)
    · by_cases hne : directory.text = ""
      · exact absurd hlists (not_lists_of_empty hne name)
      · exact ⟨hs, (h hne table r hr).2 column hc⟩
    · exact hscanned
  · exact .inr

/-! ## Questions that are answered -/

theorem namesIn_of_lists {name : String} (h : d.Lists directory name) :
    ∃ names, Migration.namesIn d directory = .ok names := by
  obtain ⟨names, hnames, -⟩ := h
  refine ⟨names, ?_⟩
  unfold Migration.namesIn
  rw [hnames]

theorem liveRecord_total (l : Ledger) (table : String) {names : List String}
    (h : Migration.namesIn d directory = .ok names) : ∃ found, l.liveRecord d directory table = .ok found := by
  unfold liveRecord
  cases l.table? table with
  | none => exact ⟨none, rfl⟩
  | some r => exact ⟨_, except_bind_ok.2 ⟨names, h, rfl⟩⟩

theorem tableExists_total (l : Ledger) (table : String) {names : List String}
    (h : Migration.namesIn d directory = .ok names) : ∃ known, l.tableExists d directory table = .ok known := by
  obtain ⟨found, hfound⟩ := liveRecord_total l table h
  cases found with
  | some r => exact ⟨true, except_bind_ok.2 ⟨_, hfound, rfl⟩⟩
  | none => exact ⟨_, except_bind_ok.2 ⟨_, hfound, except_bind_ok.2 ⟨names, h, rfl⟩⟩⟩

theorem tableExists_error (l : Ledger) (table : String) {err : Error} (h : Migration.namesIn d directory = .error err) :
    l.tableExists d directory table = .error err := by
  unfold tableExists liveRecord
  cases l.table? table with
  | none => exact Migration.tableExists_error h table
  | some r =>
    dsimp only
    rw [h]
    rfl

theorem liveRecord_of_live {r : TableRecord} (hr : l.Live d directory table r) :
    l.liveRecord d directory table = .ok (some r) := by
  obtain ⟨-, name, -, hlists⟩ := id hr
  obtain ⟨names, hnames⟩ := namesIn_of_lists hlists
  obtain ⟨found, hfound⟩ := liveRecord_total l table hnames
  rw [hfound, (liveRecord_ok hfound r).2 hr]

/-- **A table with a record that counts needs not be looked for**, -/
theorem tableExists_of_live {r : TableRecord} (hr : l.Live d directory table r) :
    l.tableExists d directory table = .ok true := except_bind_of_ok (liveRecord_of_live hr) _

/-- **and neither does a column that the record lists.** -/
theorem columnExists_of_recorded {r : TableRecord} {column : String} (hr : l.Live d directory table r)
    (hc : column ∈ r.columns) : l.columnExists d directory table column = .ok true := by
  unfold columnExists
  rw [except_bind_of_ok (liveRecord_of_live hr), if_pos (by simpa using hc)]
  rfl

theorem columnExists_total (l : Ledger) (table : String) {column : String} (hs : isSearchable column = true)
    {names : List String} (h : Migration.namesIn d directory = .ok names)
    (hread : ∀ name, d.Lists directory name → ∃ text, d.readText (directory.join ⟨name⟩) = .ok text) :
    ∃ known, l.columnExists d directory table column = .ok known := by
  obtain ⟨found, hfound⟩ := liveRecord_total l table h
  unfold columnExists
  by_cases hany : found.any (·.columns.contains column) = true
  · exact ⟨true, except_bind_ok.2 ⟨found, hfound, by rw [if_pos hany]; rfl⟩⟩
  · obtain ⟨known, hknown⟩ := Migration.columnExists_total table hs h hread
    exact ⟨known, except_bind_ok.2 ⟨found, hfound, by rw [if_neg hany]; exact hknown⟩⟩

theorem missingColumns_total {α : Type} (l : Ledger) (table : String) (nameOf : α → String) {names : List String}
    (h : Migration.namesIn d directory = .ok names)
    (hread : ∀ name, d.Lists directory name → ∃ text, d.readText (directory.join ⟨name⟩) = .ok text)
    {columns : List α} (hs : ∀ x ∈ columns, isSearchable (nameOf x) = true) :
    ∃ missing, l.missingColumns d directory table nameOf columns = .ok missing := by
  induction columns with
  | nil => exact ⟨[], rfl⟩
  | cons x rest ih =>
    obtain ⟨known, hknown⟩ := columnExists_total l table (hs x List.mem_cons_self) h hread
    obtain ⟨missing, hmissing⟩ := ih fun y hy => hs y (List.mem_cons_of_mem _ hy)
    exact ⟨_, except_bind_ok.2 ⟨known, hknown, except_bind_ok.2 ⟨missing, hmissing, rfl⟩⟩⟩

end Ledger

namespace Generation

variable {p : Project} {e : Entity} {w w' w₁ : Workspace} {a : Artifact}

theorem searchable_of_columns {columns : List ColumnDefinition} (he : e.Searchable)
    (h : (e.requiredColumns >>= Migration.resolve).mapError Error.problem = .ok columns) :
    ∀ x ∈ columns, isSearchable x.name = true := by
  intro x hx
  refine he x.name ?_
  rw [← names_of_columns h]
  exact List.mem_map_of_mem hx

/-! ## Plans -/

open Classical in
/-- The plan that a scan alone would make. -/
noncomputable def scannedPlan (d : Disk) (directory : Path) (table : String) (columns : List ColumnDefinition) :
    ArtifactKind × List ColumnDefinition :=
  if Created d directory table then
    (.updateMigration, columns.filter fun x => decide (¬ Scanned d directory table x.name))
  else (.createMigration, columns)

/-- **A sound ledger does not show in a plan**, if the columns can be looked for. -/
theorem plan_of_sound (hs : w.ledger.Sound w.disk p.directory) (hd : w.disk.Named)
    (hu : w.disk.Utf8 (p.directory.location w.disk.base)) (table : String) {columns : List ColumnDefinition}
    (hsearch : ∀ x ∈ columns, isSearchable x.name = true) :
    plan p table columns w =
      (Migration.namesIn w.disk p.directory).map fun _ => scannedPlan w.disk p.directory table columns := by
  classical
  cases hnames : Migration.namesIn w.disk p.directory with
  | error err =>
    show (w.ledger.tableExists w.disk p.directory table >>= _) = .error err
    rw [Ledger.tableExists_error w.ledger table hnames]
    rfl
  | ok names =>
    show plan p table columns w = .ok (scannedPlan w.disk p.directory table columns)
    have hread : ∀ name, w.disk.Lists p.directory name → ∃ text, w.disk.readText (p.directory.join ⟨name⟩) = .ok text :=
      fun name hl => hu.readable hd hl
    obtain ⟨known, hknown⟩ := Ledger.tableExists_total w.ledger table hnames
    have hcreated := (Ledger.tableExists_ok hknown).trans hs.knownTable_iff
    unfold scannedPlan
    cases known with
    | true =>
      obtain ⟨missing, hmissing⟩ :=
        Ledger.missingColumns_total w.ledger table ColumnDefinition.name hnames hread hsearch
      have hpending := Ledger.missingColumns_ok hmissing
        (fun x => decide (¬ Scanned w.disk p.directory table x.name))
        (fun x hx => by rw [decide_eq_true_iff, hs.knownColumn_iff (hsearch x hx)])
      rw [if_pos (hcreated.1 rfl), ← hpending]
      exact except_bind_ok.2 ⟨true, hknown, except_bind_ok.2 ⟨missing, hmissing, rfl⟩⟩
    | false =>
      have hnot : ¬ Created w.disk p.directory table := fun h => by cases hcreated.2 h
      rw [if_neg hnot]
      exact except_bind_ok.2 ⟨false, hknown, rfl⟩

/-! ## Recording -/

/-- **A migration that was written defines its columns.** -/
theorem defined_of_recorded {kind : ArtifactKind} {pending : List ColumnDefinition} {template name : String}
    (h : Recorded p e kind pending template name w w₁) (hp : p.Tidy w.disk.base) (he : e.Plain)
    (hdirectory : p.directory.text ≠ "") {x : ColumnDefinition} (hx : x ∈ pending) :
    Defined w₁.disk p.directory e.tableName x.name := by
  obtain ⟨hlists, hread⟩ := h.found hp he.table hdirectory
  have hbears := h.bears
  obtain ⟨columns, hcolumns, hplan, -⟩ := settle_ok.1 h.settled
  have hmarker : Text.occursIn (Template.marker "dropColumns") x.name.toList = false := by
    refine he.columns x.name ?_
    rw [← names_of_columns hcolumns]
    exact List.mem_map_of_mem ((mem_pending_iff hplan).1 hx).1
  refine ⟨name, hlists, ?_, _, hread, Migration.definesColumn_migrationText h.isMigration _ hx hmarker⟩
  cases kind with
  | updateMigration => exact .inr hbears
  | createMigration => exact .inl hbears
  | model => exact .inl hbears
  | resource => exact .inl hbears

/-- **A migration that is written and recorded keeps the ledger sound**: its text defines the columns. -/
theorem sound_of_recorded {kind : ArtifactKind} {pending : List ColumnDefinition} {template name : String}
    (h : Recorded p e kind pending template name w w₁) (hp : p.Tidy w.disk.base) (hd : w.disk.Named) (he : e.Plain)
    (hs : w.ledger.Sound w.disk p.directory) : w₁.ledger.Sound w₁.disk p.directory := by
  intro hne table r hr
  have hlists := h.lists hp.extension he.table hne
  have hbears := h.bears
  have hg := grows_of_recorded h (p.ledgerLocation w.disk.base)
  have hold := hs.grows hd hp.apart hg
  obtain ⟨columns, -, hplan, -⟩ := settle_ok.1 h.settled
  have hdefined : ∀ x ∈ pending, Defined w₁.disk p.directory e.tableName x.name :=
    fun x hx => defined_of_recorded h hp he hne hx
  rw [h.ledger] at hr
  by_cases htable : table = e.tableName
  · subst htable
    rw [table?_recordMigration_self, Option.some.injEq] at hr
    subst hr
    -- An update keeps what its record had, and a creation begins a new one.
    rcases plan_ok hplan with ⟨rfl, hknown, -⟩ | ⟨rfl, -, rfl⟩
    · refine ⟨(hs.knownTable_iff.1 hknown).grows hg, fun column hc => ?_⟩
      rcases TableRecord.mem_foldl_addColumn.1 hc with hpast | hnew
      · cases hfound : w.ledger.table? e.tableName with
        | none =>
          unfold past at hpast
          rw [if_neg (by decide), hfound] at hpast
          cases hpast
        | some before =>
          rw [past_update hfound] at hpast
          exact ((hs hne _ before hfound).2 column hpast).grows hd hp.apart hg
      · obtain ⟨x, hx, rfl⟩ := List.mem_map.1 hnew
        exact hdefined x hx
    · refine ⟨⟨name, hlists, hbears⟩, fun column hc => ?_⟩
      rcases TableRecord.mem_foldl_addColumn.1 hc with hpast | hnew
      · cases hpast
      · obtain ⟨x, hx, rfl⟩ := List.mem_map.1 hnew
        exact hdefined x hx
  · rw [table?_recordMigration_of_ne htable] at hr
    exact hold hne table r hr

end Generation

end Scaffold
