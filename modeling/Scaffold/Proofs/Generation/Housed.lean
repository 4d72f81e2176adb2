import Scaffold.Proofs.Disk.Directories
import Scaffold.Proofs.Layout.Standard
/-!
# Proofs.Generation.Housed — where a run makes directories

In the standard layout, the files of a project go to four homes below its root, and every directory that a run makes is
on the way to one of them: it is on the way to the root, or it is part of a home (`housed_of_run`).  A root may be
written in such a manner, as in `x/..`, that the way to it leads through places which are none of the homes.
-/
namespace Scaffold

open Disk (Path Housed MayHouse Houses IsName)

variable {p : Project} {d d₀ : Disk} {base : Location} {e : Entity} {home : List String}

/-- **An entity that no slash divides**, neither its own name nor that of its table. -/
structure Entity.Undivided (e : Entity) : Prop where
  name : '/' ∉ e.name.toList
  table : '/' ∉ e.tableName.toList

/-- The homes of the files of a project in the standard layout. -/
def Layout.homes : List (List String) :=
  [["database", "migrations"], ["database", ".yamavel"], ["app", "Models"], ["app", "Filament", "Resources"]]

theorem Layout.isName_of_home (h : home ∈ homes) : ∀ name ∈ home, IsName name := by
  refine isName_of_subset ?_
  revert home
  decide

/-- **A place on the way to the root of a project**: wherever the root can be walked to, a directory stands there. -/
def Project.OnTheWay (p : Project) (base l : Location) : Prop :=
  ∀ (d : Disk) (here : Location), d.base = base → d.walk p.root = .ok here → d.at? l = some .directory

/-- **Where there may be directories after a run**: where they were before, on the way to the root, and on the ways from
there to the homes. -/
def Project.Allows (p : Project) (d₀ : Disk) (l : Location) : Prop :=
  d₀.at? l = some .directory ∨ p.OnTheWay d₀.base l ∨
    ∃ home ∈ Layout.homes, ∃ parts, parts <+: home ∧ l = p.root.location d₀.base ++ parts

namespace Disk

theorem directory_of_enter {here there : Location} {name : String} (hname : IsName name)
    (h : d.enter here name = .ok there) : d.at? (here ++ [name]) = some .directory := by
  rw [enter_eq_lookIn hname.notDot hname.notUp] at h
  obtain ⟨found, hfound, h⟩ := except_bind_ok.1 h
  rw [(lookIn_ok.1 hfound).2]
  rcases found with _ | _ | _ <;> first | rfl | cases h

/-- **A directory that was made at the first steps of a path is on the way to it.** -/
theorem directory_of_walk {p : Path} {front more : List String} {name : String} {there : Location}
    (hname : IsName name) (hsteps : p.steps = front ++ [name] ++ more) (h : d.walk p = .ok there) :
    d.at? (front.foldl step (p.start d.base) ++ [name]) = some .directory := by
  unfold walk at h
  rw [hsteps, List.foldlM_append, List.foldlM_append] at h
  obtain ⟨next, h, -⟩ := except_bind_ok.1 h
  obtain ⟨here, hfront, h⟩ := except_bind_ok.1 h
  rw [List.foldlM_cons] at h
  obtain ⟨last, henter, -⟩ := except_bind_ok.1 h
  rw [← foldl_step_of_foldlM hfront]
  exact directory_of_enter hname henter

end Disk

/-- **A file in a home asks for no other directories than those that are allowed.** -/
theorem Project.mayHouse (p : Project) (d₀ : Disk) (hhome : home ∈ Layout.homes) {file : String} (hfile : IsName file) :
    ∀ q ∈ ((p.root.join ⟨"/".intercalate home⟩).join ⟨file⟩).parents, MayHouse d₀.base (p.Allows d₀) q := by
  intro q hq d here name slash hbase hfollow
  obtain ⟨first, rest, rfl⟩ : ∃ first rest, home = first :: rest := by
    refine List.exists_cons_of_ne_nil ?_
    rintro rfl
    revert hhome
    decide
  have hnames := Layout.isName_of_home hhome
  obtain ⟨habsolute, hprefix, hne⟩ := Path.steps_of_mem_parents hq
  obtain ⟨hsteps, habsolute'⟩ := Path.steps_join_names hnames p.root
  rw [Path.isAbsolute_join hfile, habsolute'] at habsolute
  rw [Path.steps_join hfile, hsteps] at hprefix hne
  obtain ⟨hlast, hhere⟩ := Disk.steps_of_follow hfollow
  have hstart : q.start d.base = p.root.start d.base := by
    unfold Path.start
    rw [habsolute]
  rw [hstart] at hhere
  have hshort : q.steps <+: p.root.steps ++ first :: rest := (List.prefix_concat_iff.1 hprefix).resolve_left hne
  -- The directory is on the way to the root, or behind it on the way to the home.
  rcases List.prefix_or_prefix_of_prefix hshort (List.prefix_append p.root.steps (first :: rest)) with
    ⟨more, hmore⟩ | ⟨parts, hparts⟩
  · rw [hlast] at hmore
    refine .inr (.inl fun d' there hbase' hwalk => ?_)
    have hdirectory := Disk.directory_of_walk (Disk.isName_of_follow hfollow) hmore.symm hwalk
    rw [hbase', ← hbase, ← hhere] at hdirectory
    exact hdirectory
  · rw [← hparts, List.prefix_append_right_inj] at hshort
    refine .inr (.inr ⟨first :: rest, hhome, parts, hshort, ?_⟩)
    have hlocation : here ++ [name] = q.location d.base := Disk.location_of_follow hfollow
    rw [hlocation]
    unfold Path.location
    rw [hstart, hbase, ← hparts, List.foldl_append,
      Disk.Path.foldl_step_names fun part hpart => hnames part (hshort.subset hpart)]

/-! ## Runs -/

namespace Generation

variable {ledgerPath : Path} {α : Type} {allowed : Location → Prop}

theorem keeps_ask {I : Workspace → Prop} {question : Workspace → Except Error α} : Keeps I (ask question) := by
  intro w hw
  unfold ask
  cases question w <;> exact hw

theorem keeps_housed_onDisk {path : Path} {action : Disk.Action α} (h : Houses base allowed action) :
    Keeps (fun w => Housed base allowed w.disk) (onDisk path action) := by
  intro w hw
  have hact := h w.disk hw
  unfold onDisk
  cases ha : action w.disk <;> rw [ha] at hact <;> exact hact

theorem keeps_housed_placeMigration {directory : Path} {kind : ArtifactKind} {table extension content : String}
    (h : ∀ at_, ∀ q ∈ (directory.join ⟨Migration.fileName kind (Calendar.stamp at_) table extension⟩).parents,
      MayHouse base allowed q) (tries : Nat) :
    Keeps (fun w => Housed base allowed w.disk) (placeMigration directory kind table extension content tries) := by
  induction tries with
  | zero => exact fun _ hw => hw
  | succ tries ih =>
    intro w hw
    cases hn : w.clock.next with
    | none =>
      rw [placeMigration_of_none hn]
      exact hw
    | some ticked =>
      obtain ⟨at_, c⟩ := ticked
      rw [placeMigration_of_some hn]
      refine keeps_bind (I := fun w => Housed base allowed w.disk)
        (keeps_housed_onDisk (Disk.houses_writeNew (h at_))) (fun outcome => ?_) { w with clock := c } hw
      cases outcome with
      | written => exact keeps_pure _ _
      | skipped => exact ih
      | collision => exact ih

theorem ledgerPath_standard (hp : p.layout = {}) :
    p.ledgerPath = (p.root.join ⟨"/".intercalate ["database", ".yamavel"]⟩).join ⟨"ledger.json"⟩ := by
  have hdatabase : IsName "database" := Layout.isName_parts _ (by decide)
  have hhidden : IsName ".yamavel" := Layout.isName_parts _ (by decide)
  unfold Project.ledgerPath Layout.ledgerIn
  rw [hp, Layout.ledger_standard, String.intercalate_cons_cons, String.intercalate_cons_cons,
    String.intercalate_cons_cons, String.intercalate_singleton, String.intercalate_singleton,
    Path.join_slash hdatabase (by decide), Path.join_slash hhidden (by decide), Path.join_slash hdatabase (by decide)]

theorem keeps_housed_migration (hp : p.layout = {}) (htable : '/' ∉ e.tableName.toList) :
    Keeps (fun w => Housed d₀.base (p.Allows d₀) w.disk) (migration p p.ledgerPath e) := by
  have hmigrations : p.directory = p.root.join ⟨"/".intercalate ["database", "migrations"]⟩ := by
    unfold Project.directory Layout.migrationsIn
    rw [hp, Layout.migrations_standard]
  have hledger : ∀ q ∈ p.ledgerPath.parents, MayHouse d₀.base (p.Allows d₀) q := by
    rw [ledgerPath_standard hp]
    exact p.mayHouse d₀ (by decide) (Layout.isName_parts _ (by decide))
  have hrecord : Keeps (fun w => Housed d₀.base (p.Allows d₀) w.disk) (recordWith p.tools p e) := by
    unfold recordWith
    refine keeps_bind keeps_ask ?_
    rintro ⟨kind, pending, template⟩
    refine keeps_bind (keeps_housed_placeMigration (fun at_ => ?_) attempts) ?_
    · rw [show p.layout.migrationsIn p.root = p.directory from rfl, hmigrations]
      exact p.mayHouse d₀ (by decide) (Migration.isName_fileName htable (by rw [hp]; decide) kind at_)
    · rintro ⟨path, name⟩
      exact keeps_bind (fun _ hw => hw) (fun _ => keeps_pure _ _)
  refine keeps_bind hrecord (fun artifact => keeps_bind (fun _ hw => hw) (fun w => ?_))
  exact keeps_bind (keeps_housed_onDisk (Disk.houses_provideParents_write hledger)) (fun _ => keeps_pure _ _)

theorem keeps_housed_classWith {kind : ArtifactKind} {text : Workspace → Except Error String} {path : Path}
    (h : ∀ q ∈ path.parents, MayHouse base allowed q) :
    Keeps (fun w => Housed base allowed w.disk) (classWith .never kind text e path) :=
  keeps_bind keeps_ask (fun _ => keeps_bind (keeps_housed_onDisk (Disk.houses_writeIfAbsent h)) (fun _ => keeps_pure _ _))

theorem keeps_housed_model (hp : p.layout = {}) (hname : '/' ∉ e.name.toList) :
    Keeps (fun w => Housed d₀.base (p.Allows d₀) w.disk) (model p e) := by
  refine keeps_housed_classWith ?_
  rw [modelPath_standard hp]
  exact p.mayHouse d₀ (by decide) (isName_modelFile hname)

theorem keeps_housed_resource (hp : p.layout = {}) (hname : '/' ∉ e.name.toList) :
    Keeps (fun w => Housed d₀.base (p.Allows d₀) w.disk) (resource p e) := by
  refine keeps_housed_classWith ?_
  rw [resourcePath_standard hp]
  exact p.mayHouse d₀ (by decide) (isName_resourceFile hname)

/-- **A run makes directories on the ways to the homes of its files**, however it ends. -/
theorem housed_of_run {s : Schema} (hp : p.layout = {}) (hs : ∀ e ∈ s.entities, e.Undivided) (w : Workspace) :
    Housed w.disk.base (p.Allows w.disk) (endState (run p s w)).disk := by
  have hstart : Housed w.disk.base (p.Allows w.disk) w.disk := ⟨rfl, fun l hl => .inl hl⟩
  have hrun := run_keeps (p := p) (s := s) (w := w) (I := fun w' => Housed w.disk.base (p.Allows w.disk) w'.disk)
    (fun l _ => hstart)
    (fun e he => entity_keeps (keeps_housed_migration hp (hs e he).table) (keeps_housed_model hp (hs e he).name)
      (keeps_housed_resource hp (hs e he).name))
  rcases hrun with ⟨err, herr⟩ | hend
  · rw [herr]
    exact hstart
  · exact hend

end Generation

end Scaffold
