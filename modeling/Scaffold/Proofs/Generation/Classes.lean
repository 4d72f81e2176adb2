import Scaffold.Proofs.Generation.Housed
import Scaffold.Proofs.Generation.Reported
/-!
# Proofs.Generation.Classes — what becomes of the classes of an entity

A class is written where nothing stands and left out elsewhere.  In the standard layout nothing that a run writes for
one entity stands in the place of a class of another (`artifact_of_location`), and the directories that a run makes
stand there only if the way to the project's root leads through that place (`Handled.eq_classAt`).  So what becomes of a
class is read off the disk before the run (`Project.classAt`).
-/
namespace Scaffold

open Disk (Path Grows Housed IsName)

variable {p : Project} {d d' : Disk} {base : Location} {home : List String}

open Classical in
/-- **What becomes of a class** that goes to a place, and what stands there in the end: the class is left out where the
way to the project leads through or anything stood before the run, and is written elsewhere. -/
noncomputable def Project.classAt (p : Project) (d : Disk) (l : Location) (text : String) : Disk.Outcome × Node :=
  if p.OnTheWay d.base l then (.skipped, .directory)
  else match d.at? l with
    | some node => (.skipped, node)
    | none => (.written, .file text.toUTF8)

/-- **A schema whose entities can be told apart**: no two share a name or a table, and no slash divides either. -/
structure Schema.Distinct (s : Schema) : Prop where
  undivided : ∀ e ∈ s.entities, e.Undivided
  names : (s.entities.map (·.name)).Nodup
  tables : (s.entities.map (·.tableName)).Nodup

theorem Schema.Distinct.perm {s s' : Schema} (h : s.Distinct) (hperm : s.entities.Perm s'.entities) : s'.Distinct :=
  ⟨fun e he => h.undivided e (hperm.symm.subset he), (hperm.map _).nodup_iff.1 h.names,
    (hperm.map _).nodup_iff.1 h.tables⟩

theorem Disk.walk_of_join {q : Path} {first : String} {rest : List String} {here : Location}
    (hnames : ∀ name ∈ first :: rest, IsName name)
    (h : d.walk (q.join ⟨"/".intercalate (first :: rest)⟩) = .ok here) : ∃ there, d.walk q = .ok there := by
  obtain ⟨hsteps, habsolute⟩ := Path.steps_join_names hnames q
  unfold walk Path.start at h
  rw [hsteps, habsolute, List.foldlM_append] at h
  obtain ⟨there, hthere, -⟩ := except_bind_ok.1 h
  exact ⟨there, hthere⟩

namespace Generation

variable {e f : Entity} {w w' : Workspace} {a b : Artifact} {here there artifacts : List Artifact}
  {q : Path} {name text : String} {outcome : Disk.Outcome} {node : Node} {parts : String × String × String}

/-- **No class goes to a place on the way to a home**, for it goes into one. -/
theorem location_ne_home (hp : p.layout = {}) (he : e.Undivided) {ways : List String} (hhome : home ∈ Layout.homes)
    (hways : ways <+: home) (base : Location) : (modelPath p e).location base ≠ p.root.location base ++ ways ∧
      (resourcePath p e).location base ≠ p.root.location base ++ ways := by
  rw [location_modelPath hp (isName_modelFile he.name), location_resourcePath hp (isName_resourceFile he.name), ne_eq,
    ne_eq, List.append_cancel_left_eq, List.append_cancel_left_eq]
  constructor
  all_goals
    rintro rfl
    simp only [Layout.homes, List.mem_cons, List.not_mem_nil, or_false] at hhome
    rcases hhome with rfl | rfl | rfl | rfl <;> simp [List.cons_prefix_cons] at hways

/-! ## What a class says -/

def modelText (e : Entity) (parts : String × String × String) : String :=
  Template.fill (Template.builtin .model) [("model", e.name), ("table", e.tableName), ("fillable", parts.1),
    ("hidden", parts.2.1), ("relations", parts.2.2)]

def resourceText (e : Entity) : String :=
  Template.fill (Template.builtin .resource) [("model", e.name), ("formFields", Resource.formFields e.formFields),
    ("tableColumns", Resource.tableColumns e.tableColumns)]

/-! ## What is done about a class -/

/-- **A class is handled between two disks**: in the end something is at its path, and if it was written, that is its
text, and nothing stood there in the beginning. -/
structure Handled (spared : Location) (path : Path) (text : String) (d d' : Disk) (outcome : Disk.Outcome) : Prop where
  grows : Grows spared d d'
  occupied : d'.occupied path = true
  outcome : outcome = .skipped ∨ outcome = .written ∧ d.at? (path.location d.base) = none ∧
    d'.look path = .ok (.file text.toUTF8)

theorem handled_of_writeClass {kind : ArtifactKind} {path : Path}
    (h : writeClassWith .never kind e path text w = .ok a w') (spared : Location) :
    ∃ outcome, a = ⟨e.name, kind, path, outcome⟩ ∧ Handled spared path text w.disk w'.disk outcome := by
  unfold writeClassWith at h
  rcases Disk.writeIfAbsentWith_cases .never path text.toUTF8 w.disk with
    ⟨d, hw, hplaced⟩ | ⟨d, hw, hadds, hocc⟩ | ⟨f, d, hw, hadds⟩ | ⟨broken, d, hnever, -⟩
  · rw [bind_of_ok (onDisk_of_ok hw)] at h
    cases h
    exact ⟨_, rfl, hplaced.grows _, Disk.occupied_iff.2 ⟨_, hplaced.look⟩, .inr ⟨rfl, hplaced.free, hplaced.look⟩⟩
  · rw [bind_of_ok (onDisk_of_ok hw)] at h
    cases h
    exact ⟨_, rfl, hadds.grows _, hocc, .inl rfl⟩
  · rw [bind_of_error (onDisk_of_error hw)] at h
    cases h
  · cases hnever

/-- A class that goes through is handled with the text that was looked up for it. -/
theorem handled_of_classWith {kind : ArtifactKind} {render : Workspace → Except Error String} {path : Path}
    (h : classWith .never kind render e path w = .ok a w') (spared : Location) :
    ∃ text, render w = .ok text ∧ ∃ outcome, a = ⟨e.name, kind, path, outcome⟩ ∧
      Handled spared path text w.disk w'.disk outcome := by
  cases htext : render w with
  | error err =>
    rw [classWith_of_error htext] at h
    cases h
  | ok text =>
    rw [classWith_of_ok htext] at h
    exact ⟨text, rfl, handled_of_writeClass h spared⟩

theorem handled_of_model (hp : p.Tidy base) (h : model p e w = .ok a w') (spared : Location) :
    ∃ parts, modelParts e = .ok parts ∧ ∃ outcome, a = ⟨e.name, .model, modelPath p e, outcome⟩ ∧
      Handled spared (modelPath p e) (modelText e parts) w.disk w'.disk outcome := by
  obtain ⟨text, htext, handled⟩ := handled_of_classWith h spared
  obtain ⟨parts, hparts, htext⟩ := except_bind_ok.1 htext
  obtain ⟨template, hload, htext⟩ := except_bind_ok.1 htext
  rw [show Template.load w.disk p.tools.stubs .model = _ from load_of_tidy hp w.disk .model] at hload
  obtain rfl := Except.ok.inj hload
  obtain rfl := Except.ok.inj htext
  exact ⟨parts, mapError_ok.1 hparts, handled⟩

theorem handled_of_resource (hp : p.Tidy base) (h : resource p e w = .ok a w') (spared : Location) :
    ∃ outcome, a = ⟨e.name, .resource, resourcePath p e, outcome⟩ ∧
      Handled spared (resourcePath p e) (resourceText e) w.disk w'.disk outcome := by
  obtain ⟨text, htext, handled⟩ := handled_of_classWith h spared
  obtain ⟨template, hload, htext⟩ := except_bind_ok.1 htext
  rw [show Template.load w.disk p.tools.stubs .resource = _ from load_of_tidy hp w.disk .resource] at hload
  obtain rfl := Except.ok.inj hload
  obtain rfl := Except.ok.inj htext
  exact handled

/-- **What is handled on a disk in between is handled from the first to the last.** -/
theorem Handled.between {spared : Location} {d₁ d₂ : Disk} (h : Handled spared q text d₁ d₂ outcome)
    (hbefore : Grows spared d d₁) (hafter : Grows spared d₂ d') (hne : q.location d.base ≠ spared) :
    Handled spared q text d d' outcome := by
  refine ⟨(hbefore.trans h.grows).trans hafter, hafter.occupied h.occupied, ?_⟩
  rcases h.outcome with hskipped | ⟨hwritten, hfree, hlook⟩
  · exact .inl hskipped
  · rw [hbefore.base] at hfree
    obtain ⟨content, hlook', hsame⟩ := hafter.look_file hlook
    rw [h.grows.base, hbefore.base] at hsame
    rw [hsame hne] at hlook'
    exact .inr ⟨hwritten, hbefore.at?_none hfree, hlook'⟩

namespace Handled

variable {spared : Location} {path : Path}

/-- Where something stood in the beginning, the class was left out, and the same stands there in the end. -/
theorem of_occupied (h : Handled spared path text d d' outcome) (hne : path.location d.base ≠ spared)
    (hat : d.at? (path.location d.base) = some node) :
    outcome = .skipped ∧ d'.at? (path.location d.base) = some node := by
  constructor
  · rcases h.outcome with hskipped | ⟨-, hfree, -⟩
    · exact hskipped
    · rw [hat] at hfree
      cases hfree
  · cases node with
    | directory => exact h.grows.directory _ hat
    | file content =>
      obtain ⟨content', hat', hkept⟩ := h.grows.file _ content hat
      rw [hat', hkept hne]

theorem of_directory (h : Handled spared path text d d' outcome) (hlook : d'.look path = .ok .directory) :
    outcome = .skipped := by
  rcases h.outcome with hskipped | ⟨-, -, hwritten⟩
  · exact hskipped
  · rw [hlook] at hwritten
    cases hwritten

theorem of_written (h : Handled spared path text d d' .written) (hlook : d'.look path = .ok node) :
    node = .file text.toUTF8 := by
  rcases h.outcome with hskipped | ⟨-, -, hwritten⟩
  · cases hskipped
  · rw [hlook] at hwritten
    exact Except.ok.inj hwritten

/-- **What becomes of a class is read off the disk before the run.** -/
theorem eq_classAt (h : Handled spared path text d d' outcome) (hpath : path = q.join ⟨name⟩) (hname : IsName name)
    (hlook : d'.look path = .ok node) (hne : path.location d.base ≠ spared)
    (hroot : ∃ here, d'.walk p.root = .ok here) (hhoused : Housed d.base (p.Allows d) d')
    (haway : ∀ home ∈ Layout.homes, ∀ ways, ways <+: home →
      path.location d.base ≠ p.root.location d.base ++ ways)
    (hnew : d.file? (path.location d.base) = none → d'.file? (path.location d.base) ≠ none → outcome = .written) :
    (outcome, node) = p.classAt d (path.location d.base) text := by
  have hbase := h.grows.base
  have hthere : d'.at? (path.location d.base) = some node := by
    rw [hpath, ← hbase]
    exact Disk.at?_of_look_join hname (hpath ▸ hlook)
  unfold Project.classAt
  by_cases hway : p.OnTheWay d.base (path.location d.base)
  · obtain ⟨here, hwalk⟩ := hroot
    have hdirectory := hway d' here hbase hwalk
    rw [hthere] at hdirectory
    cases hdirectory
    rw [if_pos hway, h.of_directory hlook]
  · rw [if_neg hway]
    cases hat : d.at? (path.location d.base) with
    | some found =>
      obtain ⟨hskipped, hsame⟩ := h.of_occupied hne hat
      rw [hthere] at hsame
      cases hsame
      rw [hskipped]
    | none =>
      cases node with
      -- A directory that is new stands on the way to the root or to a home, and a class does not.
      | directory =>
        rcases hhoused.directory _ hthere with hold | hnew | ⟨home, hhome, ways, hways, heq⟩
        · rw [hat] at hold
          cases hold
        · exact absurd hnew hway
        · exact absurd heq (haway home hhome ways hways)
      | file content =>
        have hwritten := hnew (by unfold Disk.file?; rw [hat]) (by rw [Disk.file?_eq_some.2 hthere]; simp)
        subst hwritten
        rw [h.of_written hlook]

end Handled

/-! ## Shares -/

/-- **An artifact is a migration, the model or the admin resource of its entity**, each in a place of its own. -/
theorem Triple.cases (h : Triple p e here) (hp : p.layout = {}) (he : e.Undivided) (ha : a ∈ here) (base : Location) :
    a.entity = e.name ∧
      ((a.kind.isMigration = true ∧
          ∃ name, a.location base = p.root.location base ++ ["database", "migrations", name]) ∨
        (a.kind = .model ∧ a.location base = p.root.location base ++ ["app", "Models", e.name ++ ".php"]) ∨
        a.kind = .resource ∧ a.location base =
          p.root.location base ++ ["app", "Filament", "Resources", e.name ++ "Resource" ++ ".php"]) := by
  obtain @⟨kind, at_, m, r, hkind, -, -⟩ := h
  rw [List.mem_cons, List.mem_pair] at ha
  rcases ha with rfl | rfl | rfl
  · generalize hname : Migration.fileName kind (Calendar.stamp at_) e.tableName p.layout.extension = name
    have hnamed : IsName name := by
      rw [← hname]
      exact Migration.isName_fileName he.table (Project.tidy_standard hp base).extension kind at_
    refine ⟨rfl, .inl ⟨isMigration_iff.2 hkind, name, ?_⟩⟩
    show (p.directory.join ⟨name⟩).location base = _
    rw [Path.location_join hnamed, Project.location_directory hp, List.append_assoc]
    rfl
  · exact ⟨rfl, .inr (.inl ⟨rfl, location_modelPath hp (isName_modelFile he.name) base⟩)⟩
  · exact ⟨rfl, .inr (.inr ⟨rfl, location_resourcePath hp (isName_resourceFile he.name) base⟩)⟩

/-- **Whatever stands in the place of a class of an entity is that class.** -/
theorem artifact_of_location (hp : p.layout = {}) (hf : f.Undivided) (he : e.Undivided) (h : Triple p f here)
    (h' : Triple p e there) (ha : a ∈ here) (hb : b ∈ there) (hclass : b.kind.isMigration = false)
    (heq : a.location base = b.location base) : a.kind = b.kind ∧ a.entity = b.entity := by
  obtain ⟨haentity, hacases⟩ := h.cases hp hf ha base
  obtain ⟨hbentity, hbcases⟩ := h'.cases hp he hb base
  rw [haentity, hbentity]
  rcases hbcases with ⟨hkind, -⟩ | ⟨hbkind, hbplace⟩ | ⟨hbkind, hbplace⟩
  · rw [hclass] at hkind
    cases hkind
  all_goals
    rw [hbplace] at heq
    rcases hacases with ⟨-, name, haplace⟩ | ⟨hakind, haplace⟩ | ⟨hakind, haplace⟩
    all_goals
      rw [haplace, List.append_cancel_left_eq] at heq
      simp only [List.cons.injEq, String.append_left_inj, String.reduceEq, List.cons_ne_self, List.ne_cons_self,
        and_true, true_and, and_false, false_and] at heq
  · exact ⟨hakind.trans hbkind.symm, heq⟩
  · exact ⟨hakind.trans hbkind.symm, heq⟩

namespace Triple

theorem eq_of_kind (h : Triple p e here) (ha : a ∈ here) (hb : b ∈ here) (hclass : b.kind.isMigration = false)
    (hkind : a.kind = b.kind) : a = b := by
  obtain ⟨hmigration, -, -⟩ := h
  rw [List.mem_cons, List.mem_pair] at ha hb
  rcases ha with rfl | rfl | rfl
  · rw [← hkind, isMigration_iff.2 hmigration] at hclass
    cases hclass
  all_goals
    rcases hb with rfl | rfl | rfl
    · rw [isMigration_iff.2 hmigration] at hclass
      cases hclass
    all_goals
      first | rfl | cases hkind

theorem eq_migration (h : Triple p e here) (ha : a ∈ here) (hkind : a.kind.isMigration = true) :
    ∃ at_, a = ⟨e.name, a.kind,
      p.directory.join ⟨Migration.fileName a.kind (Calendar.stamp at_) e.tableName p.layout.extension⟩, .written⟩ := by
  obtain @⟨kind, at_, m, r, -, -, -⟩ := h
  rw [List.mem_cons, List.mem_pair] at ha
  rcases ha with rfl | rfl | rfl
  · exact ⟨at_, rfl⟩
  · cases hkind
  · cases hkind

theorem ne_ledger (h : Triple p e here) (hp : p.layout = {}) (he : e.Undivided) (hb : b ∈ here)
    (hclass : b.kind.isMigration = false) (base : Location) : b.location base ≠ p.ledgerLocation base := by
  obtain ⟨-, hcases⟩ := h.cases hp he hb base
  rw [Project.location_ledger hp]
  rcases hcases with ⟨hkind, -⟩ | ⟨-, hplace⟩ | ⟨-, hplace⟩
  · rw [hclass] at hkind
    cases hkind
  all_goals
    rw [hplace, ne_eq, List.append_cancel_left_eq]
    simp

end Triple

/-- **The part of a report that is about an entity** is its share, for no other is about an entity of its name. -/
theorem filter_flatten {R : Entity → List Artifact → Prop} {es : List Entity} {shares : List (List Artifact)}
    (h : List.Forall₂ R es shares) (hentity : ∀ e here, R e here → ∀ a ∈ here, a.entity = e.name)
    (hnames : (es.map (·.name)).Nodup) (he : e ∈ es) :
    R e (shares.flatten.filter (·.entity == e.name)) := by
  induction h with
  | nil => cases he
  | @cons f first rest shares hfirst hrest ih =>
    rw [List.map_cons, List.nodup_cons] at hnames
    rw [List.flatten_cons, List.filter_append]
    rcases List.mem_cons.1 he with rfl | he
    · have hself : first.filter (·.entity == e.name) = first :=
        List.filter_eq_self.2 fun a ha => beq_iff_eq.2 (hentity e first hfirst a ha)
      have hothers : shares.flatten.filter (·.entity == e.name) = [] := by
        refine List.filter_eq_nil_iff.2 fun a ha hsame => ?_
        obtain ⟨here, hhere, ha⟩ := List.mem_flatten.1 ha
        obtain ⟨f, hf, hshare⟩ := exists_of_mem_right hrest hhere
        rw [beq_iff_eq, hentity f here hshare a ha] at hsame
        exact hnames.1 (hsame ▸ List.mem_map_of_mem hf)
      rw [hself, hothers, List.append_nil]
      exact hfirst
    · have hother : first.filter (·.entity == e.name) = [] := by
        refine List.filter_eq_nil_iff.2 fun a ha hsame => ?_
        rw [beq_iff_eq, hentity f first hfirst a ha] at hsame
        exact hnames.1 (hsame ▸ List.mem_map_of_mem he)
      rw [hother, List.nil_append]
      exact ih hnames.2 he

theorem Triple.entity (h : Triple p e here) : ∀ a ∈ here, a.entity = e.name := by
  obtain ⟨-, -, -⟩ := h
  simp

/-! ## Runs -/

variable {es : List Entity}

theorem Share.triple (h : Share p p.ledgerPath w w' e here) : Triple p e here := by
  obtain ⟨v, v', -, hentity, -⟩ := h
  exact triple_of_entity hentity

theorem share_of_entity (h : entities p p.ledgerPath es w = .ok artifacts w') (hnames : (es.map (·.name)).Nodup)
    (he : e ∈ es) : Share p p.ledgerPath w w' e (artifacts.filter (·.entity == e.name)) := by
  obtain ⟨shares, hshares, rfl⟩ := shares_of_entities h
  exact filter_flatten hshares (fun f here hshare => hshare.triple.entity) hnames he

/-- **Where a class belongs and a file is new, the class was written.** -/
theorem written_of_new (h : entities p p.ledgerPath es w = .ok artifacts w') (hp : p.layout = {})
    (hes : ∀ e ∈ es, e.Undivided) (hnames : (es.map (·.name)).Nodup) (he : e ∈ es)
    (hb : b ∈ artifacts.filter (·.entity == e.name)) (hclass : b.kind.isMigration = false)
    (hfree : w.disk.file? (b.location w.disk.base) = none)
    (hthere : w'.disk.file? (b.location w.disk.base) ≠ none) : b.outcome = .written := by
  have htriple := (share_of_entity h hnames he).triple
  obtain ⟨shares, hshares, rfl⟩ := shares_of_entities h
  rcases (files_of_chain (chain_of_entities h) _).1 hthere with hold | ⟨a, ha, hwritten, heq⟩ | ⟨hledger, -⟩
  · exact absurd hfree hold
  · obtain ⟨here, hhere, hain⟩ := List.mem_flatten.1 ha
    obtain ⟨f, hf, hshare⟩ := exists_of_mem_right hshares hhere
    obtain ⟨hkind, hentity⟩ :=
      artifact_of_location hp (hes f hf) (hes e he) hshare.triple htriple hain hb hclass heq
    have hamem : a ∈ shares.flatten.filter (·.entity == e.name) :=
      List.mem_filter.2 ⟨ha, beq_iff_eq.2 (hentity.trans (htriple.entity b hb))⟩
    rw [← htriple.eq_of_kind hamem hb hclass hkind]
    exact hwritten
  · exact absurd hledger (htriple.ne_ledger hp (hes e he) hb hclass _)

/-- **Where a migration stands, the root of the project can be walked to.** -/
theorem walk_root (hp : p.layout = {}) (hname : IsName name) (h : d.isFile (p.directory.join ⟨name⟩) = true) :
    ∃ there, d.walk p.root = .ok there := by
  obtain ⟨content, hlook⟩ := Disk.isFile_iff.1 h
  obtain ⟨t, hfollow, -⟩ := Disk.look_ok.1 hlook
  obtain ⟨-, here, hwalk, -⟩ := Disk.follow_join_ok hname hfollow
  unfold Project.directory Layout.migrationsIn at hwalk
  rw [hp, Layout.migrations_standard] at hwalk
  exact Disk.walk_of_join (Layout.isName_of_subset (by decide)) hwalk

theorem Triple.exists_migration (h : Triple p e here) (hp : p.layout = {}) (he : e.Undivided) :
    ∃ a ∈ here, a.outcome = .written ∧ ∃ name, IsName name ∧ a.path = p.directory.join ⟨name⟩ := by
  obtain @⟨kind, at_, m, r, -, -, -⟩ := h
  have hname := Migration.isName_fileName he.table (Project.tidy_standard hp []).extension kind at_
  generalize Migration.fileName kind (Calendar.stamp at_) e.tableName p.layout.extension = name at hname
  exact ⟨_, List.mem_cons_self, rfl, name, hname, rfl⟩

theorem walk_root_of_entities (h : entities p p.ledgerPath es w = .ok artifacts w') (hp : p.layout = {})
    (hes : ∀ e ∈ es, e.Undivided) (hnames : (es.map (·.name)).Nodup) (he : e ∈ es) :
    ∃ there, w'.disk.walk p.root = .ok there := by
  obtain ⟨a, ha, hwritten, name, hname, hpath⟩ := (share_of_entity h hnames he).triple.exists_migration hp (hes e he)
  have hfile := ((written_of_chain (chain_of_entities h)).2 a (List.mem_of_mem_filter ha) hwritten).2
  rw [hpath] at hfile
  exact walk_root hp hname hfile

/-- **What is reported of a class that a run has handled, and what is at its path in the end**, is read off the disk in
the beginning. -/
theorem class_of_entities {kind : ArtifactKind} {path : Path} (h : entities p p.ledgerPath es w = .ok artifacts w')
    (hp : p.layout = {}) (hes : ∀ e ∈ es, e.Undivided) (hnames : (es.map (·.name)).Nodup) (he : e ∈ es)
    (hhoused : Housed w.disk.base (p.Allows w.disk) w'.disk)
    (hb : ⟨e.name, kind, path, outcome⟩ ∈ artifacts.filter (·.entity == e.name)) (hclass : kind.isMigration = false)
    (hhandled : Handled (p.ledgerLocation w.disk.base) path text w.disk w'.disk outcome)
    (hpath : path = q.join ⟨name⟩) (hname : IsName name)
    (haway : ∀ home ∈ Layout.homes, ∀ ways, ways <+: home →
      path.location w.disk.base ≠ p.root.location w.disk.base ++ ways) :
    outcome = (p.classAt w.disk (path.location w.disk.base) text).1 ∧
      w'.disk.look path = .ok (p.classAt w.disk (path.location w.disk.base) text).2 := by
  have hplace := (share_of_entity h hnames he).triple.ne_ledger hp (hes e he) hb hclass w.disk.base
  have hnew := written_of_new h hp hes hnames he hb hclass
  obtain ⟨node, hlook⟩ := Disk.occupied_iff.1 hhandled.occupied
  rw [← hhandled.eq_classAt hpath hname hlook hplace (walk_root_of_entities h hp hes hnames he) hhoused haway hnew]
  exact ⟨rfl, hlook⟩

noncomputable def modelAt (p : Project) (d : Disk) (e : Entity) (parts : String × String × String) :
    Disk.Outcome × Node :=
  p.classAt d ((modelPath p e).location d.base) (modelText e parts)

noncomputable def resourceAt (p : Project) (d : Disk) (e : Entity) : Disk.Outcome × Node :=
  p.classAt d ((resourcePath p e).location d.base) (resourceText e)

/-- **What is reported of the classes of an entity that goes through**, and what is at their paths in the end, is read
off the disk in the beginning. -/
theorem classes_of_entities (h : entities p p.ledgerPath es w = .ok artifacts w') (hp : p.layout = {})
    (hes : ∀ e ∈ es, e.Undivided) (hnames : (es.map (·.name)).Nodup) (he : e ∈ es)
    (hhoused : Housed w.disk.base (p.Allows w.disk) w'.disk) : ∃ a parts, modelParts e = .ok parts ∧
      artifacts.filter (·.entity == e.name) =
        [a, ⟨e.name, .model, modelPath p e, (modelAt p w.disk e parts).1⟩,
          ⟨e.name, .resource, resourcePath p e, (resourceAt p w.disk e).1⟩] ∧
      w'.disk.look (modelPath p e) = .ok (modelAt p w.disk e parts).2 ∧
      w'.disk.look (resourcePath p e) = .ok (resourceAt p w.disk e).2 := by
  have hundivided := hes e he
  have htidy := Project.tidy_standard hp w.disk.base
  obtain ⟨v, v', hbefore, hentity, hafter⟩ := share_of_entity h hnames he
  obtain ⟨-, a, v₁, m, v₂, r, hmig, hmod, hres, hhere⟩ := entity_ok.1 hentity
  obtain ⟨parts, hparts, mo, rfl, hmodel⟩ := handled_of_model htidy hmod (p.ledgerLocation w.disk.base)
  obtain ⟨ro, rfl, hresource⟩ := handled_of_resource htidy hres (p.ledgerLocation w.disk.base)
  have hstart : Grows (p.ledgerLocation w.disk.base) w.disk v₁.disk := by
    have hmigration := (accounted_of_emits (.migration hmig)).grows
    rw [hbefore.base] at hmigration
    exact hbefore.trans hmigration
  have hmodelMem : (⟨e.name, .model, modelPath p e, mo⟩ : Artifact) ∈ artifacts.filter (·.entity == e.name) := by
    rw [hhere]
    exact List.mem_cons_of_mem _ List.mem_cons_self
  have hresourceMem : (⟨e.name, .resource, resourcePath p e, ro⟩ : Artifact) ∈
      artifacts.filter (·.entity == e.name) := by
    rw [hhere]
    exact List.mem_cons_of_mem _ (List.mem_cons_of_mem _ List.mem_cons_self)
  have htriple := (share_of_entity h hnames he).triple
  have hmodel' := hmodel.between hstart (hresource.grows.trans hafter)
    (htriple.ne_ledger hp hundivided hmodelMem rfl w.disk.base)
  have hresource' := hresource.between (hstart.trans hmodel.grows) hafter
    (htriple.ne_ledger hp hundivided hresourceMem rfl w.disk.base)
  obtain ⟨hmo, hmodelLook⟩ := class_of_entities h hp hes hnames he hhoused hmodelMem rfl hmodel' (modelPath_standard hp e)
    (isName_modelFile hundivided.name) fun home hhome ways hways => (location_ne_home hp hundivided hhome hways _).1
  obtain ⟨hro, hresourceLook⟩ := class_of_entities h hp hes hnames he hhoused hresourceMem rfl hresource'
    (resourcePath_standard hp e) (isName_resourceFile hundivided.name)
    fun home hhome ways hways => (location_ne_home hp hundivided hhome hways _).2
  refine ⟨a, parts, hparts, ?_, hmodelLook, hresourceLook⟩
  rw [hhere]
  unfold modelAt resourceAt
  rw [← hmo, ← hro]

end Generation

end Scaffold
