import Scaffold.Proofs.Disk.Growth
/-!
# Proofs.Disk.Names — the files that a directory lists

The files directly below a path are listed where the path can be walked to its end (`fileNames_eq`).  A listed file
stays listed on a grown disk, and a file that was put behind a directory is listed there.
-/
namespace Scaffold.Disk

/-- Where the directory at a path is. -/
def reach (d : Disk) (p : Path) : Except Fault Location :=
  match p.fault? with
  | some f => .error f
  | none => d.walk p

theorem reach_ok {d : Disk} {p : Path} {here : Location} :
    d.reach p = .ok here ↔ p.fault? = none ∧ d.walk p = .ok here := by
  unfold reach
  cases p.fault? with
  | none => simp
  | some f => simp

theorem enter_eq_lookIn {d : Disk} {here : Location} {part : String} (hdot : part ≠ ".") (hup : part ≠ "..") :
    d.enter here part = (d.lookIn here part >>= fun found =>
      match found with
      | none => .error .notFound
      | some (.file _) => .error .notDirectory
      | some .directory => .ok (here ++ [part])) := by
  unfold enter
  rw [if_neg (by simpa using hdot), if_neg (by simpa using hup)]
  cases d.lookIn here part with
  | error f => rfl
  | ok found =>
    cases found with
    | none => rfl
    | some node => cases node <;> rfl

/-- The directory that a target is, or why it is none. -/
def Target.opened (d : Disk) : Target → Except Fault Location
  | .directory here => .ok here
  | .entry here name _ => d.lookIn here name >>= fun found =>
    match found with
    | none => .error .notFound
    | some (.file _) => .error .notDirectory
    | some .directory => .ok (here ++ [name])

theorem opened_targetAt (d : Disk) (p : Path) (here : Location) (part : String) :
    (targetAt p here (some part)).opened d = d.enter here part := by
  unfold targetAt
  by_cases hdot : part = "."
  · subst hdot
    rfl
  by_cases hup : part = ".."
  · subst hup
    rfl
  rw [enter_eq_lookIn hdot hup]
  simp [hdot, hup, Target.opened]

theorem reach_eq_follow (d : Disk) (p : Path) : d.reach p = d.follow p >>= Target.opened d := by
  rw [follow_eq]
  unfold reach walk
  cases p.fault? with
  | some f => rfl
  | none =>
    simp only
    cases hl : p.steps.getLast? with
    | none =>
      rw [List.getLast?_eq_none_iff] at hl
      rw [hl]
      rfl
    | some part =>
      obtain ⟨front, hfront⟩ := List.getLast?_eq_some_iff.1 hl
      rw [hfront, List.dropLast_concat, List.foldlM_append]
      cases front.foldlM d.enter (p.start d.base) with
      | error f => rfl
      | ok here =>
        show (d.enter here part >>= fun next => Except.ok next) = (targetAt p here (some part)).opened d
        rw [opened_targetAt]
        cases d.enter here part <;> rfl

theorem opened_ok {d : Disk} {t : Target} : (∃ here, t.opened d = .ok here) ↔ t.Holds d .directory := by
  cases t with
  | directory here => exact ⟨fun _ => rfl, fun _ => ⟨here, rfl⟩⟩
  | entry here name slash =>
    constructor
    · rintro ⟨there, h⟩
      obtain ⟨found, hfound, h⟩ := except_bind_ok.1 h
      obtain ⟨hshort, hat⟩ := lookIn_ok.1 hfound
      rcases found with _ | _ | _
      · cases h
      · exact ⟨hshort, hat, fun _ => rfl⟩
      · cases h
    · rintro ⟨hshort, hat, -⟩
      exact ⟨here ++ [name], except_bind_ok.2 ⟨_, lookIn_ok.2 ⟨hshort, hat⟩, rfl⟩⟩

theorem look_directory_iff {d : Disk} {p : Path} : d.look p = .ok .directory ↔ ∃ here, d.reach p = .ok here := by
  simp only [look_ok, reach_eq_follow, except_bind_ok, ← opened_ok]
  constructor
  · rintro ⟨t, hfollow, here, hopened⟩
    exact ⟨here, t, hfollow, hopened⟩
  · rintro ⟨here, t, hfollow, hopened⟩
    exact ⟨t, hfollow, here, hopened⟩

theorem reach_of_look_notFound {d : Disk} {p : Path} (h : d.look p = .error .notFound) :
    d.reach p = .error .notFound := by
  unfold look at h
  rw [reach_eq_follow]
  cases hfollow : d.follow p with
  | error f =>
    rw [hfollow] at h
    cases h
    rfl
  | ok t =>
    rw [hfollow] at h
    cases t with
    | directory here => cases h
    | entry here name slash =>
      change (d.lookIn here name >>= _) = _ at h
      show (d.lookIn here name >>= _) = _
      cases hfound : d.lookIn here name with
      | error f =>
        rw [hfound] at h
        cases h
        rfl
      | ok found =>
        rw [hfound] at h
        rcases found with _ | _ | _
        · rfl
        · cases h
        · cases slash <;> cases h

/-- **A directory lists what stands below it and is a file by its path.** -/
theorem fileNames_eq (d : Disk) (p : Path) :
    d.fileNames p = (d.reach p).map fun here =>
      ((d.namesIn here).eraseDups.filter fun name => d.isFile (p.join ⟨name⟩)).mergeSort (· ≤ ·) := by
  rw [reach_eq_follow]
  unfold fileNames
  cases d.follow p with
  | error f => rfl
  | ok t =>
    cases t with
    | directory here => rfl
    | entry here name slash =>
      show (d.lookIn here name >>= _) = Except.map _ (d.lookIn here name >>= _)
      cases d.lookIn here name with
      | error f => rfl
      | ok found =>
        cases found with
        | none => rfl
        | some node => cases node <;> rfl

theorem mem_namesIn {d : Disk} {l : Location} {name : String} :
    name ∈ d.namesIn l ↔ d.at? (l ++ [name]) ≠ none := by
  have hroot : l ++ [name] ≠ [] := by simp
  unfold namesIn at?
  rw [if_neg hroot, List.mem_filterMap]
  constructor
  · rintro ⟨⟨found, node⟩, hmem, hname⟩
    have hfound : found = l ++ [name] := by
      cases hlast : found.getLast? with
      | none =>
        simp [hlast] at hname
      | some last =>
        simp only [hlast, Option.ite_none_right_eq_some, Option.some.injEq] at hname
        obtain ⟨hf, rfl⟩ := hname
        exact hf
    subst hfound
    intro hnone
    rw [List.lookup_eq_none_iff] at hnone
    simpa using hnone _ hmem
  · intro hsome
    cases hl : d.nodes.lookup (l ++ [name]) with
    | none => exact absurd hl hsome
    | some node =>
      obtain ⟨front, back, hnodes, -⟩ := List.lookup_eq_some_iff.1 hl
      refine ⟨(l ++ [name], node), by rw [hnodes]; simp, ?_⟩
      simp

/-- A file with this name is listed in the directory at a path. -/
def Lists (d : Disk) (p : Path) (name : String) : Prop := ∃ names, d.fileNames p = .ok names ∧ name ∈ names

theorem lists_iff {d : Disk} {p : Path} {name : String} :
    d.Lists p name ↔
      ∃ here, d.reach p = .ok here ∧ d.at? (here ++ [name]) ≠ none ∧ d.isFile (p.join ⟨name⟩) = true := by
  unfold Lists
  rw [fileNames_eq]
  cases hr : d.reach p with
  | error f =>
    constructor
    · rintro ⟨names, h, -⟩
      cases h
    · rintro ⟨here, h, -⟩
      cases h
  | ok here =>
    constructor
    · rintro ⟨names, h, hmem⟩
      cases h
      rw [List.mem_mergeSort, List.mem_filter, List.mem_eraseDups, mem_namesIn] at hmem
      exact ⟨here, rfl, hmem⟩
    · rintro ⟨here', h, hat, hfile⟩
      cases h
      refine ⟨_, rfl, ?_⟩
      rw [List.mem_mergeSort, List.mem_filter, List.mem_eraseDups, mem_namesIn]
      exact ⟨hat, hfile⟩

theorem mem_iff_lists {d : Disk} {p : Path} {names : List String} (h : d.fileNames p = .ok names) {name : String} :
    name ∈ names ↔ d.Lists p name := by
  unfold Lists
  rw [h]
  constructor
  · intro hmem
    exact ⟨names, rfl, hmem⟩
  · rintro ⟨names', h', hmem⟩
    cases h'
    exact hmem

/-- **A listed file stays listed on a grown disk.** -/
theorem Lists.grows {spared : Location} {d d' : Disk} {p : Path} {name : String} (h : d.Lists p name)
    (hg : Grows spared d d') : d'.Lists p name := by
  obtain ⟨here, hreach, hat, hfile⟩ := lists_iff.1 h
  obtain ⟨hp, hwalk⟩ := reach_ok.1 hreach
  exact lists_iff.2 ⟨here, reach_ok.2 ⟨hp, walk_mono hg.toKeepsDirectories hwalk⟩, hg.at?_isSome hat, hg.isFile hfile⟩

theorem follow_join_ok {d : Disk} {p : Path} {name : String} (hname : IsName name) {t : Target}
    (h : d.follow (p.join ⟨name⟩) = .ok t) :
    (p.join ⟨name⟩).fault? = none ∧ ∃ here, d.walk p = .ok here ∧ t = .entry here name false := by
  rw [follow_join hname] at h
  cases hfault : (p.join ⟨name⟩).fault? with
  | some f =>
    rw [hfault] at h
    cases h
  | none =>
    simp only [hfault] at h
    cases hw : d.walk p with
    | error f =>
      rw [hw] at h
      cases h
    | ok here =>
      rw [hw] at h
      cases h
      exact ⟨rfl, here, rfl, rfl⟩

theorem at?_of_look_join {d : Disk} {p : Path} {name : String} (hname : IsName name) {node : Node}
    (h : d.look (p.join ⟨name⟩) = .ok node) : d.at? ((p.join ⟨name⟩).location d.base) = some node := by
  obtain ⟨t, hfollow, ht⟩ := look_ok.1 h
  have hplace := location_of_follow hfollow
  obtain ⟨-, here, -, rfl⟩ := follow_join_ok hname hfollow
  rw [← hplace]
  exact ht.2.1

/-- **A file that stands behind a directory is listed there.** -/
theorem lists_of_look {d : Disk} {p : Path} {name : String} (hname : IsName name) (hp : p.text ≠ "")
    {content : ByteArray} (h : d.look (p.join ⟨name⟩) = .ok (.file content)) : d.Lists p name := by
  obtain ⟨t, hf, ht⟩ := look_ok.1 h
  obtain ⟨hfault, here, hw, rfl⟩ := follow_join_ok hname hf
  refine lists_iff.2 ⟨here, reach_ok.2 ⟨Path.fault?_of_join hname hp hfault, hw⟩, ?_, isFile_iff.2 ⟨content, h⟩⟩
  rw [ht.2.1]
  simp

theorem Lists.isFile {d : Disk} {p : Path} {name : String} (h : d.Lists p name) :
    d.isFile (p.join ⟨name⟩) = true := by
  obtain ⟨here, -, -, hfile⟩ := lists_iff.1 h
  exact hfile

end Scaffold.Disk
