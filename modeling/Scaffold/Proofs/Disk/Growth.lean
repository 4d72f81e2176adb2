import Scaffold.Proofs.Disk.Location
/-!
# Proofs.Disk.Growth — disks on which nothing disappears

A disk grows when its directories stay directories and its files stay files, with the same content but for one file
that is spared.  What a path leads to on a disk, it leads to on every disk grown from it.
-/
namespace Scaffold.Disk

/-- Every directory stays one. -/
structure KeepsDirectories (d d' : Disk) : Prop where
  base : d'.base = d.base
  directory : ∀ l, d.at? l = some .directory → d'.at? l = some .directory

/-- What is new stands under a name. -/
def NewNames (d d' : Disk) : Prop := ∀ l name, d.at? (l ++ [name]) = none → d'.at? (l ++ [name]) ≠ none → IsName name

/-- **Nothing disappears, and no file changes** but the one that is spared. -/
structure Grows (spared : Location) (d d' : Disk) : Prop extends KeepsDirectories d d' where
  file : ∀ l content, d.at? l = some (.file content) →
    ∃ content', d'.at? l = some (.file content') ∧ (l ≠ spared → content' = content)
  named : NewNames d d'

/-- Nothing happens but that directories are made. -/
structure AddsDirectories (d d' : Disk) : Prop where
  base : d'.base = d.base
  at? : ∀ l, d'.at? l = d.at? l ∨ d.at? l = none ∧ d'.at? l = some .directory
  named : NewNames d d'

theorem NewNames.refl (d : Disk) : NewNames d d := fun _ _ h h' => absurd h h'

theorem NewNames.trans {d d' d'' : Disk} (h : NewNames d d') (h' : NewNames d' d'') : NewNames d d'' := by
  intro l name hnone hsome
  by_cases hl : d'.at? (l ++ [name]) = none
  · exact h' l name hl hsome
  · exact h l name hnone hl

theorem newNames_put (d : Disk) (here : Location) {name : String} (hname : IsName name) (node : Node) :
    NewNames d (d.put (here ++ [name]) node) := by
  intro l other hnone hsome
  by_cases hl : l ++ [other] = here ++ [name]
  · obtain ⟨-, hsame⟩ := List.append_inj' hl rfl
    cases hsame
    exact hname
  · rw [at?_put_of_ne hl] at hsome
    exact absurd hnone hsome

theorem KeepsDirectories.trans {d d' d'' : Disk} (h : KeepsDirectories d d') (h' : KeepsDirectories d' d'') :
    KeepsDirectories d d'' :=
  ⟨h'.base.trans h.base, fun l hl => h'.directory l (h.directory l hl)⟩

theorem Grows.refl (spared : Location) (d : Disk) : Grows spared d d :=
  ⟨⟨rfl, fun _ h => h⟩, fun _ content h => ⟨content, h, fun _ => rfl⟩, .refl d⟩

theorem Grows.trans {spared : Location} {d d' d'' : Disk} (h : Grows spared d d') (h' : Grows spared d' d'') :
    Grows spared d d'' := by
  refine ⟨h.toKeepsDirectories.trans h'.toKeepsDirectories, fun l content hl => ?_, h.named.trans h'.named⟩
  obtain ⟨content', hl', hsame⟩ := h.file l content hl
  obtain ⟨content'', hl'', hsame'⟩ := h'.file l content' hl'
  exact ⟨content'', hl'', fun hne => (hsame' hne).trans (hsame hne)⟩

theorem AddsDirectories.refl (d : Disk) : AddsDirectories d d := ⟨rfl, fun _ => .inl rfl, .refl d⟩

theorem AddsDirectories.trans {d d' d'' : Disk} (h : AddsDirectories d d') (h' : AddsDirectories d' d'') :
    AddsDirectories d d'' := by
  refine ⟨h'.base.trans h.base, fun l => ?_, h.named.trans h'.named⟩
  rcases h.at? l with hl | ⟨hnone, hdir⟩
  · rcases h'.at? l with hl' | ⟨hnone', hdir'⟩
    · exact .inl (hl'.trans hl)
    · exact .inr ⟨hl ▸ hnone', hdir'⟩
  · rcases h'.at? l with hl' | ⟨hnone', -⟩
    · exact .inr ⟨hnone, hl'.trans hdir⟩
    · rw [hdir] at hnone'
      cases hnone'

theorem AddsDirectories.at?_of_some {d d' : Disk} (h : AddsDirectories d d') {l : Location} {node : Node}
    (hl : d.at? l = some node) : d'.at? l = some node := by
  rcases h.at? l with hsame | ⟨hnone, -⟩
  · rw [hsame, hl]
  · rw [hl] at hnone
    cases hnone

theorem AddsDirectories.at?_none {d d' : Disk} (h : AddsDirectories d d') {l : Location} (hl : d'.at? l = none) :
    d.at? l = none := by
  rcases h.at? l with hsame | ⟨hnone, -⟩
  · rw [← hsame, hl]
  · exact hnone

theorem AddsDirectories.file? {d d' : Disk} (h : AddsDirectories d d') (l : Location) : d'.file? l = d.file? l := by
  unfold Disk.file?
  rcases h.at? l with hsame | ⟨hnone, hdir⟩
  · rw [hsame]
  · rw [hnone, hdir]

theorem AddsDirectories.grows {d d' : Disk} (h : AddsDirectories d d') (spared : Location) : Grows spared d d' :=
  ⟨⟨h.base, fun _ hl => h.at?_of_some hl⟩, fun _ content hl => ⟨content, h.at?_of_some hl, fun _ => rfl⟩, h.named⟩

theorem file?_eq_some {d : Disk} {l : Location} {content : ByteArray} :
    d.file? l = some content ↔ d.at? l = some (.file content) := by
  unfold file?
  split
  · rename_i found h
    rw [h]
    simp
  · rename_i h
    constructor
    · intro hn
      cases hn
    · intro hl
      exact absurd hl (h content)

theorem Grows.file? {spared : Location} {d d' : Disk} (h : Grows spared d d') {l : Location} {content : ByteArray}
    (hl : d.file? l = some content) (hne : l ≠ spared) : d'.file? l = some content := by
  obtain ⟨content', hl', hsame⟩ := h.file l content (file?_eq_some.1 hl)
  rw [hsame hne] at hl'
  exact file?_eq_some.2 hl'

theorem Grows.at?_isSome {spared : Location} {d d' : Disk} (h : Grows spared d d') {l : Location}
    (hl : d.at? l ≠ none) : d'.at? l ≠ none := by
  cases hn : d.at? l with
  | none => exact absurd hn hl
  | some node =>
    cases node with
    | directory => simp [h.directory l hn]
    | file content =>
      obtain ⟨content', hl', -⟩ := h.file l content hn
      simp [hl']

theorem Grows.at?_none {spared : Location} {d d' : Disk} (h : Grows spared d d') {l : Location} (hl : d'.at? l = none) :
    d.at? l = none := Classical.byContradiction fun hsome => h.at?_isSome hsome hl

theorem grows_put_of_free {d : Disk} {here : Location} {name : String} (hname : IsName name)
    (hfree : d.at? (here ++ [name]) = none) (spared : Location) (node : Node) :
    Grows spared d (d.put (here ++ [name]) node) := by
  have hother : ∀ m, d.at? m ≠ none → (d.put (here ++ [name]) node).at? m = d.at? m := by
    intro m hm
    refine at?_put_of_ne (fun h => ?_)
    rw [h] at hm
    exact hm hfree
  refine ⟨⟨rfl, fun m hm => ?_⟩, fun m content hm => ?_, newNames_put d here hname node⟩
  · rw [hother m (by simp [hm]), hm]
  · exact ⟨content, by rw [hother m (by simp [hm]), hm], fun _ => rfl⟩

theorem grows_put_spared {d : Disk} {here : Location} {name : String} (hname : IsName name)
    (hdir : d.at? (here ++ [name]) ≠ some .directory) (content : ByteArray) :
    Grows (here ++ [name]) d (d.put (here ++ [name]) (.file content)) := by
  refine ⟨⟨rfl, fun m hm => ?_⟩, fun m found hm => ?_, newNames_put d here hname _⟩
  · have hne : m ≠ here ++ [name] := fun h => hdir (h ▸ hm)
    rw [at?_put_of_ne hne, hm]
  · by_cases hml : m = here ++ [name]
    · subst hml
      exact ⟨content, at?_put_self (by simp), fun h => absurd rfl h⟩
    · exact ⟨found, by rw [at?_put_of_ne hml, hm], fun _ => rfl⟩

/-! ## What paths lead to on a grown disk -/

theorem lookIn_ok {d : Disk} {here : Location} {name : String} {found : Option Node} :
    d.lookIn here name = .ok found ↔ ¬ longestName < name.utf8ByteSize ∧ d.at? (here ++ [name]) = found := by
  unfold lookIn
  split
  · rename_i h
    simp [h]
  · rename_i h
    simp [h]

theorem enter_mono {d d' : Disk} (h : KeepsDirectories d d') {here there : Location} {part : String}
    (he : d.enter here part = .ok there) : d'.enter here part = .ok there := by
  unfold enter at he ⊢
  split
  · rename_i hdot
    rw [if_pos hdot] at he
    exact he
  · rename_i hdot
    rw [if_neg hdot] at he
    split
    · rename_i hup
      rw [if_pos hup] at he
      exact he
    · rename_i hup
      rw [if_neg hup] at he
      cases hl : d.lookIn here part with
      | error f =>
        rw [hl] at he
        cases he
      | ok found =>
        rw [hl] at he
        obtain ⟨hshort, hat⟩ := lookIn_ok.1 hl
        cases found with
        | none => cases he
        | some node =>
          cases node with
          | file content => cases he
          | directory =>
            rw [lookIn_ok.2 ⟨hshort, h.directory _ hat⟩]
            exact he

theorem foldlM_enter_mono {d d' : Disk} (h : KeepsDirectories d d') {parts : List String} {here there : Location}
    (hw : parts.foldlM d.enter here = .ok there) : parts.foldlM d'.enter here = .ok there := by
  induction parts generalizing here with
  | nil => exact hw
  | cons part rest ih =>
    rw [List.foldlM_cons] at hw ⊢
    obtain ⟨next, hnext, hrest⟩ := except_bind_ok.1 hw
    exact except_bind_ok.2 ⟨next, enter_mono h hnext, ih hrest⟩

theorem walk_mono {d d' : Disk} (h : KeepsDirectories d d') {p : Path} {here : Location}
    (hw : d.walk p = .ok here) : d'.walk p = .ok here := by
  unfold walk at hw ⊢
  rw [h.base]
  exact foldlM_enter_mono h hw

/-- **A path that can be followed leads to the same target on a grown disk.** -/
theorem follow_mono {d d' : Disk} (h : KeepsDirectories d d') {p : Path} {t : Target} (hf : d.follow p = .ok t) :
    d'.follow p = .ok t := by
  rw [follow_eq] at hf ⊢
  cases hp : p.fault? with
  | some f =>
    rw [hp] at hf
    cases hf
  | none =>
    simp only [hp] at hf ⊢
    cases hw : p.steps.dropLast.foldlM d.enter (p.start d.base) with
    | error f =>
      rw [hw] at hf
      cases hf
    | ok here =>
      rw [hw] at hf
      rw [h.base, foldlM_enter_mono h hw]
      exact hf

/-- What a target holds. -/
def Target.Holds (d : Disk) (node : Node) : Target → Prop
  | .directory _ => node = .directory
  | .entry here name slash =>
    ¬ longestName < name.utf8ByteSize ∧ d.at? (here ++ [name]) = some node ∧ (slash = true → node = .directory)

theorem look_ok {d : Disk} {p : Path} {node : Node} :
    d.look p = .ok node ↔ ∃ t, d.follow p = .ok t ∧ t.Holds d node := by
  unfold look
  rw [except_bind_ok]
  refine exists_congr (fun t => and_congr_right (fun _ => ?_))
  cases t with
  | directory here =>
    show Except.ok Node.directory = Except.ok node ↔ node = .directory
    rw [Except.ok.injEq, eq_comm]
  | entry here name slash =>
    show (d.lookIn here name >>= _) = _ ↔ _
    rw [except_bind_ok]
    constructor
    · rintro ⟨found, hl, h⟩
      obtain ⟨hshort, hat⟩ := lookIn_ok.1 hl
      cases found with
      | none => cases h
      | some found =>
        cases found with
        | directory =>
          cases h
          exact ⟨hshort, hat, fun _ => rfl⟩
        | file content =>
          cases slash with
          | true => cases h
          | false =>
            cases h
            exact ⟨hshort, hat, fun h => by cases h⟩
    · rintro ⟨hshort, hat, hslash⟩
      refine ⟨some node, lookIn_ok.2 ⟨hshort, hat⟩, ?_⟩
      cases node with
      | directory => rfl
      | file content =>
        cases slash with
        | true => cases hslash rfl
        | false => rfl

theorem occupied_iff {d : Disk} {p : Path} : d.occupied p = true ↔ ∃ node, d.look p = .ok node := by
  unfold occupied
  cases d.look p <;> simp

theorem isDirectory_iff {d : Disk} {p : Path} : d.isDirectory p = true ↔ d.look p = .ok .directory := by
  unfold isDirectory
  split
  · rename_i h
    simp [h]
  · rename_i h
    simpa using h

theorem isFile_iff {d : Disk} {p : Path} : d.isFile p = true ↔ ∃ content, d.look p = .ok (.file content) := by
  unfold isFile
  split
  · rename_i content h
    simp [h]
  · rename_i h
    constructor
    · intro hf
      cases hf
    · rintro ⟨content, hc⟩
      exact absurd hc (h content)

theorem look_directory_mono {d d' : Disk} (h : KeepsDirectories d d') {p : Path} (hp : d.look p = .ok .directory) :
    d'.look p = .ok .directory := by
  obtain ⟨t, hf, ht⟩ := look_ok.1 hp
  refine look_ok.2 ⟨t, follow_mono h hf, ?_⟩
  cases t with
  | directory here => exact ht
  | entry here name slash => exact ⟨ht.1, h.directory _ ht.2.1, ht.2.2⟩

/-- **A file that a path leads to is there on a grown disk**, with the same content unless it is the spared one. -/
theorem Grows.look_file {spared : Location} {d d' : Disk} (h : Grows spared d d') {p : Path} {content : ByteArray}
    (hp : d.look p = .ok (.file content)) :
    ∃ content', d'.look p = .ok (.file content') ∧ (p.location d.base ≠ spared → content' = content) := by
  obtain ⟨t, hf, ht⟩ := look_ok.1 hp
  have hloc := location_of_follow hf
  cases t with
  | directory here => cases ht
  | entry here name slash =>
    obtain ⟨hshort, hat, hslash⟩ := ht
    obtain ⟨content', hat', hsame⟩ := h.file _ content hat
    refine ⟨content', look_ok.2 ⟨_, follow_mono h.toKeepsDirectories hf, hshort, hat', ?_⟩, fun hne => hsame ?_⟩
    · intro hs
      cases hslash hs
    · rw [← hloc] at hne
      exact hne

/-- **Whatever a path leads to, it leads to something on a grown disk.** -/
theorem Grows.occupied {spared : Location} {d d' : Disk} (h : Grows spared d d') {p : Path}
    (hp : d.occupied p = true) : d'.occupied p = true := by
  obtain ⟨node, hl⟩ := occupied_iff.1 hp
  cases node with
  | directory => exact occupied_iff.2 ⟨_, look_directory_mono h.toKeepsDirectories hl⟩
  | file content =>
    obtain ⟨content', hl', -⟩ := h.look_file hl
    exact occupied_iff.2 ⟨_, hl'⟩

theorem Grows.isFile {spared : Location} {d d' : Disk} (h : Grows spared d d') {p : Path} (hp : d.isFile p = true) :
    d'.isFile p = true := by
  obtain ⟨content, hl⟩ := isFile_iff.1 hp
  obtain ⟨content', hl', -⟩ := h.look_file hl
  exact isFile_iff.2 ⟨_, hl'⟩

theorem read_ok {d : Disk} {p : Path} {content : ByteArray} :
    d.read p = .ok content ↔ d.look p = .ok (.file content) := by
  unfold read
  rw [except_bind_ok]
  constructor
  · rintro ⟨node, hl, h⟩
    cases node with
    | directory => cases h
    | file found =>
      cases h
      exact hl
  · intro h
    exact ⟨_, h, rfl⟩

theorem readText_ok {d : Disk} {p : Path} {text : String} :
    d.readText p = .ok text ↔ ∃ content, d.look p = .ok (.file content) ∧ String.fromUTF8? content = some text := by
  unfold readText
  rw [except_bind_ok]
  refine exists_congr (fun content => ?_)
  rw [read_ok]
  refine and_congr_right (fun _ => ?_)
  cases String.fromUTF8? content with
  | none =>
    constructor <;> intro h <;> cases h
  | some found =>
    constructor <;> intro h <;> cases h <;> rfl

theorem Grows.readText {spared : Location} {d d' : Disk} (h : Grows spared d d') {p : Path} {text : String}
    (hp : d.readText p = .ok text) (hne : p.location d.base ≠ spared) : d'.readText p = .ok text := by
  obtain ⟨content, hl, ht⟩ := readText_ok.1 hp
  obtain ⟨content', hl', hsame⟩ := h.look_file hl
  rw [hsame hne] at hl'
  exact readText_ok.2 ⟨content, hl', ht⟩

end Scaffold.Disk
