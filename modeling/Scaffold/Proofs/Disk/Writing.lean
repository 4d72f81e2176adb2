import Scaffold.Disk.Output
import Scaffold.Proofs.Disk.Growth
/-!
# Proofs.Disk.Writing — what the writing actions do to a disk

Every action either makes directories only, or makes directories and then puts one file: a generated file in a place
that was free (`Placed`), a plain write where no directory stands (`Replaced`).  If the device breaks off the filling of
that file, the action fails, and the file holds what was taken of its content.
-/
namespace Scaffold.Disk

theorem ask_of_ok {α : Type} {question : Disk → Except Fault α} {d : Disk} {a : α} (h : question d = .ok a) :
    ask question d = .ok a d := by
  unfold ask
  rw [h]

theorem ask_of_error {α : Type} {question : Disk → Except Fault α} {d : Disk} {f : Fault}
    (h : question d = .error f) : ask question d = .error f d := by
  unfold ask
  rw [h]

/-! ## Directories -/

theorem createDirectory_cases (p : Path) (d : Disk) :
    (∃ here name slash, d.follow p = .ok (.entry here name slash) ∧ d.lookIn here name = .ok none ∧
      createDirectory p d = .ok () (d.put (here ++ [name]) .directory)) ∨
    ∃ f, createDirectory p d = .error f d := by
  unfold createDirectory
  cases hf : d.follow p with
  | error f => exact .inr ⟨f, bind_of_error (ask_of_error hf)⟩
  | ok t =>
    rw [bind_of_ok (ask_of_ok hf)]
    cases t with
    | directory here => exact .inr ⟨_, rfl⟩
    | entry here name slash =>
      dsimp only
      cases hl : d.lookIn here name with
      | error f => exact .inr ⟨f, bind_of_error (ask_of_error hl)⟩
      | ok found =>
        cases found with
        | some node => exact .inr ⟨.alreadyExists, by rw [bind_of_ok (ask_of_ok hl)]; rfl⟩
        | none => exact .inl ⟨here, name, slash, rfl, hl, by rw [bind_of_ok (ask_of_ok hl)]; rfl⟩

theorem addsDirectories_put {d : Disk} {here : Location} {name : String} (hname : IsName name)
    (h : d.lookIn here name = .ok none) : AddsDirectories d (d.put (here ++ [name]) .directory) := by
  refine ⟨rfl, fun l => ?_, newNames_put d here hname _⟩
  by_cases hl : l = here ++ [name]
  · subst hl
    exact .inr ⟨(lookIn_ok.1 h).2, at?_put_self (by simp)⟩
  · exact .inl (at?_put_of_ne hl)

theorem addsDirectories_createDirectory (p : Path) (d : Disk) :
    AddsDirectories d (endState (createDirectory p d)) := by
  rcases createDirectory_cases p d with ⟨here, name, slash, hf, hl, hc⟩ | ⟨f, hc⟩
  · rw [hc]
    exact addsDirectories_put (isName_of_follow hf) hl
  · rw [hc]
    exact .refl d

theorem look_of_createDirectory {p : Path} {d d' : Disk} (h : createDirectory p d = .ok () d') :
    d'.look p = .ok .directory := by
  rcases createDirectory_cases p d with ⟨here, name, slash, hf, hl, hc⟩ | ⟨f, hc⟩
  · rw [hc] at h
    cases h
    have hkeeps : KeepsDirectories d (d.put (here ++ [name]) .directory) :=
      ((addsDirectories_put (isName_of_follow hf) hl).grows []).toKeepsDirectories
    exact look_ok.2 ⟨_, follow_mono hkeeps hf, (lookIn_ok.1 hl).1, at?_put_self (by simp), fun _ => rfl⟩
  · rw [hc] at h
    cases h

theorem error_state_createDirectory {p : Path} {d d' : Disk} {f : Fault} (h : createDirectory p d = .error f d') :
    d' = d := by
  rcases createDirectory_cases p d with ⟨here, name, slash, -, -, hc⟩ | ⟨f', hc⟩
  · rw [hc] at h
    cases h
  · rw [hc] at h
    cases h
    rfl

theorem addsDirectories_createIfMissing (p : Path) (d : Disk) :
    AddsDirectories d (endState (createIfMissing p d)) := by
  have h := addsDirectories_createDirectory p d
  unfold createIfMissing
  cases hc : createDirectory p d with
  | ok u d' =>
    rw [hc] at h
    exact h
  | error f d' =>
    rw [hc] at h
    show AddsDirectories d (endState (if d'.isDirectory p then _ else _))
    split <;> exact h

theorem look_of_createIfMissing {p : Path} {d d' : Disk} (h : createIfMissing p d = .ok () d') :
    d'.look p = .ok .directory := by
  unfold createIfMissing at h
  cases hc : createDirectory p d with
  | ok u d₁ =>
    rw [hc] at h
    cases h
    exact look_of_createDirectory hc
  | error f d₁ =>
    rw [hc] at h
    simp only at h
    split at h
    · rename_i hdir
      cases h
      exact isDirectory_iff.1 hdir
    · cases h

theorem provide_of_ok {p : Path} {above : List Path} {d d' : Disk} (h : createDirectory p d = .ok () d') :
    provide (p :: above) d = .ok () d' := by
  unfold provide
  simp only [h]

theorem provide_of_notFound {p : Path} {above : List Path} {d : Disk}
    (h : createDirectory p d = .error .notFound d) :
    provide (p :: above) d = (provide above >>= fun _ => createIfMissing p) d := by
  conv => lhs; unfold provide
  simp only [h]

theorem provide_of_error {p : Path} {above : List Path} {d : Disk} {f : Fault} (hf : f ≠ .notFound)
    (h : createDirectory p d = .error f d) :
    provide (p :: above) d = if d.isDirectory p then .ok () d else .error f d := by
  unfold provide
  simp only [h]

/-- **Providing directories makes directories and nothing else**, even where it breaks off. -/
theorem addsDirectories_provide (ps : List Path) (d : Disk) : AddsDirectories d (endState (provide ps d)) := by
  induction ps generalizing d with
  | nil => exact .refl d
  | cons p above ih =>
    have hcreate := addsDirectories_createDirectory p d
    cases hc : createDirectory p d with
    | ok u d' =>
      rw [hc] at hcreate
      rw [provide_of_ok hc]
      exact hcreate
    | error f d' =>
      cases error_state_createDirectory hc
      by_cases hf : f = .notFound
      · subst hf
        have habove := ih d
        rw [provide_of_notFound hc]
        cases hp : provide above d with
        | error f d' =>
          rw [hp] at habove
          rw [bind_of_error hp]
          exact habove
        | ok u d' =>
          rw [hp] at habove
          rw [bind_of_ok hp]
          exact habove.trans (addsDirectories_createIfMissing p d')
      · rw [provide_of_error hf hc]
        split <;> exact .refl _

theorem look_of_provide {p : Path} {above : List Path} {d d' : Disk} (h : provide (p :: above) d = .ok () d') :
    d'.look p = .ok .directory := by
  cases hc : createDirectory p d with
  | ok u d₁ =>
    rw [provide_of_ok hc] at h
    cases h
    exact look_of_createDirectory hc
  | error f d₁ =>
    cases error_state_createDirectory hc
    by_cases hf : f = .notFound
    · subst hf
      rw [provide_of_notFound hc] at h
      obtain ⟨u, d₂, -, hm⟩ := bind_ok.1 h
      exact look_of_createIfMissing hm
    · rw [provide_of_error hf hc] at h
      split at h
      · rename_i hdir
        cases h
        exact isDirectory_iff.1 hdir
      · cases h

/-! ## Files -/

theorem lookIn_error {d : Disk} {here : Location} {name : String} {f : Fault} (h : d.lookIn here name = .error f) :
    f = .nameTooLong := by
  unfold lookIn at h
  split at h <;> cases h
  rfl

theorem enter_error {d : Disk} {here : Location} {part : String} {f : Fault} (h : d.enter here part = .error f) :
    f = .nameTooLong ∨ f = .notFound ∨ f = .notDirectory := by
  unfold enter at h
  split at h
  · cases h
  split at h
  · cases h
  split at h
  · rename_i g hl
    cases h
    exact .inl (lookIn_error hl)
  · cases h
    exact .inr (.inl rfl)
  · cases h
    exact .inr (.inr rfl)
  · cases h

theorem foldlM_enter_error {d : Disk} {parts : List String} {here : Location} {f : Fault}
    (h : parts.foldlM d.enter here = .error f) : f = .nameTooLong ∨ f = .notFound ∨ f = .notDirectory := by
  induction parts generalizing here with
  | nil => cases h
  | cons part rest ih =>
    rw [List.foldlM_cons] at h
    cases he : d.enter here part with
    | error g =>
      rw [he] at h
      cases h
      exact enter_error he
    | ok next =>
      rw [he] at h
      exact ih h

theorem follow_ne_alreadyExists (d : Disk) (p : Path) : d.follow p ≠ .error .alreadyExists := by
  intro h
  rw [follow_eq] at h
  cases hp : p.fault? with
  | some f =>
    simp only [hp] at h
    cases h
    unfold Path.fault? at hp
    split at hp
    · cases hp
    split at hp
    · cases hp
    split at hp <;> cases hp
  | none =>
    simp only [hp] at h
    cases hw : p.steps.dropLast.foldlM d.enter (p.start d.base) with
    | ok here =>
      rw [hw] at h
      cases h
    | error f =>
      rw [hw] at h
      cases h
      rcases foldlM_enter_error hw with h | h | h <;> cases h

theorem at?_of_look_file {d : Disk} {p : Path} {content : ByteArray} (h : d.look p = .ok (.file content)) :
    d.at? (p.location d.base) = some (.file content) := by
  obtain ⟨t, hf, ht⟩ := look_ok.1 h
  rw [← location_of_follow hf]
  cases t with
  | directory here => cases ht
  | entry here name slash => exact ht.2.1

/-- **A file was put where nothing stood**, and but for it only directories were made. -/
structure Placed (p : Path) (content : ByteArray) (d d' : Disk) : Prop where
  base : d'.base = d.base
  free : d.at? (p.location d.base) = none
  look : d'.look p = .ok (.file content)
  elsewhere : ∀ l, l ≠ p.location d.base → d'.at? l = d.at? l ∨ d.at? l = none ∧ d'.at? l = some .directory
  named : NewNames d d'
  parent : ∀ q ∈ p.parents.head?, d'.look q = .ok .directory

/-- **A file was written where no directory stands**, and but for it only directories were made. -/
structure Replaced (p : Path) (content : ByteArray) (d d' : Disk) : Prop where
  base : d'.base = d.base
  before : d.at? (p.location d.base) ≠ some .directory
  look : d'.look p = .ok (.file content)
  elsewhere : ∀ l, l ≠ p.location d.base → d'.at? l = d.at? l ∨ d.at? l = none ∧ d'.at? l = some .directory
  named : NewNames d d'
  parent : ∀ q ∈ p.parents.head?, d'.look q = .ok .directory

theorem Placed.there {p : Path} {content : ByteArray} {d d' : Disk} (h : Placed p content d d') :
    d'.at? (p.location d.base) = some (.file content) := by
  rw [← h.base]
  exact at?_of_look_file h.look

theorem Replaced.there {p : Path} {content : ByteArray} {d d' : Disk} (h : Replaced p content d d') :
    d'.at? (p.location d.base) = some (.file content) := by
  rw [← h.base]
  exact at?_of_look_file h.look

theorem Placed.grows {p : Path} {content : ByteArray} {d d' : Disk} (h : Placed p content d d')
    (spared : Location) : Grows spared d d' := by
  have hother : ∀ l node, d.at? l = some node → d'.at? l = some node := by
    intro l node hl
    have hne : l ≠ p.location d.base := fun he => by
      rw [he, h.free] at hl
      cases hl
    rcases h.elsewhere l hne with hsame | ⟨hnone, -⟩
    · rw [hsame, hl]
    · rw [hl] at hnone
      cases hnone
  exact ⟨⟨h.base, fun l hl => hother l _ hl⟩, fun l found hl => ⟨found, hother l _ hl, fun _ => rfl⟩, h.named⟩

theorem Placed.not_occupied {p : Path} {content : ByteArray} {d d' : Disk} (h : Placed p content d d') :
    d.occupied p = false := by
  rw [Bool.eq_false_iff]
  intro hocc
  obtain ⟨node, hl⟩ := occupied_iff.1 hocc
  obtain ⟨t, hf, ht⟩ := look_ok.1 hl
  have hfree := h.free
  rw [← location_of_follow hf] at hfree
  cases t with
  | directory here =>
    have hlater := look_directory_mono (h.grows []).toKeepsDirectories (look_ok.2 ⟨_, hf, rfl⟩)
    rw [h.look] at hlater
    cases hlater
  | entry here name slash =>
    have hthere : d.at? (here ++ [name]) = some node := ht.2.1
    change d.at? (here ++ [name]) = none at hfree
    rw [hfree] at hthere
    cases hthere

theorem Replaced.grows {p : Path} {content : ByteArray} {d d' : Disk} (h : Replaced p content d d') :
    Grows (p.location d.base) d d' := by
  have hother : ∀ l node, l ≠ p.location d.base → d.at? l = some node → d'.at? l = some node := by
    intro l node hne hl
    rcases h.elsewhere l hne with hsame | ⟨hnone, -⟩
    · rw [hsame, hl]
    · rw [hl] at hnone
      cases hnone
  refine ⟨⟨h.base, fun l hl => ?_⟩, fun l found hl => ?_, h.named⟩
  · exact hother l _ (fun he => h.before (he ▸ hl)) hl
  · by_cases hl' : l = p.location d.base
    · subst hl'
      exact ⟨content, h.there, fun hne => absurd rfl hne⟩
    · exact ⟨found, hother l _ hl' hl, fun _ => rfl⟩

theorem file?_elsewhere {d d' : Disk} {l₀ l : Location}
    (helse : ∀ l, l ≠ l₀ → d'.at? l = d.at? l ∨ d.at? l = none ∧ d'.at? l = some .directory) (hl : l ≠ l₀) :
    d'.file? l = d.file? l := by
  unfold file?
  rcases helse l hl with hsame | ⟨hnone, hdir⟩
  · rw [hsame]
  · rw [hnone, hdir]

theorem file?_ne_none_iff {d d' : Disk} {l₀ : Location} {content : ByteArray}
    (hthere : d'.at? l₀ = some (.file content))
    (helse : ∀ l, l ≠ l₀ → d'.at? l = d.at? l ∨ d.at? l = none ∧ d'.at? l = some .directory) (l : Location) :
    d'.file? l ≠ none ↔ d.file? l ≠ none ∨ l = l₀ := by
  by_cases hl : l = l₀
  · subst hl
    have := file?_eq_some.2 hthere
    simp [this]
  · rw [file?_elsewhere helse hl]
    simp [hl]

theorem Placed.of_addsDirectories {p : Path} {content : ByteArray} {d d₁ d' : Disk} (h : AddsDirectories d d₁)
    (hp : Placed p content d₁ d') : Placed p content d d' := by
  have hfree := hp.free
  have helse := hp.elsewhere
  rw [h.base] at hfree helse
  refine ⟨hp.base.trans h.base, h.at?_none hfree, hp.look, fun l hl => ?_, h.named.trans hp.named, hp.parent⟩
  rcases helse l hl with hsame | ⟨hnone, hdir⟩
  · rw [hsame]
    exact h.at? l
  · exact .inr ⟨h.at?_none hnone, hdir⟩

/-! ## Opening and filling -/

/-- **Opening a file as new** creates it empty in a free place, or does nothing. -/
theorem openNew_cases (p : Path) (d : Disk) :
    (∃ here name, d.follow p = .ok (.entry here name false) ∧ d.lookIn here name = .ok none ∧
      openNew p d = .ok (here ++ [name]) (d.put (here ++ [name]) (.file .empty))) ∨
    (openNew p d = .error .alreadyExists d ∧ d.occupied p = true) ∨
    ∃ f, f ≠ .alreadyExists ∧ openNew p d = .error f d := by
  unfold openNew
  cases hf : d.follow p with
  | error f =>
    refine .inr (.inr ⟨f, fun h => ?_, bind_of_error (ask_of_error hf)⟩)
    rw [h] at hf
    exact follow_ne_alreadyExists d p hf
  | ok t =>
    rw [bind_of_ok (ask_of_ok hf)]
    cases t with
    | directory here => exact .inr (.inl ⟨rfl, occupied_iff.2 ⟨.directory, look_ok.2 ⟨_, hf, rfl⟩⟩⟩)
    | entry here name slash =>
      cases slash with
      | true => exact .inr (.inr ⟨.isDirectory, by simp, rfl⟩)
      | false =>
        dsimp only
        cases hl : d.lookIn here name with
        | error f =>
          refine .inr (.inr ⟨f, fun h => ?_, bind_of_error (ask_of_error hl)⟩)
          rw [h] at hl
          cases lookIn_error hl
        | ok found =>
          rw [bind_of_ok (ask_of_ok hl)]
          obtain ⟨hshort, hat⟩ := lookIn_ok.1 hl
          cases found with
          | none => exact .inl ⟨here, name, rfl, hl, rfl⟩
          | some node =>
            refine .inr (.inl ⟨rfl, occupied_iff.2 ⟨node, look_ok.2 ⟨_, hf, hshort, hat, fun h => ?_⟩⟩⟩)
            cases h

theorem openAnew_of_file {d : Disk} {p : Path} {here : Location} {name : String}
    (hf : d.follow p = .ok (.entry here name false)) (hshort : ¬ longestName < name.utf8ByteSize)
    (hdir : d.at? (here ++ [name]) ≠ some .directory) :
    openAnew p d = .ok (here ++ [name]) (d.put (here ++ [name]) (.file .empty)) := by
  unfold openAnew
  rw [bind_of_ok (ask_of_ok hf)]
  dsimp only
  rw [bind_of_ok (ask_of_ok (lookIn_ok.2 ⟨hshort, rfl⟩))]
  rcases hat : d.at? (here ++ [name]) with _ | _ | old
  · rfl
  · exact absurd hat hdir
  · rfl

/-- **Opening a file anew** leaves it empty where no directory stands, or does nothing. -/
theorem openAnew_cases (p : Path) (d : Disk) :
    (∃ here name, d.follow p = .ok (.entry here name false) ∧ ¬ longestName < name.utf8ByteSize ∧
      d.at? (here ++ [name]) ≠ some .directory ∧
      openAnew p d = .ok (here ++ [name]) (d.put (here ++ [name]) (.file .empty))) ∨
    ∃ f, openAnew p d = .error f d := by
  cases hf : d.follow p with
  | error f => exact .inr ⟨f, bind_of_error (ask_of_error hf)⟩
  | ok t =>
    rcases t with here | ⟨here, name, _ | _⟩
    · exact .inr ⟨.isDirectory, (bind_of_ok (ask_of_ok hf)).trans rfl⟩
    · cases hl : d.lookIn here name with
      | error f => exact .inr ⟨f, (bind_of_ok (ask_of_ok hf)).trans (bind_of_error (ask_of_error hl))⟩
      | ok found =>
        obtain ⟨hshort, hat⟩ := lookIn_ok.1 hl
        by_cases hdir : found = some .directory
        · subst hdir
          refine .inr ⟨.isDirectory, ?_⟩
          unfold openAnew
          rw [bind_of_ok (ask_of_ok hf)]
          dsimp only
          rw [bind_of_ok (ask_of_ok hl)]
          rfl
        · have hfile : d.at? (here ++ [name]) ≠ some .directory := hat ▸ hdir
          exact .inl ⟨here, name, rfl, hshort, hfile, openAnew_of_file hf hshort hfile⟩
    · exact .inr ⟨.isDirectory, (bind_of_ok (ask_of_ok hf)).trans rfl⟩

variable {device : Breaks} {l : Location} {content : ByteArray} {d : Disk}

theorem fill_of_none (h : device l content = none) : fill device l content d = .ok () (d.put l (.file content)) := by
  unfold fill
  rw [h]
  rfl

theorem fill_of_some {broken : Break} (h : device l content = some broken) :
    fill device l content d = .error broken.fault (d.put l (.file (content.extract 0 broken.taken))) := by
  unfold fill
  rw [h]
  rfl

/-- **A file that has been opened holds all of its content, or the part of it that was taken.** -/
theorem fill_cases (device : Breaks) (l : Location) (content : ByteArray) (d : Disk) :
    device l content = none ∧ fill device l content d = .ok () (d.put l (.file content)) ∨
    ∃ broken, device l content = some broken ∧
      fill device l content d = .error broken.fault (d.put l (.file (content.extract 0 broken.taken))) := by
  cases h : device l content with
  | none => exact .inl ⟨rfl, fill_of_none h⟩
  | some broken => exact .inr ⟨broken, rfl, fill_of_some h⟩

/-! ## The writing actions -/

theorem writeWith_of_error {p : Path} {f : Fault} (h : openAnew p d = .error f d) (device : Breaks)
    (content : ByteArray) : writeWith device p content d = .error f d := bind_of_error h

theorem writeWith_of_ok {p : Path} (h : openAnew p d = .ok l (d.put l (.file .empty))) (device : Breaks)
    (content : ByteArray) : writeWith device p content d = fill device l content (d.put l (.file .empty)) := bind_of_ok h

theorem write_of_ok {p : Path} (h : openAnew p d = .ok l (d.put l (.file .empty))) (content : ByteArray) :
    write p content d = .ok () (d.put l (.file content)) := by
  unfold write
  rw [writeWith_of_ok h, fill_of_none rfl, put_put]

theorem createOrCollideWith_of_ok {p : Path} (h : openNew p d = .ok l (d.put l (.file .empty))) (device : Breaks)
    (content : ByteArray) : createOrCollideWith device p content d =
      (fill device l content >>= fun _ => pure .written) (d.put l (.file .empty)) := by
  unfold createOrCollideWith
  rw [h]

theorem createOrCollideWith_of_taken {p : Path} (h : openNew p d = .error .alreadyExists d) (device : Breaks)
    (content : ByteArray) : createOrCollideWith device p content d = .ok .collision d := by
  unfold createOrCollideWith
  rw [h]

theorem createOrCollideWith_of_error {p : Path} {f : Fault} (h : openNew p d = .error f d) (hf : f ≠ .alreadyExists)
    (device : Breaks) (content : ByteArray) : createOrCollideWith device p content d = .error f d := by
  unfold createOrCollideWith
  rw [h]
  cases f <;> first | rfl | exact absurd rfl hf

theorem look_put_entry {d : Disk} {p : Path} {here : Location} {name : String} {content : ByteArray}
    (hf : d.follow p = .ok (.entry here name false)) (hshort : ¬ longestName < name.utf8ByteSize)
    (hdir : d.at? (here ++ [name]) ≠ some .directory) :
    (d.put (here ++ [name]) (.file content)).look p = .ok (.file content) := by
  have hkeeps := (grows_put_spared (isName_of_follow hf) hdir content).toKeepsDirectories
  refine look_ok.2 ⟨_, follow_mono hkeeps hf, hshort, at?_put_self (by simp), fun h => ?_⟩
  cases h

theorem look_head_parents {p : Path} {d d' : Disk} (h : provideParents p d = .ok () d') :
    ∀ q ∈ p.parents.head?, d'.look q = .ok .directory := by
  intro q hq
  unfold provideParents at h
  cases hp : p.parents with
  | nil =>
    rw [hp] at hq
    cases hq
  | cons first above =>
    rw [hp] at hq h
    cases hq
    exact look_of_provide h

theorem provideParents_cases (p : Path) (d : Disk) :
    (∃ d', provideParents p d = .ok () d' ∧ AddsDirectories d d') ∨
    ∃ f d', provideParents p d = .error f d' ∧ AddsDirectories d d' := by
  have hadds : AddsDirectories d (endState (provideParents p d)) := addsDirectories_provide p.parents d
  cases hp : provideParents p d with
  | ok u d' =>
    rw [hp] at hadds
    exact .inl ⟨d', rfl, hadds⟩
  | error f d' =>
    rw [hp] at hadds
    exact .inr ⟨f, d', rfl, hadds⟩

/-- A file that is put in a free place below directories that were provided. -/
theorem placed_put {p : Path} {d d₁ : Disk} {here : Location} {name : String} (content : ByteArray)
    (hp : provideParents p d = .ok () d₁) (hadds : AddsDirectories d d₁)
    (hf : d₁.follow p = .ok (.entry here name false)) (hl : d₁.lookIn here name = .ok none) :
    Placed p content d (d₁.put (here ++ [name]) (.file content)) := by
  have hloc : here ++ [name] = p.location d₁.base := location_of_follow hf
  obtain ⟨hshort, hat⟩ := lookIn_ok.1 hl
  refine .of_addsDirectories hadds ⟨rfl, hloc ▸ hat, look_put_entry hf hshort (by simp [hat]), fun l hne => ?_,
    newNames_put d₁ here (isName_of_follow hf) _, fun q hq => ?_⟩
  · rw [← hloc] at hne
    exact .inl (at?_put_of_ne hne)
  · refine look_directory_mono ?_ (look_head_parents hp q hq)
    exact (grows_put_of_free (isName_of_follow hf) hat [] _).toKeepsDirectories

/-- **A generated file is written in a free place, or collides, or cannot be opened, or filling it breaks off**; then
it is there and holds the part that was taken. -/
theorem writeNewWith_cases (device : Breaks) (p : Path) (content : ByteArray) (d : Disk) :
    (∃ d', writeNewWith device p content d = .ok .written d' ∧ Placed p content d d') ∨
    (∃ d', writeNewWith device p content d = .ok .collision d' ∧ AddsDirectories d d' ∧ d'.occupied p = true) ∨
    (∃ f d', writeNewWith device p content d = .error f d' ∧ AddsDirectories d d') ∨
    ∃ broken d', device (p.location d.base) content = some broken ∧
      writeNewWith device p content d = .error broken.fault d' ∧ Placed p (content.extract 0 broken.taken) d d' := by
  unfold writeNewWith
  rcases provideParents_cases p d with ⟨d₁, hp, hadds⟩ | ⟨f, d₁, hp, hadds⟩
  · rw [bind_of_ok hp]
    rcases openNew_cases p d₁ with ⟨here, name, hf, hl, ho⟩ | ⟨ho, hocc⟩ | ⟨f, hne, ho⟩
    · have hloc : here ++ [name] = p.location d.base := by
        rw [← hadds.base]
        exact location_of_follow hf
      rw [createOrCollideWith_of_ok ho]
      rcases fill_cases device (here ++ [name]) content (d₁.put (here ++ [name]) (.file .empty)) with
        ⟨-, hfill⟩ | ⟨broken, hdevice, hfill⟩
      · rw [bind_of_ok hfill, put_put]
        exact .inl ⟨_, rfl, placed_put content hp hadds hf hl⟩
      · rw [bind_of_error hfill, put_put]
        exact .inr (.inr (.inr ⟨broken, _, hloc ▸ hdevice, rfl, placed_put _ hp hadds hf hl⟩))
    · rw [createOrCollideWith_of_taken ho]
      exact .inr (.inl ⟨d₁, rfl, hadds, hocc⟩)
    · rw [createOrCollideWith_of_error ho hne]
      exact .inr (.inr (.inl ⟨f, d₁, rfl, hadds⟩))
  · exact .inr (.inr (.inl ⟨f, d₁, bind_of_error hp, hadds⟩))

/-- **A generated file is written in a free place, or collides, or cannot be written.** -/
theorem writeNew_cases (p : Path) (content : ByteArray) (d : Disk) :
    (∃ d', writeNew p content d = .ok .written d' ∧ Placed p content d d') ∨
    (∃ d', writeNew p content d = .ok .collision d' ∧ AddsDirectories d d' ∧ d'.occupied p = true) ∨
    ∃ f d', writeNew p content d = .error f d' ∧ AddsDirectories d d' := by
  rcases writeNewWith_cases .never p content d with hwritten | hcollision | herror | ⟨broken, d', hnever, -⟩
  · exact .inl hwritten
  · exact .inr (.inl hcollision)
  · exact .inr (.inr herror)
  · cases hnever

/-- **A class is written in a free place, or left out because something stands there, or cannot be opened, or filling
it breaks off.** -/
theorem writeIfAbsentWith_cases (device : Breaks) (p : Path) (content : ByteArray) (d : Disk) :
    (∃ d', writeIfAbsentWith device p content d = .ok .written d' ∧ Placed p content d d') ∨
    (∃ d', writeIfAbsentWith device p content d = .ok .skipped d' ∧ AddsDirectories d d' ∧ d'.occupied p = true) ∨
    (∃ f d', writeIfAbsentWith device p content d = .error f d' ∧ AddsDirectories d d') ∨
    ∃ broken d', device (p.location d.base) content = some broken ∧
      writeIfAbsentWith device p content d = .error broken.fault d' ∧
      Placed p (content.extract 0 broken.taken) d d' := by
  unfold writeIfAbsentWith
  rw [bind_of_ok (show (get : Action Disk) d = .ok d d from rfl)]
  by_cases hocc : d.occupied p = true
  · rw [if_pos hocc]
    exact .inr (.inl ⟨d, rfl, .refl d, hocc⟩)
  · rw [if_neg hocc]
    rcases writeNewWith_cases device p content d with
      ⟨d', h, hplaced⟩ | ⟨d', h, hadds, hocc'⟩ | ⟨f, d', h, hadds⟩ | ⟨broken, d', hdevice, h, hplaced⟩
    · exact .inl ⟨d', by rw [bind_of_ok h]; rfl, hplaced⟩
    · exact .inr (.inl ⟨d', by rw [bind_of_ok h]; rfl, hadds, hocc'⟩)
    · exact .inr (.inr (.inl ⟨f, d', bind_of_error h, hadds⟩))
    · exact .inr (.inr (.inr ⟨broken, d', hdevice, bind_of_error h, hplaced⟩))

/-- **A plain write goes where no directory stands, or cannot be opened, or filling breaks off**; then the file holds
only the part that was taken. -/
theorem provideParents_writeWith_cases (device : Breaks) (p : Path) (content : ByteArray) (d : Disk) :
    (∃ d', (provideParents p >>= fun _ => writeWith device p content) d = .ok () d' ∧ Replaced p content d d') ∨
    (∃ f d', (provideParents p >>= fun _ => writeWith device p content) d = .error f d' ∧ AddsDirectories d d') ∨
    ∃ broken d', device (p.location d.base) content = some broken ∧
      (provideParents p >>= fun _ => writeWith device p content) d = .error broken.fault d' ∧
      Replaced p (content.extract 0 broken.taken) d d' := by
  rcases provideParents_cases p d with ⟨d₁, hp, hadds⟩ | ⟨f, d₁, hp, hadds⟩
  · rw [bind_of_ok hp]
    rcases openAnew_cases p d₁ with ⟨here, name, hf, hshort, hdir, ho⟩ | ⟨f, ho⟩
    · have hloc : here ++ [name] = p.location d.base := by
        rw [← hadds.base]
        exact location_of_follow hf
      have hreplaced : ∀ held, Replaced p held d (d₁.put (here ++ [name]) (.file held)) := by
        refine fun held => ⟨hadds.base, fun h => ?_, look_put_entry hf hshort hdir, fun l hne => ?_,
          hadds.named.trans (newNames_put d₁ here (isName_of_follow hf) _), fun q hq => ?_⟩
        · rw [← hloc] at h
          exact hdir (hadds.at?_of_some h)
        · rw [← hloc] at hne
          rw [at?_put_of_ne hne]
          exact hadds.at? l
        · refine look_directory_mono ?_ (look_head_parents hp q hq)
          exact (grows_put_spared (isName_of_follow hf) hdir held).toKeepsDirectories
      rw [writeWith_of_ok ho]
      rcases fill_cases device (here ++ [name]) content (d₁.put (here ++ [name]) (.file .empty)) with
        ⟨-, hfill⟩ | ⟨broken, hdevice, hfill⟩
      · rw [hfill, put_put]
        exact .inl ⟨_, rfl, hreplaced content⟩
      · rw [hfill, put_put]
        exact .inr (.inr ⟨broken, _, hloc ▸ hdevice, rfl, hreplaced _⟩)
    · exact .inr (.inl ⟨f, d₁, writeWith_of_error ho device content, hadds⟩)
  · exact .inr (.inl ⟨f, d₁, bind_of_error hp, hadds⟩)

/-- **A plain write goes where no directory stands, or cannot be done.** -/
theorem provideParents_write_cases (p : Path) (content : ByteArray) (d : Disk) :
    (∃ d', (provideParents p >>= fun _ => write p content) d = .ok () d' ∧ Replaced p content d d') ∨
    ∃ f d', (provideParents p >>= fun _ => write p content) d = .error f d' ∧ AddsDirectories d d' := by
  rcases provideParents_writeWith_cases .never p content d with hwritten | herror | ⟨broken, d', hnever, -⟩
  · exact .inl hwritten
  · exact .inr herror
  · cases hnever

end Scaffold.Disk
