import Scaffold.Proofs.Disk.Names
import Scaffold.Proofs.Disk.Writing
/-!
# Proofs.Disk.Alike — two disks that differ in one file

Disks that are the same but for one file have the same directories, so what can be walked to on one can be walked to on
the other (`Near`).  Where the file stands on both (`Alike`), every path leads to the same kind of thing, and generated
files are put out in the same way (`agree_writeIfAbsent`).
-/
namespace Scaffold.Disk

/-- **The same disk but for one file**, which may be missing from either. -/
structure Near (path : Path) (d d' : Disk) : Prop where
  base : d'.base = d.base
  off : ∀ l, l ≠ path.location d.base → d'.at? l = d.at? l
  here : d.at? (path.location d.base) ≠ some .directory
  there : d'.at? (path.location d.base) ≠ some .directory

/-- **The same disk but for the content of one file.** -/
structure Alike (path : Path) (d d' : Disk) : Prop extends Near path d d' where
  file : ∃ content, d.at? (path.location d.base) = some (.file content)
  file' : ∃ content, d'.at? (path.location d.base) = some (.file content)

variable {path p : Path} {d d' : Disk} {here : Location} {name : String} {content content' : ByteArray}

namespace Near

theorem symm (h : Near path d d') : Near path d' d := by
  refine ⟨h.base.symm, ?_, ?_, ?_⟩
  · rw [h.base]
    exact fun l hl => (h.off l hl).symm
  · rw [h.base]
    exact h.there
  · rw [h.base]
    exact h.here

theorem keeps (h : Near path d d') : KeepsDirectories d d' := by
  refine ⟨h.base, fun l hl => ?_⟩
  rw [h.off l (fun heq => h.here (heq ▸ hl)), hl]

theorem walk (h : Near path d d') (hw : d.walk p = .ok here) : d'.walk p = .ok here := walk_mono h.keeps hw

theorem reach (h : Near path d d') (hw : d.walk p = .ok here) : d'.reach p = d.reach p := by
  unfold Disk.reach
  rw [hw, h.walk hw]

theorem put (h : Near path d d') (hne : here ++ [name] ≠ path.location d.base) (node : Node) :
    Near path (d.put (here ++ [name]) node) (d'.put (here ++ [name]) node) := by
  refine ⟨h.base, fun l hl => ?_, ?_, ?_⟩
  · by_cases hm : l = here ++ [name]
    · subst hm
      rw [at?_put_self (by simp), at?_put_self (by simp)]
    · rw [at?_put_of_ne hm, at?_put_of_ne hm]
      exact h.off l hl
  · intro heq
    exact h.here ((at?_put_of_ne hne.symm).symm.trans heq)
  · intro heq
    exact h.there ((at?_put_of_ne hne.symm).symm.trans heq)

theorem write (h : Near path d d') (hloc : path.location d.base ≠ []) (content content' : ByteArray) :
    Alike path (d.put (path.location d.base) (.file content)) (d'.put (path.location d.base) (.file content')) := by
  have hself := @at?_put_self d _ (.file content) hloc
  have hself' := @at?_put_self d' _ (.file content') hloc
  refine ⟨⟨h.base, fun l hl => ?_, ?_, ?_⟩, ⟨content, hself⟩, ⟨content', hself'⟩⟩
  · have hl' : l ≠ path.location d.base := hl
    rw [at?_put_of_ne hl', at?_put_of_ne hl']
    exact h.off l hl'
  · exact fun heq => by cases hself.symm.trans heq
  · exact fun heq => by cases hself'.symm.trans heq

theorem file? (h : Near path d d') {l : Location} (hl : l ≠ path.location d.base) : d'.file? l = d.file? l := by
  unfold Disk.file?
  rw [h.off l hl]

end Near

/-! ## Removing a file -/

/-- The disk without the file at a location.  Where no file is, nothing is removed. -/
def unlink (d : Disk) (l : Location) : Disk :=
  match d.at? l with
  | some (.file _) => { d with nodes := d.nodes.filter (·.1 != l) }
  | _ => d

theorem unlink_of_no_file {l : Location} (h : d.file? l = none) : d.unlink l = d := by
  unfold unlink
  split
  · rename_i content hat
    rw [file?_eq_some.2 hat] at h
    cases h
  · rfl

theorem unlink_of_file {l : Location} (h : d.at? l = some (.file content)) :
    d.unlink l = { d with nodes := d.nodes.filter (·.1 != l) } := by
  unfold unlink
  rw [h]

theorem base_unlink (d : Disk) (l : Location) : (d.unlink l).base = d.base := by
  unfold unlink
  split <;> rfl

theorem at?_unlink_self {l : Location} (h : d.at? l = some (.file content)) : (d.unlink l).at? l = none := by
  have hne : l ≠ [] := by
    rintro rfl
    cases h
  rw [unlink_of_file h]
  unfold at?
  rw [if_neg hne]
  exact lookup_filter_self _ _

theorem at?_unlink_of_ne {l m : Location} (h : m ≠ l) : (d.unlink l).at? m = d.at? m := by
  unfold unlink
  split
  · unfold at?
    rw [lookup_filter_of_ne h]
  · rfl

/-- **A disk without the file is the same but for that file.** -/
theorem near_unlink (hat : d.at? (path.location d.base) = some (.file content)) :
    Near path d (d.unlink (path.location d.base)) := by
  refine ⟨base_unlink _ _, fun l hl => at?_unlink_of_ne hl, ?_, ?_⟩
  · rw [hat]
    simp
  · rw [at?_unlink_self hat]
    simp

/-! ## What paths lead to -/

namespace Alike

theorem symm (h : Alike path d d') : Alike path d' d := by
  refine ⟨h.toNear.symm, ?_, ?_⟩
  · rw [h.base]
    exact h.file'
  · rw [h.base]
    exact h.file

theorem at? (h : Alike path d d') (l : Location) : d'.at? l = d.at? l ∨
    ∃ content content', d.at? l = some (.file content) ∧ d'.at? l = some (.file content') := by
  by_cases hl : l = path.location d.base
  · subst hl
    obtain ⟨content, hc⟩ := h.file
    obtain ⟨content', hc'⟩ := h.file'
    exact .inr ⟨content, content', hc, hc'⟩
  · exact .inl (h.off l hl)

theorem lookIn (h : Alike path d d') (here : Location) (name : String) : d'.lookIn here name = d.lookIn here name ∨
    ∃ content content', d.lookIn here name = .ok (some (.file content)) ∧
      d'.lookIn here name = .ok (some (.file content')) := by
  unfold Disk.lookIn
  split
  · exact .inl rfl
  · rcases h.at? (here ++ [name]) with hsame | ⟨content, content', hc, hc'⟩
    · exact .inl (by rw [hsame])
    · exact .inr ⟨content, content', by rw [hc], by rw [hc']⟩

theorem ne_of_free (h : Alike path d d') {l : Location} (hfree : d.at? l = none) : l ≠ path.location d.base := by
  rintro rfl
  obtain ⟨content, hc⟩ := h.file
  rw [hfree] at hc
  cases hc

theorem enter (h : Alike path d d') (here : Location) (part : String) : d'.enter here part = d.enter here part := by
  unfold Disk.enter
  rcases h.lookIn here part with hsame | ⟨content, content', hc, hc'⟩
  · rw [hsame]
  · rw [hc, hc']

/-- **A path leads to the same target on both disks**, or fails to in the same way. -/
theorem follow (h : Alike path d d') (p : Path) : d'.follow p = d.follow p := by
  have henter : d'.enter = d.enter := by
    funext here part
    exact h.enter here part
  rw [follow_eq, follow_eq, henter, h.base]

theorem occupied_of_occupied (h : Alike path d d') (hp : d.occupied p = true) : d'.occupied p = true := by
  obtain ⟨node, hlook⟩ := occupied_iff.1 hp
  obtain ⟨t, hfollow, hholds⟩ := look_ok.1 hlook
  rw [← h.follow p] at hfollow
  cases t with
  | directory here => exact occupied_iff.2 ⟨.directory, look_ok.2 ⟨_, hfollow, rfl⟩⟩
  | entry here name slash =>
    obtain ⟨hshort, hat, hslash⟩ := hholds
    rcases h.at? (here ++ [name]) with hsame | ⟨content, content', hc, hc'⟩
    · exact occupied_iff.2 ⟨node, look_ok.2 ⟨_, hfollow, hshort, hsame.trans hat, hslash⟩⟩
    · rw [hc, Option.some.injEq] at hat
      subst hat
      refine occupied_iff.2 ⟨.file content', look_ok.2 ⟨_, hfollow, hshort, hc', fun hs => ?_⟩⟩
      cases hslash hs

theorem occupied (h : Alike path d d') (p : Path) : d'.occupied p = d.occupied p := by
  rw [Bool.eq_iff_iff]
  exact ⟨h.symm.occupied_of_occupied, h.occupied_of_occupied⟩

theorem isDirectory (h : Alike path d d') (p : Path) : d'.isDirectory p = d.isDirectory p := by
  rw [Bool.eq_iff_iff, isDirectory_iff, isDirectory_iff]
  exact ⟨look_directory_mono h.symm.keeps, look_directory_mono h.keeps⟩

theorem put (h : Alike path d d') (hne : here ++ [name] ≠ path.location d.base) (node : Node) :
    Alike path (d.put (here ++ [name]) node) (d'.put (here ++ [name]) node) := by
  refine ⟨h.toNear.put hne node, ?_, ?_⟩
  · obtain ⟨content, hc⟩ := h.file
    exact ⟨content, (at?_put_of_ne hne.symm).trans hc⟩
  · obtain ⟨content, hc⟩ := h.file'
    exact ⟨content, (at?_put_of_ne hne.symm).trans hc⟩

end Alike

/-! ## Actions -/

/-- Under a name the same stands on both disks, or something does on both. -/
def SameEntry (d d' : Disk) (here : Location) (name : String) : Prop :=
  d'.lookIn here name = d.lookIn here name ∨
    ∃ node node', d.lookIn here name = .ok (some node) ∧ d'.lookIn here name = .ok (some node')

theorem Alike.sameEntry (h : Alike path d d') (here : Location) (name : String) : SameEntry d d' here name := by
  rcases h.lookIn here name with hsame | ⟨content, content', hc, hc'⟩
  · exact .inl hsame
  · exact .inr ⟨_, _, hc, hc'⟩

/-- A file is opened as new on both disks, in a place that is free on both, or on neither. -/
theorem openNew_both (hfollow : d'.follow p = d.follow p)
    (hentry : ∀ here name, d.follow p = .ok (.entry here name false) → SameEntry d d' here name) :
    (∃ here name, d.follow p = .ok (.entry here name false) ∧ d.at? (here ++ [name]) = none ∧
      openNew p d = .ok (here ++ [name]) (d.put (here ++ [name]) (.file .empty)) ∧
      openNew p d' = .ok (here ++ [name]) (d'.put (here ++ [name]) (.file .empty))) ∨
    ∃ f, openNew p d = .error f d ∧ openNew p d' = .error f d' := by
  unfold openNew
  cases hf : d.follow p with
  | error f => exact .inr ⟨f, bind_of_error (ask_of_error hf), bind_of_error (ask_of_error (hfollow.trans hf))⟩
  | ok t =>
    rw [bind_of_ok (ask_of_ok hf), bind_of_ok (ask_of_ok (hfollow.trans hf))]
    rcases t with here | ⟨here, name, _ | _⟩
    · exact .inr ⟨_, rfl, rfl⟩
    · dsimp only
      rcases hentry here name hf with hsame | ⟨node, node', hl, hl'⟩
      · cases hl : d.lookIn here name with
        | error f => exact .inr ⟨f, bind_of_error (ask_of_error hl), bind_of_error (ask_of_error (hsame.trans hl))⟩
        | ok found =>
          rw [bind_of_ok (ask_of_ok hl), bind_of_ok (ask_of_ok (hsame.trans hl))]
          cases found with
          | some node => exact .inr ⟨_, rfl, rfl⟩
          | none => exact .inl ⟨here, name, rfl, (lookIn_ok.1 hl).2, rfl, rfl⟩
      · rw [bind_of_ok (ask_of_ok hl), bind_of_ok (ask_of_ok hl')]
        exact .inr ⟨_, rfl, rfl⟩
    · exact .inr ⟨_, rfl, rfl⟩

theorem agree_createOrCollide {R : Disk → Disk → Prop} (hR : R d d') (hfollow : d'.follow p = d.follow p)
    (hentry : ∀ here name, d.follow p = .ok (.entry here name false) → SameEntry d d' here name)
    (hput : ∀ here name, d.follow p = .ok (.entry here name false) → d.at? (here ++ [name]) = none →
      R (d.put (here ++ [name]) (.file content)) (d'.put (here ++ [name]) (.file content))) :
    Agree R R (createOrCollideWith .never p content d) (createOrCollideWith .never p content d') := by
  rcases openNew_both hfollow hentry with ⟨here, name, hf, hfree, ho, ho'⟩ | ⟨f, ho, ho'⟩
  · rw [createOrCollideWith_of_ok ho, createOrCollideWith_of_ok ho', bind_of_ok (fill_of_none rfl),
      bind_of_ok (fill_of_none rfl), put_put, put_put]
    exact .ok _ (hput here name hf hfree)
  · by_cases htaken : f = .alreadyExists
    · subst htaken
      rw [createOrCollideWith_of_taken ho, createOrCollideWith_of_taken ho']
      exact .ok _ hR
    · rw [createOrCollideWith_of_error ho htaken, createOrCollideWith_of_error ho' htaken]
      exact .error f hR

/-- **A file is written in the same way whatever it is to hold**, and nothing but its content tells the disks apart. -/
theorem agree_contents (path : Path) (content content' : ByteArray) (d : Disk) :
    Agree (Alike path) Eq ((provideParents path >>= fun _ => Disk.write path content) d)
      ((provideParents path >>= fun _ => Disk.write path content') d) := by
  refine (Agree.refl (R := Eq) (fun _ => rfl) (fun _ => rfl) (provideParents path d)).bind (fun _ d₁ d₂ hd => ?_)
  subst hd
  rcases openAnew_cases path d₁ with ⟨here, name, hf, -, hdir, ho⟩ | ⟨f, ho⟩
  · have hloc : here ++ [name] = path.location d₁.base := location_of_follow hf
    rw [write_of_ok ho, write_of_ok ho, hloc]
    rw [hloc] at hdir
    exact .ok _ (Near.write ⟨rfl, fun _ _ => rfl, hdir, hdir⟩ (by rw [← hloc]; simp) content content')
  · unfold Disk.write
    rw [writeWith_of_error ho, writeWith_of_error ho]
    exact .error f rfl

theorem provideParents_of_there (h : ∀ q ∈ p.parents.head?, d.look q = .ok .directory) :
    provideParents p d = .ok () d := by
  unfold provideParents
  cases hp : p.parents with
  | nil => rfl
  | cons first above =>
    have hlook : d.look first = .ok .directory := h first (by rw [hp]; rfl)
    have hexists : createDirectory first d = .error .alreadyExists d := by
      obtain ⟨t, hfollow, hholds⟩ := look_ok.1 hlook
      unfold createDirectory
      rw [bind_of_ok (ask_of_ok hfollow)]
      cases t with
      | directory here => rfl
      | entry here name slash =>
        dsimp only
        rw [bind_of_ok (ask_of_ok (lookIn_ok.2 ⟨hholds.1, hholds.2.1⟩))]
        rfl
    rw [provide_of_error (by simp) hexists, if_pos (isDirectory_iff.2 hlook)]

namespace Alike

theorem agree_createDirectory (h : Alike path d d') (p : Path) :
    Agree (Alike path) (Alike path) (createDirectory p d) (createDirectory p d') := by
  unfold createDirectory
  have hfollow := h.follow p
  cases hf : d.follow p with
  | error f =>
    rw [bind_of_error (ask_of_error hf), bind_of_error (ask_of_error (hfollow.trans hf))]
    exact .error f h
  | ok t =>
    rw [bind_of_ok (ask_of_ok hf), bind_of_ok (ask_of_ok (hfollow.trans hf))]
    cases t with
    | directory here => exact .error _ h
    | entry here name slash =>
      dsimp only
      rcases h.sameEntry here name with hsame | ⟨node, node', hl, hl'⟩
      · cases hl : d.lookIn here name with
        | error f =>
          rw [bind_of_error (ask_of_error hl), bind_of_error (ask_of_error (hsame.trans hl))]
          exact .error f h
        | ok found =>
          rw [bind_of_ok (ask_of_ok hl), bind_of_ok (ask_of_ok (hsame.trans hl))]
          cases found with
          | some node => exact .error _ h
          | none => exact .ok _ (h.put (h.ne_of_free (lookIn_ok.1 hl).2) _)
      · rw [bind_of_ok (ask_of_ok hl), bind_of_ok (ask_of_ok hl')]
        exact .error _ h

theorem agree_createIfMissing (h : Alike path d d') (p : Path) :
    Agree (Alike path) (Alike path) (createIfMissing p d) (createIfMissing p d') := by
  have hcreate := h.agree_createDirectory p
  unfold createIfMissing
  generalize createDirectory p d = r at hcreate
  generalize createDirectory p d' = r' at hcreate
  cases hcreate with
  | ok a hs => exact .ok _ hs
  | @error f s s' hs =>
    show Agree _ _ (if s.isDirectory p then _ else _) (if s'.isDirectory p then _ else _)
    rw [hs.isDirectory p]
    split
    · exact .ok _ hs
    · exact .error f hs

/-- **The same directories are provided on both disks.** -/
theorem agree_provide (h : Alike path d d') (ps : List Path) :
    Agree (Alike path) (Alike path) (provide ps d) (provide ps d') := by
  induction ps generalizing d d' with
  | nil => exact .ok _ h
  | cons p above ih =>
    have hcreate := h.agree_createDirectory p
    generalize hr : createDirectory p d = r at hcreate
    generalize hr' : createDirectory p d' = r' at hcreate
    cases hcreate with
    | ok a hs =>
      rw [provide_of_ok hr, provide_of_ok hr']
      exact .ok _ hs
    | error f hs =>
      cases error_state_createDirectory hr
      cases error_state_createDirectory hr'
      by_cases hf : f = .notFound
      · subst hf
        rw [provide_of_notFound hr, provide_of_notFound hr']
        exact (ih h).bind (fun _ _ _ ht => ht.agree_createIfMissing p)
      · rw [provide_of_error hf hr, provide_of_error hf hr', h.isDirectory p]
        split
        · exact .ok _ h
        · exact .error f h

/-- **A generated file is put out in the same way on both disks.** -/
theorem agree_writeNew (h : Alike path d d') (p : Path) (content : ByteArray) :
    Agree (Alike path) (Alike path) (writeNew p content d) (writeNew p content d') := by
  refine (h.agree_provide p.parents).bind (fun _ t t' ht => ?_)
  refine agree_createOrCollide ht (ht.follow p) (fun here name _ => ht.sameEntry here name)
    (fun here name _ hfree => ?_)
  exact ht.put (ht.ne_of_free hfree) _

theorem agree_writeIfAbsent (h : Alike path d d') (p : Path) (content : ByteArray) :
    Agree (Alike path) (Alike path) (writeIfAbsent p content d) (writeIfAbsent p content d') := by
  unfold writeIfAbsent writeIfAbsentWith
  rw [bind_of_ok (show (get : Action Disk) d = .ok d d from rfl),
    bind_of_ok (show (get : Action Disk) d' = .ok d' d' from rfl), h.occupied p]
  split
  · exact .ok _ h
  · refine (h.agree_writeNew p content).bind (fun outcome t t' ht => ?_)
    cases outcome <;> exact .ok _ ht

end Alike

namespace Near

theorem follow_join (h : Near path d d') (hname : IsName name) (hw : d.walk p = .ok here) :
    d'.follow (p.join ⟨name⟩) = d.follow (p.join ⟨name⟩) := by
  rw [Disk.follow_join hname, Disk.follow_join hname, hw, h.walk hw]

theorem lookIn (h : Near path d d') (hne : here ++ [name] ≠ path.location d.base) :
    d'.lookIn here name = d.lookIn here name := by
  unfold Disk.lookIn
  rw [h.off _ hne]

theorem look_join (h : Near path d d') (hname : IsName name) (hw : d.walk p = .ok here)
    (hne : here ++ [name] ≠ path.location d.base) : d'.look (p.join ⟨name⟩) = d.look (p.join ⟨name⟩) := by
  unfold Disk.look
  rw [h.follow_join hname hw]
  cases hf : d.follow (p.join ⟨name⟩) with
  | error f => rfl
  | ok t =>
    obtain ⟨-, there, hwalk, rfl⟩ := follow_join_ok hname hf
    rw [hw] at hwalk
    cases hwalk
    show (d'.lookIn here name >>= _) = (d.lookIn here name >>= _)
    rw [h.lookIn hne]

theorem lists (h : Near path d d') (hname : IsName name) (hw : d.walk p = .ok here)
    (hne : here ++ [name] ≠ path.location d.base) : d'.Lists p name ↔ d.Lists p name := by
  have hat := h.off _ hne
  rw [lists_iff, lists_iff, h.reach hw]
  unfold Disk.isFile
  rw [h.look_join hname hw hne]
  refine exists_congr (fun there => and_congr_right (fun hreach => ?_))
  rw [reach_ok, hw] at hreach
  cases hreach.2
  rw [hat]

/-- **A file behind a directory that can be walked to is put out in the same way on both disks.** -/
theorem agree_writeNew (h : Near path d d') (hname : IsName name) (hw : d.walk p = .ok here)
    (hne : here ++ [name] ≠ path.location d.base)
    (hparents : ∀ q ∈ (p.join ⟨name⟩).parents.head?, d.look q = .ok .directory) (content : ByteArray) :
    Agree (Near path) (Near path) (writeNew (p.join ⟨name⟩) content d) (writeNew (p.join ⟨name⟩) content d') := by
  have hthere : ∀ found other, d.follow (p.join ⟨name⟩) = .ok (.entry found other false) →
      found ++ [other] ≠ path.location d.base := by
    intro found other hfollow
    obtain ⟨-, there, hwalk, hentry⟩ := follow_join_ok hname hfollow
    rw [hw] at hwalk
    cases hwalk
    cases hentry
    exact hne
  unfold writeNew writeNewWith
  rw [bind_of_ok (provideParents_of_there hparents),
    bind_of_ok (provideParents_of_there (fun q hq => look_directory_mono h.keeps (hparents q hq)))]
  refine agree_createOrCollide h (h.follow_join hname hw) (fun found other hfollow => ?_)
    (fun found other hfollow _ => h.put (hthere found other hfollow) _)
  exact .inl (h.lookIn (hthere found other hfollow))

/-- **Where a file leads to is written on both disks**, and from then on it stands on both. -/
theorem agree_write (h : Near path d d') {found : ByteArray} (hlook : d.look path = .ok (.file found))
    (hparents : ∀ q ∈ path.parents.head?, d.look q = .ok .directory) (content content' : ByteArray)
    (E : Disk → Disk → Prop) :
    Agree (Alike path) E ((provideParents path >>= fun _ => Disk.write path content) d)
      ((provideParents path >>= fun _ => Disk.write path content') d') := by
  obtain ⟨t, hfollow, hholds⟩ := look_ok.1 hlook
  have hloc := location_of_follow hfollow
  cases t with
  | directory here => cases hholds
  | entry here name slash =>
    obtain ⟨hshort, hat, hslash⟩ := hholds
    have hfile : slash = false := by
      cases slash with
      | false => rfl
      | true => cases hslash rfl
    subst hfile
    have hfollow' := follow_mono h.keeps hfollow
    change here ++ [name] = path.location d.base at hloc
    have hwritten := h.write (by rw [← hloc]; simp) content content'
    rw [← hloc] at hwritten
    have hthere : d.at? (here ++ [name]) ≠ some .directory := by
      rw [hat]
      simp
    have hthere' : d'.at? (here ++ [name]) ≠ some .directory := by
      rw [hloc]
      exact h.there
    rw [bind_of_ok (provideParents_of_there hparents),
      bind_of_ok (provideParents_of_there (fun q hq => look_directory_mono h.keeps (hparents q hq))),
      write_of_ok (openAnew_of_file hfollow hshort hthere), write_of_ok (openAnew_of_file hfollow' hshort hthere')]
    exact .ok () hwritten

end Near

end Scaffold.Disk
