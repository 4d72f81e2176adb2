import Scaffold.Proofs.Disk.Directories
import Scaffold.Proofs.Disk.Names
/-!
# Proofs.Disk.Opening — opening a file as new, also once more directories are there

A path can be opened if the directories above it exist or can be made and nothing but what stands at the path keeps a
file from being created (`CanBeOpened`).  It stays so while directories are made for other paths: directories can be
provided on every disk that has some directories more, and come out as more too (`provide_mono`).
-/
namespace Scaffold.Disk

variable {d d' e x : Disk} {p q r : Path} {qs above : List Path} {content : ByteArray} {l start there : Location}
  {parts front : List String} {part : String} {f : Fault}

/-- **One file is new**, where nothing stood, and every other file is as before. -/
structure OnlyNew (l : Location) (content : ByteArray) (d d' : Disk) : Prop where
  free : d.at? l = none
  there : d'.file? l = some content
  elsewhere : ∀ m, m ≠ l → d'.file? m = d.file? m

theorem Placed.onlyNew (h : Placed p content d d') : OnlyNew (p.location d.base) content d d' :=
  ⟨h.free, file?_eq_some.2 h.there, fun _ hm => file?_elsewhere h.elsewhere hm⟩

theorem OnlyNew.addsDirectories (h : OnlyNew l content d d') (hadds : AddsDirectories d' e) :
    OnlyNew l content d e :=
  ⟨h.free, (hadds.file? l).trans h.there, fun m hm => (hadds.file? m).trans (h.elsewhere m hm)⟩

/-- **A path can be opened** as a new file: the directories above it exist or can be made, not in its own place, and
then a file can be created there unless something stands there. -/
def CanBeOpened (d : Disk) (p : Path) : Prop :=
  ∃ e, provideParents p d = .ok () e ∧
    (d.at? (p.location d.base) = none → e.at? (p.location d.base) = none) ∧
    ((∃ l e', openNew p e = .ok l e') ∨
      e.at? (p.location d.base) ≠ none ∧ openNew p e = .error .alreadyExists e)

/-! ## The directories on the way -/

def LeadsDown (part : String) : Prop := part ≠ "." ∧ part ≠ ".."

theorem eq_of_not_leadsDown (h : ¬ LeadsDown part) : part = "." ∨ part = ".." := by
  by_cases hdot : part = "."
  · exact .inl hdot
  · exact .inr (Decidable.byContradiction fun hup => h ⟨hdot, hup⟩)

theorem step_of_leadsDown (h : LeadsDown part) (here : Location) : step here part = here ++ [part] := by
  unfold step
  rw [if_neg (by simpa using h.1), if_neg (by simpa using h.2)]

theorem place_of_follow {here : Location} {name : String} {slash : Bool}
    (h : d.follow r = .ok (.entry here name slash)) :
    ∃ front, r.steps = front ++ [name] ∧ LeadsDown name ∧
      here ++ [name] = (front ++ [name]).foldl step (r.start d.base) := by
  have hname := isName_of_follow h
  obtain ⟨hsteps, -⟩ := steps_of_follow h
  refine ⟨r.steps.dropLast, hsteps, ⟨hname.notDot, hname.notUp⟩, ?_⟩
  rw [← hsteps]
  exact location_of_follow h

theorem at?_of_enter (h : d.enter start part = .ok there) (hpart : LeadsDown part) :
    d.at? (start ++ [part]) = some .directory := by
  rw [enter_eq_lookIn hpart.1 hpart.2] at h
  cases hl : d.lookIn start part with
  | error f =>
    rw [hl] at h
    cases h
  | ok found =>
    rw [hl] at h
    rw [(lookIn_ok.1 hl).2]
    match found, h with
    | some .directory, _ => rfl

/-- **Who walks to a directory passes directories.** -/
theorem at?_of_walked (h : parts.foldlM d.enter start = .ok there) (hfront : front ++ [part] <+: parts)
    (hpart : LeadsDown part) : d.at? ((front ++ [part]).foldl step start) = some .directory := by
  obtain ⟨rest, rfl⟩ := hfront
  rw [List.append_assoc, List.foldlM_append] at h
  obtain ⟨here, hhere, h⟩ := except_bind_ok.1 h
  rw [List.singleton_append, List.foldlM_cons] at h
  obtain ⟨next, hnext, -⟩ := except_bind_ok.1 h
  rw [List.foldl_append, ← foldl_step_of_foldlM hhere, List.foldl_cons, List.foldl_nil, step_of_leadsDown hpart]
  exact at?_of_enter hnext hpart

theorem prefix_dropLast {steps first : List String} (h : first <+: steps) (hne : first ≠ steps) :
    first <+: steps.dropLast := by
  obtain ⟨rest, rfl⟩ := h
  cases List.eq_nil_or_concat rest with
  | inl hnil => exact absurd (by rw [hnil, List.append_nil]) hne
  | inr hlast =>
    obtain ⟨front, last, rfl⟩ := hlast
    rw [List.concat_eq_append, ← List.append_assoc, List.dropLast_concat]
    exact List.prefix_append _ _

theorem at?_of_follow {t : Target} (h : d.follow p = .ok t) (hfront : front ++ [part] <+: p.steps)
    (hne : front ++ [part] ≠ p.steps) (hpart : LeadsDown part) :
    d.at? ((front ++ [part]).foldl step (p.start d.base)) = some .directory := by
  obtain ⟨-, here, hwalked, -⟩ := follow_ok.1 h
  exact at?_of_walked hwalked (prefix_dropLast hfront hne) hpart

/-- **On the way to a directory there are directories**, and it is one itself. -/
theorem at?_of_look_directory (h : d.look p = .ok .directory) (hfront : front ++ [part] <+: p.steps)
    (hpart : LeadsDown part) : d.at? ((front ++ [part]).foldl step (p.start d.base)) = some .directory := by
  obtain ⟨t, hf, ht⟩ := look_ok.1 h
  by_cases hne : front ++ [part] = p.steps
  · have hlocation := location_of_follow hf
    unfold Path.location at hlocation
    rw [← hne] at hlocation
    obtain ⟨-, there, -, rfl⟩ := follow_ok.1 hf
    rw [← hne, List.getLast?_concat] at ht hlocation
    unfold targetAt at ht hlocation
    simp only at ht hlocation
    rw [if_neg (by simpa using hpart.1), if_neg (by simpa using hpart.2)] at ht hlocation
    rw [← hlocation]
    exact ht.2.1
  · exact at?_of_follow hf hfront hne hpart

/-! ## The paths above a path -/

/-- A path stands above another, or leads the same way: it takes the first of its steps from the same start. -/
structure IsAbove (r q : Path) : Prop where
  steps : r.steps <+: q.steps
  isAbsolute : r.isAbsolute = q.isAbsolute

theorem IsAbove.refl (q : Path) : IsAbove q q := ⟨List.prefix_refl _, rfl⟩

theorem pairwise_above {front : Path.Front} (h : ∀ part ∈ parts, '/' ∉ part.toList) :
    (Path.above front parts).Pairwise fun q r => r.steps <+: q.steps := by
  induction parts with
  | nil =>
    rw [Path.above]
    split
    · exact .nil
    · exact List.pairwise_singleton _ _
  | cons part rest ih =>
    have hrest : ∀ part ∈ rest, '/' ∉ part.toList := fun other hother => h other (List.mem_cons_of_mem _ hother)
    rw [Path.above]
    split
    · exact ih hrest
    · refine List.pairwise_cons.2 ⟨fun r hr => ?_, ih hrest⟩
      obtain ⟨first, ⟨more, hmore⟩, rfl⟩ := Path.mem_above hr
      have hfirst : ∀ part ∈ first, '/' ∉ part.toList := fun other hother =>
        hrest other (List.mem_reverse.1 (hmore ▸ List.mem_append_left _ hother))
      rw [Path.steps_ofParts front hfirst,
        Path.steps_ofParts front (fun other hother => h other (List.mem_reverse.1 hother)), List.reverse_cons, ← hmore,
        List.append_assoc, Path.busy, Path.busy, List.filter_append]
      exact (List.prefix_append_right_inj _).2 (List.prefix_append _ _)

/-- **The paths above a path stand above each other**, the nearest first. -/
theorem pairwise_parents (p : Path) : p.parents.Pairwise fun q r => IsAbove r q := by
  have habsolute : ∀ q ∈ p.parents, q.isAbsolute = p.isAbsolute := fun q hq => (Path.steps_of_mem_parents hq).1
  have hsteps : p.parents.Pairwise fun q r => r.steps <+: q.steps := by
    rcases hanchored : p.anchored with ⟨front, parts⟩
    rw [Path.parents_of_anchored hanchored]
    cases hbusy : parts.reverse.dropWhile Path.isIdle with
    | nil => exact .nil
    | cons name rest =>
      refine pairwise_above fun part hpart => Path.noSlash_of_anchored hanchored (List.mem_reverse.1 ?_)
      have hmem : part ∈ parts.reverse.dropWhile Path.isIdle := by
        rw [hbusy]
        exact List.mem_cons_of_mem _ hpart
      exact (List.dropWhile_sublist _).subset hmem
  exact hsteps.imp_of_mem fun {q r} hq hr h => ⟨h, (habsolute r hr).trans (habsolute q hq).symm⟩

/-! ## Directories on a disk that has more of them -/

theorem mayHouse_of_look (h : x.look q = .ok .directory) (habove : IsAbove r q) :
    MayHouse x.base (fun l => x.at? l = some .directory) r := by
  intro d here name slash hbase hf
  obtain ⟨front, hsteps, hdown, hplace⟩ := place_of_follow hf
  have hat := at?_of_look_directory h (hsteps ▸ habove.steps) hdown
  rw [hplace, hbase]
  unfold Path.start at hat ⊢
  rw [habove.isAbsolute]
  exact hat

theorem adds_of_provide (h : provide qs d = .ok () e) : AddsDirectories d e := by
  have hadds := addsDirectories_provide qs d
  rw [h] at hadds
  exact hadds

/-- **Directories are provided only where they are on every disk that has the lowest of them.** -/
theorem addsDirectories_of_provide (hx : AddsDirectories d x) (hlook : x.look q = .ok .directory)
    (habove : ∀ r ∈ qs, IsAbove r q) (h : provide qs d = .ok () e) : AddsDirectories e x := by
  have hadds := adds_of_provide h
  have hhoused := houses_provide (fun r hr => mayHouse_of_look hlook (habove r hr)) d
    ⟨hx.base.symm, fun l hl => hx.at?_of_some hl⟩
  rw [h] at hhoused
  refine ⟨hx.base.trans hadds.base.symm, fun l => ?_, fun l name hnone => hx.named l name (hadds.at?_none hnone)⟩
  rcases hadds.at? l with hsame | ⟨hnone, hdir⟩
  · rw [hsame]
    exact hx.at? l
  · exact .inl ((hhoused.directory l hdir).trans hdir.symm)

/-- Two disks that have got more directories have no file where the other has a directory. -/
theorem directory_or_free (hx : AddsDirectories d x) (he : AddsDirectories d e) (h : e.at? l = some .directory) :
    x.at? l = some .directory ∨ x.at? l = none := by
  rcases hx.at? l with hsame | ⟨-, hdir⟩
  · cases hd : d.at? l with
    | none => exact .inr (hsame.trans hd)
    | some node =>
      have hthere := he.at?_of_some hd
      rw [h] at hthere
      cases hthere
      exact .inl (hsame.trans hd)
  · exact .inl hdir

theorem enter_or_notFound (hx : AddsDirectories d x) (he : AddsDirectories d e)
    (h : e.enter start part = .ok there) :
    x.enter start part = .ok there ∨ x.enter start part = .error .notFound := by
  by_cases hdown : LeadsDown part
  · have hthere := at?_of_enter h hdown
    rw [enter_eq_lookIn hdown.1 hdown.2] at h ⊢
    obtain ⟨found, hl, h⟩ := except_bind_ok.1 h
    obtain ⟨hshort, hat⟩ := lookIn_ok.1 hl
    rw [hthere] at hat
    subst hat
    rcases directory_or_free hx he hthere with hdir | hfree
    · rw [lookIn_ok.2 ⟨hshort, hdir⟩]
      exact .inl h
    · rw [lookIn_ok.2 ⟨hshort, hfree⟩]
      exact .inr rfl
  · -- A dot or two lead on whatever the disk.
    unfold enter at h ⊢
    rcases eq_of_not_leadsDown hdown with rfl | rfl
    · exact .inl h
    · exact .inl h

theorem foldlM_enter_or_notFound (hx : AddsDirectories d x) (he : AddsDirectories d e)
    (h : parts.foldlM e.enter start = .ok there) :
    parts.foldlM x.enter start = .ok there ∨ parts.foldlM x.enter start = .error .notFound := by
  induction parts generalizing start with
  | nil => exact .inl h
  | cons part rest ih =>
    rw [List.foldlM_cons] at h ⊢
    obtain ⟨next, hnext, hrest⟩ := except_bind_ok.1 h
    rcases enter_or_notFound hx he hnext with hon | hstop
    · rw [hon]
      exact ih hrest
    · rw [hstop]
      exact .inr rfl

theorem follow_or_notFound {t : Target} (hx : AddsDirectories d x) (he : AddsDirectories d e)
    (h : e.follow p = .ok t) : x.follow p = .ok t ∨ x.follow p = .error .notFound := by
  obtain ⟨hfault, here, hw, rfl⟩ := follow_ok.1 h
  rw [follow_eq, hfault, hx.base, ← he.base]
  rcases foldlM_enter_or_notFound hx he hw with hon | hstop
  · rw [hon]
    exact .inl rfl
  · rw [hstop]
    exact .inr rfl

theorem createDirectory_of_follow_error (h : x.follow q = .error f) : createDirectory q x = .error f x :=
  bind_of_error (ask_of_error h)

theorem createDirectory_ne_notFound {t : Target} (h : x.follow q = .ok t) :
    createDirectory q x ≠ .error .notFound x := by
  intro hc
  unfold createDirectory at hc
  rw [bind_of_ok (ask_of_ok h)] at hc
  cases t with
  | directory here => cases hc
  | entry here name slash =>
    dsimp only at hc
    cases hl : x.lookIn here name with
    | error f =>
      rw [bind_of_error (ask_of_error hl)] at hc
      cases hc
      cases lookIn_error hl
    | ok found =>
      rw [bind_of_ok (ask_of_ok hl)] at hc
      cases found <;> cases hc

theorem createDirectory_of_free {here : Location} {name : String} {slash : Bool}
    (h : x.follow q = .ok (.entry here name slash)) (hfree : x.lookIn here name = .ok none) :
    createDirectory q x = .ok () (x.put (here ++ [name]) .directory) := by
  unfold createDirectory
  rw [bind_of_ok (ask_of_ok h)]
  dsimp only
  rw [bind_of_ok (ask_of_ok hfree)]
  rfl

/-- **A directory that could be made cannot be in the way of itself.** -/
theorem isDirectory_of_createDirectory (hx : AddsDirectories d x) (he : AddsDirectories d e)
    (hlook : e.look q = .ok .directory) (hc : createDirectory q x = .error f x) (hf : f ≠ .notFound) :
    x.isDirectory q = true := by
  obtain ⟨t, hfollow, ht⟩ := look_ok.1 hlook
  rcases follow_or_notFound hx he hfollow with hon | hstop
  · refine isDirectory_iff.2 (look_ok.2 ⟨t, hon, ?_⟩)
    cases t with
    | directory here => exact ht
    | entry here name slash =>
      obtain ⟨hshort, hat, hslash⟩ := ht
      rcases directory_or_free hx he hat with hdir | hfree
      · exact ⟨hshort, hdir, hslash⟩
      · rw [createDirectory_of_free hon (lookIn_ok.2 ⟨hshort, hfree⟩)] at hc
        cases hc
  · rw [createDirectory_of_follow_error hstop] at hc
    cases hc
    exact absurd rfl hf

/-- A disk has the directories of another, and only them besides what is on a third. -/
structure Merges (e x m : Disk) : Prop extends AddsDirectories e m where
  only : ∀ l, m.at? l ≠ none → e.at? l ≠ none ∨ x.at? l ≠ none

theorem merges_of_createDirectory {m : Disk} (hx : AddsDirectories d x) (habove : ∀ r ∈ above, IsAbove r q)
    (h : provide (q :: above) d = .ok () e) (hc : createDirectory q x = .ok () m) : Merges e x m := by
  have hall : ∀ r ∈ q :: above, IsAbove r q := List.forall_mem_cons.2 ⟨.refl q, habove⟩
  have he := adds_of_provide h
  have hm := addsDirectories_createDirectory q x
  rw [hc] at hm
  refine ⟨addsDirectories_of_provide (hx.trans hm) (look_of_createDirectory hc) hall h, fun l hl => ?_⟩
  rcases createDirectory_cases q x with ⟨here, name, slash, hf, -, hput⟩ | ⟨f, hf⟩
  · rw [hput] at hc
    cases hc
    by_cases hnew : l = here ++ [name]
    · have hthere := mayHouse_of_look (look_of_provide h) (.refl q) x here name slash (hx.base.trans he.base.symm) hf
      rw [hnew, hthere]
      exact .inl (by simp)
    · rw [at?_put_of_ne hnew] at hl
      exact .inr hl
  · rw [hf] at hc
    cases hc

theorem merges_of_isDirectory (hx : AddsDirectories d x) (habove : ∀ r ∈ above, IsAbove r q)
    (h : provide (q :: above) d = .ok () e) (hdir : x.isDirectory q = true) : Merges e x x :=
  ⟨addsDirectories_of_provide hx (isDirectory_iff.1 hdir) (List.forall_mem_cons.2 ⟨.refl q, habove⟩) h,
    fun _ hl => .inr hl⟩

theorem follow_of_createIfMissing (h : createIfMissing q d = .ok () e) : ∃ t, d.follow q = .ok t := by
  unfold createIfMissing at h
  rcases createDirectory_cases q d with ⟨here, name, slash, hf, -, -⟩ | ⟨f, hf⟩
  · exact ⟨_, hf⟩
  · rw [hf] at h
    dsimp only at h
    split at h
    · rename_i hdir
      obtain ⟨t, hf, -⟩ := look_ok.1 (isDirectory_iff.1 hdir)
      exact ⟨t, hf⟩
    · cases h

/-- Where a disk that has more lacks a directory above, so did the disk that has less. -/
theorem provide_of_notFound_mono (hx : AddsDirectories d x) (h : provide (q :: above) d = .ok () e)
    (hc : createDirectory q x = .error .notFound x) :
    ∃ d', provide above d = .ok () d' ∧ createIfMissing q d' = .ok () e := by
  have hnot : ∀ t, d.follow q ≠ .ok t := fun t ht =>
    createDirectory_ne_notFound (follow_mono (hx.grows []).toKeepsDirectories ht) hc
  rcases createDirectory_cases q d with ⟨here, name, slash, hf, -, -⟩ | ⟨f, hf⟩
  · exact absurd hf (hnot _)
  · by_cases hmissing : f = .notFound
    · subst hmissing
      rw [provide_of_notFound hf] at h
      obtain ⟨u, d', hd', h⟩ := bind_ok.1 h
      exact ⟨d', hd', h⟩
    · rw [provide_of_error hmissing hf] at h
      split at h
      · rename_i hdir
        obtain ⟨t, ht, -⟩ := look_ok.1 (isDirectory_iff.1 hdir)
        exact absurd ht (hnot t)
      · cases h

/-- **Directories that can be provided can be provided on every disk that has some more**, and come out as more too. -/
theorem provide_mono (hqs : qs.Pairwise fun q r => IsAbove r q) (hx : AddsDirectories d x)
    (h : provide qs d = .ok () e) : ∃ m, provide qs x = .ok () m ∧ Merges e x m := by
  induction qs generalizing e with
  | nil =>
    cases h
    exact ⟨x, rfl, hx, fun _ hl => .inr hl⟩
  | cons q above ih =>
    obtain ⟨habove, hpairwise⟩ := List.pairwise_cons.1 hqs
    have he := adds_of_provide h
    have hlook := look_of_provide h
    cases hc : createDirectory q x with
    | ok u m => exact ⟨m, provide_of_ok hc, merges_of_createDirectory hx habove h hc⟩
    | error f x' =>
      cases error_state_createDirectory hc
      -- Unless a directory above is missing, all that keeps this one from being made is that it is there.
      by_cases hf : f = .notFound
      · subst hf
        obtain ⟨d', hd', hlast⟩ := provide_of_notFound_mono hx h hc
        obtain ⟨m, hm, hmerges⟩ := ih hpairwise hd'
        have hdm : AddsDirectories d m := (adds_of_provide hd').trans hmerges.toAddsDirectories
        have hde := addsDirectories_createIfMissing q d'
        rw [hlast] at hde
        -- What the rest has brought is brought by the whole.
        have hwiden : ∀ {m' : Disk}, Merges e m m' → Merges e x m' := fun hm' =>
          ⟨hm'.toAddsDirectories, fun l hl => (hm'.only l hl).elim .inl fun hl => (hmerges.only l hl).imp_left
            fun hl hnone => hl (hde.at?_none hnone)⟩
        rw [provide_of_notFound hc, bind_of_ok hm]
        unfold createIfMissing
        cases hcm : createDirectory q m with
        | ok u m' => exact ⟨m', rfl, hwiden (merges_of_createDirectory hdm habove h hcm)⟩
        | error f m' =>
          cases error_state_createDirectory hcm
          obtain ⟨t, ht⟩ := follow_of_createIfMissing hlast
          have hne : f ≠ .notFound := by
            rintro rfl
            exact createDirectory_ne_notFound
              (follow_mono (hmerges.toAddsDirectories.grows []).toKeepsDirectories ht) hcm
          have hdir := isDirectory_of_createDirectory hdm he hlook hcm hne
          dsimp only
          rw [if_pos hdir]
          exact ⟨m, rfl, hwiden (merges_of_isDirectory hdm habove h hdir)⟩
      · have hdir := isDirectory_of_createDirectory hx he hlook hc hf
        rw [provide_of_error hf hc, if_pos hdir]
        exact ⟨x, rfl, merges_of_isDirectory hx habove h hdir⟩

/-! ## Paths that can be opened -/

/-- **A file can be created at a free path that can be opened**, once the directories above it are there. -/
theorem CanBeOpened.free (h : d.CanBeOpened p) (hfree : d.at? (p.location d.base) = none) :
    ∃ e here name, provideParents p d = .ok () e ∧ e.follow p = .ok (.entry here name false) ∧
      here ++ [name] = p.location d.base ∧ e.lookIn here name = .ok none := by
  obtain ⟨e, he, hstill, hopen⟩ := h
  rcases openNew_cases p e with ⟨here, name, hf, hl, -⟩ | ⟨ho, -⟩ | ⟨f, hne, ho⟩
  · have hlocation := location_of_follow hf
    rw [(adds_of_provide he).base] at hlocation
    exact ⟨e, here, name, he, hf, hlocation, hl⟩
  · rcases hopen with ⟨l, e', hok⟩ | ⟨hthere, -⟩
    · rw [ho] at hok
      cases hok
    · exact absurd (hstill hfree) hthere
  · rcases hopen with ⟨l, e', hok⟩ | ⟨-, hexists⟩
    · rw [ho] at hok
      cases hok
    · rw [ho] at hexists
      cases hexists
      exact absurd rfl hne

theorem openNew_of_free {here : Location} {name : String} (h : d.follow p = .ok (.entry here name false))
    (hfree : d.lookIn here name = .ok none) :
    openNew p d = .ok (here ++ [name]) (d.put (here ++ [name]) (.file .empty)) := by
  unfold openNew
  rw [bind_of_ok (ask_of_ok h)]
  dsimp only
  rw [bind_of_ok (ask_of_ok hfree)]
  rfl

theorem openNew_of_taken {here : Location} {name : String} {node : Node}
    (h : d.follow p = .ok (.entry here name false)) (htaken : d.lookIn here name = .ok (some node)) :
    openNew p d = .error .alreadyExists d := by
  unfold openNew
  rw [bind_of_ok (ask_of_ok h)]
  dsimp only
  rw [bind_of_ok (ask_of_ok htaken)]
  rfl

/-- What keeps a file from being created because it exists does so when there are more directories. -/
theorem openNew_alreadyExists_mono (hx : AddsDirectories d x) (h : openNew p d = .error .alreadyExists d) :
    openNew p x = .error .alreadyExists x := by
  have hkeeps := (hx.grows []).toKeepsDirectories
  cases hf : d.follow p with
  | error f =>
    have hfault : openNew p d = .error f d := bind_of_error (ask_of_error hf)
    rw [h] at hfault
    cases hfault
    exact absurd hf (follow_ne_alreadyExists d p)
  | ok t =>
    have hfollow := follow_mono hkeeps hf
    rcases t with here | ⟨here, name, _ | _⟩
    · unfold openNew
      rw [bind_of_ok (ask_of_ok hfollow)]
      rfl
    · cases hl : d.lookIn here name with
      | error f =>
        unfold openNew at h
        rw [bind_of_ok (ask_of_ok hf)] at h
        dsimp only at h
        rw [bind_of_error (ask_of_error hl)] at h
        cases h
        cases lookIn_error hl
      | ok found =>
        obtain ⟨hshort, hat⟩ := lookIn_ok.1 hl
        cases found with
        | none =>
          rw [openNew_of_free hf hl] at h
          cases h
        | some node => exact openNew_of_taken hfollow (lookIn_ok.2 ⟨hshort, hx.at?_of_some hat⟩)
    · unfold openNew at h
      rw [bind_of_ok (ask_of_ok hf)] at h
      cases h

/-- **A free path that can be opened is written**, also on a disk that has got more directories elsewhere. -/
theorem CanBeOpened.writeNew_free (h : d.CanBeOpened p) (hx : AddsDirectories d x)
    (hfree : x.at? (p.location d.base) = none) (content : ByteArray) :
    ∃ x', writeNew p content x = .ok .written x' ∧ Placed p content x x' := by
  obtain ⟨e, here, name, he, hf, hlocation, hl⟩ := h.free (hx.at?_none hfree)
  obtain ⟨m, hm, hmerges⟩ := provide_mono (pairwise_parents p) hx he
  obtain ⟨hshort, hnone⟩ := lookIn_ok.1 hl
  have hstill : m.at? (here ++ [name]) = none := by
    cases hat : m.at? (here ++ [name]) with
    | none => rfl
    | some node =>
      rcases hmerges.only (here ++ [name]) (by simp [hat]) with hthere | hthere
      · exact absurd hnone hthere
      · exact absurd (hlocation ▸ hfree) hthere
  have hkeeps := (hmerges.toAddsDirectories.grows []).toKeepsDirectories
  have hopened : openNew p m = .ok (here ++ [name]) (m.put (here ++ [name]) (.file .empty)) :=
    openNew_of_free (follow_mono hkeeps hf) (lookIn_ok.2 ⟨hshort, hstill⟩)
  have hwrite : writeNew p content x = .ok .written (m.put (here ++ [name]) (.file content)) := by
    unfold writeNew writeNewWith provideParents
    rw [bind_of_ok hm, createOrCollideWith_of_ok hopened, bind_of_ok (fill_of_none rfl), put_put]
    rfl
  rcases writeNew_cases p content x with ⟨x', hok, hplaced⟩ | ⟨x', hok, -⟩ | ⟨f, x', hok, -⟩
  · exact ⟨x', hok, hplaced⟩
  · rw [hwrite] at hok
    cases hok
  · rw [hwrite] at hok
    cases hok

/-- **A taken path that can be opened is a collision**, which leaves the directories above it. -/
theorem CanBeOpened.writeNew_taken (h : d.CanBeOpened p) (hx : AddsDirectories d x)
    (htaken : d.at? (p.location d.base) ≠ none) (content : ByteArray) :
    ∃ e m, provideParents p d = .ok () e ∧ writeNew p content x = .ok .collision m ∧ AddsDirectories x m ∧
      Merges e x m := by
  obtain ⟨e, he, -, hopen⟩ := h
  obtain ⟨m, hm, hmerges⟩ := provide_mono (pairwise_parents p) hx he
  have hexists : openNew p e = .error .alreadyExists e := by
    rcases hopen with ⟨l, e', hok⟩ | ⟨-, hexists⟩
    · rcases openNew_cases p e with ⟨here, name, hf, hl, -⟩ | ⟨hc, -⟩ | ⟨f, -, hc⟩
      · have hlocation : here ++ [name] = p.location e.base := location_of_follow hf
        have hadds := adds_of_provide he
        have hnone := hadds.at?_none (lookIn_ok.1 hl).2
        rw [hlocation, hadds.base] at hnone
        exact absurd hnone htaken
      · exact hc
      · rw [hc] at hok
        cases hok
    · exact hexists
  refine ⟨e, m, he, ?_, adds_of_provide hm, hmerges⟩
  unfold writeNew writeNewWith provideParents
  rw [bind_of_ok hm]
  exact createOrCollideWith_of_taken (openNew_alreadyExists_mono hmerges.toAddsDirectories hexists) .never content

/-- **A free path that can be opened does not lead through the place to which it leads.** -/
theorem CanBeOpened.not_through (h : d.CanBeOpened p) (hfree : d.at? (p.location d.base) = none)
    (hfront : front ++ [part] <+: p.steps) (hne : front ++ [part] ≠ p.steps) (hpart : LeadsDown part) :
    (front ++ [part]).foldl step (p.start d.base) ≠ p.location d.base := by
  obtain ⟨e, here, name, he, hf, hlocation, hl⟩ := h.free hfree
  have hat := at?_of_follow hf hfront hne hpart
  rw [(adds_of_provide he).base] at hat
  intro hsame
  rw [hsame, ← hlocation, (lookIn_ok.1 hl).2] at hat
  cases hat

/-! ## Directories that are there -/

theorem Path.fault?_join {name : String} (hname : IsName name) (hp : '\x00' ∉ p.text.toList)
    (hnul : '\x00' ∉ name.toList) (hlong : p.text.utf8ByteSize + 1 + name.utf8ByteSize ≤ longestPath) :
    (p.join ⟨name⟩).fault? = none := by
  have hlist := Path.toList_join hname p
  have hbusy : ¬ (p.join ⟨name⟩).text.isEmpty = true := by
    rw [String.isEmpty_iff, ← String.toList_eq_nil_iff, hlist]
    simp [hname.notEmpty]
  have hclean : ¬ (p.join ⟨name⟩).text.toList.contains '\x00' = true := by
    rw [List.contains_eq_mem, decide_eq_true_eq, hlist, List.mem_append, List.mem_append, not_or, not_or]
    refine ⟨hp, ?_, hnul⟩
    split
    · exact List.not_mem_nil
    · decide
  have hsize : (p.join ⟨name⟩).text.utf8ByteSize ≤ p.text.utf8ByteSize + 1 + name.utf8ByteSize := by
    unfold Path.join
    rw [Path.isAbsolute_name hname]
    split
    · contradiction
    · split
      · rw [String.utf8ByteSize_append]
        exact Nat.add_le_add_right (Nat.le_succ _) _
      · rw [String.utf8ByteSize_append, String.utf8ByteSize_append]
        exact Nat.le_refl _
  unfold Path.fault?
  rw [if_neg hclean, if_neg hbusy, if_neg (Nat.not_lt.2 (Nat.le_trans hsize hlong))]

theorem provide_of_look (h : d.look q = .ok .directory) : provide (q :: above) d = .ok () d := by
  obtain ⟨t, hf, ht⟩ := look_ok.1 h
  rcases createDirectory_cases q d with ⟨here, name, slash, hf', hl, -⟩ | ⟨f, hc⟩
  · rw [hf] at hf'
    cases hf'
    have hat := (lookIn_ok.1 hl).2
    rw [ht.2.1] at hat
    cases hat
  · have hne : f ≠ .notFound := by
      rintro rfl
      exact createDirectory_ne_notFound hf hc
    rw [provide_of_error hne hc, if_pos (isDirectory_iff.2 h)]

/-- **In a directory that is there, every name that is not too long can be opened.** -/
theorem canBeOpened_join {name : String} {here : Location} (hname : IsName name)
    (hparents : (p.join ⟨name⟩).parents = q :: above) (hlook : d.look q = .ok .directory) (hwalk : d.walk p = .ok here)
    (hfault : (p.join ⟨name⟩).fault? = none) (hshort : ¬ longestName < name.utf8ByteSize) :
    d.CanBeOpened (p.join ⟨name⟩) := by
  have hfollow : d.follow (p.join ⟨name⟩) = .ok (.entry here name false) := by
    rw [follow_join hname, hfault, hwalk]
    rfl
  have hprovide : provideParents (p.join ⟨name⟩) d = .ok () d := by
    unfold provideParents
    rw [hparents]
    exact provide_of_look hlook
  refine ⟨d, hprovide, id, ?_⟩
  cases hat : d.at? (here ++ [name]) with
  | none => exact .inl ⟨_, _, openNew_of_free hfollow (lookIn_ok.2 ⟨hshort, hat⟩)⟩
  | some node =>
    refine .inr ⟨?_, openNew_of_taken hfollow (lookIn_ok.2 ⟨hshort, hat⟩)⟩
    rw [← location_of_follow hfollow]
    show d.at? (here ++ [name]) ≠ none
    simp [hat]

end Scaffold.Disk
