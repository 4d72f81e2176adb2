import Scaffold.Proofs.Disk.Opening
/-!
# Proofs.Disk.Siblings — paths that differ in one name

Files that are named by one pattern have paths that differ in one name only, though slashes may stand behind this name
(`siblings_join`).  Where two such paths can be opened, the directories above one do not take the place of the other
(`free_of_sibling`).
-/
namespace Scaffold.Disk

variable {d e : Disk} {p q : Path} {l u v : Location} {x y part first second : String} {front rest : List String}

/-- Two paths that take the same steps but for one, at which each goes down by a name of its own. -/
def Siblings (p q : Path) : Prop :=
  p.isAbsolute = q.isAbsolute ∧ ∃ front x y rest, LeadsDown x ∧ LeadsDown y ∧
    p.steps = front ++ x :: rest ∧ q.steps = front ++ y :: rest

/-! ## Texts behind a directory -/

theorem leadsDown_append (h : IsName first) (back : String) : LeadsDown (first ++ back) := by
  have hdots : ¬ first.toList <+: ['.', '.'] := by
    rw [List.prefix_cons_iff, not_or]
    refine ⟨fun hnil => h.notEmpty (String.toList_eq_nil_iff.1 hnil), ?_⟩
    rintro ⟨rest, hfirst, hrest⟩
    rcases List.prefix_cons_iff.1 hrest with rfl | ⟨more, rfl, hmore⟩
    · exact h.notDot (String.toList_inj.1 hfirst)
    · rw [List.prefix_nil.1 hmore] at hfirst
      exact h.notUp (String.toList_inj.1 hfirst)
  have hbegins : first.toList <+: (first ++ back).toList := by
    rw [String.toList_append]
    exact List.prefix_append _ _
  constructor
  · intro hdot
    rw [hdot] at hbegins
    exact hdots (hbegins.trans ⟨['.'], rfl⟩)
  · intro hup
    rw [hup] at hbegins
    exact hdots hbegins

namespace Path

theorem toList_join_relative (hq : q.isAbsolute = false) (p : Path) :
    (p.join q).text.toList =
      p.text.toList ++ ((if p.text.isEmpty || p.endsWithSlash then [] else ['/']) ++ q.text.toList) := by
  unfold join
  rw [hq]
  split
  · contradiction
  · split <;> simp [String.toList_append]

theorem isAbsolute_join_relative (hq : q.isAbsolute = false) (p : Path) : (p.join q).isAbsolute = p.isAbsolute := by
  have hlist := toList_join_relative hq p
  unfold isAbsolute at hq ⊢
  rw [hlist]
  cases ht : p.text.toList with
  | cons c rest => rfl
  | nil =>
    have hempty : p.text.isEmpty = true := by rw [String.isEmpty_iff, ← String.toList_eq_nil_iff, ht]
    rw [hempty]
    exact hq

/-- The steps of a text with these characters. -/
def stepsOf (text : List Char) : List String := ((Text.splitAt '/' text).map String.ofList).filter (!·.isEmpty)

theorem stepsOf_slash (before behind : List Char) :
    stepsOf (before ++ '/' :: behind) = stepsOf before ++ stepsOf behind := by
  unfold stepsOf
  rw [Text.splitAt_append_separator, List.map_append, List.filter_append]

/-- **Following a relative path behind a directory is following the directory, and then the path.** -/
theorem steps_join_relative (hq : q.isAbsolute = false) (p : Path) : (p.join q).steps = p.steps ++ q.steps := by
  show stepsOf (p.join q).text.toList = stepsOf p.text.toList ++ stepsOf q.text.toList
  rw [toList_join_relative hq]
  split
  · rename_i h
    rw [List.nil_append]
    rcases Bool.or_eq_true_iff.1 h with hempty | hslash
    · rw [String.toList_eq_nil_iff.2 (String.isEmpty_iff.1 hempty)]
      rfl
    · obtain ⟨before, hbefore⟩ := List.getLast?_eq_some_iff.1 (by simpa [endsWithSlash] using hslash)
      rw [hbefore, List.append_assoc, List.singleton_append, stepsOf_slash, stepsOf_slash]
      simp [stepsOf, Text.splitAt]
  · rw [List.singleton_append, stepsOf_slash]

theorem splitAt_append_of_not_mem {separator : Char} {front back part : List Char} {parts : List (List Char)}
    (h : separator ∉ front) (hback : Text.splitAt separator back = part :: parts) :
    Text.splitAt separator (front ++ back) = (front ++ part) :: parts := by
  induction front with
  | nil => exact hback
  | cons c rest ih =>
    rw [List.mem_cons, not_or] at h
    rw [List.cons_append, Text.splitAt, ih h.2]
    simp [Ne.symm h.1]

/-- A text that begins with a name has a first step that begins with it; the other steps do not depend on the name. -/
theorem steps_name_append (back : String) :
    ∃ behind rest, ∀ first, IsName first → (⟨first ++ back⟩ : Path).steps = (first ++ behind) :: rest := by
  cases hback : Text.splitAt '/' back.toList with
  | nil => exact absurd hback (Text.splitAt_ne_nil _ _)
  | cons part parts =>
    refine ⟨String.ofList part, (parts.map String.ofList).filter (!·.isEmpty), fun first hfirst => ?_⟩
    have hbusy : (first ++ String.ofList part).isEmpty = false := by
      rw [Bool.eq_false_iff, ne_eq, String.isEmpty_iff, ← String.toList_eq_nil_iff, String.toList_append]
      simp [hfirst.notEmpty]
    show stepsOf (first ++ back).toList = _
    unfold stepsOf
    rw [String.toList_append, splitAt_append_of_not_mem hfirst.noSlash hback, List.map_cons, String.ofList_append,
      String.ofList_toList, List.filter_cons_of_pos (by rw [hbusy]; rfl)]

end Path

/-- **Texts that differ in a name at their front lead to siblings.** -/
theorem siblings_join (hfirst : IsName first) (hsecond : IsName second) (back : String) (p : Path) :
    Siblings (p.join ⟨first ++ back⟩) (p.join ⟨second ++ back⟩) := by
  have hfirst' := Path.isAbsolute_name_append hfirst back
  have hsecond' := Path.isAbsolute_name_append hsecond back
  obtain ⟨behind, rest, hsteps⟩ := Path.steps_name_append back
  refine ⟨?_, p.steps, first ++ behind, second ++ behind, rest, leadsDown_append hfirst behind,
    leadsDown_append hsecond behind, ?_, ?_⟩
  · rw [Path.isAbsolute_join_relative hfirst', Path.isAbsolute_join_relative hsecond']
  · rw [Path.steps_join_relative hfirst', hsteps first hfirst]
  · rw [Path.steps_join_relative hsecond', hsteps second hsecond]

/-! ## Where siblings lead -/

/-- Two locations that differ in one name, or not at all. -/
def Forked (l : Location) (x y : String) (u v : Location) : Prop :=
  (∃ tail, u = l ++ x :: tail ∧ v = l ++ y :: tail) ∨ u = v

theorem Forked.step (h : Forked l x y u v) (part : String) : Forked l x y (step u part) (step v part) := by
  rcases h with ⟨tail, rfl, rfl⟩ | rfl
  · by_cases hdown : LeadsDown part
    · rw [step_of_leadsDown hdown, step_of_leadsDown hdown]
      exact .inl ⟨tail ++ [part], by simp, by simp⟩
    · rcases eq_of_not_leadsDown hdown with rfl | rfl
      · exact .inl ⟨tail, rfl, rfl⟩
      · show Forked l x y (l ++ x :: tail).dropLast (l ++ y :: tail).dropLast
        cases List.eq_nil_or_concat tail with
        | inl hnil =>
          subst hnil
          rw [List.dropLast_concat, List.dropLast_concat]
          exact .inr rfl
        | inr hlast =>
          obtain ⟨before, last, rfl⟩ := hlast
          rw [List.concat_eq_append, ← List.cons_append, ← List.append_assoc, List.dropLast_concat,
            ← List.cons_append, ← List.append_assoc, List.dropLast_concat]
          exact .inl ⟨before, rfl, rfl⟩
  · exact .inr rfl

/-- **The same steps behind two names lead to locations that differ in the names, or not at all.** -/
theorem Forked.foldl (h : Forked l x y u v) (rest : List String) :
    Forked l x y (rest.foldl Disk.step u) (rest.foldl Disk.step v) := by
  induction rest generalizing u v with
  | nil => exact h
  | cons part rest ih => exact ih (h.step part)

theorem exists_last_down {before behind : List String} (h : front ++ [part] = before ++ x :: behind)
    (hpart : LeadsDown part) (hy : LeadsDown y) :
    ∃ front' last, before ++ y :: behind = front' ++ [last] ∧ LeadsDown last := by
  cases List.eq_nil_or_concat behind with
  | inl hnil =>
    subst hnil
    exact ⟨before, y, rfl, hy⟩
  | inr hlast =>
    obtain ⟨between, last, rfl⟩ := hlast
    rw [List.concat_eq_append, ← List.cons_append, ← List.append_assoc] at h
    obtain ⟨-, hsame⟩ := List.append_inj' h rfl
    cases hsame
    exact ⟨before ++ y :: between, part, by simp, hpart⟩

/-- The beginning of a list with a fork ends before the fork, or goes beyond it. -/
theorem prefix_of_fork {before beginning : List String} (h : beginning <+: before ++ x :: rest)
    (hne : beginning ≠ before ++ x :: rest) :
    beginning <+: before ∨ ∃ behind more, beginning = before ++ x :: behind ∧ rest = behind ++ more ∧ more ≠ [] := by
  rcases List.prefix_or_prefix_of_prefix h (List.prefix_append before _) with hshort | ⟨behind, rfl⟩
  · exact .inl hshort
  · rw [List.prefix_append_right_inj] at h
    rcases List.prefix_cons_iff.1 h with rfl | ⟨behind, rfl, more, rfl⟩
    · exact .inl (by simp)
    · exact .inr ⟨behind, more, rfl, rfl, by rintro rfl; simp at hne⟩

/-- **A path that can be opened does not lead through the free place of a sibling.** -/
theorem Siblings.not_through (h : Siblings p q) (hp : d.CanBeOpened p) (hq : d.CanBeOpened q)
    (hfree : d.at? (q.location d.base) = none) (hfront : front ++ [part] <+: p.steps)
    (hne : front ++ [part] ≠ p.steps) (hpart : LeadsDown part) :
    (front ++ [part]).foldl step (p.start d.base) ≠ q.location d.base := by
  obtain ⟨habsolute, before, x, y, rest, hx, hy, hpsteps, hqsteps⟩ := h
  have hstart : q.start d.base = p.start d.base := by
    unfold Path.start
    rw [habsolute]
  have hfork : ∀ behind, Forked (before.foldl step (p.start d.base)) x y
      ((before ++ x :: behind).foldl step (p.start d.base)) ((before ++ y :: behind).foldl step (p.start d.base)) := by
    intro behind
    rw [List.foldl_append, List.foldl_append, List.foldl_cons, List.foldl_cons, step_of_leadsDown hx,
      step_of_leadsDown hy]
    exact Forked.foldl (.inl ⟨[], rfl, rfl⟩) behind
  have hown : p.location d.base = q.location d.base →
      (front ++ [part]).foldl step (p.start d.base) ≠ q.location d.base := fun hsame =>
    hsame ▸ hp.not_through (hsame ▸ hfree) hfront hne hpart
  have hother : ∀ {front' : List String} {last : String}, front' ++ [last] <+: q.steps → front' ++ [last] ≠ q.steps →
      LeadsDown last → (front' ++ [last]).foldl step (p.start d.base) ≠ q.location d.base := by
    rw [← hstart]
    exact hq.not_through hfree
  have hplaces : Forked (before.foldl step (p.start d.base)) x y (p.location d.base) (q.location d.base) := by
    unfold Path.location
    rw [hpsteps, hqsteps, hstart]
    exact hfork rest
  rcases hplaces with ⟨tail, hplace, hplace'⟩ | hsame
  · rw [hpsteps] at hfront hne
    rcases prefix_of_fork hfront hne with hshort | ⟨behind, more, hends, hrest, hmore⟩
    · -- The way is the same so far, so it is the sibling's way too.
      rw [hqsteps] at hother
      refine hother (hshort.trans (List.prefix_append _ _)) (fun hall => ?_) hpart
      rw [hall] at hshort
      exact absurd hshort.length_le (by simp)
    · rcases hfork behind with ⟨tail', hthere, -⟩ | hjoined
      · intro hsame
        rw [hends, hthere, hplace'] at hsame
        obtain ⟨hxy, -⟩ := List.cons.inj (List.append_cancel_left hsame)
        refine hown (by rw [hplace, hplace', hxy]) ?_
        rw [hends, hthere, hplace', hsame]
      · -- The two ways have come together again.
        obtain ⟨front', last, hlast, hdown⟩ := exists_last_down hends hpart hy
        rw [hends, hjoined, hlast]
        refine hother ⟨more, ?_⟩ (fun hall => ?_) hdown
        · rw [hqsteps, hrest, ← hlast, List.append_assoc, List.cons_append]
        · rw [hqsteps, hrest, ← hlast] at hall
          simp [hmore] at hall
  · exact hown hsame

/-- **The directories above a path do not take the free place of a sibling**, where both can be opened. -/
theorem free_of_sibling (h : Siblings p q) (hp : d.CanBeOpened p) (hq : d.CanBeOpened q)
    (hfree : d.at? (q.location d.base) = none) (hprovide : provideParents p d = .ok () e) :
    e.at? (q.location d.base) = none := by
  have hhoused : Housed d.base (· ≠ q.location d.base) (endState (provide p.parents d)) := by
    refine houses_provide (fun r hr d' here name slash hbase hf => ?_) d ⟨rfl, fun l hl hplace => ?_⟩
    · obtain ⟨front, hsteps, hdown, hplace⟩ := place_of_follow hf
      obtain ⟨habsolute, habove, hproper⟩ := Path.steps_of_mem_parents hr
      have hnot := h.not_through hp hq hfree (hsteps ▸ habove) (hsteps ▸ hproper) hdown
      rw [hplace, hbase]
      unfold Path.start at hnot ⊢
      rw [habsolute]
      exact hnot
    · rw [hplace, hfree] at hl
      cases hl
  rw [show provide p.parents d = .ok () e from hprovide] at hhoused
  rcases (adds_of_provide hprovide).at? (q.location d.base) with hsame | ⟨-, hdir⟩
  · exact hsame.trans hfree
  · exact absurd rfl (hhoused.directory _ hdir)

end Scaffold.Disk
