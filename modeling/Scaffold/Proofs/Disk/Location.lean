import Scaffold.Disk.Access
import Scaffold.Proofs.Effect
/-!
# Proofs.Disk.Location — where a path leads, by its text alone

A disk has no links, so a path that can be followed at all leads to a location that its text and the base alone
decide (`location_of_follow`).  A name put behind a directory leads to that name below the directory's location
(`location_join`), and following it is walking to the directory (`follow_join`).
-/
namespace Scaffold.Disk

/-- Where a part leads, by its text alone. -/
def step (here : Location) (part : String) : Location :=
  if part == "." then here else if part == ".." then here.dropLast else here ++ [part]

namespace Path

def steps (p : Path) : List String := p.parts.filter (!·.isEmpty)

def start (p : Path) (base : Location) : Location := if p.isAbsolute then [] else base

/-- Where the path leads, by its text alone. -/
def location (p : Path) (base : Location) : Location := p.steps.foldl step (p.start base)

/-- What keeps a path from being followed, whatever the disk. -/
def fault? (p : Path) : Option Fault :=
  if p.text.toList.contains '\x00' then some .nulInName
  else if p.text.isEmpty then some .notFound
  else if longestPath < p.text.utf8ByteSize then some .nameTooLong
  else none

end Path

def Target.location : Target → Location
  | .directory l => l
  | .entry here name _ => here ++ [name]

/-- The target of a last part. -/
def targetAt (p : Path) (here : Location) : Option String → Target
  | none => .directory here
  | some part =>
    if part == "." then .directory here
    else if part == ".." then .directory here.dropLast
    else .entry here part p.endsWithSlash

/-- Follows all parts of a path, each of which must lead to a directory. -/
def walk (d : Disk) (p : Path) : Except Fault Location := p.steps.foldlM d.enter (p.start d.base)

theorem follow_eq (d : Disk) (p : Path) :
    d.follow p = match p.fault? with
      | some f => .error f
      | none => (p.steps.dropLast.foldlM d.enter (p.start d.base)).map
          fun here => targetAt p here p.steps.getLast? := by
  unfold follow Path.fault?
  by_cases h₁ : p.text.toList.contains '\x00'
  · rw [if_pos h₁, if_pos h₁]
    rfl
  rw [if_neg h₁, if_neg h₁]
  by_cases h₂ : p.text.isEmpty
  · rw [if_pos h₂, if_pos h₂]
    rfl
  rw [if_neg h₂, if_neg h₂]
  by_cases h₃ : longestPath < p.text.utf8ByteSize
  · rw [if_pos h₃, if_pos h₃]
    rfl
  rw [if_neg h₃, if_neg h₃]
  -- What is left is the walk, and the part that it leaves.
  show (p.steps.dropLast.foldlM d.enter (p.start d.base) >>= _) = _
  cases p.steps.dropLast.foldlM d.enter (p.start d.base) with
  | error f => rfl
  | ok here =>
    unfold targetAt Path.steps
    simp only [bind, Except.bind, Except.map, pure, Except.pure]
    cases (p.parts.filter (!·.isEmpty)).getLast? with
    | none => rfl
    | some part =>
      split
      · contradiction
      · rename_i h
        cases h
        rfl
      · rename_i h
        cases h
        rfl
      · rename_i name hdot hup h
        cases h
        have h₁ : (part == ".") = false := by simpa using hdot
        have h₂ : (part == "..") = false := by simpa using hup
        simp [h₁, h₂]

theorem step_of_enter {d : Disk} {here there : Location} {part : String} (h : d.enter here part = .ok there) :
    there = step here part := by
  unfold enter at h
  unfold step
  split at h
  · rename_i hdot
    rw [if_pos hdot]
    cases h
    rfl
  · rename_i hdot
    rw [if_neg hdot]
    split at h
    · rename_i hup
      rw [if_pos hup]
      cases h
      rfl
    · rename_i hup
      rw [if_neg hup]
      split at h <;> cases h
      rfl

theorem foldl_step_of_foldlM {d : Disk} {parts : List String} {here there : Location}
    (h : parts.foldlM d.enter here = .ok there) : there = parts.foldl step here := by
  induction parts generalizing here with
  | nil =>
    cases h
    rfl
  | cons part rest ih =>
    rw [List.foldlM_cons] at h
    obtain ⟨next, hnext, hrest⟩ := except_bind_ok.1 h
    rw [List.foldl_cons, ← step_of_enter hnext]
    exact ih hrest

theorem location_targetAt (p : Path) (here : Location) (parts : List String) :
    (targetAt p (parts.dropLast.foldl step here) parts.getLast?).location = parts.foldl step here := by
  cases hl : parts.getLast? with
  | none =>
    rw [List.getLast?_eq_none_iff] at hl
    subst hl
    rfl
  | some part =>
    obtain ⟨front, rfl⟩ := List.getLast?_eq_some_iff.1 hl
    rw [List.dropLast_concat, List.foldl_append, List.foldl_cons, List.foldl_nil]
    show Target.location (if part == "." then _ else if part == ".." then _ else _) = step _ part
    unfold step
    split
    · rfl
    · split <;> rfl

theorem follow_ok {d : Disk} {p : Path} {t : Target} : d.follow p = .ok t ↔ p.fault? = none ∧
    ∃ here, p.steps.dropLast.foldlM d.enter (p.start d.base) = .ok here ∧ t = targetAt p here p.steps.getLast? := by
  rw [follow_eq]
  cases p.fault? with
  | some f => simp
  | none =>
    cases p.steps.dropLast.foldlM d.enter (p.start d.base) with
    | error f => simp [Except.map]
    | ok here => simp [Except.map, eq_comm]

/-- **A path that can be followed leads to the location that its text and the base decide.** -/
theorem location_of_follow {d : Disk} {p : Path} {t : Target} (h : d.follow p = .ok t) :
    t.location = p.location d.base := by
  obtain ⟨-, here, hw, rfl⟩ := follow_ok.1 h
  rw [foldl_step_of_foldlM hw]
  exact location_targetAt p _ p.steps

/-- A target that is an entry is the last part, in the directory to which the others lead. -/
theorem eq_of_targetAt {p : Path} {there here : Location} {last : Option String} {name : String} {slash : Bool}
    (h : targetAt p there last = .entry here name slash) :
    last = some name ∧ here = there ∧ name ≠ "." ∧ name ≠ ".." := by
  cases last with
  | none => cases h
  | some part =>
    unfold targetAt at h
    simp only at h
    split at h
    · cases h
    · rename_i hdot
      split at h
      · cases h
      · rename_i hup
        cases h
        exact ⟨rfl, rfl, fun he => hdot (by simp [he]), fun he => hup (by simp [he])⟩

theorem walk_location {d : Disk} {p : Path} {here : Location} (h : d.walk p = .ok here) : here = p.location d.base :=
  foldl_step_of_foldlM h

/-! ## A name behind a directory -/

/-- A text that names something in a directory: it is a single part, and that part leads down. -/
structure IsName (name : String) : Prop where
  noSlash : '/' ∉ name.toList
  notEmpty : name ≠ ""
  notDot : name ≠ "."
  notUp : name ≠ ".."

/-- What ends with more than dots is a name unless a slash divides it. -/
theorem isName_append {front back : String} (hfront : '/' ∉ front.toList) (hback : '/' ∉ back.toList) {c : Char}
    (hc : c ∈ back.toList) (hdot : c ≠ '.') : IsName (front ++ back) := by
  have hmem : c ∈ (front ++ back).toList := by
    rw [String.toList_append]
    exact List.mem_append_right _ hc
  refine ⟨?_, fun h => ?_, fun h => ?_, fun h => ?_⟩
  · rw [String.toList_append, List.mem_append, not_or]
    exact ⟨hfront, hback⟩
  · rw [h] at hmem
    cases hmem
  · rw [h] at hmem
    exact hdot (List.mem_singleton.1 hmem)
  · rw [h] at hmem
    rcases List.mem_cons.1 hmem with hc | hmem
    · exact hdot hc
    · exact hdot (List.mem_singleton.1 hmem)

theorem noSlash_of_mem_steps {p : Path} {part : String} (h : part ∈ p.steps) : '/' ∉ part.toList ∧ part ≠ "" := by
  unfold Path.steps Path.parts Text.split at h
  obtain ⟨hpart, hbusy⟩ := List.mem_filter.1 h
  obtain ⟨chars, hchars, rfl⟩ := List.mem_map.1 hpart
  rw [String.toList_ofList]
  exact ⟨Text.not_mem_of_mem_splitAt hchars, by simpa using hbusy⟩

/-- **A path that leads to an entry leads to a name.** -/
theorem isName_of_follow {d : Disk} {p : Path} {here : Location} {name : String} {slash : Bool}
    (h : d.follow p = .ok (.entry here name slash)) : IsName name := by
  obtain ⟨-, there, -, htarget⟩ := follow_ok.1 h
  obtain ⟨hlast, -, hdot, hup⟩ := eq_of_targetAt htarget.symm
  obtain ⟨hslash, hempty⟩ := noSlash_of_mem_steps (List.mem_of_getLast? hlast)
  exact ⟨hslash, hempty, hdot, hup⟩

theorem steps_of_follow {d : Disk} {p : Path} {here : Location} {name : String} {slash : Bool}
    (h : d.follow p = .ok (.entry here name slash)) :
    p.steps = p.steps.dropLast ++ [name] ∧ here = p.steps.dropLast.foldl step (p.start d.base) := by
  obtain ⟨-, there, hw, htarget⟩ := follow_ok.1 h
  obtain ⟨hlast, rfl, -, -⟩ := eq_of_targetAt htarget.symm
  obtain ⟨front, hfront⟩ := List.getLast?_eq_some_iff.1 hlast
  refine ⟨?_, foldl_step_of_foldlM hw⟩
  rw [hfront, List.dropLast_concat]

namespace Path

theorem isAbsolute_name_append {name : String} (hname : IsName name) (back : String) :
    (⟨name ++ back⟩ : Path).isAbsolute = false := by
  unfold isAbsolute
  rw [String.toList_append]
  cases hn : name.toList with
  | nil => exact absurd (String.toList_eq_nil_iff.1 hn) hname.notEmpty
  | cons c rest =>
    have hc : c ≠ '/' := fun h => hname.noSlash (by rw [hn, h]; exact List.mem_cons_self)
    simpa using hc

theorem isAbsolute_name {name : String} (hname : IsName name) : (⟨name⟩ : Path).isAbsolute = false := by
  have := isAbsolute_name_append hname ""
  rwa [String.append_empty] at this

theorem toList_join {name : String} (hname : IsName name) (p : Path) :
    (p.join ⟨name⟩).text.toList =
      p.text.toList ++ ((if p.text.isEmpty || p.endsWithSlash then [] else ['/']) ++ name.toList) := by
  have habs := isAbsolute_name hname
  unfold join
  rw [habs]
  split
  · contradiction
  · split <;> simp [String.toList_append]

theorem text_join_ne_empty {p : Path} (hp : p.text ≠ "") (q : Path) : (p.join q).text ≠ "" := by
  have hfront : ∀ back : String, p.text ++ back ≠ "" := by
    intro back h
    have hlist := congrArg String.toList h
    rw [String.toList_append] at hlist
    exact hp (String.toList_inj.1 (List.append_eq_nil_iff.1 hlist).1)
  unfold join
  split
  · rename_i habs
    intro h
    unfold isAbsolute at habs
    rw [h] at habs
    cases habs
  · split
    · exact hfront q.text
    · show p.text ++ "/" ++ q.text ≠ ""
      rw [String.append_assoc]
      exact hfront _

theorem isAbsolute_join {name : String} (hname : IsName name) (p : Path) :
    (p.join ⟨name⟩).isAbsolute = p.isAbsolute := by
  unfold isAbsolute
  rw [toList_join hname]
  cases ht : p.text.toList with
  | cons c rest => rfl
  | nil =>
    have hempty : p.text.isEmpty = true := by
      rw [String.isEmpty_iff, ← String.toList_eq_nil_iff, ht]
    rw [hempty]
    cases hn : name.toList with
    | nil => rfl
    | cons c rest =>
      have hc : c ≠ '/' := fun h => hname.noSlash (by rw [hn, h]; exact List.mem_cons_self)
      simpa using hc

theorem endsWithSlash_join {name : String} (hname : IsName name) (p : Path) :
    (p.join ⟨name⟩).endsWithSlash = false := by
  unfold endsWithSlash
  rw [toList_join hname, ← List.append_assoc, List.getLast?_append]
  cases hn : name.toList.getLast? with
  | none =>
    rw [List.getLast?_eq_none_iff] at hn
    exact absurd (String.toList_eq_nil_iff.1 hn) hname.notEmpty
  | some c =>
    have hc : c ≠ '/' := fun h => hname.noSlash (h ▸ List.mem_of_getLast? hn)
    simpa using hc

/-- **Following a name behind a directory is following the directory, and then the name.** -/
theorem steps_join {name : String} (hname : IsName name) (p : Path) : (p.join ⟨name⟩).steps = p.steps ++ [name] := by
  have hlast : Text.splitAt '/' name.toList = [name.toList] := Text.splitAt_of_not_mem hname.noSlash
  have hbusy : [String.ofList name.toList].filter (!·.isEmpty) = [name] := by
    simp [String.ofList_toList, hname.notEmpty]
  unfold steps parts Text.split
  rw [toList_join hname]
  split
  · rename_i h
    rw [List.nil_append]
    rcases Bool.or_eq_true_iff.1 h with hempty | hslash
    · have ht : p.text.toList = [] := by rw [String.toList_eq_nil_iff, ← String.isEmpty_iff, hempty]
      rw [ht, List.nil_append, hlast, List.map_singleton, hbusy]
      simp [Text.splitAt]
    · unfold endsWithSlash at hslash
      obtain ⟨front, hfront⟩ := List.getLast?_eq_some_iff.1 (by simpa using hslash)
      rw [hfront, List.append_assoc, List.singleton_append, Text.splitAt_append_separator, hlast,
        Text.splitAt_append_separator, List.map_append, List.map_append, List.filter_append, List.filter_append,
        List.map_singleton, hbusy]
      simp [Text.splitAt]
  · rw [List.singleton_append, Text.splitAt_append_separator, hlast, List.map_append, List.filter_append,
      List.map_singleton, hbusy]

theorem start_join {name : String} (hname : IsName name) (p : Path) (base : Location) :
    (p.join ⟨name⟩).start base = p.start base := by
  unfold start
  rw [isAbsolute_join hname]

/-- **A name behind a directory leads to the name below the directory's location.** -/
theorem location_join {name : String} (hname : IsName name) (p : Path) (base : Location) :
    (p.join ⟨name⟩).location base = p.location base ++ [name] := by
  unfold location
  rw [steps_join hname, start_join hname, List.foldl_append, List.foldl_cons, List.foldl_nil]
  unfold step
  rw [if_neg (by simpa using hname.notDot), if_neg (by simpa using hname.notUp)]

/-- **A path that begins with a name is joined part by part.** -/
theorem join_slash {first rest : String} (hfirst : IsName first) (hrest : (⟨rest⟩ : Path).isAbsolute = false)
    (p : Path) : p.join ⟨first ++ "/" ++ rest⟩ = (p.join ⟨first⟩).join ⟨rest⟩ := by
  have habsolute := isAbsolute_name hfirst
  have hwhole : (⟨first ++ "/" ++ rest⟩ : Path).isAbsolute = false := by
    rw [String.append_assoc]
    exact isAbsolute_name_append hfirst _
  have hslash := endsWithSlash_join hfirst p
  have hbusy : (p.join ⟨first⟩).text.isEmpty = false := by
    rw [Bool.eq_false_iff, ne_eq, String.isEmpty_iff, ← String.toList_eq_nil_iff, toList_join hfirst]
    simp [hfirst.notEmpty]
  have hback : (p.join ⟨first⟩).join ⟨rest⟩ = ⟨(p.join ⟨first⟩).text ++ "/" ++ rest⟩ := by
    generalize p.join ⟨first⟩ = q at hslash hbusy
    unfold join
    rw [hrest, hslash, hbusy]
    rfl
  rw [hback]
  unfold join
  rw [hwhole, habsolute]
  simp only [Bool.false_eq_true, if_false]
  split <;> simp only [String.append_assoc]

/-- **Following names between slashes is following the directory, and then the names one after the other.** -/
theorem steps_join_names {first : String} {rest : List String} (h : ∀ name ∈ first :: rest, IsName name) (p : Path) :
    (p.join ⟨"/".intercalate (first :: rest)⟩).steps = p.steps ++ first :: rest ∧
      (p.join ⟨"/".intercalate (first :: rest)⟩).isAbsolute = p.isAbsolute := by
  induction rest generalizing p first with
  | nil =>
    have hfirst := h first List.mem_cons_self
    exact ⟨steps_join hfirst p, isAbsolute_join hfirst p⟩
  | cons second rest ih =>
    have hfirst := h first List.mem_cons_self
    have hrest : ∀ name ∈ second :: rest, IsName name := fun name hn => h name (List.mem_cons_of_mem _ hn)
    have hrelative : (⟨"/".intercalate (second :: rest)⟩ : Path).isAbsolute = false := by
      have hsecond := hrest second List.mem_cons_self
      cases rest with
      | nil => exact isAbsolute_name hsecond
      | cons third rest =>
        rw [String.intercalate_cons_cons, String.append_assoc]
        exact isAbsolute_name_append hsecond _
    obtain ⟨hsteps, habsolute⟩ := ih hrest (p.join ⟨first⟩)
    rw [String.intercalate_cons_cons, join_slash hfirst hrelative]
    refine ⟨?_, habsolute.trans (isAbsolute_join hfirst p)⟩
    rw [hsteps, steps_join hfirst, List.append_assoc]
    rfl

theorem foldl_step_names {names : List String} (h : ∀ name ∈ names, IsName name) (here : Location) :
    names.foldl step here = here ++ names := by
  induction names generalizing here with
  | nil => simp
  | cons name rest ih =>
    have hname := h name List.mem_cons_self
    have hstep : step here name = here ++ [name] := by
      unfold step
      rw [if_neg (by simpa using hname.notDot), if_neg (by simpa using hname.notUp)]
    rw [List.foldl_cons, hstep, ih fun other hother => h other (List.mem_cons_of_mem _ hother), List.append_assoc]
    rfl

/-- **Names between slashes lead down one after the other.** -/
theorem location_join_names {first : String} {rest : List String} (h : ∀ name ∈ first :: rest, IsName name) (p : Path)
    (base : Location) :
    (p.join ⟨"/".intercalate (first :: rest)⟩).location base = p.location base ++ first :: rest := by
  obtain ⟨hsteps, habsolute⟩ := steps_join_names h p
  unfold location start
  rw [hsteps, habsolute, List.foldl_append, foldl_step_names h]

/-- A directory whose path is not empty can be followed if a name behind it can. -/
theorem fault?_of_join {name : String} (hname : IsName name) {p : Path} (hp : p.text ≠ "")
    (h : (p.join ⟨name⟩).fault? = none) : p.fault? = none := by
  have hlist := toList_join hname p
  unfold fault? at h ⊢
  split at h
  · cases h
  rename_i hnul
  split at h
  · cases h
  split at h
  · cases h
  rename_i hlong
  have hnul' : ¬ p.text.toList.contains '\x00' = true := by
    intro hc
    apply hnul
    rw [hlist]
    rw [List.contains_eq_mem, decide_eq_true_eq] at hc ⊢
    exact List.mem_append_left _ hc
  have hlong' : ¬ longestPath < p.text.utf8ByteSize := by
    have htext : (p.join ⟨name⟩).text =
        p.text ++ String.ofList ((if p.text.isEmpty || p.endsWithSlash then [] else ['/']) ++ name.toList) := by
      rw [← String.toList_inj, hlist, String.toList_append, String.toList_ofList]
    rw [htext, String.utf8ByteSize_append] at hlong
    omega
  rw [if_neg hnul', if_neg (by simpa [String.isEmpty_iff] using hp), if_neg hlong']

theorem parts_join (p : Path) : ∃ front, ∀ name, IsName name → (p.join ⟨name⟩).parts = front ++ [name] := by
  have hlast : ∀ name, IsName name → Text.splitAt '/' name.toList = [name.toList] :=
    fun name hname => Text.splitAt_of_not_mem hname.noSlash
  unfold parts Text.split
  by_cases hempty : p.text.isEmpty = true
  · refine ⟨[], fun name hname => ?_⟩
    have ht : p.text.toList = [] := by rw [String.toList_eq_nil_iff, ← String.isEmpty_iff, hempty]
    rw [toList_join hname, hempty, Bool.true_or, if_pos rfl, ht, List.nil_append, List.nil_append, hlast name hname,
      List.map_singleton, String.ofList_toList]
    rfl
  · by_cases hslash : p.endsWithSlash = true
    · obtain ⟨front, hfront⟩ := List.getLast?_eq_some_iff.1 (by simpa [endsWithSlash] using hslash)
      refine ⟨(Text.splitAt '/' front).map String.ofList, fun name hname => ?_⟩
      rw [toList_join hname, hslash, Bool.or_true, if_pos rfl, List.nil_append, hfront, List.append_assoc,
        List.singleton_append, Text.splitAt_append_separator, hlast name hname, List.map_append, List.map_singleton,
        String.ofList_toList]
    · refine ⟨(Text.splitAt '/' p.text.toList).map String.ofList, fun name hname => ?_⟩
      rw [toList_join hname, if_neg (by simp [hempty, hslash]), List.singleton_append, Text.splitAt_append_separator,
        hlast name hname, List.map_append, List.map_singleton, String.ofList_toList]

theorem isIdle_name {name : String} (hname : IsName name) : isIdle name = false := by
  unfold isIdle
  simp [hname.notEmpty, hname.notDot]

theorem dropWhile_idle_concat {name : String} (hname : IsName name) (front : List String) :
    (front ++ [name]).reverse.dropWhile isIdle = name :: front.reverse := by
  rw [List.reverse_concat, List.dropWhile_cons_of_neg (by simp [isIdle_name hname])]

theorem anchored_eq (p : Path) : p.anchored =
    if p.parts.head? = some "." then (.dot, p.parts.tail)
    else if p.isAbsolute then (.root, p.parts.tail) else (.bare, p.parts) := by
  unfold anchored
  split
  · rename_i rest h
    rw [h]
    rfl
  · rename_i hnot
    have hhead : p.parts.head? ≠ some "." := by
      intro h
      obtain ⟨rest, hrest⟩ := List.head?_eq_some_iff.1 h
      exact hnot rest hrest
    rw [if_neg hhead]
    simp only [List.drop_one]

theorem parents_of_anchored {p : Path} {front : Front} {behind : List String} (h : p.anchored = (front, behind)) :
    p.parents = match behind.reverse.dropWhile isIdle with
      | [] => []
      | _ :: rest => above front rest := by
  cases hb : behind.reverse.dropWhile isIdle with
  | nil => simp only [parents, h, hb]
  | cons name rest => simp only [parents, h, hb]

/-- **All names behind a directory have the same paths above them.** -/
theorem parents_join {name other : String} (hname : IsName name) (hother : IsName other) (p : Path) :
    (p.join ⟨name⟩).parents = (p.join ⟨other⟩).parents := by
  obtain ⟨front, hparts⟩ := parts_join p
  have hparents : ∀ name, IsName name → (p.join ⟨name⟩).parents =
      if front.head? = some "." then above .dot front.tail.reverse
      else if p.isAbsolute then (if front = [] then [] else above .root front.tail.reverse)
      else above .bare front.reverse := by
    intro name hname
    have hanchored := anchored_eq (p.join ⟨name⟩)
    rw [isAbsolute_join hname, hparts name hname] at hanchored
    cases front with
    | nil =>
      rw [if_neg (by simp [hname.notDot])] at hanchored
      rw [if_neg (by simp), if_pos rfl]
      split at hanchored <;> rename_i habsolute
      · rw [parents_of_anchored hanchored, if_pos habsolute]
        rfl
      · rw [parents_of_anchored hanchored, if_neg habsolute, dropWhile_idle_concat hname]
    | cons first rest =>
      rw [if_neg (List.cons_ne_nil first rest)]
      rw [List.cons_append, List.head?_cons, List.tail_cons, ← List.cons_append] at hanchored
      rw [List.head?_cons, List.tail_cons]
      split at hanchored <;> rename_i hdot
      · rw [parents_of_anchored hanchored, if_pos hdot, dropWhile_idle_concat hname]
      · rw [if_neg hdot]
        split at hanchored <;> rename_i habsolute
        · rw [parents_of_anchored hanchored, if_pos habsolute, dropWhile_idle_concat hname]
        · rw [parents_of_anchored hanchored, if_neg habsolute, dropWhile_idle_concat hname]
  rw [hparents name hname, hparents other hother]

end Path

/-- **To follow a name behind a directory is to walk to the directory.** -/
theorem follow_join {name : String} (hname : IsName name) (d : Disk) (p : Path) :
    d.follow (p.join ⟨name⟩) = match (p.join ⟨name⟩).fault? with
      | some f => .error f
      | none => (d.walk p).map fun here => .entry here name false := by
  have htarget : ∀ here, targetAt (p.join ⟨name⟩) here (some name) = .entry here name false := by
    intro here
    unfold targetAt
    simp [hname.notDot, hname.notUp, Path.endsWithSlash_join hname]
  rw [follow_eq, Path.steps_join hname, Path.start_join hname, List.dropLast_concat, List.getLast?_concat]
  simp only [htarget]
  rfl

end Scaffold.Disk
