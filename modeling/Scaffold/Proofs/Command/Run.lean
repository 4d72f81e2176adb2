import Scaffold.Command.Run
import Scaffold.Proofs.Generation.Creation
import Scaffold.Proofs.Generation.Tidy
/-!
# Proofs.Command.Run — what the command runs

An option's value is never empty, so no path that an invocation names is (`path_ne_empty`).  So the migrations of a
project that the command is asked about can be listed, and whatever the command is asked, and however often, it creates
every table once (`createdOnce_of_command`).
-/
namespace Scaffold.Command

open Disk (Path)
open Generation (CreatedOnce Wrote runLog)

/-- The paths that an invocation names. -/
def Invocation.paths : Invocation → List Path
  | .version => []
  | .help => []
  | .check schema => [schema]
  | .generate schema root layout => schema :: root :: layout.toList

/-- No path that was given is empty. -/
def Filled (given : Given) : Prop := ∀ g ∈ given, g.2.text ≠ ""

variable {given given' : Given} {option : PathOption}

theorem Filled.nil : Filled [] := fun _ hg => by cases hg

theorem Filled.give {value : String} (hf : Filled given) (h : Command.give given option value = .ok given') :
    Filled given' := by
  unfold Command.give at h
  by_cases hempty : value.isEmpty = true
  · rw [if_pos hempty] at h
    cases h
  rw [if_neg hempty] at h
  by_cases hrepeated : (given.lookup option).isSome = true
  · rw [if_pos hrepeated] at h
    cases h
  rw [if_neg hrepeated] at h
  cases h
  intro g hg
  rcases List.mem_cons.1 hg with rfl | hg
  · intro hvalue
    exact hempty (String.isEmpty_iff.2 hvalue)
  · exact hf g hg

theorem Filled.lookup {path : Path} (hf : Filled given) (h : given.lookup option = some path) : path.text ≠ "" := by
  have hmem : (option, path) ∈ given := by
    rw [List.lookup_eq_some_iff] at h
    obtain ⟨before, after, rfl, -⟩ := h
    exact List.mem_append_right _ List.mem_cons_self
  exact hf _ hmem

theorem Filled.required {path : Path} (hf : Filled given) (h : Command.required given option = .ok path) :
    path.text ≠ "" := by
  unfold Command.required at h
  cases hl : given.lookup option with
  | none =>
    rw [hl] at h
    cases h
  | some found =>
    rw [hl] at h
    cases h
    exact hf.lookup hl

theorem paths_of_letters {hasVersion : Bool} {letters : List Char} {i : Invocation}
    (h : readLetters hasVersion letters = .ok (some i)) : i.paths = [] := by
  induction letters with
  | nil => cases h
  | cons letter rest ih =>
    unfold readLetters at h
    split at h
    · cases h
    · rename_i heq
      cases heq
      exact ih h
    · cases h
      rfl
    · split at h
      · cases h
        rfl
      · cases h

section Read

variable {options : List PathOption} {hasVersion : Bool} {command : String → List String → Except Misuse Invocation}
  {finish : Given → Except Misuse Invocation} {arguments : List String} {i : Invocation}

/-- **Reading names no empty path** where neither a plain word nor the end of the arguments does. -/
theorem read_ne_empty (hcommand : ∀ text rest i, command text rest = .ok i → ∀ path ∈ i.paths, path.text ≠ "")
    (hfinish : ∀ given i, Filled given → finish given = .ok i → ∀ path ∈ i.paths, path.text ≠ "")
    (hf : Filled given) (h : read options hasVersion command finish given arguments = .ok i) :
    ∀ path ∈ i.paths, path.text ≠ "" := by
  induction given, arguments using read.induct options hasVersion with
  | case1 given =>
    rw [read] at h
    exact hfinish _ _ hf h
  -- Two dashes alone, behind which no argument may stand.
  | case2 given argument hword =>
    unfold read at h
    simp only [hword] at h
    exact hfinish _ _ hf h
  | case3 given argument hword next rest =>
    unfold read at h
    simp only [hword] at h
    cases h
  -- A plain word.
  | case4 given argument rest text hword =>
    unfold read at h
    simp only [hword] at h
    exact hcommand _ _ _ h
  -- Letters behind one dash.
  | case5 given argument rest letters hword ih =>
    unfold read at h
    simp only [hword] at h
    obtain ⟨asked, hletters, h⟩ := except_bind_ok.1 h
    cases asked with
    | none => exact ih hf h
    | some invocation =>
      cases h
      rw [paths_of_letters hletters]
      simp
  -- An option that takes a path: the value stands behind it, is the next argument, or is missing.
  | case6 given argument rest name option value hfind hword ih =>
    unfold read at h
    simp only [hword, hfind] at h
    obtain ⟨given', hgive, h⟩ := except_bind_ok.1 h
    exact ih given' (hf.give hgive) h
  | case7 given argument name option hfind hword =>
    unfold read at h
    simp only [hword, hfind] at h
    cases h
  | case8 given argument name option hfind next rest value hnext hword ih =>
    unfold read at h
    simp only [hword, hfind, hnext] at h
    obtain ⟨given', hgive, h⟩ := except_bind_ok.1 h
    exact ih given' (hf.give hgive) h
  | case9 given argument name option hfind next rest hnext hword =>
    unfold read at h
    simp only [hword, hfind] at h
    cases h
  -- Any other word behind two dashes.
  | case10 given argument rest name value hfind hword =>
    unfold read at h
    simp only [hword, hfind] at h
    cases h
  | case11 given argument rest name hfind hverbose hword ih =>
    unfold read at h
    simp only [hword, hfind, if_pos hverbose] at h
    exact ih hf h
  | case12 given argument rest name hfind hverbose hhelp hword =>
    unfold read at h
    simp only [hword, hfind, if_neg hverbose, if_pos hhelp] at h
    cases h
    simp [Invocation.paths]
  | case13 given argument rest name hfind hverbose hhelp hversion hword =>
    unfold read at h
    simp only [hword, hfind, if_neg hverbose, if_neg hhelp, if_pos hversion] at h
    cases h
    simp [Invocation.paths]
  | case14 given argument rest name hfind hverbose hhelp hversion hword =>
    unfold read at h
    simp only [hword, hfind, if_neg hverbose, if_neg hhelp, if_neg hversion] at h
    cases h

end Read

theorem readCheck_ne_empty {arguments : List String} {i : Invocation} (h : readCheck arguments = .ok i) :
    ∀ path ∈ i.paths, path.text ≠ "" := by
  refine read_ne_empty (fun text rest i h => ?_) (fun given i hf h => ?_) .nil h
  · cases h
  · obtain ⟨schema, hschema, h⟩ := except_bind_ok.1 h
    cases h
    simpa [Invocation.paths] using hf.required hschema

theorem readCommand_ne_empty {text : String} {rest : List String} {i : Invocation}
    (h : readCommand text rest = .ok i) : ∀ path ∈ i.paths, path.text ≠ "" := by
  unfold readCommand at h
  split at h
  · exact readCheck_ne_empty h
  split at h
  · split at h
    · cases h
      simp [Invocation.paths]
    · cases h
  · cases h

/-- **No path that the command is asked about is empty.** -/
theorem path_ne_empty {arguments : List String} {i : Invocation} (h : Invocation.ofArguments arguments = .ok i) :
    ∀ path ∈ i.paths, path.text ≠ "" := by
  refine read_ne_empty (fun text rest i h => readCommand_ne_empty h) (fun given i hf h => ?_) .nil h
  obtain ⟨schema, hschema, h⟩ := except_bind_ok.1 h
  obtain ⟨root, hroot, h⟩ := except_bind_ok.1 h
  cases h
  intro path hpath
  rcases List.mem_cons.1 hpath with rfl | hpath
  · exact hf.required hschema
  rcases List.mem_cons.1 hpath with rfl | hpath
  · exact hf.required hroot
  · exact hf.lookup (Option.mem_toList.1 hpath)

/-! ## What is run -/

variable {arguments : List String} {i : Invocation} {d₀ d : Disk} {p : Project} {s : Schema}
  {log : List Generation.Entry} {table : String}

theorem generate_of_subject (h : subject d i = some (p, s)) : ∃ path root layout, i = .generate path root layout ∧
    p.root = root ∧ ∀ c, generate path root layout { disk := d, clock := c } =
      Generation.run p s { disk := d, clock := c } := by
  cases i with
  | version => cases h
  | help => cases h
  | check path => cases h
  | generate path root layout =>
    unfold subject at h
    dsimp only at h
    cases hs : Schema.load d path with
    | error err =>
      rw [hs] at h
      cases h
    | ok found =>
      cases hl : Layout.discover d root layout with
      | error err =>
        rw [hs, hl] at h
        cases h
      | ok discovered =>
        rw [hs, hl] at h
        cases h
        refine ⟨path, root, layout, rfl, rfl, fun c => ?_⟩
        unfold generate
        rw [bind_of_ok (Generation.ask_of_ok hs), bind_of_ok (Generation.ask_of_ok hl)]

/-- **The command runs over the project and the schema that its paths lead to.** -/
theorem disk_of_subject (hi : Invocation.ofArguments arguments = .ok i) (h : subject d i = some (p, s)) (c : Clock) :
    (run arguments d c).disk = (endState (Generation.run p s { disk := d, clock := c })).disk := by
  obtain ⟨path, root, layout, rfl, -, hgenerate⟩ := generate_of_subject h
  unfold run
  rw [hi]
  dsimp only
  rw [hgenerate]
  cases Generation.run p s { disk := d, clock := c } with
  | ok report w => rfl
  | error err w => rfl

/-- **The migrations of a project that the command is asked about have a path that is not empty.** -/
theorem directory_ne_empty_of_subject (hi : Invocation.ofArguments arguments = .ok i)
    (h : subject d i = some (p, s)) : p.directory.text ≠ "" := by
  obtain ⟨path, root, layout, rfl, rfl, -⟩ := generate_of_subject h
  exact Project.directory_ne_empty (path_ne_empty hi p.root (by simp [Invocation.paths]))

/-- **The command creates a table once**, after whatever runs in the same project. -/
theorem createdOnce_of_command (hi : Invocation.ofArguments arguments = .ok i) (h : subject d i = some (p, s))
    (hextension : '/' ∉ p.layout.extension.toList) (htable : '/' ∉ table.toList) (hbefore : Wrote p d₀ log d)
    (c : Clock) :
    CreatedOnce p.directory table d₀ (log ++ runLog p s { disk := d, clock := c }) (run arguments d c).disk := by
  rw [disk_of_subject hi h]
  exact Generation.createdOnce_of_wrote hextension (directory_ne_empty_of_subject hi h) (hbefore.run s c) htable

end Scaffold.Command
