import Scaffold.Proofs.Disk.Writing
/-!
# Proofs.Disk.Directories — where directories are made

To put a file at a path, directories are made at the paths above it and nowhere else (`houses_writeNew`).  A path above
another takes the first of its steps (`steps_of_mem_parents`), so it leads to a place on the way.
-/
namespace Scaffold.Disk

variable {p q : Path} {base : Location} {d : Disk}

namespace Path

/-! ## The paths above a path -/

abbrev busy (parts : List String) : List String := parts.filter (!·.isEmpty)

def Front.steps : Front → List String
  | .dot => ["."]
  | _ => []

theorem split_slash {first : String} (h : '/' ∉ first.toList) (rest : String) :
    Text.split '/' (first ++ "/" ++ rest) = first :: Text.split '/' rest := by
  unfold Text.split
  rw [String.toList_append, String.toList_append, List.append_assoc, show "/".toList = ['/'] from rfl,
    List.singleton_append, Text.splitAt_append_separator, Text.splitAt_of_not_mem h, List.map_append,
    List.map_singleton, String.ofList_toList]
  rfl

theorem split_intercalate {parts : List String} (hne : parts ≠ []) (h : ∀ part ∈ parts, '/' ∉ part.toList) :
    Text.split '/' ("/".intercalate parts) = parts := by
  induction parts with
  | nil => exact absurd rfl hne
  | cons first rest ih =>
    have hfirst := h first List.mem_cons_self
    cases rest with
    | nil =>
      unfold Text.split
      rw [String.intercalate_singleton, Text.splitAt_of_not_mem hfirst, List.map_singleton, String.ofList_toList]
    | cons second rest =>
      rw [String.intercalate_cons_cons, split_slash hfirst,
        ih (List.cons_ne_nil second rest) (fun part hpart => h part (List.mem_cons_of_mem _ hpart))]

theorem busy_intercalate {parts : List String} (h : ∀ part ∈ parts, '/' ∉ part.toList) :
    busy (Text.split '/' ("/".intercalate parts)) = busy parts := by
  by_cases hne : parts = []
  · rw [hne]
    rfl
  · rw [split_intercalate hne h]

theorem noSlash_of_mem_parts {part : String} (h : part ∈ p.parts) : '/' ∉ part.toList := by
  unfold parts Text.split at h
  obtain ⟨chars, hchars, rfl⟩ := List.mem_map.1 h
  rw [String.toList_ofList]
  exact Text.not_mem_of_mem_splitAt hchars

theorem isAbsolute_iff : p.isAbsolute = true ↔ ∃ second rest, p.parts = "" :: second :: rest := by
  unfold isAbsolute parts Text.split
  cases p.text.toList with
  | nil => simp [Text.splitAt]
  | cons c rest =>
    rw [Text.splitAt]
    cases hs : Text.splitAt '/' rest with
    | nil => exact absurd hs (Text.splitAt_ne_nil _ _)
    | cons part more =>
      by_cases hc : c = '/' <;> simp [hc]

theorem noSlash_of_anchored {front : Front} {parts : List String} (h : p.anchored = (front, parts)) {part : String}
    (hpart : part ∈ parts) : '/' ∉ part.toList := by
  rw [anchored_eq] at h
  refine noSlash_of_mem_parts (p := p) ?_
  split at h
  · cases h
    exact List.mem_of_mem_tail hpart
  · split at h <;> cases h
    · exact List.mem_of_mem_tail hpart
    · exact hpart

theorem steps_of_anchored {front : Front} {parts : List String} (h : p.anchored = (front, parts)) :
    p.steps = front.steps ++ busy parts := by
  rw [anchored_eq] at h
  unfold steps
  split at h
  · rename_i hdot
    cases h
    obtain ⟨rest, hrest⟩ := List.head?_eq_some_iff.1 hdot
    rw [hrest]
    rfl
  · split at h
    · rename_i habsolute
      cases h
      obtain ⟨second, rest, hparts⟩ := isAbsolute_iff.1 habsolute
      rw [hparts]
      rfl
    · cases h
      rfl

theorem steps_ofParts (front : Front) {parts : List String} (h : ∀ part ∈ parts, '/' ∉ part.toList) :
    (ofParts front parts).steps = front.steps ++ busy parts := by
  have hbusy := busy_intercalate h
  cases front with
  | bare => exact hbusy
  | root =>
    show busy (Text.split '/' ("/" ++ "/".intercalate parts)) = busy parts
    rw [← String.empty_append (s := "/"), split_slash (by decide)]
    exact hbusy
  | dot =>
    unfold ofParts
    by_cases hempty : parts.isEmpty = true
    · rw [List.isEmpty_iff.1 hempty]
      rfl
    · dsimp only
      rw [if_neg hempty]
      show busy (Text.split '/' ("./" ++ "/".intercalate parts)) = "." :: busy parts
      rw [show "./" = "." ++ "/" from rfl, split_slash (by decide)]
      exact congrArg ("." :: ·) hbusy

theorem mem_above {front : Front} {parts : List String} (h : q ∈ above front parts) :
    ∃ first, first <+: parts.reverse ∧ q = ofParts front first := by
  induction parts with
  | nil =>
    rw [above] at h
    split at h
    · cases h
    · exact ⟨[], List.nil_prefix, List.mem_singleton.1 h⟩
  | cons part rest ih =>
    rw [above] at h
    have hlater : q ∈ above front rest → ∃ first, first <+: (part :: rest).reverse ∧ q = ofParts front first := by
      intro hq
      obtain ⟨first, hfirst, rfl⟩ := ih hq
      refine ⟨first, ?_, rfl⟩
      rw [List.reverse_cons]
      exact hfirst.trans (List.prefix_append _ _)
    split at h
    · exact hlater h
    · rcases List.mem_cons.1 h with rfl | h
      · exact ⟨(part :: rest).reverse, List.prefix_refl _, rfl⟩
      · exact hlater h

theorem isAbsolute_ofParts {front : Front} {parts first : List String} (h : p.anchored = (front, parts))
    (hfirst : first <+: parts) : (ofParts front first).isAbsolute = p.isAbsolute := by
  rw [anchored_eq] at h
  split at h
  · rename_i hdot
    cases h
    obtain ⟨rest, hrest⟩ := List.head?_eq_some_iff.1 hdot
    have hrelative : p.isAbsolute = false := by
      rw [Bool.eq_false_iff, ne_eq, isAbsolute_iff]
      rintro ⟨second, rest', hparts⟩
      simp [hparts] at hrest
    rw [hrelative]
    unfold ofParts isAbsolute
    by_cases hempty : first.isEmpty = true <;> simp [hempty, String.toList_append]
  · split at h
    · rename_i habsolute
      cases h
      rw [habsolute]
      unfold ofParts isAbsolute
      simp [String.toList_append]
    · rename_i hrelative
      cases h
      rw [Bool.not_eq_true] at hrelative
      rw [hrelative, Bool.eq_false_iff, ne_eq, isAbsolute_iff]
      -- Were the first of the bare parts empty, the whole path would lead from the root.
      rintro ⟨second, rest, hparts⟩
      by_cases hempty : first = []
      · subst hempty
        cases hparts
      · have hsplit : (ofParts .bare first).parts = first :=
          split_intercalate hempty (fun part hpart => noSlash_of_mem_parts (hfirst.subset hpart))
        rw [hsplit] at hparts
        obtain ⟨back, hback⟩ := hfirst
        rw [hparts] at hback
        have habsolute : p.isAbsolute = true := isAbsolute_iff.2 ⟨second, rest ++ back, hback.symm⟩
        rw [hrelative] at habsolute
        cases habsolute

/-- **A path above another takes the first of its steps**, and not all of them, from the same start. -/
theorem steps_of_mem_parents (h : q ∈ p.parents) :
    q.isAbsolute = p.isAbsolute ∧ q.steps <+: p.steps ∧ q.steps ≠ p.steps := by
  rcases hanchored : p.anchored with ⟨front, parts⟩
  rw [parents_of_anchored hanchored] at h
  cases hbusy : parts.reverse.dropWhile isIdle with
  | nil =>
    rw [hbusy] at h
    cases h
  | cons name rest =>
    rw [hbusy] at h
    obtain ⟨first, ⟨more, hmore⟩, rfl⟩ := mem_above h
    -- The last part that is not idle is a step, and the paths above lack it.
    have hname : name ≠ "" := by
      rintro rfl
      have hidle := List.head?_dropWhile_not isIdle parts.reverse
      rw [hbusy] at hidle
      simp [isIdle] at hidle
    obtain ⟨idle, hidle⟩ : ∃ idle, parts = first ++ (more ++ name :: idle) := by
      have hparts := congrArg List.reverse (List.takeWhile_append_dropWhile (p := isIdle) (l := parts.reverse))
      rw [hbusy, List.reverse_append, List.reverse_cons, List.reverse_reverse, ← hmore] at hparts
      rw [List.append_assoc, List.append_assoc] at hparts
      exact ⟨_, hparts.symm⟩
    have hslash : ∀ part ∈ first, '/' ∉ part.toList := fun part hpart =>
      noSlash_of_anchored hanchored (hidle ▸ List.mem_append_left _ hpart)
    have hsteps := steps_of_anchored hanchored
    rw [hidle, busy, List.filter_append, ← List.append_assoc] at hsteps
    refine ⟨isAbsolute_ofParts hanchored ⟨_, hidle.symm⟩, ?_, ?_⟩
    · rw [hsteps, steps_ofParts front hslash]
      exact List.prefix_append _ _
    · rw [hsteps, steps_ofParts front hslash]
      simp [hname]

end Path

/-! ## Where actions make directories -/

/-- **Every directory of a disk stands in a place that is allowed.** -/
structure Housed (base : Location) (allowed : Location → Prop) (d : Disk) : Prop where
  base : d.base = base
  directory : ∀ l, d.at? l = some .directory → allowed l

/-- **Places where a directory at the path may be made** are allowed. -/
def MayHouse (base : Location) (allowed : Location → Prop) (q : Path) : Prop :=
  ∀ (d : Disk) (here : Location) (name : String) (slash : Bool), d.base = base →
    d.follow q = .ok (.entry here name slash) → allowed (here ++ [name])

/-- An action makes directories only in places that are allowed. -/
def Houses {α : Type} (base : Location) (allowed : Location → Prop) (act : Action α) : Prop :=
  ∀ d, Housed base allowed d → Housed base allowed (endState (act d))

variable {allowed : Location → Prop} {α β : Type} {content : ByteArray}

theorem houses_bind {act : Action α} {next : α → Action β} (h : Houses base allowed act)
    (hn : ∀ a, Houses base allowed (next a)) : Houses base allowed (act >>= next) := by
  intro d hd
  have hact := h d hd
  cases ha : act d with
  | error f d' =>
    rw [ha] at hact
    rw [bind_of_error ha]
    exact hact
  | ok a d' =>
    rw [ha] at hact
    rw [bind_of_ok ha]
    exact hn a d' hact

theorem houses_createDirectory (h : MayHouse base allowed q) : Houses base allowed (createDirectory q) := by
  intro d hd
  rcases createDirectory_cases q d with ⟨here, name, slash, hf, -, hc⟩ | ⟨f, hc⟩
  · rw [hc]
    refine ⟨hd.base, fun l hl => ?_⟩
    by_cases hnew : l = here ++ [name]
    · rw [hnew]
      exact h d here name slash hd.base hf
    · change (d.put (here ++ [name]) .directory).at? l = some .directory at hl
      rw [at?_put_of_ne hnew] at hl
      exact hd.directory l hl
  · rw [hc]
    exact hd

theorem houses_createIfMissing (h : MayHouse base allowed q) : Houses base allowed (createIfMissing q) := by
  intro d hd
  have hcreate := houses_createDirectory h d hd
  unfold createIfMissing
  cases hc : createDirectory q d with
  | ok u d' =>
    rw [hc] at hcreate
    exact hcreate
  | error f d' =>
    rw [hc] at hcreate
    show Housed base allowed (endState (if d'.isDirectory q then _ else _))
    split <;> exact hcreate

theorem houses_provide {qs : List Path} (h : ∀ q ∈ qs, MayHouse base allowed q) :
    Houses base allowed (provide qs) := by
  induction qs with
  | nil => exact fun _ hd => hd
  | cons q above ih =>
    intro d hd
    have hq := h q List.mem_cons_self
    have hcreate := houses_createDirectory hq d hd
    cases hc : createDirectory q d with
    | ok u d' =>
      rw [hc] at hcreate
      rw [provide_of_ok hc]
      exact hcreate
    | error f d' =>
      cases error_state_createDirectory hc
      by_cases hf : f = .notFound
      · subst hf
        rw [provide_of_notFound hc]
        exact houses_bind (ih fun q' hq' => h q' (List.mem_cons_of_mem _ hq')) (fun _ => houses_createIfMissing hq) d hd
      · rw [provide_of_error hf hc]
        split <;> exact hd

theorem houses_ask {question : Disk → Except Fault α} : Houses base allowed (ask question) := by
  intro d hd
  unfold ask
  cases question d <;> exact hd

theorem houses_putFile (l : Location) (content : ByteArray) :
    Houses base allowed (modify fun d => d.put l (.file content)) := by
  intro d hd
  refine ⟨hd.base, fun m hm => ?_⟩
  change (d.put l (.file content)).at? m = some .directory at hm
  by_cases hroot : m = []
  · subst hroot
    exact hd.directory [] rfl
  · by_cases hnew : m = l
    · rw [hnew, at?_put_self (hnew ▸ hroot)] at hm
      cases hm
    · rw [at?_put_of_ne hnew] at hm
      exact hd.directory m hm

theorem houses_throw (f : Fault) : Houses base allowed (throw f : Action α) := fun _ hd => hd

theorem houses_pure (a : α) : Houses base allowed (pure a : Action α) := fun _ hd => hd

theorem houses_openNew : Houses base allowed (openNew p) := by
  refine houses_bind houses_ask (fun t => ?_)
  rcases t with here | ⟨here, name, _ | _⟩
  · exact houses_throw _
  · refine houses_bind houses_ask (fun found => ?_)
    cases found with
    | none => exact houses_bind (houses_putFile _ _) (fun _ => houses_pure _)
    | some node => exact houses_throw _
  · exact houses_throw _

theorem houses_openAnew : Houses base allowed (openAnew p) := by
  refine houses_bind houses_ask (fun t => ?_)
  rcases t with here | ⟨here, name, _ | _⟩
  · exact houses_throw _
  · refine houses_bind houses_ask (fun found => ?_)
    rcases found with _ | _ | _
    · exact houses_bind (houses_putFile _ _) (fun _ => houses_pure _)
    · exact houses_throw _
    · exact houses_bind (houses_putFile _ _) (fun _ => houses_pure _)
  · exact houses_throw _

theorem houses_fill (device : Breaks) (l : Location) (content : ByteArray) :
    Houses base allowed (fill device l content) := by
  unfold fill
  cases device l content with
  | none => exact houses_putFile l content
  | some broken => exact houses_bind (houses_putFile l _) (fun _ => houses_throw _)

theorem houses_write : Houses base allowed (write p content) :=
  houses_bind houses_openAnew (fun l => houses_fill .never l content)

theorem houses_createOrCollide (device : Breaks) : Houses base allowed (createOrCollideWith device p content) := by
  intro d hd
  have hopen : Housed base allowed (endState (openNew p d)) := houses_openNew d hd
  unfold createOrCollideWith
  cases ho : openNew p d with
  | ok l d' =>
    rw [ho] at hopen
    exact houses_bind (houses_fill device l content) (fun _ => houses_pure _) d' hopen
  | error f d' =>
    rw [ho] at hopen
    cases f <;> exact hopen

/-- **Putting out a file makes directories at the paths above it** and nowhere else. -/
theorem houses_writeNew (h : ∀ q ∈ p.parents, MayHouse base allowed q) : Houses base allowed (writeNew p content) :=
  houses_bind (houses_provide h) (fun _ => houses_createOrCollide .never)

theorem houses_writeIfAbsent (h : ∀ q ∈ p.parents, MayHouse base allowed q) :
    Houses base allowed (writeIfAbsent p content) := by
  intro d hd
  unfold writeIfAbsent writeIfAbsentWith
  rw [bind_of_ok (show (get : Action Disk) d = .ok d d from rfl)]
  split
  · exact hd
  · refine houses_bind (houses_writeNew h) (fun outcome => ?_) d hd
    cases outcome <;> exact fun _ h => h

theorem houses_provideParents_write (h : ∀ q ∈ p.parents, MayHouse base allowed q) :
    Houses base allowed (provideParents p >>= fun _ => write p content) :=
  houses_bind (houses_provide h) (fun _ => houses_write)

end Scaffold.Disk
