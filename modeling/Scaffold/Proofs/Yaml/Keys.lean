import Scaffold.Proofs.Effect
import Scaffold.Yaml.Value.Reader
/-!
# Proofs.Yaml.Keys — a mapping that is read has no key twice

Reading a mapping stops at a key that the mapping holds already.  What an action of reading gives is told from its parts,
wherever it starts (`Gives`).  So no mapping that is read has a key twice, however deep it stands and through aliases
(`readsDistinct`), and neither has the one that a text writes (`distinct_of_ofString`).
-/
namespace Scaffold.Yaml

variable {α β : Type} {P Q : α → Prop}

/-- **What an action gives, if it goes through, satisfies `P`**, whatever the document and wherever reading stands. -/
def Gives (P : α → Prop) (act : DocumentM α) : Prop :=
  ∀ (d : Document) (p : Progress) (a : α) (q : Progress), act d p = .ok (a, q) → P a

namespace Gives

theorem anything (act : DocumentM α) : Gives (fun _ => True) act := fun _ _ _ _ _ => trivial

theorem pure {a : α} (h : P a) : Gives P (Pure.pure a : DocumentM α) := by
  intro d p b q hrun
  cases hrun
  exact h

theorem throw (e : Error) : Gives P (MonadExcept.throw e : DocumentM α) := by
  intro d p a q hrun
  cases hrun

theorem bind {P : β → Prop} {x : DocumentM α} {f : α → DocumentM β} (hx : Gives Q x)
    (hf : ∀ a, Q a → Gives P (f a)) : Gives P (x >>= f) := by
  intro d p b q hrun
  obtain ⟨⟨a, p'⟩, ha, hb⟩ := except_bind_ok.1 hrun
  exact hf a (hx d p a p' ha) d p' b q hb

/-- What comes first does not matter for what an action gives in the end. -/
theorem after {P : β → Prop} {x : DocumentM α} {f : α → DocumentM β} (hf : ∀ a, Gives P (f a)) : Gives P (x >>= f) :=
  (anything x).bind fun a _ => hf a

theorem placing {act : DocumentM α} (h : Gives P act) (mark : Mark) (path : String) :
    Gives P (placing mark path act) := by
  intro d p a q hrun
  change tryCatch (act d p) (fun e => Except.error (e.placedAt mark path)) = .ok (a, q) at hrun
  cases hact : act d p with
  | ok result =>
    rw [hact] at hrun
    exact h d p a q (hact.trans hrun)
  | error e =>
    rw [hact] at hrun
    cases hrun

theorem followAlias {act : DocumentM α} (h : Gives P act) (anchor : Nat) : Gives P (followAlias anchor act) := by
  refine after fun d => after fun p => ?_
  cases d.anchored.lookup anchor with
  | none =>
    dsimp only
    split
    · exact after fun _ => throw _
    · exact throw _
  | some node =>
    have hnode : Gives P (do
        set ({ next := node, jumps := p.jumps + 1 } : Progress)
        let result ← act
        modify fun q => { q with next := p.next }
        return result) :=
      after fun _ => h.bind fun a ha => after fun _ => pure ha
    dsimp only
    split
    · exact after fun _ => hnode
    · exact hnode

theorem of_decode {act : DocumentM α} (h : Gives P act) {text : String} {a : α}
    (hdecode : Document.decode text act = .ok a) : P a := by
  obtain ⟨⟨result, q⟩, hrun, hrest⟩ := except_bind_ok.1 hdecode
  have hresult := h _ _ result q hrun
  dsimp only at hrest
  split at hrest
  · cases hrest
  · split at hrest
    · cases hrest
    · cases hrest
      exact hresult

end Gives

/-! ## Mappings -/

/-- No key is the same as one before it. -/
def Distinct (entries : List (Value × Value)) : Prop :=
  entries.Pairwise fun earlier later => earlier.1.same later.1 = false

/-- A value has no key twice, if it is a mapping. -/
def Value.HasDistinctKeys (v : Value) : Prop := ∀ entries, v = .mapping entries → Distinct entries

theorem Distinct.concat {entries : List (Value × Value)} {key value : Value} (h : Distinct entries)
    (hnew : entries.find? (·.1.same key) = none) : Distinct (entries ++ [(key, value)]) := by
  refine List.pairwise_append.2 ⟨h, List.pairwise_singleton _ _, fun entry hentry last hlast => ?_⟩
  rw [List.mem_singleton.1 hlast]
  simpa using List.find?_eq_none.1 hnew entry hentry

theorem gives_scalarValue (tag : Option ByteArray) (text : String) (style : ScalarStyle) :
    Gives Value.HasDistinctKeys (scalarValue tag text style) := by
  unfold scalarValue
  split
  case h_1 => exact .throw _
  case h_5 => exact .throw _
  all_goals exact .pure fun entries h => by cases h

/-- Whatever is read with some fuel has no key twice; a mapping goes on from entries whose keys differ. -/
structure ReadsDistinct (fuel : Nat) : Prop where
  value : ∀ depth path tagged, Gives Value.HasDistinctKeys (readValue fuel depth path tagged)
  sequence : ∀ depth path items, Gives Value.HasDistinctKeys (readSequence fuel depth path items)
  mapping : ∀ depth path entries, Distinct entries →
    Gives Value.HasDistinctKeys (readMapping fuel depth path entries)

namespace ReadsDistinct

variable {fuel : Nat}

theorem value_succ (h : ReadsDistinct fuel) (depth : Nat) (path : String) (tagged : Bool) :
    Gives Value.HasDistinctKeys (readValue (fuel + 1) depth path tagged) := by
  unfold readValue
  refine .after fun item => .placing ?_ _ _
  obtain ⟨item, mark⟩ := item
  -- A tagged value is no mapping itself, and what it holds need not be looked at.
  have htagged (name : String) :
      Gives Value.HasDistinctKeys (do return .tagged name (← readValue fuel depth path true)) :=
    .after fun v => .pure fun entries hentries => by cases hentries
  cases item with
  | void => exact .after fun _ => .pure fun entries hentries => by cases hentries
  | «alias» anchor => exact .after fun _ => .followAlias (h.value depth path tagged) anchor
  | scalar tag text style =>
    dsimp only
    split
    · exact htagged _
    · exact .after fun _ => gives_scalarValue _ text style
  | sequenceStart tag =>
    dsimp only
    split
    · exact htagged _
    · refine .after fun _ => ?_
      cases depth with
      | zero => exact .throw _
      | succ depth => exact h.sequence depth path []
  | mappingStart tag =>
    dsimp only
    split
    · exact htagged _
    · refine .after fun _ => ?_
      cases depth with
      | zero => exact .throw _
      | succ depth => exact h.mapping depth path [] .nil
  | sequenceEnd => exact .throw _
  | mappingEnd => exact .throw _

theorem sequence_succ (h : ReadsDistinct fuel) (depth : Nat) (path : String) (items : List Value) :
    Gives Value.HasDistinctKeys (readSequence (fuel + 1) depth path items) := by
  unfold readSequence
  refine .after fun item => ?_
  dsimp only
  split
  · exact .after fun _ => .pure fun entries hentries => by cases hentries
  · exact .after fun value => h.sequence depth path _

theorem mapping_succ (h : ReadsDistinct fuel) (depth : Nat) (path : String) {entries : List (Value × Value)}
    (hentries : Distinct entries) :
    Gives Value.HasDistinctKeys (readMapping (fuel + 1) depth path entries) := by
  unfold readMapping
  refine .after fun item => ?_
  dsimp only
  split
  · refine .after fun _ => .pure fun all hall => ?_
    cases hall
    exact hentries
  · refine .after fun key => ?_
    split
    · exact .throw _
    · rename_i hnew
      exact .after fun value => h.mapping depth path _ (hentries.concat hnew)

end ReadsDistinct

/-- **No mapping that is read has a key twice.** -/
theorem readsDistinct (fuel : Nat) : ReadsDistinct fuel := by
  induction fuel with
  | zero =>
    refine ⟨fun depth path tagged => ?_, fun depth path items => ?_, fun depth path entries _ => ?_⟩
    · unfold readValue
      exact .throw _
    · unfold readSequence
      exact .throw _
    · unfold readMapping
      exact .throw _
  | succ fuel ih => exact ⟨ih.value_succ, ih.sequence_succ, fun depth path _ => ih.mapping_succ depth path⟩

/-- **The value that a text writes has no key twice**, if it is a mapping. -/
theorem distinct_of_ofString {text : String} {v : Value} (h : Value.ofString text = .ok v) : v.HasDistinctKeys := by
  have hgives : Gives Value.HasDistinctKeys (do
      let d ← read
      readValue d.recursionBound depthLimit "." false) :=
    .after fun d => (readsDistinct d.recursionBound).value depthLimit "." false
  exact hgives.of_decode h

end Scaffold.Yaml
