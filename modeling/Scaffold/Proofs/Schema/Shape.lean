import Mathlib.Data.List.Forall2
import Mathlib.Data.List.Nodup
import Scaffold.Proofs.Schema.Problems
import Scaffold.Proofs.Yaml.Keys
import Scaffold.Schema.Reader
/-!
# Proofs.Schema.Shape — which documents are schemas

A document is a schema exactly if it is null or a mapping each of whose entries defines an entity.  What is wrong with an
entry is told from the entry alone (`Offends`), and the first entry that offends decides the error, whatever follows it
(`ofString_shape`).  The keys of a mapping differ, so the entities of a schema have different names and each is found
under its own.
-/
namespace Scaffold

open Disk (Path)
open Yaml (Decoder NodeFault Value)

section Traversal

variable {ε α β : Type} {f : α → Except ε β}

/-- **Going through a list goes through** exactly if it does for each element. -/
theorem mapM_ok_iff {l : List α} {bs : List β} :
    l.mapM f = .ok bs ↔ List.Forall₂ (fun a b => f a = .ok b) l bs := by
  induction l generalizing bs with
  | nil =>
    rw [List.mapM_nil, List.forall₂_nil_left_iff]
    exact ⟨fun h => by cases h; rfl, fun h => by rw [h]; rfl⟩
  | cons a rest ih =>
    rw [List.mapM_cons]
    constructor
    · intro h
      obtain ⟨b, hb, h⟩ := except_bind_ok.1 h
      obtain ⟨others, hothers, h⟩ := except_bind_ok.1 h
      cases h
      exact .cons hb (ih.1 hothers)
    · rintro (_ | ⟨hb, hothers⟩)
      exact except_bind_ok.2 ⟨_, hb, except_bind_ok.2 ⟨_, ih.2 hothers, rfl⟩⟩

/-- **It breaks off with the error of the first element that has one.** -/
theorem mapM_error_iff {l : List α} {err : ε} : l.mapM f = .error err ↔
    ∃ before a after, l = before ++ a :: after ∧ (∀ x ∈ before, ∃ b, f x = .ok b) ∧ f a = .error err := by
  constructor
  · intro h
    induction l with
    | nil => cases h
    | cons first rest ih =>
      rw [List.mapM_cons] at h
      cases hfirst : f first with
      | error other =>
        rw [hfirst] at h
        cases h
        exact ⟨[], first, rest, rfl, List.forall_mem_nil _, hfirst⟩
      | ok b =>
        have hrest : rest.mapM f = .error err := by
          rw [hfirst] at h
          cases hmap : rest.mapM f with
          | error other =>
            rw [hmap] at h
            cases h
            rfl
          | ok others =>
            rw [hmap] at h
            cases h
        obtain ⟨before, a, after, rfl, hbefore, ha⟩ := ih hrest
        exact ⟨first :: before, a, after, rfl, List.forall_mem_cons.2 ⟨⟨b, hfirst⟩, hbefore⟩, ha⟩
  · rintro ⟨before, a, after, rfl, hbefore, ha⟩
    obtain ⟨bs, hbs⟩ := exists_mapM_ok hbefore
    rw [List.mapM_append, hbs, List.mapM_cons, ha]
    rfl

end Traversal

/-! ## Definitions -/

namespace Yaml.Decoder

variable {σ : Type} {I : σ → Prop} {known seen : List String} {field : σ → String → Decoder σ}

/-- What holds before a record is read and is kept by each of its fields holds after it. -/
theorem readFields_keeps (hfield : ∀ {st st' : σ} {name : String} {v : Value}, I st → field st name v = .ok st' → I st')
    {entries : List (Value × Value)} {st st' : σ} (h : readFields known field seen st entries = .ok st')
    (hst : I st) : I st' := by
  induction entries generalizing st seen with
  | nil =>
    cases h
    exact hst
  | cons entry rest ih =>
    unfold readFields at h
    obtain ⟨name, -, h⟩ := except_bind_ok.1 h
    split at h
    · split at h
      · cases h
      · obtain ⟨next, hnext, h⟩ := except_bind_ok.1 h
        exact ih h (hfield hst hnext)
    · exact ih h hst

theorem record_keeps (hfield : ∀ {st st' : σ} {name : String} {v : Value}, I st → field st name v = .ok st' → I st')
    {expected : String} {start st : σ} {v : Value} (h : record expected known start field v = .ok st)
    (hstart : I start) : I st := by
  obtain ⟨entries, -, h⟩ := except_bind_ok.1 h
  exact readFields_keeps hfield h hstart

end Yaml.Decoder

namespace Schema

variable {v : Value} {e e' : Entity} {entry : Value × Value} {fault : SchemaFault}

theorem name_of_decodePanel (h : decodePanel e v = .ok e') : e'.name = e.name := by
  refine Decoder.record_keeps (I := fun st => st.name = e.name) (fun {st st' field v} hst hfield => ?_) h rfl
  split at hfield
  all_goals
    obtain ⟨texts, -, hfield⟩ := except_bind_ok.1 hfield
    cases hfield
    exact hst

/-- **A definition does not change the name** under which it is read. -/
theorem name_of_decodeEntity {name : String} (h : decodeEntity name v = .ok e) : e.name = name := by
  refine Decoder.record_keeps (I := fun st => st.name = name) (fun {st st' field v} hst hfield => ?_) h rfl
  split at hfield
  case h_4 => exact (name_of_decodePanel hfield).trans hst
  all_goals
    obtain ⟨found, -, hfield⟩ := except_bind_ok.1 hfield
    cases hfield
    exact hst

/-! ## Entries -/

/-- **An entry defines an entity**: its key is an untagged text, the entity's name, and its value is a mapping, tags
aside, that is read as the entity's definition. -/
structure Defines (entry : Value × Value) (e : Entity) : Prop where
  key : entry.1 = .string e.name
  isMapping : entry.2.isMapping = true
  decoded : decodeEntity e.name entry.2 = .ok e

/-- **What is wrong with an entry**, the key before the value and the sort of the value before what it holds. -/
inductive Offends : Value × Value → SchemaFault → Prop where
  | key {key value : Value} : (∀ name, key ≠ .string name) → Offends (key, value) (.nameNotText key)
  | value {name : String} {value : Value} : value.isMapping = false →
      Offends (.string name, value) (.entityNotMapping name value)
  | definition {name : String} {value : Value} {fault : NodeFault} : value.isMapping = true →
      decodeEntity name value = .error fault → Offends (.string name, value) (.definition name fault)

theorem entityOfEntry_text (name : String) (value : Value) : entityOfEntry (.string name, value) =
    if value.isMapping then (decodeEntity name value).mapError (.definition name)
    else .error (.entityNotMapping name value) := rfl

theorem entityOfEntry_of_ne {key : Value} (h : ∀ name, key ≠ .string name) (value : Value) :
    entityOfEntry (key, value) = .error (.nameNotText key) := by
  cases key with
  | string name => exact absurd rfl (h name)
  | _ => rfl

theorem entityOfEntry_ok : entityOfEntry entry = .ok e ↔ Defines entry e := by
  obtain ⟨key, value⟩ := entry
  constructor
  · intro h
    by_cases hkey : ∃ name, key = .string name
    · obtain ⟨name, rfl⟩ := hkey
      rw [entityOfEntry_text] at h
      split at h
      · rename_i hmapping
        have hdecoded := mapError_ok.1 h
        obtain rfl := name_of_decodeEntity hdecoded
        exact ⟨rfl, hmapping, hdecoded⟩
      · cases h
    · rw [entityOfEntry_of_ne (not_exists.1 hkey)] at h
      cases h
  · rintro ⟨rfl, hmapping, hdecoded⟩
    rw [entityOfEntry_text, if_pos hmapping]
    exact mapError_ok.2 hdecoded

theorem entityOfEntry_error : entityOfEntry entry = .error fault ↔ Offends entry fault := by
  obtain ⟨key, value⟩ := entry
  constructor
  · intro h
    by_cases hkey : ∃ name, key = .string name
    · obtain ⟨name, rfl⟩ := hkey
      rw [entityOfEntry_text] at h
      split at h
      · rename_i hmapping
        cases hdecoded : decodeEntity name value with
        | ok e =>
          rw [hdecoded] at h
          cases h
        | error reason =>
          rw [hdecoded] at h
          cases h
          exact .definition hmapping hdecoded
      · rename_i hmapping
        cases h
        exact .value (Bool.not_eq_true _ ▸ hmapping)
    · rw [entityOfEntry_of_ne (not_exists.1 hkey)] at h
      cases h
      exact .key (not_exists.1 hkey)
  · intro h
    cases h with
    | key hkey => exact entityOfEntry_of_ne hkey value
    | value hmapping =>
      rw [entityOfEntry_text, hmapping]
      rfl
    | definition hmapping hdecoded =>
      rw [entityOfEntry_text, if_pos hmapping, hdecoded]
      rfl

/-! ## Documents -/

/-- The entries of a document; null has none. -/
def entriesOf : Value → List (Value × Value)
  | .mapping entries => entries
  | _ => []

theorem ofString_of_value {text : String} (h : Value.ofString text = .ok v) : ofString text = ofValue v := by
  unfold ofString
  rw [h]
  rfl

theorem ofValue_ok {s : Schema} : ofValue v = .ok s ↔
    (v = .null ∨ ∃ entries, v = .mapping entries) ∧ List.Forall₂ Defines (entriesOf v) s.entities := by
  have hdefines : (fun entry e => entityOfEntry entry = .ok e) = Defines :=
    funext₂ fun _ _ => propext entityOfEntry_ok
  cases v with
  | null =>
    rw [show entriesOf .null = [] from rfl, List.forall₂_nil_left_iff]
    constructor
    · intro h
      cases h
      exact ⟨.inl rfl, rfl⟩
    · rintro ⟨-, hnone⟩
      exact congrArg (fun es => Except.ok (Schema.mk es)) hnone.symm
  | mapping entries =>
    rw [← hdefines, show entriesOf (.mapping entries) = entries from rfl, ← mapM_ok_iff]
    show (entries.mapM entityOfEntry).map Schema.mk = .ok s ↔ _
    cases entries.mapM entityOfEntry with
    | error fault =>
      constructor
      · intro h
        cases h
      · rintro ⟨-, h⟩
        cases h
    | ok es =>
      constructor
      · intro h
        cases h
        exact ⟨.inr ⟨entries, rfl⟩, rfl⟩
      · rintro ⟨-, h⟩
        cases h
        rfl
  | _ =>
    constructor
    · intro h
      cases h
    · rintro ⟨h | ⟨entries, h⟩, -⟩ <;> cases h

theorem ofValue_error : ofValue v = .error fault ↔
    (v ≠ .null ∧ (∀ entries, v ≠ .mapping entries) ∧ fault = .notMapping v) ∨
    ∃ before entry after, v = .mapping (before ++ entry :: after) ∧ (∀ x ∈ before, ∃ e, Defines x e) ∧
      Offends entry fault := by
  cases v with
  | null =>
    constructor
    · intro h
      cases h
    · rintro (⟨h, -⟩ | ⟨before, entry, after, h, -⟩)
      · exact absurd rfl h
      · cases h
  | mapping entries =>
    have hmap : ofValue (.mapping entries) = .error fault ↔ entries.mapM entityOfEntry = .error fault := by
      show (entries.mapM entityOfEntry).map Schema.mk = .error fault ↔ _
      cases entries.mapM entityOfEntry <;> exact ⟨fun h => by cases h <;> rfl, fun h => by cases h <;> rfl⟩
    rw [hmap, mapM_error_iff]
    simp only [entityOfEntry_ok, entityOfEntry_error]
    constructor
    · rintro ⟨before, entry, after, rfl, hbefore, hentry⟩
      exact .inr ⟨before, entry, after, rfl, hbefore, hentry⟩
    · rintro (⟨-, h, -⟩ | ⟨before, entry, after, h, hbefore, hentry⟩)
      · exact absurd rfl (h entries)
      · cases h
        exact ⟨before, entry, after, rfl, hbefore, hentry⟩
  | _ =>
    constructor
    · intro h
      cases h
      exact .inl ⟨nofun, nofun, rfl⟩
    · rintro (⟨-, -, rfl⟩ | ⟨before, entry, after, h, -⟩)
      · rfl
      · cases h

section Entities

variable {entries : List (Value × Value)} {es : List Entity}

theorem exists_entity (h : List.Forall₂ Defines entries es) (hentry : entry ∈ entries) :
    ∃ e ∈ es, Defines entry e := by
  obtain ⟨i, hi, rfl⟩ := List.getElem_of_mem hentry
  have hes : i < es.length := h.length_eq ▸ hi
  exact ⟨es[i], List.getElem_mem hes, h.get hi hes⟩

theorem exists_entry (h : List.Forall₂ Defines entries es) (he : e ∈ es) : ∃ entry ∈ entries, Defines entry e := by
  obtain ⟨i, hi, rfl⟩ := List.getElem_of_mem he
  have hentries : i < entries.length := h.length_eq ▸ hi
  exact ⟨entries[i], List.getElem_mem hentries, h.get hentries hi⟩

theorem exists_forall₂_iff : (∃ es, List.Forall₂ Defines entries es) ↔ ∀ entry ∈ entries, ∃ e, Defines entry e := by
  constructor
  · rintro ⟨es, h⟩ entry hentry
    obtain ⟨e, -, he⟩ := exists_entity h hentry
    exact ⟨e, he⟩
  · intro h
    induction entries with
    | nil => exact ⟨[], .nil⟩
    | cons entry rest ih =>
      obtain ⟨⟨e, he⟩, hrest⟩ := List.forall_mem_cons.1 h
      obtain ⟨es, hes⟩ := ih hrest
      exact ⟨e :: es, .cons he hes⟩

/-- **Entries with different keys define entities with different names.** -/
theorem nodup_names (h : List.Forall₂ Defines entries es) (hdistinct : Yaml.Distinct entries) :
    (es.map (·.name)).Nodup := by
  induction h with
  | nil => exact List.nodup_nil
  | @cons first e entries es hfirst hrest ih =>
    obtain ⟨hnew, hdistinct⟩ := List.pairwise_cons.1 hdistinct
    rw [List.map_cons, List.nodup_cons]
    refine ⟨fun hmem => ?_, ih hdistinct⟩
    obtain ⟨e', he', hname⟩ := List.mem_map.1 hmem
    obtain ⟨entry, hentry, hdefines⟩ := exists_entry hrest he'
    have hsame := hnew entry hentry
    rw [hfirst.key, hdefines.key, hname] at hsame
    simp [Value.same] at hsame

theorem find?_name {s : Schema} {name : String} (hnames : (s.entities.map (·.name)).Nodup) :
    s.find? name = some e ↔ e ∈ s.entities ∧ e.name = name := by
  unfold find?
  constructor
  · intro h
    have hname := List.find?_some h
    exact ⟨List.mem_of_find?_eq_some h, beq_iff_eq.1 hname⟩
  · rintro ⟨he, rfl⟩
    cases hfind : s.entities.find? (·.name == e.name) with
    | none => exact absurd (beq_self_eq_true e.name) (List.find?_eq_none.1 hfind e he)
    | some found =>
      have hname := List.find?_some hfind
      rw [List.inj_on_of_nodup_map hnames (List.mem_of_find?_eq_some hfind) he (beq_iff_eq.1 hname)]

/-- **Under a name the entity is found that the value of this key defines.** -/
theorem find?_decoded {s : Schema} {name : String} (h : List.Forall₂ Defines entries s.entities)
    (hnames : (s.entities.map (·.name)).Nodup) :
    s.find? name = some e ↔ ∃ value, (.string name, value) ∈ entries ∧ decodeEntity name value = .ok e := by
  rw [find?_name hnames]
  constructor
  · rintro ⟨he, rfl⟩
    obtain ⟨⟨key, value⟩, hentry, hdefines⟩ := exists_entry h he
    obtain rfl := hdefines.key
    exact ⟨value, hentry, hdefines.decoded⟩
  · rintro ⟨value, hentry, hdecoded⟩
    obtain ⟨found, hfound, hdefines⟩ := exists_entity h hentry
    have hsame := hdefines.decoded
    rw [← Value.string.inj hdefines.key, hdecoded] at hsame
    cases hsame
    exact ⟨hfound, name_of_decodeEntity hdecoded⟩

theorem find?_no_key {s : Schema} {name : String} (h : List.Forall₂ Defines entries s.entities)
    (hnames : (s.entities.map (·.name)).Nodup) :
    s.find? name = none ↔ ∀ value, (.string name, value) ∉ entries := by
  rw [Option.eq_none_iff_forall_ne_some]
  constructor
  · intro hnone value hentry
    obtain ⟨e, -, hdefines⟩ := exists_entity h hentry
    have hdecoded := hdefines.decoded
    rw [← Value.string.inj hdefines.key] at hdecoded
    exact hnone e ((find?_decoded h hnames).2 ⟨value, hentry, hdecoded⟩)
  · intro hno e he
    obtain ⟨value, hentry, -⟩ := (find?_decoded h hnames).1 he
    exact hno value hentry

end Entities

theorem exists_ofValue_ok : (∃ s, ofValue v = .ok s) ↔
    v = .null ∨ ∃ entries, v = .mapping entries ∧ ∀ entry ∈ entries, ∃ e, Defines entry e := by
  simp only [ofValue_ok, ← exists_forall₂_iff]
  constructor
  · rintro ⟨s, rfl | ⟨entries, rfl⟩, hs⟩
    · exact .inl rfl
    · exact .inr ⟨entries, rfl, s.entities, hs⟩
  · rintro (rfl | ⟨entries, rfl, es, hes⟩)
    · exact ⟨⟨[]⟩, .inl rfl, .nil⟩
    · exact ⟨⟨es⟩, .inr ⟨entries, rfl⟩, hes⟩

theorem distinct_entriesOf (h : v.HasDistinctKeys) : Yaml.Distinct (entriesOf v) := by
  cases v with
  | mapping entries => exact h entries rfl
  | _ => exact .nil

theorem load_of_text {d : Disk} {p : Path} {text : String} (hthere : d.occupied p = true)
    (hread : d.readText p = .ok text) : load d p = (ofString text).mapError .schema := by
  unfold load
  rw [hthere, hread]
  rfl

/-- **Which texts are schemas, and what schemas they are.**  A text is a schema exactly if its value is null or an untagged
mapping of which every entry defines an entity.  It has one entity for each key, in the order of the document; their
names differ, and under a name that is a key the entity is found that its value defines, under any other name none.
Otherwise the value itself is refused, or the first entry that offends tells what is wrong, whatever follows it; and
loading a file with the text stops because it is no schema. -/
theorem ofString_shape {text : String} (h : Value.ofString text = .ok v) :
    ((∃ s, ofString text = .ok s) ↔
      v = .null ∨ ∃ entries, v = .mapping entries ∧ ∀ entry ∈ entries, ∃ e, Defines entry e) ∧
    (∀ s, ofString text = .ok s →
      List.Forall₂ Defines (entriesOf v) s.entities ∧ (s.entities.map (·.name)).Nodup ∧
      (∀ name e, s.find? name = some e ↔
        ∃ value, (.string name, value) ∈ entriesOf v ∧ decodeEntity name value = .ok e) ∧
      ∀ name, s.find? name = none ↔ ∀ value, (.string name, value) ∉ entriesOf v) ∧
    ∀ fault,
      (ofString text = .error fault ↔
        (v ≠ .null ∧ (∀ entries, v ≠ .mapping entries) ∧ fault = .notMapping v) ∨
        ∃ before entry after, v = .mapping (before ++ entry :: after) ∧ (∀ x ∈ before, ∃ e, Defines x e) ∧
          Offends entry fault) ∧
      (ofString text = .error fault → ∀ (d : Disk) (p : Path), d.occupied p = true → d.readText p = .ok text →
        load d p = .error (.schema fault)) := by
  have hvalue := ofString_of_value h
  refine ⟨?_, fun s hs => ?_, fun fault => ⟨?_, fun hfault d p hthere hread => ?_⟩⟩
  · rw [hvalue]
    exact exists_ofValue_ok
  · obtain ⟨-, hentities⟩ := ofValue_ok.1 (hvalue.symm.trans hs)
    have hnames := nodup_names hentities (distinct_entriesOf (Yaml.distinct_of_ofString h))
    exact ⟨hentities, hnames, fun name e => find?_decoded hentities hnames,
      fun name => find?_no_key hentities hnames⟩
  · rw [hvalue]
    exact ofValue_error
  · rw [load_of_text hthere hread, hfault]
    rfl

/-- A schema with two entities. -/
def soundText : String := "User:\n  columns:\n    id:\n      type: id\nPost:\n  table: news\n"

/-- Two entries that offend, behind one that does not. -/
def faultyText : String := "User:\n  table: people\nPost: news\n5: 6\n"

theorem mapping_of_sort (h : v.sort = "a mapping") : ∃ entries, v = .mapping entries := by
  cases v with
  | mapping entries => exact ⟨entries, rfl⟩
  | _ => simp [Value.sort] at h

/-- The entities are in the order of the document, and the entry behind the first that offends does not matter. -/
theorem ofString_shape_mixed :
    (∃ v s, Value.ofString soundText = .ok v ∧ ofString soundText = .ok s ∧
      List.Forall₂ Defines (entriesOf v) s.entities ∧ s.entities.map (·.name) = ["User", "Post"]) ∧
    ∃ before entry after fault, Value.ofString faultyText = .ok (.mapping (before ++ entry :: after)) ∧
      (∀ x ∈ before, ∃ e, Defines x e) ∧ Offends entry fault ∧
      fault.message = "entity 'Post' must be a mapping, found a string" := by
  constructor
  · have hread : faultOf (Value.ofString soundText) = [] := by decide +kernel
    have hnames : (ofString soundText).toOption.map (fun s => s.entities.map (·.name)) = some ["User", "Post"] := by
      decide +kernel
    obtain ⟨v, hv⟩ := faultOf_eq_nil.1 hread
    cases hs : ofString soundText with
    | error fault =>
      rw [hs] at hnames
      cases hnames
    | ok s =>
      rw [hs] at hnames
      exact ⟨v, s, hv, rfl, ((ofString_shape hv).2.1 s hs).1, Option.some.inj hnames⟩
  · have hread : faultOf (Value.ofString faultyText) = [] := by decide +kernel
    have hsort : (Value.ofString faultyText).toOption.map Value.sort = some "a mapping" := by decide +kernel
    have hmessage : (faultOf (ofString faultyText)).map SchemaFault.message =
        ["entity 'Post' must be a mapping, found a string"] := by decide +kernel
    obtain ⟨v, hv⟩ := faultOf_eq_nil.1 hread
    rw [hv] at hsort
    obtain ⟨entries, rfl⟩ := mapping_of_sort (Option.some.inj hsort)
    cases hfault : ofString faultyText with
    | ok s =>
      rw [hfault] at hmessage
      cases hmessage
    | error fault =>
      rw [hfault] at hmessage
      have hmessage := List.head_eq_of_cons_eq hmessage
      obtain ⟨-, hno, -⟩ | ⟨before, entry, after, hentries, hbefore, hentry⟩ :=
        ((ofString_shape hv).2.2 fault).1.1 hfault
      · exact absurd rfl (hno entries)
      · exact ⟨before, entry, after, fault, hentries ▸ hv, hbefore, hentry, hmessage⟩

end Schema

end Scaffold
