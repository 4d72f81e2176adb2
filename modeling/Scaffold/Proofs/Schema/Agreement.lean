import Scaffold.Proofs.Schema.Problems
/-!
# Proofs.Schema.Agreement — what stops first is what is listed first

The list of an entity's problems goes on after a problem; resolving the columns and writing the methods of the relations
stop at one.  Both meet the same problems in the same order (`head?_columnProblems`, `head?_relationProblems`), so the
list is empty exactly where nothing stops, and otherwise begins with what stops first (`problems_agree`).
-/
namespace Scaffold

section Stopping

variable {ε α β : Type}

theorem head?_faultOf {x : Except ε α} {err : ε} : (faultOf x).head? = some err ↔ x = .error err := by
  cases x <;> simp [faultOf]

theorem faultOf_map (x : Except ε α) (f : α → β) : faultOf (f <$> x) = faultOf x := by cases x <;> rfl

/-- An action made of two stops where the first does, or else where the second does. -/
theorem head?_faultOf_bind (x : Except ε α) (f : α → Except ε β) :
    (faultOf (x >>= f)).head? = (faultOf x).head?.or (match x with | .ok a => (faultOf (f a)).head? | _ => none) := by
  cases x <;> rfl

/-- **Going through a list stops at the first fault of its elements.** -/
theorem head?_faultOf_mapM (f : α → Except ε β) (faults : α → List ε) {l : List α}
    (h : ∀ a ∈ l, (faults a).head? = (faultOf (f a)).head?) :
    (faultOf (l.mapM f)).head? = (l.flatMap faults).head? := by
  induction l with
  | nil => rfl
  | cons a rest ih =>
    have hrest := ih fun b hb => h b (List.mem_cons_of_mem _ hb)
    rw [List.mapM_cons, List.flatMap_cons, List.head?_append, h a List.mem_cons_self, ← hrest, head?_faultOf_bind]
    cases f a with
    | error err => rfl
    | ok b => exact congrArg List.head? (faultOf_map (rest.mapM f) (b :: ·))

end Stopping

/-- The name of what a problem is about. -/
def Problem.about : Problem → String
  | .noColumns entity => entity
  | .columnType column _ => column
  | .relationType relation _ => relation
  | .noModel relation => relation

/-- **Problems of different names are different.** -/
theorem nodup_flatMap_of_about {α : Type} (map : NameMap α) {faults : String × α → List Problem}
    (habout : ∀ entry, ∀ problem ∈ faults entry, problem.about = entry.1) (hnodup : ∀ entry, (faults entry).Nodup) :
    (map.entries.flatMap faults).Nodup := by
  rw [List.Nodup, List.pairwise_flatMap]
  refine ⟨fun entry _ => hnodup entry, ?_⟩
  refine (List.pairwise_map.1 map.distinct).imp fun {first second} hne problem hfirst other hsecond hsame => hne ?_
  rw [← habout first problem hfirst, hsame, habout second other hsecond]

theorem ColumnKind.ofMethod?_eq_none {method : String} :
    ofMethod? method = none ↔ method ∉ all.map ColumnKind.method := by
  simp [ofMethod?]

theorem RelationKind.ofMethod?_eq_none {method : String} :
    ofMethod? method = none ↔ method ∉ all.map RelationKind.method := by
  simp [ofMethod?]

/-! ## What is wrong with a column or a relation -/

/-- What is wrong with a column: it declares a type that there is none of. -/
def Column.faults (entry : String × Column) : List Problem :=
  match entry.2.declaredType with
  | none => []
  | some declared =>
    if declared ∈ ColumnKind.all.map ColumnKind.method then [] else [.columnType entry.1 declared]

/-- What is wrong with a relation: it declares no type or one that there is none of, and it declares no model or an
empty one. -/
def Relation.faults (entry : String × Relation) : List Problem :=
  let declared := entry.2.declaredType.getD ""
  (if declared ∈ RelationKind.all.map RelationKind.method then [] else [.relationType entry.1 declared]) ++
    if entry.2.model.getD "" = "" then [.noModel entry.1] else []

theorem Column.faultOf_kind (entry : String × Column) : faultOf (entry.2.kind entry.1) = Column.faults entry := by
  unfold Column.kind Column.faults
  cases entry.2.declaredType with
  | none => rfl
  | some declared =>
    dsimp only
    cases hkind : ColumnKind.ofMethod? declared with
    | none =>
      rw [if_neg (ColumnKind.ofMethod?_eq_none.1 hkind)]
      rfl
    | some kind =>
      rw [if_pos (Classical.byContradiction fun hnone => ?_)]
      · rfl
      · rw [ColumnKind.ofMethod?_eq_none.2 hnone] at hkind
        cases hkind

theorem Relation.faultOf_kind_target (entry : String × Relation) :
    faultOf (entry.2.kind entry.1) ++ faultOf (entry.2.target entry.1) = Relation.faults entry := by
  unfold Relation.kind Relation.target Relation.faults
  congr 1
  · cases hkind : RelationKind.ofMethod? (entry.2.declaredType.getD "") with
    | none =>
      rw [if_neg (RelationKind.ofMethod?_eq_none.1 hkind)]
      rfl
    | some kind =>
      rw [if_pos (Classical.byContradiction fun hnone => ?_)]
      · rfl
      · rw [RelationKind.ofMethod?_eq_none.2 hnone] at hkind
        cases hkind
  · cases entry.2.model with
    | none => rfl
    | some model =>
      by_cases hempty : model = ""
      · subst hempty
        rfl
      · simp [faultOf, hempty]

theorem Column.mem_faults {entry : String × Column} {problem : Problem} (h : problem ∈ faults entry) :
    ∃ declared, problem = .columnType entry.1 declared := by
  unfold faults at h
  split at h
  · cases h
  · split at h
    · cases h
    · exact ⟨_, List.mem_singleton.1 h⟩

theorem Relation.mem_faults {entry : String × Relation} {problem : Problem} (h : problem ∈ faults entry) :
    (∃ declared, problem = .relationType entry.1 declared) ∨ problem = .noModel entry.1 := by
  unfold faults at h
  rcases List.mem_append.1 h with hkind | hmodel
  · split at hkind
    · cases hkind
    · exact .inl ⟨_, List.mem_singleton.1 hkind⟩
  · split at hmodel
    · exact .inr (List.mem_singleton.1 hmodel)
    · cases hmodel

theorem Column.nodup_faults (entry : String × Column) : (faults entry).Nodup := by
  unfold faults
  split
  · exact List.nodup_nil
  · split <;> simp

theorem Relation.nodup_faults (entry : String × Relation) : (faults entry).Nodup := by
  unfold faults
  dsimp only
  split <;> split <;> simp

namespace Entity

variable {e : Entity}

/-- What is wrong with the columns of an entity: that there are none, or else what is wrong with each of them. -/
def columnFaults (e : Entity) : List Problem :=
  if e.columns.entries = [] then [.noColumns e.name] else e.columns.entries.flatMap Column.faults

/-- What is wrong with an entity, in the order of the document. -/
def faults (e : Entity) : List Problem := e.columnFaults ++ e.relations.entries.flatMap Relation.faults

/-- **The problems are what is wrong, in the order of the document.** -/
theorem problems_eq_faults (e : Entity) : e.problems = e.faults := by
  have hcolumns : e.columnProblems = e.columnFaults := by
    unfold columnProblems requiredColumns columnFaults NameMap.isEmpty
    by_cases hempty : e.columns.entries = []
    · rw [if_pos hempty, hempty]
      rfl
    · rw [if_neg hempty, if_neg (by simpa using hempty)]
      exact congrArg e.columns.entries.flatMap (funext Column.faultOf_kind)
  have hrelations : e.relationProblems = e.relations.entries.flatMap Relation.faults :=
    congrArg e.relations.entries.flatMap (funext Relation.faultOf_kind_target)
  rw [problems, hcolumns, hrelations, faults]

theorem nodup_columnFaults (e : Entity) : e.columnFaults.Nodup := by
  unfold columnFaults
  split
  · simp
  · refine nodup_flatMap_of_about e.columns (fun entry problem hproblem => ?_) Column.nodup_faults
    obtain ⟨declared, rfl⟩ := Column.mem_faults hproblem
    rfl

theorem nodup_relationFaults (e : Entity) : (e.relations.entries.flatMap Relation.faults).Nodup := by
  refine nodup_flatMap_of_about e.relations (fun entry problem hproblem => ?_) Relation.nodup_faults
  rcases Relation.mem_faults hproblem with ⟨declared, rfl⟩ | rfl <;> rfl

/-- **No problem is listed twice.** -/
theorem nodup_problems (e : Entity) : e.problems.Nodup := by
  rw [problems_eq_faults, faults, List.nodup_append]
  refine ⟨e.nodup_columnFaults, e.nodup_relationFaults, fun problem hcolumn other hrelation hsame => ?_⟩
  obtain ⟨relation, -, hrelation⟩ := List.mem_flatMap.1 hrelation
  have hwhat : (∃ name, problem = .noColumns name) ∨ ∃ name declared, problem = .columnType name declared := by
    unfold columnFaults at hcolumn
    split at hcolumn
    · exact .inl ⟨_, List.mem_singleton.1 hcolumn⟩
    · obtain ⟨column, -, hcolumn⟩ := List.mem_flatMap.1 hcolumn
      exact .inr ⟨_, Column.mem_faults hcolumn⟩
  -- Neither is a problem of a relation.
  subst hsame
  rcases hwhat with ⟨_, rfl⟩ | ⟨_, _, rfl⟩ <;> rcases Relation.mem_faults hrelation with ⟨_, h⟩ | h <;> cases h

/-! ## What stops first -/

/-- **Resolving the columns stops at the first of their problems.** -/
theorem head?_columnProblems (e : Entity) :
    e.columnProblems.head? = (faultOf (e.requiredColumns >>= Migration.resolve)).head? := by
  unfold columnProblems
  cases e.requiredColumns with
  | error problem => rfl
  | ok columns =>
    refine (head?_faultOf_mapM _ _ fun entry _ => ?_).symm
    exact congrArg List.head? (faultOf_map (entry.2.kind entry.1)
      fun kind => (⟨entry.1, kind, entry.2⟩ : Migration.ColumnDefinition)).symm

/-- **The methods of the relations stop at the first of their problems.** -/
theorem head?_relationProblems (e : Entity) :
    e.relationProblems.head? = (faultOf (Model.methods e.relations.entries)).head? := by
  unfold relationProblems Model.methods
  have hmapM := head?_faultOf_mapM (l := e.relations.entries)
    (fun entry => do return Model.method entry.1 (← entry.2.kind entry.1) (← entry.2.target entry.1))
    (fun entry => faultOf (entry.2.kind entry.1) ++ faultOf (entry.2.target entry.1)) fun entry _ => by
      rw [List.head?_append, head?_faultOf_bind]
      cases entry.2.kind entry.1 with
      | error problem => rfl
      | ok kind => exact congrArg List.head? (faultOf_map (entry.2.target entry.1) (Model.method entry.1 kind)).symm
  rw [← hmapM]
  exact congrArg List.head? (faultOf_map _ Model.methodBreak.intercalate).symm

theorem exists_fillable_required (h : e.problems = []) :
    ∃ text, (e.requiredColumns >>= Model.fillable) = .ok text := by
  obtain ⟨text, htext⟩ := exists_fillable h
  exact ⟨text, except_bind_ok.2 ⟨_, requiredColumns_of_problems h, htext⟩⟩

/-- **The list of problems agrees with what stops at the first.**  It is empty exactly if the columns can be resolved
and the relations have methods, and then it can also be told which columns users may assign.  It begins with the problem
at which resolving the columns stops, or, if it does not stop, with the one at which the methods do.  And it lists what
is wrong in the order of the document, each thing once: that there are no columns, or each column of an unknown type,
and then for each relation first its type and then its model. -/
theorem problems_agree (e : Entity) :
    (e.problems = [] ↔ (∃ columns, (e.requiredColumns >>= Migration.resolve) = .ok columns) ∧
      ∃ text, Model.methods e.relations.entries = .ok text) ∧
    (e.problems = [] → ∃ text, (e.requiredColumns >>= Model.fillable) = .ok text) ∧
    (∀ problem, e.problems.head? = some problem ↔
      (e.requiredColumns >>= Migration.resolve) = .error problem ∨
      (∃ columns, (e.requiredColumns >>= Migration.resolve) = .ok columns) ∧
        Model.methods e.relations.entries = .error problem) ∧
    e.problems = e.faults ∧ e.problems.Nodup := by
  have hhead : ∀ problem, e.problems.head? = some problem ↔
      (e.requiredColumns >>= Migration.resolve) = .error problem ∨
      (∃ columns, (e.requiredColumns >>= Migration.resolve) = .ok columns) ∧
        Model.methods e.relations.entries = .error problem := by
    intro problem
    rw [problems, List.head?_append, head?_columnProblems, head?_relationProblems]
    cases e.requiredColumns >>= Migration.resolve with
    | error first => simp [faultOf]
    | ok columns =>
      change (faultOf (Model.methods e.relations.entries)).head? = some problem ↔ _
      rw [head?_faultOf]
      simp
  refine ⟨⟨fun h => ⟨exists_resolved h, exists_methods h⟩, ?_⟩, exists_fillable_required, hhead,
    e.problems_eq_faults, e.nodup_problems⟩
  rintro ⟨⟨columns, hcolumns⟩, text, htext⟩
  rw [← List.head?_eq_none_iff, Option.eq_none_iff_forall_ne_some]
  intro problem hproblem
  rw [hhead, hcolumns, htext] at hproblem
  rcases hproblem with h | ⟨-, h⟩ <;> cases h

/-- An entity with a column that is managed and one that is not. -/
def soundEntity : Entity where
  name := "User"
  columns := (NameMap.empty.insert "id" { declaredType := some "id" }).insert "email" { unique := true }
  relations := NameMap.empty.insert "posts" { declaredType := some "hasMany", model := some "Post" }

/-- An entity with a faulty column between sound ones, and a relation that lacks everything. -/
def faultyEntity : Entity where
  name := "User"
  columns := ((NameMap.empty.insert "id" { declaredType := some "id" }).insert "key"
    { declaredType := some "uuid" }).insert "email" {}
  relations := (NameMap.empty.insert "posts" { model := some "" }).insert "owner"
    { declaredType := some "belongsTo", model := some "User" }

/-- Where nothing is wrong, nothing stops; and a faulty column comes before a faulty relation. -/
theorem problems_agree_mixed :
    (soundEntity.problems = [] ∧ ∃ text, (soundEntity.requiredColumns >>= Model.fillable) = .ok text) ∧
    (faultyEntity.requiredColumns >>= Migration.resolve) = .error (.columnType "key" "uuid") ∧
    faultyEntity.problems = [.columnType "key" "uuid", .relationType "posts" "", .noModel "posts"] := by
  have hsound : soundEntity.problems = [] := by decide
  refine ⟨⟨hsound, (problems_agree soundEntity).2.1 hsound⟩, ?_, ?_⟩
  · have hhead : faultyEntity.problems.head? = some (.columnType "key" "uuid") := by decide
    exact (((problems_agree faultyEntity).2.2.1 _).1 hhead).resolve_right fun h => by cases h.2
  · rw [(problems_agree faultyEntity).2.2.2.1]
    decide

end Entity

end Scaffold
