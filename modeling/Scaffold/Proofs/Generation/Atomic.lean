import Scaffold.Proofs.Disk.Opening
import Scaffold.Proofs.Generation.Problem
/-!
# Proofs.Generation.Atomic — what a step that breaks off has changed

A step looks things up before it writes, and what it writes is one new file, which it opens first and fills after.  So
where a class cannot be opened no file changes, and neither does one where a migration cannot be settled or opened; the
ledger in memory is entered only once the migration is filled.  There are two more ways to break off.  The filling of
the new file can, and then that file alone has changed and holds what the device took.  And so can the saving of the
ledger, when the migration is there and entered in memory already (`steps_atomic`).

All of this is about steps with any tools, of which those of a project are one case.
-/
namespace Scaffold.Generation

open Disk (Path AddsDirectories OnlyNew Replaced)

variable {t : Tools} {device : Disk.Breaks} {p : Project} {ledgerPath path : Path} {e : Entity} {kind : ArtifactKind}
  {w w' w₁ : Workspace} {err : Error} {content : ByteArray} {text : Workspace → Except Error String}

/-! ## Ways to break off -/

/-- No file was created, changed or removed, and the ledger in memory is as it was. -/
structure Untouched (w w' : Workspace) : Prop where
  files : ∀ l, w'.disk.file? l = w.disk.file? l
  ledger : w'.ledger = w.ledger

/-- **The device broke off the filling of a new file.**  The file holds the part of its content that was taken; no
other file was created, changed or removed, and the ledger in memory is as it was. -/
structure Torn (device : Disk.Breaks) (path : Path) (content : ByteArray) (w w' : Workspace) : Prop where
  file : ∃ broken, device (path.location w.disk.base) content = some broken ∧
    OnlyNew (path.location w.disk.base) (content.extract 0 broken.taken) w.disk w'.disk
  ledger : w'.ledger = w.ledger

theorem Untouched.refl (w : Workspace) : Untouched w w := ⟨fun _ => rfl, rfl⟩

theorem not_torn_never : ¬ Torn .never path content w w' := by
  rintro ⟨⟨broken, hnever, -⟩, -⟩
  cases hnever

/-! ## Classes -/

theorem untouched_of_classed (h : Classed e kind path w (.error err w')) : Untouched w w' := by
  cases h with
  | stopped _ d hadds => exact ⟨hadds.file?, rfl⟩

/-- **A class that is not written changes no file, or its filling was broken off.** -/
theorem classWith_error (h : classWith device kind text e path w = .error err w') :
    Untouched w w' ∨ ∃ content, text w = .ok content ∧ Torn device path content.toUTF8 w w' := by
  cases htext : text w with
  | error err =>
    rw [classWith_of_error htext] at h
    cases h
    exact .inl (.refl w)
  | ok content =>
    rw [classWith_of_ok htext] at h
    rcases writeClassWith_cases device e kind path content w with hclass | ⟨broken, d, hdevice, hfail, hplaced⟩
    · rw [h] at hclass
      exact .inl (untouched_of_classed hclass)
    · rw [h] at hfail
      cases hfail
      exact .inr ⟨content, rfl, ⟨broken, hdevice, hplaced.onlyNew⟩, rfl⟩

/-! ## Migrations -/

/-- **A migration is written as one new file, or nothing is changed, or its filling was broken off.** -/
theorem recordWith_cases (t : Tools) (p : Project) (e : Entity) (w : Workspace) :
    (∃ artifact kind pending template w₁, recordWith t p e w = .ok artifact w₁ ∧
      settleWith t e w = .ok (kind, pending, template) ∧
      OnlyNew (artifact.path.location w.disk.base) (migrationText template e.tableName pending).toUTF8 w.disk
        w₁.disk) ∨
    ∃ err w', recordWith t p e w = .error err w' ∧
      (Untouched w w' ∨ ∃ kind pending template name, settleWith t e w = .ok (kind, pending, template) ∧
        Torn t.device ((p.layout.migrationsIn p.root).join ⟨name⟩)
          (migrationText template e.tableName pending).toUTF8 w w') := by
  unfold recordWith
  cases hs : settleWith t e w with
  | error err => exact .inr ⟨err, w, bind_of_error (ask_of_error hs), .inl (.refl w)⟩
  | ok settled =>
    obtain ⟨kind, pending, template⟩ := settled
    rw [bind_of_ok (ask_of_ok hs)]
    dsimp only
    rcases placeMigrationWith_cases t.device (p.layout.migrationsIn p.root) kind e.tableName p.layout.extension
        (migrationText template e.tableName pending) attempts w with
      ⟨name, d, c, hplace, -, hplaced⟩ | ⟨err, d, c, hplace, hadds⟩ | ⟨name, broken, d, c, hdevice, hplace, hplaced⟩
    · rw [bind_of_ok hplace]
      exact .inl ⟨_, kind, pending, template, _, rfl, rfl, hplaced.onlyNew⟩
    · exact .inr ⟨err, _, bind_of_error hplace, .inl ⟨hadds.file?, rfl⟩⟩
    · exact .inr ⟨_, _, bind_of_error hplace,
        .inr ⟨kind, pending, template, name, rfl, ⟨broken, hdevice, hplaced.onlyNew⟩, rfl⟩⟩

/-- **What a step that breaks off has changed.**  A class that is not written has changed nothing, or the device broke
off the filling of its file.  A migration that is not written and entered has changed nothing, or the device broke off
the filling of its file.  If it is the ledger that cannot be saved, the migration was written before as the only new
file; it still is all that has changed if the ledger's file could not be opened, and if that could, then the device
broke off its filling. -/
theorem steps_atomic (t : Tools) (p : Project) (ledgerPath : Path) (e : Entity) (w : Workspace) :
    (∀ err w', modelWith t p e w = .error err w' → Untouched w w' ∨
      ∃ content, renderModel t.stubs e w = .ok content ∧ Torn t.device (modelPath p e) content.toUTF8 w w') ∧
    (∀ err w', resourceWith t p e w = .error err w' → Untouched w w' ∨
      ∃ content, renderResource t.stubs e w = .ok content ∧ Torn t.device (resourcePath p e) content.toUTF8 w w') ∧
    ∀ err w', migrationWith t p ledgerPath e w = .error err w' →
      recordWith t p e w = .error err w' ∧
        (Untouched w w' ∨ ∃ kind pending template name, settleWith t e w = .ok (kind, pending, template) ∧
          Torn t.device ((p.layout.migrationsIn p.root).join ⟨name⟩)
            (migrationText template e.tableName pending).toUTF8 w w') ∨
      ∃ artifact kind pending template w₁ f, recordWith t p e w = .ok artifact w₁ ∧
        settleWith t e w = .ok (kind, pending, template) ∧
        OnlyNew (artifact.path.location w.disk.base) (migrationText template e.tableName pending).toUTF8 w.disk
          w₁.disk ∧
        w₁.ledger.saveWith t.device ledgerPath w₁.disk = .error f w'.disk ∧ err = .unwritable ledgerPath (.disk f) ∧
        (OnlyNew (artifact.path.location w.disk.base) (migrationText template e.tableName pending).toUTF8 w.disk
            w'.disk ∨
          ∃ broken, t.device (ledgerPath.location w₁.disk.base) w₁.ledger.toText.toUTF8 = some broken ∧
            Replaced ledgerPath (w₁.ledger.toText.toUTF8.extract 0 broken.taken) w₁.disk w'.disk) := by
  refine ⟨fun err w' h => classWith_error h, fun err w' h => classWith_error h, fun err w' h => ?_⟩
  unfold migrationWith at h
  rcases recordWith_cases t p e w with
    ⟨artifact, kind, pending, template, w₁, hrecord, hsettled, hnew⟩ | ⟨err', w₁, hrecord, hchanged⟩
  · rw [bind_of_ok hrecord, bind_of_ok (get_apply w₁)] at h
    rcases saveWith_cases t.device w₁.ledger ledgerPath w₁.disk with
      ⟨d, hsave, -⟩ | ⟨f, d, hsave, hadds⟩ | ⟨broken, d, hdevice, hsave, hreplaced⟩
    · rw [bind_of_ok (onDisk_of_ok hsave)] at h
      cases h
    · rw [bind_of_error (onDisk_of_error hsave)] at h
      cases h
      exact .inr ⟨artifact, kind, pending, template, w₁, f, hrecord, hsettled, hnew, hsave, rfl,
        .inl (hnew.addsDirectories hadds)⟩
    · rw [bind_of_error (onDisk_of_error hsave)] at h
      cases h
      exact .inr ⟨artifact, kind, pending, template, w₁, _, hrecord, hsettled, hnew, hsave, rfl,
        .inr ⟨broken, hdevice, hreplaced⟩⟩
  · rw [bind_of_error hrecord] at h
    cases h
    exact .inl ⟨hrecord, hchanged⟩

/-- An entity that lacks columns, so that it has no model and no migration. -/
def columnless : Entity := { name := "B" }

def oneColumn : Entity := { name := "A", table := some "t", columns := NameMap.empty.insert "x" {} }

/-- A disk on which a file stands where the small project should be. -/
def blockedWorkspace : Workspace := { freshWorkspace with disk := { nodes := [(["p"], .file "".toUTF8)] } }

theorem breakOff_small :
    goesThrough (modelWith smallProject.tools smallProject columnless freshWorkspace) = false ∧
    goesThrough (resourceWith smallProject.tools smallProject oneColumn blockedWorkspace) = false ∧
    goesThrough (recordWith smallProject.tools smallProject columnless freshWorkspace) = false ∧
    goesThrough (migrationWith smallProject.tools smallProject smallProject.ledgerPath columnless freshWorkspace) =
      false ∧
    goesThrough (recordWith unsavedProject.tools unsavedProject oneColumn freshWorkspace) = true ∧
    goesThrough (migrationWith unsavedProject.tools unsavedProject unsavedProject.ledgerPath oneColumn
      freshWorkspace) = false := by
  decide +kernel

/-- Steps that break off though the device takes everything: a model without columns, a resource whose directory is
blocked, a migration without columns, and one whose ledger cannot be saved. -/
theorem steps_atomic_small :
    (∃ err w', modelWith smallProject.tools smallProject columnless freshWorkspace = .error err w' ∧
      Untouched freshWorkspace w') ∧
    (∃ err w', resourceWith smallProject.tools smallProject oneColumn blockedWorkspace = .error err w' ∧
      Untouched blockedWorkspace w') ∧
    (∃ err w', migrationWith smallProject.tools smallProject smallProject.ledgerPath columnless freshWorkspace =
      .error err w' ∧ Untouched freshWorkspace w') ∧
    ∃ err w' path content,
      migrationWith unsavedProject.tools unsavedProject unsavedProject.ledgerPath oneColumn freshWorkspace =
        .error err w' ∧
      OnlyNew (Path.location path []) content freshWorkspace.disk w'.disk := by
  obtain ⟨hmodel, hresource, hrecord, hmigration, hplaced, hunsaved⟩ := breakOff_small
  obtain ⟨e₁, h₁⟩ := exists_of_not_goesThrough hmodel
  obtain ⟨e₂, h₂⟩ := exists_of_not_goesThrough hresource
  obtain ⟨e₃, h₃⟩ := exists_of_not_goesThrough hmigration
  obtain ⟨e₄, h₄⟩ := exists_of_not_goesThrough hunsaved
  refine ⟨⟨e₁, _, h₁, ?_⟩, ⟨e₂, _, h₂, ?_⟩, ⟨e₃, _, h₃, ?_⟩, ?_⟩
  · rcases (steps_atomic smallProject.tools smallProject ⟨""⟩ columnless freshWorkspace).1 _ _ h₁ with
      hsame | ⟨content, -, htorn⟩
    · exact hsame
    · exact absurd htorn not_torn_never
  · rcases (steps_atomic smallProject.tools smallProject ⟨""⟩ oneColumn blockedWorkspace).2.1 _ _ h₂ with
      hsame | ⟨content, -, htorn⟩
    · exact hsame
    · exact absurd htorn not_torn_never
  · rcases (steps_atomic smallProject.tools smallProject smallProject.ledgerPath columnless freshWorkspace).2.2 _ _
      h₃ with ⟨-, hsame | ⟨kind, pending, template, name, -, htorn⟩⟩ | ⟨artifact, kind, pending, template, w₁, f, hok, -⟩
    · exact hsame
    · exact absurd htorn not_torn_never
    · rw [hok] at hrecord
      cases hrecord
  · rcases (steps_atomic unsavedProject.tools unsavedProject unsavedProject.ledgerPath oneColumn
      freshWorkspace).2.2 _ _ h₄ with
      ⟨hfail, -⟩ | ⟨artifact, kind, pending, template, w₁, f, -, -, -, -, -, hnew | ⟨broken, hnever, -⟩⟩
    · rw [hfail] at hplaced
      cases hplaced
    · exact ⟨e₄, _, artifact.path, _, h₄, hnew⟩
    · cases hnever

/-- The device that has no room left. -/
def fullDevice : Disk.Breaks := fun _ _ => some ⟨0, .noSpace⟩

/-- Where there was no file before, one that is there after is the one that was torn, and it is empty. -/
theorem Torn.empty_of_full {l : Location} (h : Torn fullDevice path content freshWorkspace w')
    (hl : (w'.disk.file? l).isSome = true) : w'.disk.file? l = some .empty := by
  obtain ⟨broken, hfull, hnew⟩ := h.file
  cases hfull
  by_cases hsame : l = path.location freshWorkspace.disk.base
  · rw [hsame, hnew.there]
    simp
  · rw [hnew.elsewhere l hsame, file?_fresh] at hl
    cases hl

theorem Untouched.not_isSome {l : Location} (h : Untouched freshWorkspace w') : (w'.disk.file? l).isSome = false := by
  rw [h.files, file?_fresh]
  rfl

theorem torn_small :
    goesThrough (modelWith { smallProject.tools with device := fullDevice } smallProject oneColumn freshWorkspace) =
      false ∧
    ((endState (modelWith { smallProject.tools with device := fullDevice } smallProject oneColumn
      freshWorkspace)).disk.file? ["p", "c", "A.php"]).isSome = true ∧
    goesThrough (recordWith { smallProject.tools with device := fullDevice } smallProject oneColumn freshWorkspace) =
      false ∧
    ((endState (recordWith { smallProject.tools with device := fullDevice } smallProject oneColumn
      freshWorkspace)).disk.file? ["p", "m", "0000_01_01_000000_create_t_table.php"]).isSome = true := by
  decide +kernel

/-- **On a device without room an empty file is left behind**, of a model as well as of a migration, though nothing was
there before. -/
theorem steps_tear :
    (∃ err w', modelWith { smallProject.tools with device := fullDevice } smallProject oneColumn freshWorkspace =
      .error err w' ∧ ¬ Untouched freshWorkspace w' ∧ w'.disk.file? ["p", "c", "A.php"] = some .empty) ∧
    ∃ err w', recordWith { smallProject.tools with device := fullDevice } smallProject oneColumn freshWorkspace =
      .error err w' ∧ ¬ Untouched freshWorkspace w' ∧
      w'.disk.file? ["p", "m", "0000_01_01_000000_create_t_table.php"] = some .empty := by
  obtain ⟨hmodel, hclass, hrecord, hmigration⟩ := torn_small
  obtain ⟨e₁, h₁⟩ := exists_of_not_goesThrough hmodel
  obtain ⟨e₂, h₂⟩ := exists_of_not_goesThrough hrecord
  have hclass' := fun hsame => Bool.eq_false_iff.1 (Untouched.not_isSome hsame) hclass
  have hmigration' := fun hsame => Bool.eq_false_iff.1 (Untouched.not_isSome hsame) hmigration
  refine ⟨⟨e₁, _, h₁, hclass', ?_⟩, ⟨e₂, _, h₂, hmigration', ?_⟩⟩
  · rcases classWith_error h₁ with hsame | ⟨content, -, htorn⟩
    · exact absurd hsame hclass'
    · exact htorn.empty_of_full hclass
  · rcases recordWith_cases { smallProject.tools with device := fullDevice } smallProject oneColumn freshWorkspace with
      ⟨artifact, kind, pending, template, w₁, hok, -⟩ | ⟨err, w', hfail, hsame | ⟨kind, pending, template, name, -, htorn⟩⟩
    · rw [hok] at hrecord
      cases hrecord
    · rw [hfail] at hmigration'
      exact absurd hsame hmigration'
    · rw [hfail] at hmigration ⊢
      exact htorn.empty_of_full hmigration

end Scaffold.Generation
