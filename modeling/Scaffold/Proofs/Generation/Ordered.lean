import Scaffold.Proofs.Generation.Delta
import Scaffold.Proofs.Generation.Stamps
/-!
# Proofs.Generation.Ordered — the migrations of a table stay in order over runs with clocks of their own

Every run counts its instants from the time at which it starts.  From the first instant that an entity was given up to
the one that its migration took, the names of updates are taken (`Standing`); so the next run, which comes to the entity
no earlier, can only take a later instant, or the same one if the first migration creates the table, and then the update
is listed behind it (`Standing.again`).  With that it comes no earlier to the next entity either (`InLine.again`).  So
the record of every table is in the order of its names, after any number of runs (`reruns_ordered`).
-/
namespace Scaffold

open Disk (Path Grows IsName)
open Calendar (Instant Reading HasFourDigits)

namespace Project

variable {p : Project} {kind kind' : ArtifactKind} {table table' : String} {i j : Instant}

/-- **The instant of a migration can be told from its name.** -/
theorem instant_of_migrationName (hi : HasFourDigits i) (hj : HasFourDigits j)
    (h : p.migrationName kind table i = p.migrationName kind' table' j) : i = j := by
  rw [migrationName_eq, migrationName_eq] at h
  exact Calendar.stamp_append_inj hi hj h

/-- **A migration is listed before a later one**, and before an update with its own stamp if it creates the table. -/
theorem before_update (hi : HasFourDigits i) (hj : HasFourDigits j) (h : i < j ∨ i = j ∧ kind = .createMigration) :
    Text.Before (p.migrationName kind table i) (p.migrationName .updateMigration table j) := by
  rcases h with hlt | ⟨rfl, rfl⟩
  · rw [migrationName_eq, migrationName_eq]
    exact Calendar.stamp_append_before hi hj hlt _ _
  · refine Text.before_of_lt ?_
    unfold migrationName
    rw [Migration.toList_fileName, Migration.toList_fileName]
    refine List.append_left_lt (List.cons_lt_cons_iff.2 (.inr ⟨rfl, ?_⟩))
    show (Migration.createMarker table).toList ++ _ < (Migration.updateMarker table).toList ++ _
    rw [Migration.toList_createMarker, Migration.toList_updateMarker]
    exact List.cons_lt_cons_iff.2 (.inl (by decide))

end Project

namespace Generation

variable {p : Project} {e : Entity} {es : List Entity} {w w' : Workspace} {d d' : Disk} {l l' : Ledger}
  {n : Nat} {start last : Instant} {reading : Reading} {artifacts : List Artifact} {table : String}

/-! ## One entity -/

/-- **Where the migrations of a table stand**: its record has `n` of them in order and ends with one that is there and
has the stamp of `last`, and up to that one no instant from `start` on was free for an update. -/
structure Standing (p : Project) (d : Disk) (l : Ledger) (e : Entity) (n : Nat) (start last : Instant) : Prop where
  le : start ≤ last
  digits : HasFourDigits last
  record : ∃ r older kind, l.table? e.tableName = some r ∧ r.migrations.length = n ∧
    r.migrations.Pairwise Text.Before ∧ kind.isMigration = true ∧
    r.migrations = older ++ [p.migrationName kind e.tableName last] ∧
    d.Lists p.directory (p.migrationName kind e.tableName last)
  taken : ∀ i, start ≤ i → i < last →
    d.occupied (p.directory.join ⟨p.migrationName .updateMigration e.tableName i⟩) = true

theorem Standing.grows {spared : Location} (h : Standing p d l e n start last) (hgrows : Grows spared d d')
    (hrecord : l'.table? e.tableName = l.table? e.tableName) : Standing p d' l' e n start last := by
  obtain ⟨r, older, kind, hr, hlength, hordered, hkind, hlast, hlists⟩ := h.record
  exact ⟨h.le, h.digits, ⟨r, older, kind, hrecord.trans hr, hlength, hordered, hkind, hlast, hlists.grows hgrows⟩,
    fun i hlow hhigh => hgrows.occupied (h.taken i hlow hhigh)⟩

/-- **What an entity that goes through has done**, with a clock that stands still: its migration is recorded under the
name of the instant `last`, which was free, and is listed; where an instant was skipped before, the name is taken; and
the clock goes on behind it. -/
structure Stepped (p : Project) (reading : Reading) (e : Entity) (w w' : Workspace) (kind : ArtifactKind)
    (last : Instant) : Prop where
  stands : w'.clock.StandsAt reading
  le : w.clock.upcoming ≤ last
  upcoming : w'.clock.upcoming = last + 1
  skipped : ∀ i, w.clock.upcoming ≤ i → i < last →
    w'.disk.occupied (p.directory.join ⟨p.migrationName kind e.tableName i⟩) = true
  isMigration : kind.isMigration = true
  known : (∃ r, w.ledger.Live w.disk p.directory e.tableName r) → kind = .updateMigration
  free : w.disk.occupied (p.directory.join ⟨p.migrationName kind e.tableName last⟩) = false
  lists : w'.disk.Lists p.directory (p.migrationName kind e.tableName last)
  record : ∃ columns, w'.ledger.table? e.tableName =
    some ((past kind e.tableName w.ledger).extend (p.migrationName kind e.tableName last) columns)
  others : ∀ table, table ≠ e.tableName → w'.ledger.table? table = w.ledger.table? table
  grows : Grows (p.ledgerLocation w.disk.base) w.disk w'.disk
  files : ∀ place, w'.disk.file? place ≠ none → w.disk.file? place ≠ none ∨
    (p.directory.join ⟨p.migrationName kind e.tableName last⟩).location w.disk.base = place ∨
    place = p.ledgerLocation w.disk.base ∨ place = (modelPath p e).location w.disk.base ∨
    place = (resourcePath p e).location w.disk.base

theorem Stepped.lt_upcoming {kind : ArtifactKind} (hs : Stepped p reading e w w' kind last) :
    last < w'.clock.upcoming := by
  rw [hs.upcoming]
  exact Int.lt_succ last

theorem Stepped.upcoming_le {kind : ArtifactKind} (hs : Stepped p reading e w w' kind last) :
    w.clock.upcoming ≤ w'.clock.upcoming := Int.le_trans hs.le (Int.le_of_lt hs.lt_upcoming)

theorem stepped_of_entity (hc : w.clock.StandsAt reading) (hextension : '/' ∉ p.layout.extension.toList)
    (hdirectory : p.directory.text ≠ "") (htable : '/' ∉ e.tableName.toList)
    (h : entity p p.ledgerPath e w = .ok artifacts w') : ∃ kind last, Stepped p reading e w w' kind last := by
  obtain ⟨x, hlog, -, -⟩ := entityLog_of_ok h
  have hlogged : Logged p p.ledgerPath e w [x] w' := by
    have := logged p p.ledgerPath e w
    rwa [hlog, h] at this
  have hstamped : Stamped p w [x] w' := by
    have := stamped p p.ledgerPath e w
    rwa [hlog, h] at this
  have hgrows := hlogged.grows
  have hfiles : ∀ place, w'.disk.file? place ≠ none → w.disk.file? place ≠ none ∨
      (p.directory.join ⟨x.name⟩).location w.disk.base = place ∨ place = p.ledgerLocation w.disk.base ∨
      place = (modelPath p e).location w.disk.base ∨ place = (resourcePath p e).location w.disk.base := by
    intro place hplace
    refine (hlogged.file_cases hplace).imp_right (Or.imp_left ?_)
    rintro ⟨y, hy, hloc⟩
    rw [List.mem_singleton.1 hy] at hloc
    exact hloc
  -- With one migration in the log, only one way to be logged and to be stamped is left.
  cases hlogged with
  | @one kind pending template name w₁ _ hrec hfollows =>
    cases hstamped with
    | @one _ skipped last _ hinstants hname hskipped =>
      change name = p.migrationName kind e.tableName last at hname
      subst hname
      obtain ⟨hstands, hle, hupcoming, hskips⟩ := hinstants.skips hc
      refine ⟨kind, last, hstands, hle, hupcoming, fun i hlow hhigh => hskipped i ((hskips i).2 ⟨hlow, hhigh⟩),
        hrec.isMigration, ?_, hrec.placed.not_occupied,
        (hrec.lists hextension htable hdirectory).grows hfollows.grows, ⟨pending.map (·.name), ?_⟩,
        fun table hne => ?_, hgrows, hfiles⟩
      · rintro ⟨r, hlive⟩
        exact hrec.updates hlive
      · rw [hfollows.ledger, hrec.ledger]
        exact table?_recordMigration_self _ _ _ _ _
      · rw [hfollows.ledger, hrec.ledger]
        exact table?_recordMigration_of_ne hne _ _ _ _

/-- **An update finds no name up to that of the last migration**: where an update could have been, the names are taken,
and that of the last migration is taken unless it creates the table. -/
theorem Stepped.later {kind : ArtifactKind} {next : Instant} (hs : Stepped p reading e w w' .updateMigration next)
    (hstart : start ≤ w.clock.upcoming) (hkind : kind.isMigration = true)
    (htaken : ∀ i, start ≤ i → i < last →
      w.disk.occupied (p.directory.join ⟨p.migrationName .updateMigration e.tableName i⟩) = true)
    (hlists : w.disk.Lists p.directory (p.migrationName kind e.tableName last)) :
    last < next ∨ last = next ∧ kind = .createMigration := by
  have hfree := hs.free
  rcases Int.lt_trichotomy next last with hlt | rfl | hgt
  · rw [htaken next (Int.le_trans hstart hs.le) hlt] at hfree
    cases hfree
  · refine .inr ⟨rfl, ?_⟩
    cases kind with
    | createMigration => rfl
    | updateMigration =>
      obtain ⟨content, hlook⟩ := Disk.isFile_iff.1 hlists.isFile
      rw [Disk.occupied_iff.2 ⟨_, hlook⟩] at hfree
      cases hfree
    | model => cases hkind
    | resource => cases hkind
  · exact .inl hgt

/-- **The next update of a table comes after its last migration**, if the run comes to the table no earlier than it came
before. -/
theorem Standing.again {kind : ArtifactKind} {next : Instant} (h : Standing p w.disk w.ledger e n start last)
    (hs : Stepped p reading e w w' kind next) (hstart : start ≤ w.clock.upcoming) (hdigits : HasFourDigits next) :
    Standing p w'.disk w'.ledger e (n + 1) w.clock.upcoming next ∧ last ≤ next := by
  obtain ⟨r, older, kind', hr, hlength, hordered, hkind', hlast, hlists⟩ := h.record
  have hmem : p.migrationName kind' e.tableName last ∈ r.migrations := by
    rw [hlast]
    exact List.mem_append_right older (List.mem_singleton_self _)
  obtain rfl := hs.known ⟨r, hr, _, hmem, hlists⟩
  have hlater := hs.later hstart hkind' h.taken hlists
  have hle : last ≤ next := by
    rcases hlater with hlt | ⟨rfl, -⟩
    · exact Int.le_of_lt hlt
    · exact Int.le_refl _
  have hbefore : Text.Before (p.migrationName kind' e.tableName last)
      (p.migrationName .updateMigration e.tableName next) := Project.before_update h.digits hdigits hlater
  obtain ⟨columns, hrecord⟩ := hs.record
  rw [past_update hr] at hrecord
  have hcount : (r.migrations ++ [p.migrationName .updateMigration e.tableName next]).length = n + 1 := by
    rw [List.length_append, hlength]
    rfl
  refine ⟨⟨hs.le, hdigits, ⟨_, r.migrations, .updateMigration, hrecord, hcount, ?_, rfl, rfl, hs.lists⟩, hs.skipped⟩,
    hle⟩
  refine List.pairwise_append.2 ⟨hordered, List.pairwise_singleton _ _, fun name hname other hother => ?_⟩
  rw [List.mem_singleton.1 hother]
  rw [hlast] at hname hordered
  -- The new name is behind the last one, and so behind all that are before that.
  rcases List.mem_append.1 hname with hname | hname
  · exact ((List.pairwise_append.1 hordered).2.2 name hname _ (List.mem_singleton_self _)).trans hbefore
  · rw [List.mem_singleton.1 hname]
    exact hbefore

/-! ## The first run -/

/-- The files among the migrations have the stamps of instants that are past. -/
def OnlyEarlier (p : Project) (w : Workspace) : Prop :=
  ∀ name, w.disk.file? (p.directory.location w.disk.base ++ [name]) ≠ none →
    ∃ kind table i, name = p.migrationName kind table i ∧ HasFourDigits i ∧ i < w.clock.upcoming

def NoDirectories (p : Project) (d : Disk) : Prop :=
  ∀ kind table i, d.at? (p.directory.location d.base ++ [p.migrationName kind table i]) ≠ some .directory

theorem NoDirectories.of_grows {spared : Location} (h : NoDirectories p d') (hgrows : Grows spared d d') :
    NoDirectories p d := by
  intro kind table i hdirectory
  refine h kind table i ?_
  rw [hgrows.base]
  exact hgrows.directory _ hdirectory

theorem at?_of_occupied {name : String} (hname : IsName name) (h : d.occupied (p.directory.join ⟨name⟩) = true) :
    ∃ node, d.at? (p.directory.location d.base ++ [name]) = some node := by
  obtain ⟨node, hlook⟩ := Disk.occupied_iff.1 h
  have hthere := Disk.at?_of_look_join hname hlook
  rw [Path.location_join hname] at hthere
  exact ⟨node, hthere⟩

theorem isName_migrationName (hp : p.layout = {}) (htable : '/' ∉ table.toList) (kind : ArtifactKind) (i : Instant) :
    IsName (p.migrationName kind table i) := by
  unfold Project.migrationName
  rw [hp]
  exact Migration.isName_fileName htable (by decide) kind i

section

variable {kind : ArtifactKind}

/-- **The only new file among the migrations is the one that the entity has written.** -/
theorem Stepped.name_of_file (hs : Stepped p reading e w w' kind last) (hp : p.layout = {})
    (hname : '/' ∉ e.name.toList) (htable : '/' ∉ e.tableName.toList) {name : String}
    (h : w'.disk.file? (p.directory.location w.disk.base ++ [name]) ≠ none) :
    w.disk.file? (p.directory.location w.disk.base ++ [name]) ≠ none ∨
      name = p.migrationName kind e.tableName last := by
  rcases hs.files _ h with hold | hnew | hledger | hmodel | hresource
  · exact .inl hold
  · rw [Path.location_join (isName_migrationName hp htable kind last), List.append_cancel_left_eq] at hnew
    exact .inr (List.singleton_inj.1 hnew).symm
  · exact absurd hledger ((Project.tidy_standard hp w.disk.base).apart name)
  · exact absurd hmodel (location_model hp (isName_modelFile hname) _ name)
  · exact absurd hresource (location_resource hp (isName_resourceFile hname) _ name)

theorem OnlyEarlier.stepped (h : OnlyEarlier p w) (hs : Stepped p reading e w w' kind last) (hp : p.layout = {})
    (hname : '/' ∉ e.name.toList) (htable : '/' ∉ e.tableName.toList) (hdigits : HasFourDigits last) :
    OnlyEarlier p w' := by
  intro name hfile
  rw [hs.grows.base] at hfile
  rcases hs.name_of_file hp hname htable hfile with hold | rfl
  · obtain ⟨kind', table, i, hi, hdigits', hlt⟩ := h name hold
    exact ⟨kind', table, i, hi, hdigits', Int.lt_of_lt_of_le hlt hs.upcoming_le⟩
  · exact ⟨kind, e.tableName, last, rfl, hdigits, hs.lt_upcoming⟩

/-- **The first migration of a table takes the very next instant**, and its record begins with it. -/
theorem Standing.first (hs : Stepped p reading e w w' kind last) (honly : OnlyEarlier p w) (hp : p.layout = {})
    (hname : '/' ∉ e.name.toList) (htable : '/' ∉ e.tableName.toList) (hnone : w.ledger.table? e.tableName = none)
    (hdirectories : NoDirectories p w'.disk)
    (hdigits : ∀ i, w.clock.upcoming ≤ i → i < w'.clock.upcoming → HasFourDigits i) :
    Standing p w'.disk w'.ledger e 1 w.clock.upcoming last := by
  have hlast : HasFourDigits last := hdigits last hs.le hs.lt_upcoming
  have hpast : past kind e.tableName w.ledger = {} := by
    unfold past
    rw [hnone]
    exact ite_self _
  obtain ⟨columns, hrecord⟩ := hs.record
  rw [hpast] at hrecord
  refine ⟨hs.le, hlast, ⟨_, [], kind, hrecord, rfl, List.pairwise_singleton _ _, hs.isMigration, rfl, hs.lists⟩,
    fun i hlow hhigh => ?_⟩
  -- Whatever has made the run skip an instant, there was nothing of the kind.
  exfalso
  have hi : HasFourDigits i := hdigits i hlow (Int.lt_trans hhigh hs.lt_upcoming)
  obtain ⟨node, hnode⟩ := at?_of_occupied (isName_migrationName hp htable kind i) (hs.skipped i hlow hhigh)
  cases node with
  | directory => exact hdirectories kind e.tableName i hnode
  | file content =>
    have hfile : w'.disk.file? (p.directory.location w.disk.base ++ [p.migrationName kind e.tableName i]) ≠ none := by
      rw [← hs.grows.base, Disk.file?_eq_some.2 hnode]
      simp
    rcases hs.name_of_file hp hname htable hfile with hold | hnew
    · obtain ⟨kind', table, j, hj, hdigits', hlt⟩ := honly _ hold
      obtain rfl := Project.instant_of_migrationName hi hdigits' hj
      exact Int.not_lt.2 hlow hlt
    · obtain rfl := Project.instant_of_migrationName hi hlast hnew
      exact Int.lt_irrefl _ hhigh

end

/-! ## All entities -/

/-- **The tables of entities stand in line**: each where the run came to it, right behind the one before. -/
inductive InLine (p : Project) (d : Disk) (l : Ledger) (n : Nat) : Instant → List Entity → Prop where
  | nil (start : Instant) : InLine p d l n start []
  | cons {e : Entity} {rest : List Entity} {start last : Instant} : Standing p d l e n start last →
      InLine p d l n (last + 1) rest → InLine p d l n start (e :: rest)

theorem InLine.grows {spared : Location} (h : InLine p d l n start es) (hgrows : Grows spared d d')
    (hrecords : ∀ e ∈ es, l'.table? e.tableName = l.table? e.tableName) : InLine p d' l' n start es := by
  induction h with
  | nil start => exact .nil start
  | @cons e rest start last hstanding _ ih =>
    exact .cons (hstanding.grows hgrows (hrecords e List.mem_cons_self))
      (ih fun f hf => hrecords f (List.mem_cons_of_mem e hf))

theorem InLine.standing (h : InLine p d l n start es) (he : e ∈ es) :
    ∃ start last, Standing p d l e n start last := by
  induction h with
  | nil start => cases he
  | @cons f rest start last hstanding _ ih =>
    rcases List.mem_cons.1 he with rfl | he
    · exact ⟨start, last, hstanding⟩
    · exact ih he

theorem table?_of_entities (h : entities p p.ledgerPath es w = .ok artifacts w')
    (hother : ∀ f ∈ es, table ≠ f.tableName) : w'.ledger.table? table = w.ledger.table? table := by
  have hkept : (endState (entities p p.ledgerPath es w)).ledger.table? table = w.ledger.table? table := by
    refine entities_keeps (I := fun v => v.ledger.table? table = w.ledger.table? table) (fun e he v hv => ?_) w rfl
    have hlogged := logged p p.ledgerPath e v
    generalize endState (entity p p.ledgerPath e v) = v', entityLog p e v = new at hlogged ⊢
    dsimp only at hv ⊢
    cases hlogged with
    | nothing _ hledger => rw [hledger, hv]
    | one hrec hfollows =>
      rw [hfollows.ledger, hrec.ledger, table?_recordMigration_of_ne (hother e he), hv]
  rw [h] at hkept
  exact hkept

theorem clock_of_entities (hc : w.clock.StandsAt reading) (h : entities p p.ledgerPath es w = .ok artifacts w') :
    w'.clock.StandsAt reading ∧ w.clock.upcoming ≤ w'.clock.upcoming := by
  obtain ⟨instants, hinstants, -⟩ := named_of_entities p p.ledgerPath es w
  rw [h] at hinstants
  obtain ⟨hstands, hle, -⟩ := hinstants.counts hc
  exact ⟨hstands, hle⟩

section

variable (hextension : '/' ∉ p.layout.extension.toList) (hdirectory : p.directory.text ≠ "")
  (htables : ∀ e ∈ es, '/' ∉ e.tableName.toList) (hdistinct : es.Pairwise (·.tableName ≠ ·.tableName))

include hextension hdirectory htables hdistinct

/-- **A run that comes to the first entity no earlier than the run before comes to none of them earlier**, and puts
their tables in line from where it came to the first. -/
theorem InLine.again (h : InLine p w.disk w.ledger n start es) (hstart : start ≤ w.clock.upcoming)
    (hc : w.clock.StandsAt reading) (hrun : entities p p.ledgerPath es w = .ok artifacts w')
    (hdigits : ∀ i, w.clock.upcoming ≤ i → i < w'.clock.upcoming → HasFourDigits i) :
    InLine p w'.disk w'.ledger (n + 1) w.clock.upcoming es := by
  induction es generalizing w artifacts start with
  | nil => exact .nil _
  | cons e rest ih =>
    obtain ⟨hother, hdistinct⟩ := List.pairwise_cons.1 hdistinct
    obtain ⟨here, w₁, after, he, ha, rfl⟩ := entities_cons_ok.1 hrun
    obtain ⟨kind, next, hs⟩ := stepped_of_entity hc hextension hdirectory (htables e List.mem_cons_self) he
    obtain ⟨-, hlater⟩ := clock_of_entities hs.stands ha
    have hafter := grows_of_chain (chain_of_entities ha)
    have hnext : HasFourDigits next := hdigits next hs.le (Int.lt_of_lt_of_le hs.lt_upcoming hlater)
    cases h with
    | @cons _ _ _ last hstanding hrest =>
      obtain ⟨hnow, hle⟩ := hstanding.again hs hstart hnext
      have hrest₁ : InLine p w₁.disk w₁.ledger n (last + 1) rest :=
        hrest.grows hs.grows fun f hf => hs.others f.tableName (Ne.symm (hother f hf))
      -- This entity took no earlier instant than in the run before, so the run comes to the next one no earlier.
      have hstart₁ : last + 1 ≤ w₁.clock.upcoming := by
        rw [hs.upcoming]
        exact Int.add_le_add_right hle 1
      have hrest' := ih (fun f hf => htables f (List.mem_cons_of_mem e hf)) hdistinct hrest₁ hstart₁ hs.stands ha
        fun i hlow hhigh => hdigits i (Int.le_trans hs.upcoming_le hlow) hhigh
      rw [hs.upcoming] at hrest'
      exact .cons (hnow.grows hafter (table?_of_entities ha hother)) hrest'

/-- **The first run puts the tables in line**, if no directory has the name of a migration. -/
theorem InLine.first (hp : p.layout = {}) (hnames : ∀ e ∈ es, '/' ∉ e.name.toList) (honly : OnlyEarlier p w)
    (hnone : ∀ e ∈ es, w.ledger.table? e.tableName = none) (hc : w.clock.StandsAt reading)
    (hrun : entities p p.ledgerPath es w = .ok artifacts w') (hdirectories : NoDirectories p w'.disk)
    (hdigits : ∀ i, w.clock.upcoming ≤ i → i < w'.clock.upcoming → HasFourDigits i) :
    InLine p w'.disk w'.ledger 1 w.clock.upcoming es := by
  induction es generalizing w artifacts with
  | nil => exact .nil _
  | cons e rest ih =>
    obtain ⟨hother, hdistinct⟩ := List.pairwise_cons.1 hdistinct
    obtain ⟨here, w₁, after, he, ha, rfl⟩ := entities_cons_ok.1 hrun
    have hname := hnames e List.mem_cons_self
    have htable := htables e List.mem_cons_self
    obtain ⟨kind, last, hs⟩ := stepped_of_entity hc hextension hdirectory htable he
    obtain ⟨-, hlater⟩ := clock_of_entities hs.stands ha
    have hafter := grows_of_chain (chain_of_entities ha)
    have hnow : Standing p w₁.disk w₁.ledger e 1 w.clock.upcoming last :=
      .first hs honly hp hname htable (hnone e List.mem_cons_self) (hdirectories.of_grows hafter)
        (fun i hlow hhigh => hdigits i hlow (Int.lt_of_lt_of_le hhigh hlater))
    have hnone₁ : ∀ f ∈ rest, w₁.ledger.table? f.tableName = none := fun f hf => by
      rw [hs.others f.tableName (Ne.symm (hother f hf)), hnone f (List.mem_cons_of_mem e hf)]
    have hrest' := ih (fun f hf => htables f (List.mem_cons_of_mem e hf)) hdistinct
      (fun f hf => hnames f (List.mem_cons_of_mem e hf)) (honly.stepped hs hp hname htable hnow.digits) hnone₁
      hs.stands ha fun i hlow hhigh => hdigits i (Int.le_trans hs.upcoming_le hlow) hhigh
    rw [hs.upcoming] at hrest'
    exact .cons (hnow.grows hafter (table?_of_entities ha hother)) hrest'

end

/-! ## Runs with clocks of their own -/

/-- **Runs over one schema, each with a new clock that stands still**: the disk before the first, the readings of their
clocks, and the disk after the last.  All of them go through and hand out no instant in a year without four digits. -/
inductive Reruns (p : Project) (s : Schema) (d₀ : Disk) : List Reading → Disk → Prop where
  | start : Reruns p s d₀ [] d₀
  | again {readings : List Reading} {d : Disk} {reading : Reading} {report : Report} {w : Workspace}
      {instants : List Instant} : Reruns p s d₀ readings d →
      run p s { disk := d, clock := .fixed reading } = .ok report w →
      (Clock.fixed reading).HandsOut instants w.clock → (∀ i ∈ instants, HasFourDigits i) →
      Reruns p s d₀ (readings ++ [reading]) w.disk

/-- **What `n` runs leave to the next**: a ledger that loads, in which the tables of the entities stand in line and no
other table has a record. -/
structure Ordered (p : Project) (s : Schema) (d : Disk) (l : Ledger) (n : Nat) (start : Instant) : Prop where
  load : Ledger.load d p.ledgerPath = .ok l
  inLine : InLine p d l n start s.entities
  others : ∀ table, (∀ e ∈ s.entities, table ≠ e.tableName) → l.table? table = none

theorem Ordered.record {s : Schema} (h : Ordered p s d l n start) (he : e ∈ s.entities) :
    ∃ r, l.table? e.tableName = some r ∧ r.migrations.length = n ∧ r.migrations.Pairwise Text.Before := by
  obtain ⟨_, _, hstanding⟩ := h.inLine.standing he
  obtain ⟨r, -, -, hr, hlength, hordered, -⟩ := hstanding.record
  exact ⟨r, hr, hlength, hordered⟩

theorem Ordered.pairwise {s : Schema} (h : Ordered p s d l n start) {r : TableRecord} (hr : l.table? table = some r) :
    r.migrations.Pairwise Text.Before := by
  by_cases hentity : ∃ e ∈ s.entities, table = e.tableName
  · obtain ⟨e, he, rfl⟩ := hentity
    obtain ⟨r', hr', -, hordered⟩ := h.record he
    rw [hr] at hr'
    cases hr'
    exact hordered
  · rw [h.others table fun e he heq => hentity ⟨e, he, heq⟩] at hr
    cases hr

section

variable {s : Schema} {report : Report} {instants : List Instant} (hp : p.layout = {})
  (htables : ∀ e ∈ s.entities, '/' ∉ e.tableName.toList) (hdistinct : s.entities.Pairwise (·.tableName ≠ ·.tableName))
  (hrun : run p s { disk := d, clock := .fixed reading } = .ok report w)
  (hinstants : (Clock.fixed reading).HandsOut instants w.clock) (hyears : ∀ i ∈ instants, HasFourDigits i)

include hp htables hdistinct hrun hinstants hyears

theorem Ordered.again (h : Ordered p s d l n start) (hstart : start ≤ reading.truncate) :
    Ordered p s w.disk w.ledger (n + 1) reading.truncate := by
  obtain ⟨l', hload, hentities⟩ := run_ok.1 hrun
  obtain rfl : l' = l := Except.ok.inj (hload.symm.trans h.load)
  have hcounts := (hinstants.counts (Clock.standsAt_fixed reading)).2.2
  refine ⟨load_of_entities (by exact h.load) hentities, ?_, fun table hother => ?_⟩
  · exact h.inLine.again (by rw [hp]; decide) (Project.directory_ne_empty_standard hp) htables hdistinct hstart
      (Clock.standsAt_fixed reading) hentities fun i hlow hhigh => hyears i ((hcounts i).2 ⟨hlow, hhigh⟩)
  · rw [table?_of_entities hentities hother]
    exact h.others table hother

theorem ordered_first (hnames : ∀ e ∈ s.entities, '/' ∉ e.name.toList)
    (hno : ∀ l, d.file? (p.root.location d.base ++ l) = none) (hdirectories : NoDirectories p w.disk) :
    Ordered p s w.disk w.ledger 1 reading.truncate := by
  obtain ⟨l, hload, hentities⟩ := run_ok.1 hrun
  have hledger : d.file? (p.ledgerPath.location d.base) = none := by
    rw [show p.ledgerPath.location d.base = p.ledgerLocation d.base from rfl, Project.location_ledger hp]
    exact hno _
  obtain rfl := Ledger.load_of_no_file hload hledger
  have honly : OnlyEarlier p { disk := d, clock := .fixed reading, ledger := .empty } := fun name hfile => by
    dsimp only at hfile
    rw [Project.location_directory hp, List.append_assoc] at hfile
    exact absurd (hno _) hfile
  have hcounts := (hinstants.counts (Clock.standsAt_fixed reading)).2.2
  refine ⟨load_of_entities (by exact hload) hentities, ?_, fun table hother => table?_of_entities hentities hother⟩
  exact .first (by rw [hp]; decide) (Project.directory_ne_empty_standard hp) htables hdistinct hp hnames honly
    (fun e _ => rfl) (Clock.standsAt_fixed reading) hentities hdirectories
    fun i hlow hhigh => hyears i ((hcounts i).2 ⟨hlow, hhigh⟩)

end

/-- **The migrations of every table are listed in the order in which runs have written them.**  From a project without
files, in the standard layout, run any number of times over entities with tables of their own, each time with a new
clock that stands still, but never at an earlier second than the one before.  If no directory ever has the name of a
migration, then every run has left one migration in the record of each entity's table, and the record of every table is
in the order of its names. -/
theorem reruns_ordered {s : Schema} {d₀ : Disk} {readings : List Reading} (hp : p.layout = {})
    (hno : ∀ l, d₀.file? (p.root.location d₀.base ++ l) = none)
    (hdistinct : s.entities.Pairwise (·.tableName ≠ ·.tableName)) (hnames : ∀ e ∈ s.entities, '/' ∉ e.name.toList)
    (htables : ∀ e ∈ s.entities, '/' ∉ e.tableName.toList) (h : Reruns p s d₀ readings d)
    (hreadings : readings.Pairwise (·.truncate ≤ ·.truncate)) (hdirectories : NoDirectories p d)
    (hsome : readings ≠ []) :
    ∃ l, Ledger.load d p.ledgerPath = .ok l ∧
      (∀ e ∈ s.entities, ∃ r, l.table? e.tableName = some r ∧ r.migrations.length = readings.length) ∧
      ∀ table r, l.table? table = some r → r.migrations.Pairwise Text.Before := by
  have hordered : (readings = [] ∧ d = d₀) ∨
      ∃ front last l, readings = front ++ [last] ∧ Ordered p s d l readings.length last.truncate := by
    clear hsome
    induction h with
    | start => exact .inl ⟨rfl, rfl⟩
    | @again readings d reading report w instants _ hrun hinstants hyears ih =>
      obtain ⟨hbefore, -, hlater⟩ := List.pairwise_append.1 hreadings
      obtain ⟨l, -, hentities⟩ := run_ok.1 hrun
      have hgrows := grows_of_chain (chain_of_entities hentities)
      refine .inr ⟨readings, reading, w.ledger, rfl, ?_⟩
      rcases ih hbefore (hdirectories.of_grows hgrows) with ⟨rfl, rfl⟩ | ⟨front, last, l, rfl, hleft⟩
      · exact ordered_first hp htables hdistinct hrun hinstants hyears hnames hno hdirectories
      · rw [List.length_append]
        refine hleft.again hp htables hdistinct hrun hinstants hyears ?_
        exact hlater last (List.mem_append_right front (List.mem_singleton_self last)) reading
          (List.mem_singleton_self reading)
  rcases hordered with ⟨hnone, -⟩ | ⟨front, last, l, -, hleft⟩
  · exact absurd hnone hsome
  · refine ⟨l, hleft.load, fun e he => ?_, fun table r hr => hleft.pairwise hr⟩
    obtain ⟨r, hr, hlength, -⟩ := hleft.record he
    exact ⟨r, hr, hlength⟩

/-! ## Two runs in the same second -/

/-- The second of two runs with the same clock, which takes the ledger of the first as it was in memory. -/
def secondRun (p : Project) (s : Schema) (w : Workspace) : EStateM.Result Error Workspace (List Artifact) :=
  entities p p.ledgerPath s.entities { endState (run p s w) with clock := w.clock }

theorem reruns_twice {s : Schema} {latest : Instant} (hw : w = { disk := d, clock := .fixed reading })
    (hentities : s.entities ≠ []) (h₁ : goesThrough (run p s w) = true) (h₂ : goesThrough (secondRun p s w) = true)
    (hlatest₁ : (endState (run p s w)).clock.upcoming ≤ latest)
    (hlatest₂ : (endState (secondRun p s w)).clock.upcoming ≤ latest)
    (hyears : ∀ i, reading.truncate ≤ i → i < latest → HasFourDigits i) :
    Reruns p s d [reading, reading] (endState (secondRun p s w)).disk ∧
      Ledger.load (endState (secondRun p s w)).disk p.ledgerPath = .ok (endState (secondRun p s w)).ledger := by
  subst hw
  obtain ⟨report, hrun₁⟩ := exists_of_goesThrough h₁
  obtain ⟨artifacts, hrun₂⟩ := exists_of_goesThrough h₂
  generalize endState (secondRun p s { disk := d, clock := .fixed reading }) = w₂ at hlatest₂ hrun₂ ⊢
  unfold secondRun at hrun₂
  generalize endState (run p s { disk := d, clock := .fixed reading }) = w₁ at hlatest₁ hrun₁ hrun₂
  have hrun : run p s { disk := w₁.disk, clock := .fixed reading } = .ok ⟨artifacts⟩ w₂ := run_after hrun₁ hrun₂
  have hdigits : ∀ {w : Workspace} {instants : List Instant}, w.clock.upcoming ≤ latest →
      (Clock.fixed reading).HandsOut instants w.clock → ∀ i ∈ instants, HasFourDigits i := by
    intro w instants hlatest hinstants i hi
    obtain ⟨hlow, hhigh⟩ := ((hinstants.counts (Clock.standsAt_fixed reading)).2.2 i).1 hi
    exact hyears i hlow (Int.lt_of_lt_of_le hhigh hlatest)
  obtain ⟨instants₁, hinstants₁, -⟩ := named_of_run p s { disk := d, clock := .fixed reading }
  obtain ⟨instants₂, hinstants₂, -⟩ := named_of_run p s { disk := w₁.disk, clock := .fixed reading }
  rw [hrun₁] at hinstants₁
  rw [hrun] at hinstants₂
  have hfirst := Reruns.again .start hrun₁ hinstants₁ (hdigits hlatest₁ hinstants₁)
  exact ⟨hfirst.again hrun hinstants₂ (hdigits hlatest₂ hinstants₂), (saved_of_entities hrun₂ hentities).load⟩

theorem noDirectories_of_files {place : Location} (hplace : p.directory.location d.base = place)
    (h : ∀ name ∈ d.namesIn place, (d.file? (place ++ [name])).isSome = true) : NoDirectories p d := by
  intro kind table i hdirectory
  rw [hplace] at hdirectory
  have hfile := h _ (Disk.mem_namesIn.2 (by rw [hdirectory]; simp))
  unfold Disk.file? at hfile
  rw [hdirectory] at hfile
  cases hfile

theorem standard_ends :
    (endState (run standardProject smallSchema freshWorkspace)).clock.upcoming ≤ 2 ∧
    (endState (secondRun standardProject smallSchema freshWorkspace)).clock.upcoming ≤ 2 ∧
    (endState (secondRun standardProject smallSchema freshWorkspace)).disk.base = [] ∧
    (∀ name ∈ (endState (secondRun standardProject smallSchema freshWorkspace)).disk.namesIn
        ["p", "database", "migrations"],
      ((endState (secondRun standardProject smallSchema freshWorkspace)).disk.file?
        (["p", "database", "migrations"] ++ [name])).isSome = true) := by
  decide +kernel

/-- Two runs over the small schema in the same second. -/
theorem reruns_ordered_standard : ∃ d l r, Reruns standardProject smallSchema freshWorkspace.disk [⟨0, 0⟩, ⟨0, 0⟩] d ∧
    Ledger.load d standardProject.ledgerPath = .ok l ∧ l.table? "t" = some r ∧ r.migrations.length = 2 ∧
    r.migrations.Pairwise Text.Before := by
  obtain ⟨hlatest₁, hlatest₂, hbase, hfiles⟩ := standard_ends
  obtain ⟨hreruns, hload⟩ := reruns_twice (p := standardProject) (s := smallSchema) (w := freshWorkspace) rfl
    (by simp [smallSchema]) standard_goesThrough standard_goesThrough_again hlatest₁ hlatest₂
    (fun i => hasFourDigits_small i)
  generalize endState (secondRun standardProject smallSchema freshWorkspace) = w at hbase hfiles hreruns hload
  have hplace : standardProject.directory.location w.disk.base = ["p", "database", "migrations"] := by
    rw [hbase]
    decide +kernel
  obtain ⟨l, hl, hcount, hordered⟩ := reruns_ordered (p := standardProject) rfl (fun l => file?_fresh _) (by decide)
    (by decide) (by decide) hreruns (by decide) (noDirectories_of_files hplace hfiles) (by simp)
  obtain rfl : w.ledger = l := Except.ok.inj (hload.symm.trans hl)
  obtain ⟨r, hr, hlength⟩ := hcount _ List.mem_cons_self
  exact ⟨w.disk, w.ledger, r, hreruns, hload, hr, hlength, hordered "t" r hr⟩

/-! ## A directory among the migrations -/

/-- A disk without files, on which a directory has the name of a migration. -/
def crossedWorkspace : Workspace where
  disk.nodes := [["p"], ["p", "database"], ["p", "database", "migrations"],
    ["p", "database", "migrations", "0000_01_01_000000_create_t_table.php"]].map (·, .directory)
  clock := .fixed ⟨0, 0⟩

theorem file?_crossed (l : Location) : crossedWorkspace.disk.file? l = none := by
  cases hfile : crossedWorkspace.disk.file? l with
  | none => rfl
  | some content =>
    have hl := Disk.file?_eq_some.1 hfile
    unfold Disk.at? at hl
    split at hl
    · cases hl
    · obtain ⟨front, back, hnodes, -⟩ := List.lookup_eq_some_iff.1 hl
      have hmem : (l, Node.file content) ∈ crossedWorkspace.disk.nodes := by
        rw [hnodes]
        exact List.mem_append_right front List.mem_cons_self
      obtain ⟨place, -, heq⟩ := List.mem_map.1 hmem
      cases heq

theorem crossed_ends : goesThrough (run standardProject smallSchema crossedWorkspace) = true ∧
    goesThrough (secondRun standardProject smallSchema crossedWorkspace) = true ∧
    (endState (run standardProject smallSchema crossedWorkspace)).clock.upcoming ≤ 2 ∧
    (endState (secondRun standardProject smallSchema crossedWorkspace)).clock.upcoming ≤ 2 ∧
    (endState (secondRun standardProject smallSchema crossedWorkspace)).ledger.table? "t" =
      some ⟨["x"], ["0000_01_01_000001_create_t_table.php", "0000_01_01_000000_update_t_table.php"]⟩ := by
  decide +kernel

/-- **Without the condition on directories the order can be lost.**  Where a directory takes the name of the first
creation, the table is created one second later; the next run, in the same second, updates it, and the name of the
update is free and comes first. -/
theorem crossed_unordered : standardProject.layout = {} ∧ (∀ l, crossedWorkspace.disk.file? l = none) ∧
    smallSchema.entities.Pairwise (·.tableName ≠ ·.tableName) ∧
    (∀ e ∈ smallSchema.entities, '/' ∉ e.name.toList ∧ '/' ∉ e.tableName.toList) ∧
    ∃ d l r, Reruns standardProject smallSchema crossedWorkspace.disk [⟨0, 0⟩, ⟨0, 0⟩] d ∧
      Ledger.load d standardProject.ledgerPath = .ok l ∧ l.table? "t" = some r ∧
      ¬ r.migrations.Pairwise Text.Before := by
  refine ⟨rfl, file?_crossed, by decide, by decide, ?_⟩
  obtain ⟨hgoes₁, hgoes₂, hlatest₁, hlatest₂, hrecord⟩ := crossed_ends
  obtain ⟨hreruns, hload⟩ := reruns_twice (p := standardProject) (s := smallSchema) (w := crossedWorkspace) rfl
    (by simp [smallSchema]) hgoes₁ hgoes₂ hlatest₁ hlatest₂ (fun i => hasFourDigits_small i)
  generalize endState (secondRun standardProject smallSchema crossedWorkspace) = w at hrecord hreruns hload
  exact ⟨w.disk, w.ledger, _, hreruns, hload, hrecord, by decide⟩

end Generation

end Scaffold
