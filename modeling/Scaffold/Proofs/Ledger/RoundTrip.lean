import Scaffold.Ledger.Store
import Scaffold.Proofs.Disk.Writing
import Scaffold.Proofs.Json.Members
/-!
# Proofs.Ledger.RoundTrip — a ledger that was written is read back

The tables of a ledger are sorted, so putting their records in one after the other gives them back in their order.
From there on, a ledger that was saved is loaded as it was (`load_of_look`), whatever is in its texts (`load_of_save`).
-/
namespace Scaffold

open Json

theorem fromUTF8?_toUTF8 (text : String) : String.fromUTF8? text.toUTF8 = some text := by
  unfold String.fromUTF8?
  exact dif_pos text.isValidUTF8

theorem putRecord_of_lt {table : String} {record : TableRecord} {tables : List (String × TableRecord)}
    (h : ∀ other ∈ tables.map (·.1), other < table) : putRecord table record tables = tables ++ [(table, record)] := by
  induction tables with
  | nil => rfl
  | cons entry rest ih =>
    have hlt : entry.1 < table := h entry.1 List.mem_cons_self
    rw [putRecord, if_neg (fun hgt => String.lt_irrefl _ (String.lt_trans hlt hgt)), if_pos hlt,
      ih (fun other hm => h other (List.mem_cons_of_mem _ hm))]
    rfl

/-- **Sorted tables are put back in their order.** -/
theorem foldl_putRecord (front : List (String × TableRecord)) {tables : List (String × TableRecord)}
    (h : ((front ++ tables).map (·.1)).Pairwise (· < ·)) :
    tables.foldl (fun acc entry => putRecord entry.1 entry.2 acc) front = front ++ tables := by
  induction tables generalizing front with
  | nil => simp
  | cons entry rest ih =>
    rw [List.foldl_cons, putRecord_of_lt, ih]
    · simp
    · simpa using h
    · intro other hm
      rw [List.map_append, List.pairwise_append] at h
      exact h.2.2 other hm entry.1 (by simp)

namespace Ledger

theorem reads_table (depth : Nat) (r : TableRecord) : Reads readTable (recordAt depth r) r := by
  have htexts : ∀ texts, Reads (readArray readText) (textsAt (depth + 1) texts) texts := reads_texts (depth + 1)
  unfold readTable recordAt
  refine reads_record _ ["migrations", "columns"] (some r.columns, some r.migrations)
    (.cons (t := (["columns"], some r.columns, none)) (fun rest hrest => ?_)
      (.cons (fun rest hrest => ?_) (.nil _))) ?_ depth
  · refine recordEntry_known rfl rfl ?_
    show (readArray readText >>= _) _ = _
    rw [bind_of_ok (htexts r.columns [' '] rest (by simp [isBlank]) hrest)]
    rfl
  · refine recordEntry_known rfl rfl ?_
    show (readArray readText >>= _) _ = _
    rw [bind_of_ok (htexts r.migrations [' '] rest (by simp [isBlank]) hrest)]
    rfl
  · exact fun rest => rfl

def putNext (ledger : Ledger) (table : String) : Reader Ledger := do
  readColon
  return ledger.put table (← readTable)

theorem entriesRead_tables (depth : Nat) (l : Ledger) (tables : List (String × TableRecord)) :
    EntriesRead putNext l (tables.map fun entry => (entry.1, recordAt depth entry.2))
      (tables.foldl (fun l entry => l.put entry.1 entry.2) l) := by
  induction tables generalizing l with
  | nil => exact .nil l
  | cons entry rest ih =>
    refine .cons (fun rest hrest => ?_) (ih (l.put entry.1 entry.2))
    unfold putNext
    rw [bind_of_ok (readColon_next _), bind_of_ok (reads_table depth entry.2 [' '] rest (by simp [isBlank]) hrest)]
    rfl

theorem ext {l l' : Ledger} (hversion : l.version = l'.version) (htables : l.tables = l'.tables) : l = l' := by
  cases l
  cases l'
  cases hversion
  cases htables
  rfl

theorem foldl_put (tables : List (String × TableRecord)) (l : Ledger) :
    (tables.foldl (fun l entry => l.put entry.1 entry.2) l).tables =
        tables.foldl (fun acc entry => putRecord entry.1 entry.2 acc) l.tables ∧
      (tables.foldl (fun l entry => l.put entry.1 entry.2) l).version = l.version := by
  induction tables generalizing l with
  | nil => exact ⟨rfl, rfl⟩
  | cons entry rest ih => exact ih (l.put entry.1 entry.2)

theorem reads_tables (depth : Nat) (l : Ledger) :
    Reads readTables (tablesAt depth l.tables) { l with version := 1 } := by
  have hput : l.tables.foldl (fun l entry => l.put entry.1 entry.2) empty = { l with version := 1 } := by
    obtain ⟨htables, hversion⟩ := foldl_put l.tables empty
    refine ext hversion ?_
    rw [htables]
    exact foldl_putRecord [] l.sorted
  rw [← hput]
  exact reads_object (entriesRead_tables (depth + 1) empty l.tables) depth

/-- **A ledger is read back from its text.** -/
theorem ofText_toText (l : Ledger) : ofText l.toText = .ok l := by
  have hread : Reads readLedger
      (object 0 [("version", number l.version.toNat), ("tables", tablesAt 1 l.tables)]) l := by
    unfold readLedger
    refine reads_record _ ["tables", "version"] (some l.version, { l with version := 1 })
      (.cons (t := (["version"], some l.version, empty)) (fun rest hrest => ?_)
        (.cons (fun rest hrest => ?_) (.nil _))) ?_ 0
    · refine recordEntry_known rfl rfl ?_
      show (readWord32 >>= _) _ = _
      rw [bind_of_ok (reads_number l.version [' '] rest (by simp [isBlank]) hrest)]
      rfl
    · refine recordEntry_known rfl rfl ?_
      show (readTables >>= _) _ = _
      rw [bind_of_ok (reads_tables 1 l [' '] rest (by simp [isBlank]) hrest)]
      rfl
    · exact fun rest => rfl
  have hwhole := hread [] ['\n'] (fun _ h => by cases h) ⟨'\n', [], rfl, .inr rfl⟩
  rw [List.nil_append] at hwhole
  unfold ofText readWhole toText
  dsimp only
  rw [String.toList_ofList]
  unfold chars
  rw [bind_of_ok hwhole]
  rfl

/-! ## Loading -/

theorem load_of_look {d : Disk} {p : Disk.Path} {l : Ledger} (h : d.look p = .ok (.file l.toText.toUTF8)) :
    load d p = .ok l := by
  unfold load
  rw [Disk.readText_ok.2 ⟨_, h, fromUTF8?_toUTF8 _⟩]
  dsimp only
  rw [ofText_toText]
  rfl

theorem load_of_missing {d : Disk} {p : Disk.Path} {here : Location} {name : String} {slash : Bool}
    (hfollow : d.follow p = .ok (.entry here name slash)) (hlook : d.lookIn here name = .ok none) :
    load d p = .ok empty := by
  have hlook : d.look p = .error .notFound := by
    unfold Disk.look
    rw [hfollow]
    show (d.lookIn here name >>= _) = _
    rw [hlook]
    rfl
  have hread : d.readText p = .error .notFound := by
    unfold Disk.readText Disk.read
    rw [hlook]
    rfl
  unfold load
  rw [hread]

theorem load_of_no_file {d : Disk} {p : Disk.Path} {l : Ledger} (h : load d p = .ok l)
    (hno : d.file? (p.location d.base) = none) : l = empty := by
  unfold load at h
  split at h
  · cases h
    rfl
  · cases h
  · rename_i text htext
    obtain ⟨content, hlook, -⟩ := Disk.readText_ok.1 htext
    rw [Disk.file?_eq_some.2 (Disk.at?_of_look_file hlook)] at hno
    cases hno

/-- **A ledger that could be saved is loaded as it was**: with its version, and with the same tables in the same
order, each with the same columns and migrations, whatever is in their texts and however often. -/
theorem load_of_save {l : Ledger} {p : Disk.Path} {d d' : Disk} (h : l.save p d = .ok () d') : load d' p = .ok l := by
  change (Disk.provideParents p >>= fun _ => Disk.write p l.toText.toUTF8) d = _ at h
  rcases Disk.provideParents_write_cases p l.toText.toUTF8 d with ⟨d₁, hw, hreplaced⟩ | ⟨f, d₁, hw, -⟩
  · rw [hw] at h
    cases h
    exact load_of_look hreplaced.look
  · rw [hw] at h
    cases h

/-- A ledger of the last version, with a table that has no name, one that has no columns, and names that JSON has to
escape. -/
def oddLedger : Ledger where
  version := 4294967295
  tables := [("", { columns := ["", "a", "a"], migrations := ["\x00", "\x1f\x7f", "\"\\/"] }),
    ("\"t\"\\\n", { columns := [], migrations := ["\u2028", "😀é", "😀é"] }), ("t", {})]
  sorted := by decide

theorem odd_goesThrough : goesThrough (oddLedger.save ⟨"p/l"⟩ {}) = true := by decide +kernel

/-- Saving the odd ledger on an empty disk, and loading it. -/
theorem load_of_save_odd : ∃ d, oddLedger.save ⟨"p/l"⟩ {} = .ok () d ∧ load d ⟨"p/l"⟩ = .ok oddLedger := by
  obtain ⟨u, h⟩ := exists_of_goesThrough odd_goesThrough
  exact ⟨_, h, load_of_save h⟩

/-- A ledger that is there can only be lost by writing to its file. -/
theorem look_of_grows {d d' : Disk} {p : Disk.Path} {l : Ledger} {spared : Location}
    (h : d.look p = .ok (.file l.toText.toUTF8)) (hg : Disk.Grows spared d d') (hne : p.location d.base ≠ spared) :
    d'.look p = .ok (.file l.toText.toUTF8) := by
  obtain ⟨content, hl, hsame⟩ := hg.look_file h
  rw [hsame hne] at hl
  exact hl

end Ledger

end Scaffold
