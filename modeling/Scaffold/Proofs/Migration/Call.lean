import Scaffold.Proofs.Migration.Scan
import Scaffold.Proofs.Migration.Text
/-!
# Proofs.Migration.Call — what a scan for a column looks for

A scan commits to the longest name of a method and to the longest gap behind the bracket.  That misses nothing, for a
bracket is no word character and a quote is not blank (`callsWith_iff`); and it tries again behind every character, so a
try that fails hides no call that begins inside it.  So a scan finds a column exactly in the texts that hold a call with
it (`definesColumn_iff_call`), and a column exists exactly if a migration of its table holds one
(`columnExists_iff_called`).
-/
namespace Scaffold

open Disk (Path IsName)

/-- **A file directly in the directory at a path**: the path leads to a directory, and with the name behind it to a file
with this content. -/
structure Disk.HoldsFile (d : Disk) (p : Path) (name : String) (content : ByteArray) : Prop where
  directory : d.look p = .ok .directory
  isName : IsName name
  file : d.look (p.join ⟨name⟩) = .ok (.file content)

namespace Migration

variable {d : Disk} {directory : Path} {column text : List Char}

/-! ## Calls -/

/-- **A call of a builder method with the column as its first argument**: the receiver `$table->`, the name of the
method, a bracket, white space or none, and the column between quotes, which need not be the same. -/
inductive IsCall (column : List Char) : List Char → Prop where
  | mk {method gap : List Char} {opening closing : Char} (named : method ≠ [])
      (word : ∀ c ∈ method, Unicode.isWord c = true) (blank : ∀ c ∈ gap, Unicode.isBlank c = true)
      (opens : opening = '\'' ∨ opening = '"') (closes : closing = '\'' ∨ closing = '"') :
      IsCall column (receiver ++ method ++ '(' :: gap ++ opening :: column ++ [closing])

/-- **The longest name and the longest gap are the only ones.** -/
theorem callsWith_iff : callsWith column text = true ↔
    ∃ method gap argument, method ≠ [] ∧ (∀ c ∈ method, Unicode.isWord c = true) ∧
      (∀ c ∈ gap, Unicode.isBlank c = true) ∧ quotesColumn column argument = true ∧
      text = method ++ '(' :: (gap ++ argument) := by
  constructor
  · intro h
    simp only [callsWith, Bool.and_eq_true] at h
    obtain ⟨hhead, hcall⟩ := h
    split at hcall
    · rename_i rest hrest
      refine ⟨text.takeWhile Unicode.isWord, rest.takeWhile Unicode.isBlank, rest.dropWhile Unicode.isBlank, ?_,
        List.all_eq_true.1 List.all_takeWhile, List.all_eq_true.1 List.all_takeWhile, hcall, ?_⟩
      · cases text with
        | nil => cases hhead
        | cons c text =>
          have hc : Unicode.isWord c = true := hhead
          simp [hc]
      · rw [List.takeWhile_append_dropWhile, ← hrest, List.takeWhile_append_dropWhile]
    · cases hcall
  · rintro ⟨method, gap, argument, hnamed, hword, hblank, hquotes, rfl⟩
    obtain ⟨opening, closing, rest, hopens, -, rfl⟩ := quotesColumn_iff.1 hquotes
    rw [callsWith_word (List.all_eq_true.2 hword) hnamed, List.dropWhile_append_of_pos hblank,
      List.dropWhile_cons_of_neg (by simp [not_isBlank_of_isQuote hopens])]
    exact hquotes

/-- **A scan finds a column exactly where a piece of the text is a call with it.** -/
theorem definesColumn_iff_call : definesColumn column text = true ↔ ∃ call, IsCall column call ∧ call <:+: text := by
  rw [definesColumn_iff]
  constructor
  · rintro ⟨before, after, rfl, hcalls⟩
    obtain ⟨method, gap, argument, hnamed, hword, hblank, hquotes, rfl⟩ := callsWith_iff.1 hcalls
    obtain ⟨opening, closing, rest, hopens, hcloses, rfl⟩ := quotesColumn_iff.1 hquotes
    exact ⟨_, .mk hnamed hword hblank (isQuote_iff.1 hopens) (isQuote_iff.1 hcloses), before, rest, by simp⟩
  · rintro ⟨-, @⟨method, gap, opening, closing, hnamed, hword, hblank, hopens, hcloses⟩, before, after, rfl⟩
    have hquotes : quotesColumn column (opening :: (column ++ closing :: after)) = true :=
      quotesColumn_iff.2 ⟨opening, closing, after, isQuote_iff.2 hopens, isQuote_iff.2 hcloses, rfl⟩
    exact ⟨before, _, by simp, callsWith_iff.2 ⟨method, gap, _, hnamed, hword, hblank, hquotes, rfl⟩⟩

theorem bears_iff_occurs {name marker : String} : bears name marker = true ↔ marker.toList <:+: name.toList := by
  unfold bears
  rw [Text.occursIn_iff]
  exact exists_congr fun before => exists_congr fun after => eq_comm

/-! ## Files -/

/-- A directory that is not there is listed as an empty one. -/
theorem namesIn_of_look (h : d.look directory = .ok .directory ∨ d.look directory = .error .notFound) :
    ∃ names, namesIn d directory = .ok names := by
  unfold namesIn
  rw [Disk.fileNames_eq]
  rcases h with h | h
  · obtain ⟨here, hhere⟩ := Disk.look_directory_iff.1 h
    rw [hhere]
    exact ⟨_, rfl⟩
  · rw [Disk.reach_of_look_notFound h]
    exact ⟨_, rfl⟩

/-- **The files listed are those that are directly in the directory.** -/
theorem lists_iff_holdsFile (hd : d.Named) {name : String} :
    d.Lists directory name ↔ ∃ content, d.HoldsFile directory name content := by
  constructor
  · intro h
    obtain ⟨here, hreach, -, hfile⟩ := Disk.lists_iff.1 h
    obtain ⟨content, hlook⟩ := Disk.isFile_iff.1 hfile
    exact ⟨content, Disk.look_directory_iff.2 ⟨here, hreach⟩, h.isName hd, hlook⟩
  · rintro ⟨content, hdirectory, hname, hfile⟩
    refine Disk.lists_of_look hname ?_ hfile
    intro hempty
    obtain ⟨here, hreach⟩ := Disk.look_directory_iff.1 hdirectory
    have hfault := (Disk.reach_ok.1 hreach).1
    simp [Path.fault?, hempty] at hfault

theorem toUTF8_of_fromUTF8? {content : ByteArray} {text : String} (h : String.fromUTF8? content = some text) :
    text.toUTF8 = content := by
  unfold String.fromUTF8? at h
  split at h
  · cases h
    rfl
  · cases h

/-- **A migration of the table holds a call with the column**: a file directly in the directory whose name contains the
marker of a migration that creates or updates the table, and in whose text a call stands somewhere. -/
def Called (d : Disk) (directory : Path) (table column : String) : Prop :=
  ∃ name text : String, d.HoldsFile directory name text.toUTF8 ∧
    ((createMarker table).toList <:+: name.toList ∨ (updateMarker table).toList <:+: name.toList) ∧
    ∃ call, IsCall column.toList call ∧ call <:+: text.toList

theorem defined_iff_called (hd : d.Named) {table column : String} :
    Defined d directory table column ↔ Called d directory table column := by
  unfold Defined Called
  simp only [bears_iff_occurs, definesColumn_iff_call, Disk.readText_ok]
  constructor
  · rintro ⟨name, hlists, hbears, text, ⟨content, hlook, htext⟩, hcall⟩
    obtain ⟨found, hdirectory, hname, hfile⟩ := (lists_iff_holdsFile hd).1 hlists
    exact ⟨name, text, ⟨hdirectory, hname, by rw [toUTF8_of_fromUTF8? htext, hlook]⟩, hbears, hcall⟩
  · rintro ⟨name, text, hholds, hbears, hcall⟩
    exact ⟨name, (lists_iff_holdsFile hd).2 ⟨_, hholds⟩, hbears, text,
      ⟨_, hholds.file, fromUTF8?_toUTF8 text⟩, hcall⟩

/-- A migration whose text begins twice to call a method with the column `a'b(.*` and then does so, behind a gap and
between two kinds of quotes. -/
def callingText : String := "$table->string ('a'b(.*'); $table->$table->\u00e9t\u00e9(\u2003'a'b(.*\")"

def callingDisk : Disk where
  nodes := [(["m"], .directory), (["m", "2024_update_t_table.php"], .file callingText.toUTF8)]

theorem named_callingDisk : callingDisk.Named := by
  refine Disk.named_of_nodes ?_
  simp only [callingDisk, List.forall_mem_cons]
  refine ⟨?_, ?_, fun _ h => by cases h⟩
  all_goals
    rintro name ⟨⟩
    exact ⟨by decide, by decide, by decide, by decide⟩

theorem content_callingDisk {name : String} {content : ByteArray}
    (h : callingDisk.HoldsFile ⟨"m"⟩ name content) : content = callingText.toUTF8 := by
  have hmem := Disk.mem_nodes (Disk.at?_of_look_file h.file) (by rw [Disk.Path.location_join h.isName]; simp)
  simp only [callingDisk, List.mem_cons, List.not_mem_nil, or_false, Prod.mk.injEq, Node.file.injEq] at hmem
  rcases hmem with ⟨-, h⟩ | ⟨-, h⟩
  · cases h
  · exact h

theorem holdsFile_callingDisk :
    callingDisk.HoldsFile ⟨"m"⟩ "2024_update_t_table.php" callingText.toUTF8 := by
  have hdirectory := Disk.isDirectory_iff.1 (by decide +kernel : callingDisk.isDirectory ⟨"m"⟩ = true)
  obtain ⟨content, hfile⟩ := Disk.isFile_iff.1
    (by decide +kernel : callingDisk.isFile ((⟨"m"⟩ : Path).join ⟨"2024_update_t_table.php"⟩) = true)
  have hholds : callingDisk.HoldsFile ⟨"m"⟩ "2024_update_t_table.php" content :=
    ⟨hdirectory, ⟨by decide, by decide, by decide, by decide⟩, hfile⟩
  exact content_callingDisk hholds ▸ hholds

end Migration

end Scaffold
