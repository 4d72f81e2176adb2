import Scaffold.Disk.Output
import Scaffold.Error
import Scaffold.Json.Text
import Scaffold.Json.Value
import Scaffold.Ledger.Basic
/-!
# Ledger.Store — ledgers as JSON, and on a disk

A ledger must have a version, and a record both its lists; a ledger without tables is empty.  Of two records for one
table the later counts.
-/
namespace Scaffold.Ledger

def textsAt (depth : Nat) (texts : List String) : List Char := Json.array depth (texts.map Json.quote)

def recordAt (depth : Nat) (r : TableRecord) : List Char :=
  Json.object depth [("columns", textsAt (depth + 1) r.columns), ("migrations", textsAt (depth + 1) r.migrations)]

def tablesAt (depth : Nat) (tables : List (String × TableRecord)) : List Char :=
  Json.object depth (tables.map fun (table, record) => (table, recordAt (depth + 1) record))

/-- The characters of a ledger's text, which ends with a line feed. -/
def chars (l : Ledger) : List Char :=
  Json.object 0 [("version", Json.number l.version.toNat), ("tables", tablesAt 1 l.tables)] ++ ['\n']

def toText (l : Ledger) : String := String.ofList l.chars

/-! ## Reading -/

open Json

/-- Reads the next element of a record that is given in order, where it may be missing only with a default. -/
def nextElement {α : Type} (first : Bool) (element missing : Reader α) : Reader α := do
  if ← hasElement first then element else missing

def finishTable : Option (List String) × Option (List String) → Reader TableRecord
  | (none, _) => failUnplaced (.missingField "columns")
  | (_, none) => failUnplaced (.missingField "migrations")
  | (some columns, some migrations) => return ⟨columns, migrations⟩

def readTable : Reader TableRecord :=
  let short (n : Nat) : Reader (List String) := failUnplaced (.tooShort n "struct TableRecord with 2 elements")
  let inOrder : Reader TableRecord := do
    let columns ← nextElement true (readArray readText) (short 0)
    let migrations ← nextElement false (readArray readText) (short 1)
    return ⟨columns, migrations⟩
  readRecord "struct TableRecord" inOrder ["columns", "migrations"] (none, none)
    (fun (columns, migrations) key => do
      let texts ← readArray readText
      return if key == "columns" then (some texts, migrations) else (columns, some texts))
    finishTable

def readTables : Reader Ledger :=
  readObject .empty fun ledger table => do
    readColon
    return ledger.put table (← readTable)

def readLedger : Reader Ledger :=
  let inOrder : Reader Ledger := do
    let version ← nextElement true readWord32 (failUnplaced (.tooShort 0 "struct LedgerState with 2 elements"))
    let ledger ← nextElement false readTables (pure .empty)
    return { ledger with version }
  readRecord "struct LedgerState" inOrder ["version", "tables"] ((none, .empty) : Option UInt32 × Ledger)
    (fun (version, ledger) key => do
      if key == "version" then return (some (← readWord32), ledger) else return (version, ← readTables))
    fun
      | (none, _) => failUnplaced (.missingField "version")
      | (some version, ledger) => return { ledger with version }

def ofText (text : String) : Except Fault Ledger := readWhole readLedger text

/-! ## Files -/

open Disk (Path)

/-- Loads a ledger.  Where there is no file, the ledger is empty. -/
def load (d : Disk) (p : Path) : Except Error Ledger :=
  match d.readText p with
  | .error .notFound => .ok .empty
  | .error f => .error (.unreadable p (.disk f))
  | .ok text => (ofText text).mapError fun fault => .unreadable p (.ledger fault text)

/-- Saves a ledger, and creates the directories above it. -/
def saveWith (device : Disk.Breaks) (l : Ledger) (p : Path) : Disk.Action Unit := do
  Disk.provideParents p
  Disk.writeWith device p l.toText.toUTF8

def save (l : Ledger) (p : Path) : Disk.Action Unit := saveWith .never l p

end Scaffold.Ledger
