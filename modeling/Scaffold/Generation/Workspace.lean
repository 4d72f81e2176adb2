import Scaffold.Artifact
import Scaffold.Clock
import Scaffold.Layout.Basic
import Scaffold.Ledger.Store
/-!
# Generation.Workspace — what a run works on

A run changes the disk, the clock and the ledger that it holds in memory.  An error ends it, and what it has changed
until then stays changed.
-/
namespace Scaffold

open Disk (Path)

/-- What a run works on. -/
structure Workspace where
  disk : Disk
  clock : Clock
  ledger : Ledger := .empty

abbrev Generation := EStateM Error Workspace

/-- A project: its root, and where its files go. -/
structure Project where
  root : Path
  layout : Layout := {}
  deriving Repr, DecidableEq

/-- What a step works with: the directory that is scanned for migrations, the one that holds the stubs, and the device
that takes what is written. -/
structure Tools where
  scanned : Path
  stubs : Option Path := none
  device : Disk.Breaks := .never

/-- What the steps of a run over a project work with.  The device takes everything: a file that has been opened can be
written. -/
def Project.tools (p : Project) : Tools where
  scanned := p.layout.migrationsIn p.root
  stubs := p.layout.stubsIn p.root

namespace Generation

variable {α : Type}

/-- Looks something up, which changes nothing. -/
def ask (question : Workspace → Except Error α) : Generation α := fun w =>
  match question w with
  | .ok a => .ok a w
  | .error e => .error e w

/-- Changes the disk.  A fault is about writing the file at a path. -/
def onDisk (p : Path) (action : Disk.Action α) : Generation α := fun w =>
  match action w.disk with
  | .ok a disk => .ok a { w with disk }
  | .error f disk => .error (.unwritable p (.disk f)) { w with disk }

def nextStamp : Generation String := fun w =>
  match w.clock.next with
  | some (instant, clock) => .ok (Calendar.stamp instant) { w with clock }
  | none => .error .calendarEnd w

end Generation

end Scaffold
