import Scaffold.Disk.Access
/-!
# Disk.Output — creating directories and writing files

A file is opened first and filled after.  Opening either creates it empty, or empties the file that stands there, or
changes nothing.  What has been opened is there from then on, and filling can still break off: the file then holds only
the part of its content that was taken by then.  Which fillings break off is up to the device (`Breaks`); what is not
said to be written with such a device is written with one that takes everything.

Generated files never replace anything: the directories above one are created first, and the file only where nothing
stands.
-/
namespace Scaffold.Disk

/-- An action on a disk.  What was done before a fault stays done. -/
abbrev Action := EStateM Fault Disk

/-- Tries something that does not change the disk. -/
def ask {α : Type} (question : Disk → Except Fault α) : Action α := fun d =>
  match question d with
  | .ok a => .ok a d
  | .error f => .error f d

/-! ## Directories -/

def createDirectory (p : Path) : Action Unit := do
  match ← ask (·.follow p) with
  | .directory _ => throw .alreadyExists
  | .entry here name _ =>
    match ← ask (·.lookIn here name) with
    | some _ => throw .alreadyExists
    | none => modify fun d => d.put (here ++ [name]) .directory

/-- Creates a directory unless there is one. -/
def createIfMissing (p : Path) : Action Unit := fun d =>
  match createDirectory p d with
  | .ok _ d => .ok () d
  | .error f d => if d.isDirectory p then .ok () d else .error f d

/-- Sees to it that the first of the paths leads to a directory, where each path stands directly below the next.  The
first is tried before those above it. -/
def provide : List Path → Action Unit
  | [] => pure ()
  | p :: above => fun d =>
    match createDirectory p d with
    | .ok _ d => .ok () d
    | .error .notFound d => (do provide above; createIfMissing p) d
    | .error f d => if d.isDirectory p then .ok () d else .error f d

def provideParents (p : Path) : Action Unit := provide p.parents

/-! ## Files -/

/-- How filling a file breaks off: the bytes of its content that were taken, and the fault. -/
structure Break where
  taken : Nat
  fault : Fault

/-- A device, by the fillings that break off: which they are depends on the file and on its content. -/
abbrev Breaks := Location → ByteArray → Option Break

/-- The device that takes everything. -/
def Breaks.never : Breaks := fun _ _ => none

/-- Opens a file where nothing stands: it is created, and empty. -/
def openNew (p : Path) : Action Location := do
  match ← ask (·.follow p) with
  | .directory _ => throw .alreadyExists
  | .entry _ _ true => throw .isDirectory
  | .entry here name false =>
    match ← ask (·.lookIn here name) with
    | some _ => throw .alreadyExists
    | none =>
      modify fun d => d.put (here ++ [name]) (.file .empty)
      return here ++ [name]

/-- Opens a file anew: it is created or emptied. -/
def openAnew (p : Path) : Action Location := do
  match ← ask (·.follow p) with
  | .directory _ => throw .isDirectory
  | .entry _ _ true => throw .isDirectory
  | .entry here name false =>
    match ← ask (·.lookIn here name) with
    | some .directory => throw .isDirectory
    | _ =>
      modify fun d => d.put (here ++ [name]) (.file .empty)
      return here ++ [name]

/-- Fills a file that is open. -/
def fill (device : Breaks) (l : Location) (content : ByteArray) : Action Unit := do
  match device l content with
  | none => modify fun d => d.put l (.file content)
  | some broken =>
    modify fun d => d.put l (.file (content.extract 0 broken.taken))
    throw broken.fault

/-- Writes a file, in place of what a file at the path held before. -/
def writeWith (device : Breaks) (p : Path) (content : ByteArray) : Action Unit := do
  fill device (← openAnew p) content

def write (p : Path) (content : ByteArray) : Action Unit := writeWith .never p content

/-- What became of a generated file: it was written, it was left out because something stood there already, or its
name was found taken. -/
inductive Outcome where
  | written
  | skipped
  | collision
  deriving Repr, DecidableEq

/-- Creates a file where nothing stands; something that stands there is a collision. -/
def createOrCollideWith (device : Breaks) (p : Path) (content : ByteArray) : Action Outcome := fun d =>
  match openNew p d with
  | .ok l d => (do fill device l content; return .written : Action Outcome) d
  | .error .alreadyExists d => .ok .collision d
  | .error f d => .error f d

/-- Puts out a file whose name must be free. -/
def writeNewWith (device : Breaks) (p : Path) (content : ByteArray) : Action Outcome := do
  provideParents p
  createOrCollideWith device p content

def writeNew (p : Path) (content : ByteArray) : Action Outcome := writeNewWith .never p content

/-- Puts out a file unless something stands at its path. -/
def writeIfAbsentWith (device : Breaks) (p : Path) (content : ByteArray) : Action Outcome := do
  if (← get).occupied p then return .skipped
  else
    match ← writeNewWith device p content with
    | .collision => return .skipped
    | outcome => return outcome

def writeIfAbsent (p : Path) (content : ByteArray) : Action Outcome := writeIfAbsentWith .never p content

end Scaffold.Disk
