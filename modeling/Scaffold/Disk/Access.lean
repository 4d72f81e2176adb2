import Scaffold.Disk.Basic
/-!
# Disk.Access — following paths, and what stands at their ends

A path is followed part by part; every part but the last must lead to a directory.  What happens at the last part
depends on what is asked.
-/
namespace Scaffold.Disk

/-- Why a path could not be used as asked. -/
inductive Fault where
  | notFound
  | alreadyExists
  | notDirectory
  | isDirectory
  | nameTooLong
  | nulInName
  | notText
  | noSpace
  deriving Repr, DecidableEq

def Fault.message : Fault → String
  | .notFound => "No such file or directory (os error 2)"
  | .alreadyExists => "File exists (os error 17)"
  | .notDirectory => "Not a directory (os error 20)"
  | .isDirectory => "Is a directory (os error 21)"
  | .nameTooLong => "File name too long (os error 36)"
  | .nulInName => "file name contained an unexpected NUL byte"
  | .notText => "stream did not contain valid UTF-8"
  | .noSpace => "No space left on device (os error 28)"

/-- The longest name of a file, in bytes. -/
def longestName : Nat := 255

/-- The longest path, in bytes. -/
def longestPath : Nat := 4095

def lookIn (d : Disk) (here : Location) (name : String) : Except Fault (Option Node) :=
  if longestName < name.utf8ByteSize then .error .nameTooLong else .ok (d.at? (here ++ [name]))

/-- Follows a part that must lead to a directory. -/
def enter (d : Disk) (here : Location) (part : String) : Except Fault Location :=
  if part == "." then .ok here
  else if part == ".." then .ok here.dropLast
  else
    match d.lookIn here part with
    | .error f => .error f
    | .ok none => .error .notFound
    | .ok (some (.file _)) => .error .notDirectory
    | .ok (some .directory) => .ok (here ++ [part])

/-- Where a path leads: to a directory that stands for certain, or to a name in such a directory. -/
inductive Target where
  | directory (location : Location)
  | entry (here : Location) (name : String) (slash : Bool)
  deriving Repr, DecidableEq

/-- Follows a path up to its last part. -/
def follow (d : Disk) (p : Path) : Except Fault Target := do
  if p.text.toList.contains '\x00' then throw .nulInName
  if p.text.isEmpty then throw .notFound
  if longestPath < p.text.utf8ByteSize then throw .nameTooLong
  let parts := p.parts.filter (!·.isEmpty)
  let here ← parts.dropLast.foldlM d.enter (if p.isAbsolute then [] else d.base)
  match parts.getLast? with
  | none => return .directory here
  | some "." => return .directory here
  | some ".." => return .directory here.dropLast
  | some name => return .entry here name p.endsWithSlash

def look (d : Disk) (p : Path) : Except Fault Node := do
  match ← d.follow p with
  | .directory _ => return .directory
  | .entry here name slash =>
    match ← d.lookIn here name with
    | none => throw .notFound
    | some (.file content) => if slash then throw .notDirectory else return .file content
    | some .directory => return .directory

def occupied (d : Disk) (p : Path) : Bool :=
  match d.look p with
  | .ok _ => true
  | .error _ => false

def isFile (d : Disk) (p : Path) : Bool :=
  match d.look p with
  | .ok (.file _) => true
  | _ => false

def isDirectory (d : Disk) (p : Path) : Bool :=
  match d.look p with
  | .ok .directory => true
  | _ => false

def read (d : Disk) (p : Path) : Except Fault ByteArray := do
  match ← d.look p with
  | .file content => return content
  | .directory => throw .isDirectory

def readText (d : Disk) (p : Path) : Except Fault String := do
  match String.fromUTF8? (← d.read p) with
  | some text => return text
  | none => throw .notText

/-- The names of the files directly below a path, in order. -/
def fileNames (d : Disk) (p : Path) : Except Fault (List String) := do
  let here ← match ← d.follow p with
    | .directory here => pure here
    | .entry here name _ =>
      match ← d.lookIn here name with
      | none => throw .notFound
      | some (.file _) => throw .notDirectory
      | some .directory => pure (here ++ [name])
  return ((d.namesIn here).eraseDups.filter fun name => d.isFile (p.join ⟨name⟩)).mergeSort (· ≤ ·)

end Scaffold.Disk
