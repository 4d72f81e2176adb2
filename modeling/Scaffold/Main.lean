import Scaffold.Command.Run
import Std.Time
/-!
# Main — the command on a real disk

What a run may look at is copied into memory, the command runs there, and what it changed is written back.  A file
that is new is only ever created, never written over.
-/
namespace Scaffold

open Disk (Path)

/-- How a real disk is read, by absolute paths. -/
structure Device where
  isDirectory : String → IO Bool
  exists_ : String → IO Bool
  names : String → IO (List String)

namespace Device

def pathOf (l : Location) : String := "/" ++ "/".intercalate l

/-- Copies what stands at a location, and tells whether it is a directory. -/
def copy (v : Device) (d : Disk) (l : Location) : IO (Disk × Bool) := do
  if ← v.isDirectory (pathOf l) then return (d.put l .directory, true)
  if ← v.exists_ (pathOf l) then return (d.put l (.file (← IO.FS.readBinFile (pathOf l))), false)
  return (d, false)

def copyAlong (v : Device) (d : Disk) (here : Location) : List String → IO Disk
  | [] => return d
  | part :: rest => do
    if Disk.Path.isIdle part then v.copyAlong d here rest
    else if part == ".." then v.copyAlong d here.dropLast rest
    else
      let (d, isDirectory) ← v.copy d (here ++ [part])
      if isDirectory then v.copyAlong d (here ++ [part]) rest else return d

def copyPath (v : Device) (d : Disk) (p : Path) : IO Disk :=
  v.copyAlong d (if p.isAbsolute then [] else d.base) p.parts

partial def copyBelow (v : Device) (d : Disk) (l : Location) : IO Disk := do
  let mut d := d
  for name in ← v.names (pathOf l) do
    let (next, isDirectory) ← v.copy d (l ++ [name])
    d := next
    if isDirectory then d ← v.copyBelow d (l ++ [name])
  return d

/-- Copies everything below a path, if it leads to a directory. -/
def copyTree (v : Device) (d : Disk) (p : Path) : IO Disk := do
  let d ← v.copyPath d p
  match d.follow p with
  | .ok (.directory here) => v.copyBelow d here
  | .ok (.entry here name _) =>
    if d.isDirectory p then v.copyBelow d (here ++ [name]) else return d
  | .error _ => return d

/-- Copies everything that the command may look at. -/
def copyFor (v : Device) (d : Disk) (i : Command.Invocation) : IO Disk := do
  let d ← (Command.sources i).foldlM v.copyPath d
  match Command.subject d i with
  | none => return d
  | some (p, s) =>
    let d ← (Command.destinations p s).foldlM v.copyPath d
    v.copyTree d (p.layout.migrationsIn p.root)

/-- Writes back what differs from a disk. -/
def writeBack (before after : Disk) : IO Unit := do
  for (l, node) in after.nodes.reverse do
    if before.at? l != some node then
      match node with
      | .directory => IO.FS.createDirAll (pathOf l)
      | .file content =>
        if (before.at? l).isSome then IO.FS.writeBinFile (pathOf l) content
        else (← IO.FS.Handle.mk (pathOf l) .writeNew).write content

end Device

/-- What the wall clock shows in the local time zone. -/
def wallReading : IO Calendar.Reading := do
  let now ← Std.Time.PlainDateTime.now
  let date : Calendar.Date := ⟨now.year.toInt, now.month.val.toNat, now.day.val.toNat⟩
  let reading := Calendar.Reading.ofCivil? date now.hour.val.toNat now.minute.val.toNat now.second.val.toNat 0
  return reading.getD ⟨0, 0⟩

end Scaffold

open Scaffold in
def main (arguments : List String) : IO UInt32 := do
  let here ← IO.currentDir
  let device : Device := {
    isDirectory := fun path => (here / path).isDir
    exists_ := fun path => (here / path).pathExists
    names := fun path => do return (← (here / path).readDir).toList.map (·.fileName) }
  let base : Disk.Path := ⟨here.toString⟩
  let start ← device.copyPath {} base
  let start := { start with base := base.parts.filter (!Disk.Path.isIdle ·) }
  let disk ← match Command.Invocation.ofArguments arguments with
    | .ok invocation => device.copyFor start invocation
    | .error _ => pure start
  let result := Command.run arguments disk (Clock.fixed (← wallReading))
  Device.writeBack disk result.disk
  for line in result.output do IO.println line
  match result.complaint with
  | some complaint => IO.eprintln complaint
  | none => pure ()
  return UInt32.ofNat result.exit
