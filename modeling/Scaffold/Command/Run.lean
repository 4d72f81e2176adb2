import Scaffold.Command.Arguments
import Scaffold.Generation.Run
import Scaffold.Layout.Reader
import Scaffold.Schema.Reader
/-!
# Command.Run — what the command prints, and what it leaves on the disk

Every error is one line of output and makes the command fail.  What was done to each artifact is printed only after a
run that went through.

The command runs on a disk that is held in memory.  The paths that have to be on it are first those of the schema and
the layout (`sources`), and once these are known, everything that they lead to.
-/
namespace Scaffold.Command

open Disk (Path)

/-- What the command leaves behind: its exit code, what it printed and reported as misuse, and the disk. -/
structure Result where
  exit : Nat
  output : List String := []
  complaint : Option String := none
  disk : Disk

def artifactLine (root : Path) (a : Artifact) : String :=
  let what := a.kind.label ++ " " ++ (a.path.below root).text
  match a.outcome with
  | .skipped => "- " ++ what ++ " (already exists)"
  | _ => "✓ " ++ what

def reportLines (root : Path) (r : Report) : List String :=
  r.artifacts.map (artifactLine root) ++
    [toString r.written.length ++ " written, " ++ toString r.skipped.length ++ " skipped",
      "YAML schema processed successfully!"]

def errorLine (e : Error) : String := "Error: " ++ e.message

/-- Looks a schema over: prints its problems, which are an error, or that there are none. -/
def check (d : Disk) (path : Path) : List String × Except Error Unit :=
  match Schema.load d path with
  | .error e => ([], .error e)
  | .ok s =>
    match s.problems with
    | [] => (["✓ " ++ path.text ++ " (" ++ toString s.size ++ " entities)"], .ok ())
    | problems => (problems.map fun p => "✗ " ++ p.message, .error (.problemsFound path problems.length))

def generate (path root : Path) (layout : Option Path) : Generation Report := do
  let s ← Generation.ask fun w => Schema.load w.disk path
  let layout ← Generation.ask fun w => Layout.discover w.disk root layout
  Generation.run { root, layout } s

def run (arguments : List String) (disk : Disk) (clock : Clock) : Result :=
  match Invocation.ofArguments arguments with
  | .error misuse => { exit := 2, complaint := some misuse.message, disk }
  | .ok .version => { exit := 0, output := ["yamavel 0.1.0"], disk }
  | .ok .help => { exit := 0, disk }
  | .ok (.check path) =>
    match check disk path with
    | (lines, .ok ()) => { exit := 0, output := lines, disk }
    | (lines, .error e) => { exit := 1, output := lines ++ [errorLine e], disk }
  | .ok (.generate path root layout) =>
    match generate path root layout { disk, clock } with
    | .ok report w => { exit := 0, output := reportLines root report, disk := w.disk }
    | .error e w => { exit := 1, output := [errorLine e], disk := w.disk }

/-! ## What a run may look at -/

/-- The paths of the schema and the layout. -/
def sources : Invocation → List Path
  | .check schema => [schema]
  | .generate schema root layout => [schema, root, layout.getD (root.join ⟨Layout.fileName⟩)]
  | _ => []

/-- The project and the schema of a run, if both can be loaded. -/
def subject (d : Disk) : Invocation → Option (Project × Schema)
  | .generate schema root layout =>
    match Schema.load d schema, Layout.discover d root layout with
    | .ok schema, .ok layout => some ({ root, layout }, schema)
    | _, _ => none
  | _ => none

def stubsOf (p : Project) : List Path :=
  match p.layout.stubsIn p.root with
  | none => []
  | some directory =>
    [ArtifactKind.createMigration, .updateMigration, .model, .resource].map fun kind => directory.join ⟨kind.stubName⟩

/-- The paths of single files to which a project and a schema lead. -/
def destinations (p : Project) (s : Schema) : List Path :=
  p.layout.ledgerIn p.root :: stubsOf p ++
    s.entities.flatMap fun e => [Generation.modelPath p e, Generation.resourcePath p e]

end Scaffold.Command
