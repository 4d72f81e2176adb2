import Scaffold.Text.Split
/-!
# Disk.Path — how paths are written, joined and taken apart

A path is a text whose parts stand between slashes.  A part that is empty or a single dot is idle: it leads nowhere.
Only at the front does it say something, for a path that begins with a slash is absolute, and one that begins with a
dot keeps it.
-/
namespace Scaffold.Disk

structure Path where
  text : String
  deriving Repr, DecidableEq, Inhabited

namespace Path

def isAbsolute (p : Path) : Bool := p.text.toList.head? == some '/'

def endsWithSlash (p : Path) : Bool := p.text.toList.getLast? == some '/'

/-- A path continued by another.  An absolute path takes the place of the first. -/
def join (p : Path) (q : Path) : Path :=
  if q.isAbsolute then q
  else if p.text.isEmpty || p.endsWithSlash then ⟨p.text ++ q.text⟩
  else ⟨p.text ++ "/" ++ q.text⟩

def parts (p : Path) : List String := Text.split '/' p.text

/-- Whether a part leads nowhere. -/
def isIdle (part : String) : Bool := part.isEmpty || part == "."

inductive Front where
  | root
  | dot
  | bare
  deriving Repr, DecidableEq

def anchored (p : Path) : Front × List String :=
  match p.parts with
  | "." :: rest => (.dot, rest)
  | parts => if p.isAbsolute then (.root, parts.drop 1) else (.bare, parts)

def ofParts (front : Front) (parts : List String) : Path :=
  let behind := "/".intercalate parts
  match front with
  | .root => ⟨"/" ++ behind⟩
  | .dot => if parts.isEmpty then ⟨"."⟩ else ⟨"./" ++ behind⟩
  | .bare => ⟨behind⟩

/-- The parts without the idle ones at their end. -/
def trimEnd (parts : List String) : List String := (parts.reverse.dropWhile isIdle).reverse

/-- The paths above the one with these parts, which are given from the last to the first. -/
def above (front : Front) : List String → List Path
  | [] => if front = .bare then [] else [ofParts front []]
  | part :: rest =>
    if isIdle part then above front rest else ofParts front (part :: rest).reverse :: above front rest

/-- The paths above a path, the nearest first.  A path with a single part has none. -/
def parents (p : Path) : List Path :=
  let (front, parts) := p.anchored
  match parts.reverse.dropWhile isIdle with
  | [] => []
  | _ :: rest => above front rest

inductive Component where
  | root
  | here
  | up
  | name (name : String)
  deriving Repr, DecidableEq

def components (p : Path) : List Component :=
  let (front, parts) := p.anchored
  let names := (parts.filter (!isIdle ·)).map fun part => if part == ".." then .up else .name part
  match front with
  | .root => .root :: names
  | .dot => .here :: names
  | .bare => names

def same (p q : Path) : Bool := p.components == q.components

/-- Drops the first parts that are not idle. -/
def dropBusy : Nat → List String → List String
  | _, [] => []
  | 0, parts => parts
  | n + 1, part :: rest => if isIdle part then dropBusy (n + 1) rest else dropBusy n rest

/-- What is left of a path below another; a path that is not below it stays whole. -/
def below (p root : Path) : Path :=
  if root.components.isPrefixOf p.components then
    let (front, parts) := p.anchored
    let dropped := root.components.length - if front = .bare then 0 else 1
    ofParts .bare (trimEnd ((dropBusy dropped parts).dropWhile isIdle))
  else p

end Path

end Scaffold.Disk
