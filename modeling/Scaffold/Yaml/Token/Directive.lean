import Scaffold.Yaml.Token.Property
/-!
# Yaml.Token.Directive — the lines that begin with a percent sign

There are two: one names the version of YAML, the other gives a handle for tags.
-/
namespace Scaffold.Yaml

/-- Reads a number of a version: one to nine digits. -/
def readVersionNumber (start : Mark) (c : Cursor) : Except Fault (Nat × Cursor) :=
  let (digits, c') := c.takeWhile Char.isDigit
  if 9 < digits.length then .error ((c.skip 9).fault .longVersionNumber .versionDirective start)
  else if digits.isEmpty then .error (c'.fault .noVersionNumber .versionDirective start)
  else .ok (digits.foldl (fun n d => n * 10 + (d.toNat - '0'.toNat)) 0, c')

def readVersion (start : Mark) (c : Cursor) : Except Fault (TokenKind × Cursor) := do
  let (major, c) ← readVersionNumber start (c.skipWhile isSpaceOrTab)
  if !c.sees '.' then throw (c.fault .noVersionDot .versionDirective start)
  let (minor, c) ← readVersionNumber start c.skip
  return (.versionDirective major minor, c)

def readTagDirective (start : Mark) (c : Cursor) : Except Fault (TokenKind × Cursor) := do
  let (handle, c) ← readHandle true start (c.skipWhile isSpaceOrTab)
  if !c.seesBlank then throw (c.fault .noTagWhitespace .tagDirective start)
  let (head, c) ← readUri true true "" start (c.skipWhile isSpaceOrTab)
  if !c.seesGap then throw (c.fault .noTagBreak .tagDirective start)
  return (.tagDirective handle head, c)

/-- Reads the directive at the cursor, which stands on its percent sign, with the rest of its line. -/
def scanDirective (c : Cursor) : Except Fault (Token × Cursor) := do
  let start := c.mark
  let (name, c) := c.skip.takeWhile isNameChar
  if name.isEmpty then throw (c.fault .noDirectiveName .directive start)
  if !c.seesGap then throw (c.fault .directiveNameCharacter .directive start)
  let (kind, c) ← match String.ofList name with
    | "YAML" => readVersion start c
    | "TAG" => readTagDirective start c
    | _ => throw (c.fault .unknownDirective .directive start)
  let stop := c.mark
  let c := c.skipWhile isSpaceOrTab
  let c := if c.sees '#' then c.skipWhile (!isBreak ·) else c
  if !c.seesLineEnd then throw (c.fault .directiveEnd .directive start)
  return (⟨kind, start, stop⟩, c.skipBreak)

end Scaffold.Yaml
