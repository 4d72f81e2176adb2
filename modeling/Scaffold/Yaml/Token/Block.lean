import Scaffold.Yaml.Token
import Scaffold.Yaml.Cursor
/-!
# Yaml.Token.Block — scalars by indentation

A block scalar begins with a bar, which keeps its line breaks, or with a greater sign, which folds them.  The header
may say how far the lines are indented and what becomes of the breaks at the end: by default one is kept, with a minus
none, with a plus all of them.
-/
namespace Scaffold.Yaml

/-- What becomes of the line breaks at the end of a block scalar. -/
inductive Chomping where
  | strip
  | clip
  | keep
  deriving Repr, DecidableEq

/-- Reads the sign for the line breaks at the end, if one stands here. -/
def readChomping (c : Cursor) : Option Chomping × Cursor :=
  if c.sees '+' then (some .keep, c.skip)
  else if c.sees '-' then (some .strip, c.skip)
  else (none, c)

/-- Reads the digit for the indentation, if one stands here. -/
def readIncrement (start : Mark) (c : Cursor) : Except Fault (Nat × Cursor) :=
  match c.peek 0 with
  | some d =>
    if d == '0' then .error (c.fault .zeroIndentation .blockScalar start)
    else if d.isDigit then .ok (d.toNat - '0'.toNat, c.skip)
    else .ok (0, c)
  | none => .ok (0, c)

/-- Reads the header behind the first character: the two signs in either order, blanks, a comment, the line break. -/
def readHeader (start : Mark) (c : Cursor) : Except Fault (Chomping × Nat × Cursor) := do
  let (before, c) := readChomping c
  let (increment, c) ← readIncrement start c
  let (chomping, c) := match before with
    | some chomping => (chomping, c)
    | none =>
      if increment == 0 then (.clip, c)
      else
        let (after, c) := readChomping c
        (after.getD .clip, c)
  let c := c.skipWhile isSpaceOrTab
  let c := if c.sees '#' then c.skipWhile (!isBreak ·) else c
  if !c.seesLineEnd then throw (c.fault .blockScalarHeader .blockScalar start)
  return (chomping, increment, c.skipBreak)

/-- Reads indentation and empty lines up to the next line with text.  With `indent` 0 every space counts as
indentation.  The result holds the breaks, the greatest column seen, and the end of the last empty line. -/
def readEmptyLines (start : Mark) (indent : Nat) (breaks : List Char) (widest : Nat) (stop : Mark) (c : Cursor) :
    Except Fault (List Char × Nat × Mark × Cursor) :=
  let spaces := (c.rest.takeWhile (· == ' ')).length
  let margin := if indent == 0 then spaces else min spaces (indent - c.mark.column)
  let c' := c.skip margin
  if (indent == 0 || c'.mark.column < indent) && c'.sees '\t' then
    .error (c'.fault .indentationTab .blockScalar start)
  else if _break : c'.seesBreak then
    readEmptyLines start indent (breaks ++ c'.takeBreak.1) (max widest c'.mark.column) c'.skipBreak.mark c'.skipBreak
  else .ok (breaks, max widest c'.mark.column, stop, c')
termination_by c.rest.length
decreasing_by exact Nat.lt_of_lt_of_le (Cursor.length_skipBreak_lt _break) (c.length_skip_le _)

theorem length_of_readEmptyLines {start : Mark} {indent : Nat} {breaks breaks' : List Char} {widest widest' : Nat}
    {stop stop' : Mark} {c c' : Cursor}
    (h : readEmptyLines start indent breaks widest stop c = .ok (breaks', widest', stop', c')) :
    c'.rest.length ≤ c.rest.length := by
  fun_induction readEmptyLines start indent breaks widest stop c with
  | case1 => cases h
  | case2 _ _ _ c _ _ _ _ _ ih =>
    exact Nat.le_trans (ih h) (Nat.le_trans (Cursor.length_skipBreak_le _) (c.length_skip_le _))
  | case3 _ _ _ c =>
    simp only [Except.ok.injEq, Prod.mk.injEq] at h
    rw [← h.2.2.2]
    exact c.length_skip_le _

/-- What has been read of a block scalar: its text, the break behind its last line, the empty lines after it, and
whether that line begins with a blank.  The text is kept with its last character first. -/
structure BlockText where
  text : List Char
  lastBreak : List Char
  emptyLines : List Char
  indented : Bool

/-- The text with the break behind the last line and the empty lines after it, the last character first.  Folding drops
a line feed between two lines that do not begin with a blank; if no empty line follows it, a space stands for it. -/
def BlockText.joined (literal : Bool) (b : BlockText) (nextIndented : Bool) : List Char :=
  if !literal && b.lastBreak == ['\n'] && !b.indented && !nextIndented then
    b.emptyLines.reverse ++ (if b.emptyLines.isEmpty then [' '] else []) ++ b.text
  else b.emptyLines.reverse ++ b.lastBreak.reverse ++ b.text

theorem length_behindLine_lt {c : Cursor} (h : c.rest ≠ []) :
    (c.skipWhile (!isBreak ·)).skipBreak.rest.length < c.rest.length := by
  obtain ⟨rest, mark⟩ := c
  cases rest with
  | nil => exact absurd rfl h
  | cons ch rest =>
    by_cases hb : isBreak ch = true
    · refine Nat.lt_of_lt_of_le (Cursor.length_skipBreak_lt ?_) (Cursor.length_skipWhile_le _ _)
      simp [Cursor.seesBreak, Cursor.peek, Cursor.skipWhile, Cursor.skip, hb]
    · refine Nat.lt_of_le_of_lt (Cursor.length_skipBreak_le _) ?_
      exact Cursor.length_skip_lt h (by simp [hb])

/-- Reads the lines of the scalar: all that stand at its indentation. -/
def readBlockLines (literal : Bool) (start : Mark) (indent : Nat) (b : BlockText) (stop : Mark) (c : Cursor) :
    Except Fault (BlockText × Mark × Cursor) :=
  if _stop : c.mark.column != indent || c.atEnd then .ok (b, stop, c)
  else
    let line := c.rest.takeWhile (!isBreak ·)
    let behind := c.skipWhile (!isBreak ·)
    match _lines : readEmptyLines start indent [] 0 behind.skipBreak.mark behind.skipBreak with
    | .error f => .error f
    | .ok (emptyLines, _, stop, c') =>
      let text := line.reverse ++ b.joined literal c.seesBlank
      readBlockLines literal start indent ⟨text, behind.takeBreak.1, emptyLines, c.seesBlank⟩ stop c'
termination_by c.rest.length
decreasing_by
  refine Nat.lt_of_le_of_lt (length_of_readEmptyLines _lines) (length_behindLine_lt ?_)
  intro hnil
  simp [Cursor.atEnd, hnil] at _stop

/-- Reads the block scalar at the cursor, which stands on its first character.  `parentIndent` is the indentation of
the collection around it, -1 at the top. -/
def scanBlock (literal : Bool) (parentIndent : Int) (c : Cursor) : Except Fault (Token × Cursor) := do
  let start := c.mark
  let (chomping, increment, c) ← readHeader start c.skip
  let given := if increment == 0 then 0 else parentIndent.toNat + increment
  let (emptyLines, widest, stop, c) ← readEmptyLines start given [] 0 c.mark c
  let indent := if given == 0 then max (max widest (parentIndent + 1).toNat) 1 else given
  let (b, stop, c) ← readBlockLines literal start indent ⟨[], [], emptyLines, false⟩ stop c
  let text := b.text.reverse ++ (if chomping == .strip then [] else b.lastBreak) ++
    (if chomping == .keep then b.emptyLines else [])
  return (⟨.scalar (String.ofList text) (if literal then .literal else .folded), start, stop⟩, c)

end Scaffold.Yaml
