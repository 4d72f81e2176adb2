import Scaffold.Yaml.Fault
/-!
# Yaml.Cursor — reading a YAML text from a place on

A cursor is the rest of a text together with the place where it begins.  Its steps keep the place: every character
moves the column by one and the index by its bytes, every line break the line, and a carriage return with its line feed
counts as one break.
-/
namespace Scaffold.Yaml

/-- The rest of a text, and its place. -/
structure Cursor where
  rest : List Char
  mark : Mark := {}

/-- Line breaks: line feed, carriage return, next line, line separator, paragraph separator. -/
def isBreak (c : Char) : Bool :=
  c == '\n' || c == '\r' || c == '\u0085' || c == '\u2028' || c == '\u2029'

def isSpaceOrTab (c : Char) : Bool := c == ' ' || c == '\t'

/-- The characters of anchors, tag handles and directive names. -/
def isNameChar (c : Char) : Bool := c.isAlphanum || c == '_' || c == '-'

def byteLength (chars : List Char) : Nat := chars.foldl (fun n c => n + c.utf8Size) 0

namespace Cursor

/-- The character `n` places on. -/
def peek (c : Cursor) (n : Nat) : Option Char := c.rest[n]?

def sees (c : Cursor) (ch : Char) (n : Nat := 0) : Bool := c.peek n == some ch

def atEnd (c : Cursor) : Bool := c.rest.isEmpty

def seesBreak (c : Cursor) (n : Nat := 0) : Bool := (c.peek n).any isBreak

def seesBlank (c : Cursor) (n : Nat := 0) : Bool := (c.peek n).any isSpaceOrTab

/-- Whether a line break or the end of the text stands `n` places on. -/
def seesLineEnd (c : Cursor) (n : Nat := 0) : Bool := (c.peek n).all isBreak

/-- Whether a space, a tab, a line break or the end of the text stands `n` places on. -/
def seesGap (c : Cursor) (n : Nat := 0) : Bool := (c.peek n).all fun ch => isSpaceOrTab ch || isBreak ch

/-- Goes on by `n` characters of one line. -/
def skip (c : Cursor) (n : Nat := 1) : Cursor :=
  { rest := c.rest.drop n
    mark := { c.mark with index := c.mark.index + byteLength (c.rest.take n), column := c.mark.column + n } }

def skipWhile (c : Cursor) (p : Char → Bool) : Cursor := c.skip (c.rest.takeWhile p).length

/-- The leading characters with a property that no line break has, and the cursor behind them. -/
def takeWhile (c : Cursor) (p : Char → Bool) : List Char × Cursor := (c.rest.takeWhile p, c.skipWhile p)

/-- Goes past a line break, if one stands here.  The break is read as a line feed, except for the two separators of
Unicode, which are read as they are. -/
def takeBreak (c : Cursor) : List Char × Cursor :=
  let past (n : Nat) : Cursor :=
    { rest := c.rest.drop n
      mark := { index := c.mark.index + byteLength (c.rest.take n), line := c.mark.line + 1, column := 0 } }
  match c.rest with
  | '\r' :: '\n' :: _ => (['\n'], past 2)
  | ch :: _ =>
    if ch == '\u2028' || ch == '\u2029' then ([ch], past 1)
    else if isBreak ch then (['\n'], past 1)
    else ([], c)
  | [] => ([], c)

def skipBreak (c : Cursor) : Cursor := c.takeBreak.2

theorem rest_ne_nil_of_sees {c : Cursor} {ch : Char} (h : c.sees ch = true) : c.rest ≠ [] := by
  intro hnil
  simp [sees, peek, hnil] at h

theorem rest_ne_nil_of_not_seesGap {c : Cursor} (h : ¬c.seesGap = true) : c.rest ≠ [] := by
  intro hnil
  simp [seesGap, peek, hnil] at h

/-- A gap is the end of the text, a blank or a break. -/
theorem rest_eq_nil_or_of_seesGap {c : Cursor} (h : c.seesGap = true) :
    c.rest = [] ∨ (c.seesBlank || c.seesBreak) = true := by
  obtain ⟨rest, mark⟩ := c
  cases rest with
  | nil => exact .inl rfl
  | cons ch rest => exact .inr (by simpa [seesGap, seesBlank, seesBreak, peek] using h)

theorem length_skip_lt {c : Cursor} {n : Nat} (h : c.rest ≠ []) (hn : 0 < n) :
    (c.skip n).rest.length < c.rest.length := by
  have := List.length_pos_iff.mpr h
  simp only [skip, List.length_drop]
  omega

theorem length_skip_le (c : Cursor) (n : Nat) : (c.skip n).rest.length ≤ c.rest.length := by
  simp [skip]

theorem length_skipWhile_le (c : Cursor) (p : Char → Bool) : (c.skipWhile p).rest.length ≤ c.rest.length :=
  c.length_skip_le _

theorem length_skipBreak_lt {c : Cursor} (h : c.seesBreak = true) : c.skipBreak.rest.length < c.rest.length := by
  obtain ⟨rest, mark⟩ := c
  cases rest with
  | nil => simp [seesBreak, peek] at h
  | cons ch rest =>
    have hb : isBreak ch = true := by simpa [seesBreak, peek] using h
    simp only [skipBreak, takeBreak]
    split <;> grind

theorem length_skipBreak_le (c : Cursor) : c.skipBreak.rest.length ≤ c.rest.length := by
  simp only [skipBreak, takeBreak]
  split <;> grind

/-- Whether a document indicator, `---` or `...`, stands here at the beginning of a line. -/
def seesIndicator (c : Cursor) (ch : Char) : Bool :=
  c.mark.column == 0 && c.sees ch && c.sees ch 1 && c.sees ch 2 && c.seesGap 3

def seesDocumentBoundary (c : Cursor) : Bool := c.seesIndicator '-' || c.seesIndicator '.'

def fault (c : Cursor) (cause : Cause) (activity : Activity) (start : Mark) : Fault :=
  .at_ cause c.mark (some (activity, start))

end Cursor

end Scaffold.Yaml
