import Scaffold.Yaml.Cursor
/-!
# Yaml.Token.Gap — the white space inside a scalar, and how it folds

Between two words of a plain or quoted scalar stand blanks and line breaks.  Blanks alone are kept.  A single break is
read as a space; of several breaks the first is dropped and the others are kept, unless the first is a separator of
Unicode, which is never dropped.
-/
namespace Scaffold.Yaml

/-- White space between two words: blanks, or breaks with the blanks around them left out. -/
structure Gap where
  blanks : List Char := []
  firstBreak : List Char := []
  laterBreaks : List Char := []
  broken : Bool := false

namespace Gap

/-- What the gap contributes to the text of the scalar. -/
def folded (g : Gap) : List Char :=
  if !g.broken then g.blanks
  else if g.firstBreak == ['\n'] then (if g.laterBreaks.isEmpty then [' '] else g.laterBreaks)
  else g.firstBreak ++ g.laterBreaks

/-- The gap with one more blank; blanks after a break do not count. -/
def addBlank (g : Gap) (c : Char) : Gap := if g.broken then g else { g with blanks := g.blanks ++ [c] }

def addBreak (g : Gap) (text : List Char) : Gap :=
  if g.broken then { g with laterBreaks := g.laterBreaks ++ text }
  else { blanks := [], firstBreak := text, broken := true }

/-- Reads on over blanks and breaks.  In a plain scalar, `indent` is the column that its lines must reach, and a tab
before that column is a fault. -/
def read (indent : Option Int) (start : Mark) (g : Gap) (c : Cursor) : Except Fault (Gap × Cursor) :=
  match _h : c.rest with
  | [] => .ok (g, c)
  | ch :: _ =>
    if isSpaceOrTab ch then
      if g.broken && ch == '\t' && indent.any ((c.mark.column : Int) < ·) then
        .error (c.fault .plainTab .plainScalar start)
      else read indent start (g.addBlank ch) c.skip
    else if isBreak ch then read indent start (g.addBreak c.takeBreak.1) c.skipBreak
    else .ok (g, c)
termination_by c.rest.length
decreasing_by
  · exact Cursor.length_skip_lt (by simp [_h]) (by decide)
  · exact Cursor.length_skipBreak_lt (by simp_all [Cursor.seesBreak, Cursor.peek])

theorem length_of_read {indent : Option Int} {start : Mark} {g g' : Gap} {c c' : Cursor}
    (h : read indent start g c = .ok (g', c')) : c'.rest.length ≤ c.rest.length := by
  fun_induction read indent start g c with
  | case1 => cases h; exact Nat.le_refl _
  | case2 => cases h
  | case3 g c ch rest hrest _ _ ih =>
    exact Nat.le_trans (ih h) (c.length_skip_le _)
  | case4 g c ch rest hrest _ _ ih =>
    exact Nat.le_trans (ih h) c.length_skipBreak_le
  | case5 => cases h; exact Nat.le_refl _

theorem length_of_read_lt {indent : Option Int} {start : Mark} {g g' : Gap} {c c' : Cursor}
    (h : read indent start g c = .ok (g', c')) (hc : (c.seesBlank || c.seesBreak) = true) :
    c'.rest.length < c.rest.length := by
  unfold read at h
  split at h
  · rename_i hnil
    simp [Cursor.seesBlank, Cursor.seesBreak, Cursor.peek, hnil] at hc
  · rename_i ch rest hrest
    have hpeek : c.peek 0 = some ch := by simp [Cursor.peek, hrest]
    split at h
    · split at h
      · cases h
      · exact Nat.lt_of_le_of_lt (length_of_read h) (Cursor.length_skip_lt (by simp [hrest]) (by decide))
    · rename_i hblank
      split at h
      · rename_i hbreak
        exact Nat.lt_of_le_of_lt (length_of_read h)
          (Cursor.length_skipBreak_lt (by simp [Cursor.seesBreak, hpeek, hbreak]))
      · rename_i hbreak
        simp [Cursor.seesBlank, Cursor.seesBreak, hpeek, hblank, hbreak] at hc

end Gap

end Scaffold.Yaml
