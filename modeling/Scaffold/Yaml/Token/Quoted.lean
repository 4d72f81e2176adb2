import Scaffold.Yaml.Token
import Scaffold.Yaml.Token.Gap
/-!
# Yaml.Token.Quoted — scalars in quotes

Between single quotes only the quote itself is special and is written twice.  Between double quotes a backslash begins
an escape, and one at the end of a line joins the lines.
-/
namespace Scaffold.Yaml

def hexValue? (c : Char) : Option Nat :=
  if c.isDigit then some (c.toNat - '0'.toNat)
  else if 'a' ≤ c && c ≤ 'f' then some (c.toNat - 'a'.toNat + 10)
  else if 'A' ≤ c && c ≤ 'F' then some (c.toNat - 'A'.toNat + 10)
  else none

def hexNumber? (digits : List Char) : Option Nat :=
  digits.foldlM (fun n c => (hexValue? c).map (n * 16 + ·)) 0

def simpleEscape? : Char → Option Char
  | '0' => some '\x00'
  | 'a' => some '\x07'
  | 'b' => some '\x08'
  | 't' => some '\t'
  | '\t' => some '\t'
  | 'n' => some '\n'
  | 'v' => some '\x0b'
  | 'f' => some '\x0c'
  | 'r' => some '\r'
  | 'e' => some '\x1b'
  | ' ' => some ' '
  | '"' => some '"'
  | '/' => some '/'
  | '\\' => some '\\'
  | 'N' => some '\u0085'
  | '_' => some '\u00a0'
  | 'L' => some '\u2028'
  | 'P' => some '\u2029'
  | _ => none

/-- How many hexadecimal digits follow the letter of an escape by number. -/
def escapeLength? : Char → Option Nat
  | 'x' => some 2
  | 'u' => some 4
  | 'U' => some 8
  | _ => none

/-- Reads the escape at the cursor, which stands on its backslash. -/
def readEscape (start : Mark) (c : Cursor) : Except Fault (Char × Cursor) :=
  match c.peek 1 with
  | none => .error (c.fault .unknownEscape .quotedEscape start)
  | some letter =>
    match simpleEscape? letter, escapeLength? letter with
    | some ch, _ => .ok (ch, c.skip 2)
    | none, none => .error (c.fault .unknownEscape .quotedEscape start)
    | none, some length =>
      let digits := (c.skip 2).rest.take length
      if digits.length < length then .error ((c.skip 2).fault .noHexNumber .quotedEscape start)
      else match hexNumber? digits with
        | none => .error ((c.skip 2).fault .noHexNumber .quotedEscape start)
        | some n =>
          if n.isValidChar then .ok (Char.ofNat n, c.skip (2 + length))
          else .error ((c.skip 2).fault .noCharacter .quotedEscape start)

theorem length_of_readEscape {start : Mark} {c c' : Cursor} {ch : Char} (h : readEscape start c = .ok (ch, c')) :
    c'.rest.length < c.rest.length := by
  unfold readEscape at h
  split at h
  · cases h
  · rename_i letter hletter
    have hrest : c.rest ≠ [] := by
      intro hnil
      simp [Cursor.peek, hnil] at hletter
    split at h
    · cases h
      exact Cursor.length_skip_lt hrest (by decide)
    · cases h
    · rename_i length _ _
      simp only at h
      split at h
      · cases h
      · split at h
        · cases h
        · split at h
          · cases h
            exact Cursor.length_skip_lt hrest (by omega)
          · cases h

/-- Whether a quote written twice stands at the cursor, which counts between single quotes only. -/
def seesDoubled (quote : Char) (c : Cursor) : Bool := quote == '\'' && c.sees '\'' && c.sees '\'' 1

/-- Reads one character between quotes: a quote written twice, an escape, or a character that stands for itself. -/
def readQuotedChar (quote : Char) (start : Mark) (c : Cursor) : Except Fault (Char × Cursor) :=
  if seesDoubled quote c then .ok ('\'', c.skip 2)
  else if quote == '"' && c.sees '\\' then readEscape start c
  else .ok (c.rest.headD ' ', c.skip)

theorem length_of_readQuotedChar {quote : Char} {start : Mark} {c c' : Cursor} {ch : Char} (hrest : c.rest ≠ [])
    (h : readQuotedChar quote start c = .ok (ch, c')) : c'.rest.length < c.rest.length := by
  unfold readQuotedChar at h
  split at h
  · cases h
    exact Cursor.length_skip_lt hrest (by decide)
  · split at h
    · exact length_of_readEscape h
    · cases h
      exact Cursor.length_skip_lt hrest (by decide)

/-- The characters up to the next gap or the closing quote; the flag says that they end with a joined line.  `word`
holds the characters read so far, the last one first. -/
def readQuotedWord (quote : Char) (start : Mark) (word : List Char) (c : Cursor) :
    Except Fault (List Char × Bool × Cursor) :=
  if _gap : c.seesGap then .ok (word.reverse, false, c)
  else if c.sees quote && !seesDoubled quote c then .ok (word.reverse, false, c)
  else if quote == '"' && c.sees '\\' && c.seesBreak 1 then .ok (word.reverse, true, c.skip.skipBreak)
  else
    match _read : readQuotedChar quote start c with
    | .error f => .error f
    | .ok (ch, c') => readQuotedWord quote start (ch :: word) c'
termination_by c.rest.length
decreasing_by exact length_of_readQuotedChar (Cursor.rest_ne_nil_of_not_seesGap _gap) _read

/-- A word ends in a joined line, for which characters are taken, before a gap or before the closing quote. -/
theorem length_of_readQuotedWord {quote : Char} {start : Mark} {word text : List Char} {joined : Bool} {c c' : Cursor}
    (h : readQuotedWord quote start word c = .ok (text, joined, c')) :
    c'.rest.length < c.rest.length ∨ c' = c ∧ (c.seesGap = true ∨ c.sees quote = true) := by
  fun_induction readQuotedWord quote start word c with
  | case1 _ _ hgap =>
    cases h
    exact .inr ⟨rfl, .inl hgap⟩
  | case2 _ _ _ hquote =>
    cases h
    exact .inr ⟨rfl, .inr (Bool.and_eq_true_iff.mp hquote).1⟩
  | case3 _ c hgap =>
    cases h
    exact .inl (Nat.lt_of_le_of_lt (Cursor.length_skipBreak_le _)
      (Cursor.length_skip_lt (Cursor.rest_ne_nil_of_not_seesGap hgap) (by decide)))
  | case4 => cases h
  | case5 _ c hgap _ _ ch c' hread ih =>
    have hlt := length_of_readQuotedChar (Cursor.rest_ne_nil_of_not_seesGap hgap) hread
    rcases ih h with hlt' | ⟨rfl, _⟩
    · exact .inl (Nat.lt_trans hlt' hlt)
    · exact .inl hlt

/-- Reads words and gaps up to the closing quote.  `text` holds the characters read so far, the last one first. -/
def readQuoted (quote : Char) (start : Mark) (text : List Char) (c : Cursor) : Except Fault (List Char × Cursor) :=
  if c.seesDocumentBoundary then .error (c.fault .documentIndicator .quotedScalar start)
  else if _end : c.atEnd then .error (c.fault .unclosedQuote .quotedScalar start)
  else
    match _word : readQuotedWord quote start [] c with
    | .error f => .error f
    | .ok (word, joined, behind) =>
      if _quote : behind.sees quote then .ok (text.reverse ++ word, behind.skip)
      else
        match _gap : Gap.read none start { broken := joined } behind with
        | .error f => .error f
        | .ok (gap, c') => readQuoted quote start (gap.folded.reverse ++ word.reverse ++ text) c'
termination_by c.rest.length
decreasing_by
  have hrest : c.rest ≠ [] := by simpa [Cursor.atEnd] using _end
  rcases length_of_readQuotedWord _word with hlt | ⟨rfl, hgap | hquote⟩
  · exact Nat.lt_of_le_of_lt (Gap.length_of_read _gap) hlt
  · exact Gap.length_of_read_lt _gap ((Cursor.rest_eq_nil_or_of_seesGap hgap).resolve_left hrest)
  · exact absurd hquote _quote

/-- Reads the quoted scalar at the cursor, which stands on its opening quote. -/
def scanQuoted (quote : Char) (c : Cursor) : Except Fault (Token × Cursor) := do
  let (text, c') ← readQuoted quote c.mark [] c.skip
  let style := if quote == '"' then ScalarStyle.doubleQuoted else ScalarStyle.singleQuoted
  return (⟨.scalar (String.ofList text) style, c.mark, c'.mark⟩, c')

end Scaffold.Yaml
