import Scaffold.Proofs.Template.Migration
/-!
# Proofs.Template.Pieces — filling key by key is filling every marker at once

A template is made of literal pieces and markers.  Filling goes over the whole text once for each key, and so goes over
the values again that it has put in before.  It never finds a marker there, nor one that begins in a value or a literal
piece and ends behind it, as long as none of these has two braces open in a row or ends with an open brace
(`IsQuiet`).  So filling the markers of one key turns pieces into pieces (`replaceAll_textOf`), and the order of the
keys does not count (`fill_pieces`).
-/
namespace Scaffold.Template

open Text (replaceAll replaceFrom)

/-- A piece of a template. -/
inductive Piece where
  | literal (text : List Char)
  | marker (key : String)
  deriving DecidableEq

/-- A text in which no marker begins, whatever stands behind it. -/
def IsQuiet (text : List Char) : Prop := IsPlain text ∧ text.getLast? ≠ some '\x7b'

instance (text : List Char) : Decidable (IsQuiet text) :=
  inferInstanceAs (Decidable (Text.occursIn ['\x7b', '\x7b'] text = false ∧ text.getLast? ≠ some '\x7b'))

/-- A text without braces. -/
def IsBraceless (text : List Char) : Prop := '\x7b' ∉ text ∧ '\x7d' ∉ text

instance (text : List Char) : Decidable (IsBraceless text) :=
  inferInstanceAs (Decidable ('\x7b' ∉ text ∧ '\x7d' ∉ text))

namespace Piece

def text : Piece → List Char
  | literal text => text
  | marker key => Template.marker key

/-- A piece is proper if no marker but itself can be read in it. -/
def IsProper : Piece → Prop
  | literal text => IsQuiet text
  | marker key => IsBraceless key.toList

instance (piece : Piece) : Decidable piece.IsProper :=
  match piece with
  | literal text => inferInstanceAs (Decidable (IsQuiet text))
  | marker key => inferInstanceAs (Decidable (IsBraceless key.toList))

/-- The piece with its marker filled, if it is a marker of a key that has a value. -/
def filled (entries : List (String × String)) : Piece → List Char
  | literal text => text
  | marker key =>
    match entries.lookup key with
    | some value => value.toList
    | none => Template.marker key

/-- The piece once the markers of one key are filled. -/
def fillKey (entry : String × String) : Piece → Piece
  | literal text => literal text
  | marker key => if key = entry.1 then literal entry.2.toList else marker key

/-- The piece once the markers of the keys are filled, one key after the other. -/
def fillKeys (order : List (String × String)) (piece : Piece) : Piece := order.foldl (fun p e => fillKey e p) piece

end Piece

def textOf (pieces : List Piece) : List Char := pieces.flatMap Piece.text

variable {key : String} {entry : String × String} {entries order : List (String × String)} {text : List Char}

/-! ## Where a marker is found -/

theorem marker_eq (key : String) :
    marker key = '\x7b' :: '\x7b' :: (key.toList ++ ['\x7d', '\x7d']) := rfl

/-- **No marker begins in a quiet text**, whatever stands behind it. -/
theorem isQuiet_cons {c : Char} {rest : List Char} (h : IsQuiet (c :: rest)) :
    IsQuiet rest ∧ ∀ key back, (marker key).isPrefixOf (c :: (rest ++ back)) = false := by
  obtain ⟨hplain, hlast⟩ := h
  unfold IsPlain at hplain
  rw [Text.occursIn, Bool.or_eq_false_iff] at hplain
  have hrest : rest.getLast? ≠ some '\x7b' := by
    intro hr
    rw [List.getLast?_cons, hr] at hlast
    exact hlast rfl
  refine ⟨⟨hplain.2, hrest⟩, fun key back => ?_⟩
  cases rest with
  | nil =>
    -- The last character of a quiet text is no open brace.
    have hc : ('\x7b' == c) = false := beq_eq_false_iff_ne.2 fun h => hlast (h ▸ rfl)
    rw [marker_eq, List.isPrefixOf_cons_cons, hc, Bool.false_and]
  | cons b rest =>
    have hpair := hplain.1
    rw [List.isPrefixOf_cons_cons, List.isPrefixOf_cons_cons, List.isPrefixOf_nil_left, Bool.and_true] at hpair
    rw [marker_eq, List.cons_append, List.isPrefixOf_cons_cons, List.isPrefixOf_cons_cons, ← Bool.and_assoc, hpair,
      Bool.false_and]

/-- A quiet text stays as it is, and what stands behind it is filled by itself. -/
theorem replaceAll_append_of_isQuiet (h : IsQuiet text) (key : String) (value back : List Char) :
    replaceAll (marker key) value (text ++ back) = text ++ replaceAll (marker key) value back := by
  induction text with
  | nil => rfl
  | cons c rest ih =>
    obtain ⟨hrest, hnone⟩ := isQuiet_cons h
    have hlater := ih hrest
    unfold replaceAll at hlater ⊢
    rw [List.cons_append, replaceFrom, hnone key back, if_neg Bool.false_ne_true, hlater]
    rfl

theorem isQuiet_marker_tail (h : IsBraceless key.toList) : IsQuiet (marker key).tail := by
  have hback : '\x7b' ∉ key.toList ++ ['\x7d', '\x7d'] := by simp [h.1]
  refine ⟨?_, ?_⟩
  · have hplain := isPlain_of_not_mem hback
    have hnone : ['\x7b', '\x7b'].isPrefixOf ('\x7b' :: (key.toList ++ ['\x7d', '\x7d'])) = false := by
      rw [Bool.eq_false_iff]
      intro hp
      obtain ⟨after, hafter⟩ := List.isPrefixOf_iff_prefix.1 hp
      rw [List.cons_append, List.cons.injEq] at hafter
      exact hback (hafter.2 ▸ List.mem_cons_self)
    unfold IsPlain at hplain ⊢
    rw [marker_eq, List.tail_cons, Text.occursIn, hnone, hplain]
    rfl
  · rw [marker_eq, List.tail_cons, ← List.cons_append, List.getLast?_append]
    simp

/-- **A marker is read for its own key only.** -/
theorem eq_of_isPrefixOf_marker {other : String} (hkey : IsBraceless key.toList) (hother : IsBraceless other.toList)
    {back : List Char} (h : (marker key).isPrefixOf (marker other ++ back) = true) : key = other := by
  obtain ⟨after, hafter⟩ := List.isPrefixOf_iff_prefix.1 h
  simp only [marker_eq, List.cons_append, List.append_assoc, List.nil_append, List.cons.injEq, true_and] at hafter
  exact String.toList_inj.1 (Text.eq_of_append_separator hkey.2 hother.2 hafter).1

theorem replaceAll_marker_append_of_ne {other : String} (hkey : IsBraceless key.toList)
    (hother : IsBraceless other.toList) (hne : other ≠ key) (value back : List Char) :
    replaceAll (marker key) value (marker other ++ back) = marker other ++ replaceAll (marker key) value back := by
  have hnone : (marker key).isPrefixOf (marker other ++ back) = false :=
    Bool.eq_false_iff.2 fun h => hne (eq_of_isPrefixOf_marker hkey hother h).symm
  have hcons : marker other = '\x7b' :: (marker other).tail := rfl
  have htail := replaceAll_append_of_isQuiet (isQuiet_marker_tail hother) key value back
  unfold replaceAll at htail ⊢
  rw [hcons, List.cons_append] at hnone ⊢
  rw [replaceFrom, hnone, if_neg Bool.false_ne_true, htail]
  rfl

theorem replaceFrom_skip (part value front back : List Char) :
    replaceFrom part value front.length (front ++ back) = replaceFrom part value 0 back := by
  induction front with
  | nil => rfl
  | cons c front ih => rw [List.cons_append, List.length_cons, replaceFrom, ih]

theorem replaceAll_marker_append (key : String) (value back : List Char) :
    replaceAll (marker key) value (marker key ++ back) = value ++ replaceAll (marker key) value back := by
  have hcons : marker key = '\x7b' :: (marker key).tail := rfl
  have hfound : (marker key).isPrefixOf (marker key ++ back) = true :=
    List.isPrefixOf_iff_prefix.2 (List.prefix_append _ _)
  have hskip := replaceFrom_skip (marker key) value (marker key).tail back
  unfold replaceAll
  rw [hcons, List.cons_append] at hfound
  conv => lhs; rw [hcons, List.cons_append, replaceFrom, ← hcons]
  rw [← hcons] at hfound
  rw [if_pos hfound, ← hskip, List.length_tail]

/-! ## Filling piece by piece -/

/-- **To fill the markers of a key is to fill the pieces that are its markers.** -/
theorem replaceAll_textOf {pieces : List Piece} (hpieces : ∀ piece ∈ pieces, piece.IsProper)
    (hkey : IsBraceless entry.1.toList) :
    replaceAll (marker entry.1) entry.2.toList (textOf pieces) = textOf (pieces.map (Piece.fillKey entry)) := by
  induction pieces with
  | nil => rfl
  | cons piece rest ih =>
    have hpiece := hpieces piece List.mem_cons_self
    have hrest := ih fun other hother => hpieces other (List.mem_cons_of_mem _ hother)
    change replaceAll _ _ (piece.text ++ textOf rest) = (piece.fillKey entry).text ++ textOf _
    rw [← hrest]
    cases piece with
    | literal text => exact replaceAll_append_of_isQuiet hpiece _ _ _
    | marker key =>
      by_cases hsame : key = entry.1
      · rw [Piece.fillKey, if_pos hsame, hsame]
        exact replaceAll_marker_append _ _ _
      · rw [Piece.fillKey, if_neg hsame]
        exact replaceAll_marker_append_of_ne hkey hpiece hsame _ _

/-- Filling leaves pieces proper, for a value is as quiet as a literal piece. -/
theorem isProper_fillKey {piece : Piece} (h : piece.IsProper) (hvalue : IsQuiet entry.2.toList) :
    (piece.fillKey entry).IsProper := by
  cases piece with
  | literal text => exact h
  | marker key =>
    rw [Piece.fillKey]
    split
    · exact hvalue
    · exact h

/-- **Filling key by key is filling each piece key by key.** -/
theorem foldl_fillKey_textOf {pieces : List Piece} (hpieces : ∀ piece ∈ pieces, piece.IsProper)
    (horder : ∀ entry ∈ order, IsBraceless entry.1.toList ∧ IsQuiet entry.2.toList) :
    order.foldl fillKey (textOf pieces) = textOf (pieces.map (Piece.fillKeys order)) := by
  induction order generalizing pieces with
  | nil =>
    rw [show Piece.fillKeys [] = id from rfl, List.map_id]
    rfl
  | cons entry rest ih =>
    obtain ⟨hkey, hvalue⟩ := horder entry List.mem_cons_self
    have hfilled : ∀ piece ∈ pieces.map (Piece.fillKey entry), piece.IsProper := by
      intro piece hpiece
      obtain ⟨before, hbefore, rfl⟩ := List.mem_map.1 hpiece
      exact isProper_fillKey (hpieces before hbefore) hvalue
    have hrest := ih hfilled fun other hother => horder other (List.mem_cons_of_mem _ hother)
    rw [List.foldl_cons, fillKey, replaceAll_textOf hpieces hkey, hrest, List.map_map]
    rfl

theorem fillKeys_literal (order : List (String × String)) (text : List Char) :
    Piece.fillKeys order (.literal text) = .literal text := by
  induction order with
  | nil => rfl
  | cons entry rest ih => exact ih

/-- A piece filled key by key is filled by the first entry of its key. -/
theorem text_fillKeys (order : List (String × String)) (piece : Piece) :
    (piece.fillKeys order).text = piece.filled order := by
  cases piece with
  | literal text =>
    rw [fillKeys_literal]
    rfl
  | marker key =>
    induction order with
    | nil => rfl
    | cons entry rest ih =>
      change (Piece.fillKeys rest ((Piece.marker key).fillKey entry)).text = _
      rw [Piece.fillKey, Piece.filled, List.lookup_cons]
      by_cases hsame : key = entry.1
      · rw [if_pos hsame, fillKeys_literal, beq_iff_eq.2 hsame]
        rfl
      · rw [if_neg hsame, ih, beq_eq_false_iff_ne.2 hsame]
        rfl

/-- **Where keys are different, their order does not count.** -/
theorem lookup_of_perm (hperm : order.Perm entries) (hkeys : (entries.map (·.1)).Nodup) (key : String) :
    order.lookup key = entries.lookup key := by
  induction hperm with
  | nil => rfl
  | cons entry _ ih =>
    rw [List.map_cons, List.nodup_cons] at hkeys
    obtain ⟨other, value⟩ := entry
    rw [List.lookup_cons, List.lookup_cons, ih hkeys.2]
  | swap first second rest =>
    obtain ⟨k₁, v₁⟩ := first
    obtain ⟨k₂, v₂⟩ := second
    simp only [List.map_cons, List.nodup_cons, List.mem_cons, not_or] at hkeys
    simp only [List.lookup_cons]
    by_cases hfirst : key = k₁
    · rw [beq_eq_false_iff_ne.2 fun h : key = k₂ => hkeys.1.1 (hfirst.symm.trans h)]
    · rw [beq_eq_false_iff_ne.2 hfirst]
  | trans hfirst hsecond ih ih' => exact (ih ((hsecond.map _).nodup_iff.2 hkeys)).trans (ih' hkeys)

/-! ## The built-in templates -/

/-- Cuts a text into pieces at its double braces: open ones begin a key, closing ones end it.  The characters read
since then are given from the last to the first. -/
def cut : Bool → List Char → List Char → List Piece
  | _, read, [] => [.literal read.reverse]
  | false, read, '\x7b' :: '\x7b' :: rest => .literal read.reverse :: cut true [] rest
  | true, read, '\x7d' :: '\x7d' :: rest => .marker (String.ofList read.reverse) :: cut false [] rest
  | inKey, read, c :: rest => cut inKey (c :: read) rest

/-- **The built-in templates are made of proper pieces.** -/
theorem builtin_eq_textOf (kind : ArtifactKind) :
    (builtin kind).toList = textOf (cut false [] (builtin kind).toList) ∧
      ∀ piece ∈ cut false [] (builtin kind).toList, piece.IsProper := by
  unfold builtin createMigration updateMigration model resource
  cases kind
  all_goals
    dsimp only
    rw [toList_ofLines, charsOf]
    simp only [List.flatMap_cons, List.flatMap_nil]
    repeat rw [String.toList_ofList]
    decide +kernel

/-- **Filling key by key is filling every marker at once.**  Take a template of literal pieces and markers, in which no
key holds a brace and no literal piece has two braces open in a row or ends with an open brace, as the built-in
templates are.  Take entries with different keys, which hold no brace, and with values that meet the condition of the
literal pieces.  Filled with the entries in any order, the template is its pieces as they are, with each marker of a key
that has a value replaced by the value. -/
theorem fill_pieces :
    (∀ kind, ∃ pieces, builtin kind = String.ofList (textOf pieces) ∧ ∀ piece ∈ pieces, piece.IsProper) ∧
    ∀ (pieces : List Piece) (entries order : List (String × String)), (∀ piece ∈ pieces, piece.IsProper) →
      (entries.map (·.1)).Nodup → (∀ entry ∈ entries, IsBraceless entry.1.toList ∧ IsQuiet entry.2.toList) →
      order.Perm entries →
      fill (String.ofList (textOf pieces)) order = String.ofList (pieces.flatMap (Piece.filled entries)) := by
  constructor
  · intro kind
    obtain ⟨htext, hproper⟩ := builtin_eq_textOf kind
    exact ⟨_, by rw [← htext, String.ofList_toList], hproper⟩
  · intro pieces entries order hpieces hkeys hentries hperm
    have hfilled : ∀ piece : Piece, (piece.fillKeys order).text = piece.filled entries := by
      intro piece
      rw [text_fillKeys]
      cases piece with
      | literal text => rfl
      | marker key => rw [Piece.filled, Piece.filled, lookup_of_perm hperm hkeys]
    have horder := fun entry hentry => hentries entry (hperm.mem_iff.1 hentry)
    unfold fill
    rw [String.toList_ofList, foldl_fillKey_textOf hpieces horder, textOf, List.flatMap_map]
    simp only [hfilled]

/-- Braces meet where a value ends and where an empty one stands, and two of them open only at markers. -/
def bracedPieces : List Piece :=
  [.literal "\x7d".toList, .marker "x", .marker "y", .marker "x", .literal "\x7bz\x7d\x7d".toList, .marker "z"]

/-- Single braces and an empty value, filled in either order. -/
theorem fill_pieces_braced :
    fill (String.ofList (textOf bracedPieces)) [("y", ""), ("x", "\x7by\x7d")] =
      "\x7d\x7by\x7d\x7by\x7d\x7bz\x7d\x7d\x7b\x7bz\x7d\x7d" := by
  have hfill := fill_pieces.2 bracedPieces [("x", "\x7by\x7d"), ("y", "")] [("y", ""), ("x", "\x7by\x7d")]
    (by decide +kernel) (by decide) (by decide +kernel) (.swap _ _ _)
  rw [hfill]
  decide +kernel

end Scaffold.Template
