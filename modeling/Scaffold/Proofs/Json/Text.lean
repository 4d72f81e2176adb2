import Scaffold.Json.Text
import Scaffold.Proofs.Effect
/-!
# Proofs.Json.Text — reading a text back

Every character of a written text is read back from what its escape makes of it (`readChars_escape`), so a quoted
text reads as itself (`readQuoted_quote`).
-/
namespace Scaffold.Json

theorem hexValue?_hexDigit {n : Nat} (h : n < 16) : hexValue? (hexDigit n) = some n := by
  have hall : ∀ k : Fin 16, hexValue? (hexDigit k.val) = some k.val := by decide
  exact hall ⟨n, h⟩

theorem utf8Size_hexDigit {n : Nat} (h : n < 16) : (hexDigit n).utf8Size = 1 := by
  have hall : ∀ k : Fin 16, (hexDigit k.val).utf8Size = 1 := by decide
  exact hall ⟨n, h⟩

/-- **The code of a control is read back.** -/
theorem decodeCode_control {c : Char} (h : c.toNat < 0x20) (rest : List Char) :
    decodeCode ('0' :: '0' :: hexDigit (c.toNat / 16) :: hexDigit (c.toNat % 16) :: rest) = .ok (c, 4) := by
  have hhigh : c.toNat / 16 < 16 := by omega
  have hlow : c.toNat % 16 < 16 := Nat.mod_lt _ (by decide)
  have hzero : hexValue? '0' = some 0 := by decide
  have hcode : codeAt ('0' :: '0' :: hexDigit (c.toNat / 16) :: hexDigit (c.toNat % 16) :: rest) = .ok c.toNat := by
    unfold codeAt
    have hbytes : ¬ bytesOf ('0' :: '0' :: hexDigit (c.toNat / 16) :: hexDigit (c.toNat % 16) :: rest) < 4 := by
      simp only [bytesOf, utf8Size_hexDigit hhigh, utf8Size_hexDigit hlow]
      have : ('0' : Char).utf8Size = 1 := by decide
      omega
    rw [if_neg hbytes]
    simp only [List.take_succ_cons, List.take_zero, List.mapM_cons, List.mapM_nil, hzero, hexValue?_hexDigit hhigh,
      hexValue?_hexDigit hlow, bind, Option.bind, pure]
    congr 1
    omega
  unfold decodeCode
  rw [hcode]
  show (if 0xDC00 ≤ c.toNat ∧ c.toNat ≤ 0xDFFF then _ else _) = _
  rw [if_neg (by omega)]
  show (if c.toNat < 0xD800 ∨ 0xDBFF < c.toNat then _ else _) = _
  rw [if_pos (by omega), Char.ofNat_toNat]
  rfl

theorem readChars_skip (code : List Char → Except Fault (Char × Nat)) (ahead : Nat) (chars skipped rest : List Char) :
    readChars code ahead skipped.length chars (skipped ++ rest) = readChars code ahead 0 chars rest := by
  induction skipped with
  | nil => rfl
  | cons c tail ih =>
    rw [List.length_cons, List.cons_append, readChars]
    exact ih

theorem decodeEscape_cons (code : List Char → Except Fault (Char × Nat)) (c : Char) (rest : List Char) :
    decodeEscape code (c :: rest) = match unescape? c with
      | some plain => .ok (plain, 1)
      | none => if c = 'u' then (code rest).map fun (plain, used) => (plain, used + 1)
        else .error (faultAhead 1 .badEscape (c :: rest)) := rfl

theorem readChars_letter {letter c : Char} (h : unescape? letter = some c) (ahead : Nat) (chars rest : List Char) :
    readChars decodeCode ahead 0 chars ('\\' :: letter :: rest) = readChars decodeCode ahead 0 (c :: chars) rest := by
  rw [readChars, if_neg (by decide), if_pos rfl, decodeEscape_cons, h]
  exact readChars_skip decodeCode ahead (c :: chars) [letter] rest

/-- **A written character is read back.** -/
theorem readChars_escape (ahead : Nat) (chars : List Char) (c : Char) (rest : List Char) :
    readChars decodeCode ahead 0 chars (escape c ++ rest) = readChars decodeCode ahead 0 (c :: chars) rest := by
  unfold escape
  split
  · exact readChars_letter rfl ahead chars rest
  · exact readChars_letter rfl ahead chars rest
  · exact readChars_letter rfl ahead chars rest
  · exact readChars_letter rfl ahead chars rest
  · exact readChars_letter rfl ahead chars rest
  · exact readChars_letter rfl ahead chars rest
  · exact readChars_letter rfl ahead chars rest
  · rename_i hquote hbackslash _ _ _ _ _
    split
    · rename_i hcontrol
      show readChars decodeCode ahead 0 chars ('\\' :: 'u' :: '0' :: '0' :: hexDigit (c.toNat / 16) ::
        hexDigit (c.toNat % 16) :: rest) = _
      have hcode : decodeEscape decodeCode ('u' :: '0' :: '0' :: hexDigit (c.toNat / 16) ::
          hexDigit (c.toNat % 16) :: rest) = .ok (c, 5) := by
        rw [decodeEscape_cons, show unescape? 'u' = none from rfl]
        dsimp only
        rw [if_pos rfl, decodeCode_control hcontrol]
        rfl
      rw [readChars, if_neg (by decide), if_pos rfl, hcode]
      exact readChars_skip decodeCode ahead (c :: chars)
        ['u', '0', '0', hexDigit (c.toNat / 16), hexDigit (c.toNat % 16)] rest
    · rename_i hplain
      show readChars decodeCode ahead 0 chars (c :: rest) = _
      rw [readChars, if_neg (fun h => hquote h), if_neg (fun h => hbackslash h), if_neg hplain]

theorem readChars_text (ahead : Nat) (chars text rest : List Char) :
    readChars decodeCode ahead 0 chars (text.flatMap escape ++ '"' :: rest) = .ok (chars.reverse ++ text) rest := by
  induction text generalizing chars with
  | nil =>
    rw [List.flatMap_nil, List.nil_append, readChars, if_pos rfl, List.append_nil]
  | cons c tail ih =>
    rw [List.flatMap_cons, List.append_assoc, readChars_escape, ih, List.reverse_cons, List.append_assoc]
    rfl

/-- **A quoted text reads as itself.** -/
theorem readQuoted_quote (text : String) (rest : List Char) :
    readQuoted (text.toList.flatMap escape ++ '"' :: rest) = .ok text rest := by
  unfold readQuoted
  rw [bind_of_ok (readChars_text 1 [] text.toList rest), List.reverse_nil, List.nil_append, String.ofList_toList]
  rfl

end Scaffold.Json
