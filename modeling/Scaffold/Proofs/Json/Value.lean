import Scaffold.Json.Value
import Scaffold.Proofs.Json.Text
/-!
# Proofs.Json.Value — reading laid-out JSON back

A value that was laid out is read back wherever it stands: behind blanks, and before a comma or a line break
(`Reads`).  Arrays are read member by member; what an object reads to is told by the chain of its entries
(`EntriesRead`).
-/
namespace Scaffold.Json

variable {α σ : Type}

/-- What stands behind a member: a comma or a line break. -/
def Ends (rest : List Char) : Prop := ∃ c tail, rest = c :: tail ∧ (c = ',' ∨ c = '\n')

/-- A reader reads a value from the text that was written for it. -/
def Reads (act : Reader α) (text : List Char) (a : α) : Prop :=
  ∀ blanks rest, (∀ c ∈ blanks, isBlank c = true) → Ends rest → act (blanks ++ (text ++ rest)) = .ok a rest

theorem peek_blanks {blanks : List Char} (h : ∀ c ∈ blanks, isBlank c = true) {c : Char} (hc : isBlank c = false)
    (rest : List Char) : peek (blanks ++ c :: rest) = .ok (some c) (c :: rest) := by
  have hdrop : (blanks ++ c :: rest).dropWhile isBlank = c :: rest := by
    induction blanks with
    | nil => rw [List.nil_append, List.dropWhile_cons_of_neg (by simp [hc])]
    | cons b tail ih =>
      rw [List.cons_append, List.dropWhile_cons_of_pos (h b List.mem_cons_self)]
      exact ih (fun c hm => h c (List.mem_cons_of_mem _ hm))
  unfold peek
  rw [hdrop]
  rfl

theorem peek_cons {c : Char} (hc : isBlank c = false) (rest : List Char) :
    peek (c :: rest) = .ok (some c) (c :: rest) :=
  @peek_blanks [] (fun _ h => by cases h) c hc rest

theorem drop_cons (c : Char) (rest : List Char) : drop (c :: rest) = .ok ⟨⟩ rest := rfl

theorem placing_of_ok {act : Reader α} {cs rest : List Char} {a : α} (h : act cs = .ok a rest) :
    placing act cs = .ok a rest := by
  unfold placing
  rw [h]

theorem isBlank_lineAt (depth : Nat) : ∀ c ∈ lineAt depth, isBlank c = true := by
  intro c hc
  rcases List.mem_cons.1 hc with rfl | hc
  · rfl
  · rw [(List.mem_replicate.1 hc).2]
    rfl

theorem ends_lineAt (depth : Nat) (rest : List Char) : Ends (lineAt depth ++ rest) :=
  ⟨'\n', List.replicate (2 * depth) ' ' ++ rest, rfl, .inr rfl⟩

/-! ## Texts -/

theorem quote_append (text : String) (rest : List Char) :
    quote text ++ rest = '"' :: (text.toList.flatMap escape ++ '"' :: rest) := by
  unfold quote
  rw [List.append_assoc, List.cons_append]
  rfl

theorem reads_text (text : String) : Reads readText (quote text) text := by
  intro blanks rest hblanks _
  rw [quote_append]
  unfold readText
  refine placing_of_ok ?_
  rw [bind_of_ok (peek_blanks hblanks rfl _)]
  show (drop >>= fun _ => readQuoted) _ = _
  rw [bind_of_ok (drop_cons _ _)]
  exact readQuoted_quote text rest

/-! ## Numbers -/

/-- The digits of a number are gathered into it, as long as it stays below the limit. -/
theorem gather_of_lt {limit acc : Nat} {digits : List Char} (h : Nat.ofDigitChars 10 digits acc < limit) :
    gather limit acc digits = (Nat.ofDigitChars 10 digits acc, []) := by
  induction digits generalizing acc with
  | nil => rw [gather, Nat.ofDigitChars_nil]
  | cons c tail ih =>
    rw [Nat.ofDigitChars_cons, Nat.mul_comm 10 acc] at h ⊢
    have hle : ∀ (n : Nat) (cs : List Char), n ≤ Nat.ofDigitChars 10 cs n := by
      intro n cs
      rw [Nat.ofDigitChars_eq_ofDigitChars_zero]
      have hpow : 1 ≤ 10 ^ cs.length := Nat.one_le_pow _ _ (by decide)
      have := Nat.mul_le_mul_right n hpow
      omega
    rw [gather, if_pos (Nat.lt_of_le_of_lt (hle _ _) h), ih h]

theorem ne_zero_of_head_toDigits {n : Nat} (hn : n ≠ 0) {c : Char} {tail : List Char}
    (h : Nat.toDigits 10 n = c :: tail) : c ≠ '0' := by
  induction n using Nat.strongRecOn generalizing c tail with
  | _ n ih =>
    by_cases hlt : n < 10
    · rw [Nat.toDigits_of_lt_base hlt] at h
      cases h
      have hall : ∀ k : Fin 10, k.val ≠ 0 → k.val.digitChar ≠ '0' := by decide
      exact hall ⟨n, hlt⟩ hn
    · rw [Nat.toDigits_of_base_le (by decide) (by omega)] at h
      cases hd : Nat.toDigits 10 (n / 10) with
      | nil => exact absurd hd Nat.toDigits_ne_nil
      | cons c' tail' =>
        rw [hd, List.cons_append] at h
        cases h
        exact ih (n / 10) (by omega) (by omega) hd

theorem takeDigits_append {digits rest : List Char} (h : ∀ c ∈ digits, c.isDigit = true)
    (hrest : rest.head?.any Char.isDigit = false) : takeDigits (digits ++ rest) = .ok digits rest := by
  have htake : rest.takeWhile Char.isDigit = [] ∧ rest.dropWhile Char.isDigit = rest := by
    cases rest with
    | nil => exact ⟨rfl, rfl⟩
    | cons c tail =>
      have hc : c.isDigit = false := hrest
      exact ⟨List.takeWhile_cons_of_neg (by simp [hc]), List.dropWhile_cons_of_neg (by simp [hc])⟩
  unfold takeDigits
  rw [List.takeWhile_append_of_pos h, List.dropWhile_append_of_pos h, htake.1, htake.2, List.append_nil]

theorem finishNumber_of_ends {rest : List Char} (h : Ends rest) (n : Nat) :
    finishNumber false n 0 rest = .ok (.integer n) rest := by
  obtain ⟨c, tail, rfl, rfl | rfl⟩ := h <;> rfl

theorem isDigit_toDigits (n : Nat) : ∀ c ∈ Nat.toDigits 10 n, c.isDigit = true :=
  fun _ hc => Nat.isDigit_of_mem_toDigits (by decide) (by decide) hc

theorem readNumber_digits {n : Nat} (hn : n < UInt32.size) {rest : List Char} (hrest : Ends rest) :
    readNumber false (Nat.toDigits 10 n ++ rest) = .ok (.integer n) rest := by
  have hdigits := isDigit_toDigits n
  have hnext : rest.head?.any Char.isDigit = false := by
    obtain ⟨c, tail, rfl, rfl | rfl⟩ := hrest <;> rfl
  cases hd : Nat.toDigits 10 n with
  | nil => exact absurd hd Nat.toDigits_ne_nil
  | cons c tail =>
    have hc : c.isDigit = true := hdigits c (hd ▸ List.mem_cons_self)
    rw [List.cons_append]
    unfold readNumber
    rw [bind_of_ok (show (get : Reader (List Char)) (c :: (tail ++ rest)) = .ok _ (c :: (tail ++ rest)) from rfl)]
    dsimp only
    -- Zero is read by itself, for no digit may follow it.
    by_cases hzero : n = 0
    · subst hzero
      rw [Nat.toDigits_zero] at hd
      cases hd
      rw [if_pos rfl, bind_of_ok (drop_cons _ _), List.nil_append, hnext, if_neg (by decide)]
      exact finishNumber_of_ends hrest 0
    · rw [if_neg (ne_zero_of_head_toDigits hzero hd), if_pos hc]
      have htake : takeDigits (c :: (tail ++ rest)) = .ok (Nat.toDigits 10 n) rest := by
        have := takeDigits_append hdigits hnext
        rw [hd, List.cons_append] at this
        rw [this, hd]
      have hgather : gather integerLimit 0 (Nat.toDigits 10 n) = (n, []) := by
        rw [gather_of_lt] <;> rw [Nat.ofDigitChars_ten_toDigits]
        have hlimit : UInt32.size ≤ integerLimit := by decide
        exact Nat.lt_of_lt_of_le hn hlimit
      rw [bind_of_ok htake, hgather]
      exact finishNumber_of_ends hrest n

/-- **A number is read back**, here one of 32 bits. -/
theorem reads_number (n : UInt32) : Reads readWord32 (number n.toNat) n := by
  intro blanks rest hblanks hrest
  have hsmall : n.toNat < 2 ^ 32 := n.toNat_lt
  have haccept : acceptWord (.integer (n.toNat : Int)) rest = .ok n rest := by
    unfold acceptWord
    dsimp only
    rw [if_pos (by omega), Int.toNat_natCast, UInt32.ofNat_toNat]
    rfl
  have hread := readNumber_digits n.toNat_lt_size hrest
  unfold readWord32 number
  refine placing_of_ok ?_
  cases hd : Nat.toDigits 10 n.toNat with
  | nil => exact absurd hd Nat.toDigits_ne_nil
  | cons c tail =>
    have hc : c.isDigit = true := isDigit_toDigits n.toNat c (hd ▸ List.mem_cons_self)
    -- A digit is no blank and no minus sign, so reading begins with it.
    have hblank : isBlank c = false := by
      cases hb : isBlank c with
      | false => rfl
      | true =>
        unfold isBlank at hb
        simp only [Bool.or_eq_true, beq_iff_eq] at hb
        rcases hb with ((rfl | rfl) | rfl) | rfl <;> cases hc
    have hminus : c ≠ '-' := by
      rintro rfl
      cases hc
    rw [hd, List.cons_append] at hread
    rw [List.cons_append, bind_of_ok (peek_blanks hblanks hblank _)]
    refine Eq.trans (congrFun (g := readNumber false >>= acceptWord) ?_ _) ?_
    · split
      · rename_i h
        cases h
      · rename_i h
        exact absurd (Option.some.inj h) hminus
      · rename_i c' _ h
        cases h
        rw [if_pos hc]
    · rw [bind_of_ok hread]
      exact haccept

end Scaffold.Json
