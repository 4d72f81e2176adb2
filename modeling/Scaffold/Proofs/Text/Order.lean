/-!
# Proofs.Text.Order — texts in the order of their bytes

A listing of files goes by the bytes of their names.  A character with a smaller code has smaller bytes, and the bytes
of one character are never the beginning of those of another (`utf8EncodeChar_append_lt`).  So texts stand in the order
of their bytes as they stand in the order of their characters (`before_of_lt`).
-/
namespace Scaffold.Text

def bytes (s : String) : List UInt8 := s.toUTF8.data.toList

/-- Whether one text stands before another in the order of their bytes. -/
def Before (a b : String) : Prop := bytes a < bytes b

instance (a b : String) : Decidable (Before a b) := inferInstanceAs (Decidable (bytes a < bytes b))

theorem bytes_eq (s : String) : bytes s = s.toList.flatMap String.utf8EncodeChar := by
  unfold bytes
  rw [String.toUTF8_eq_toByteArray, ← String.utf8Encode_toList]
  exact List.toList_data_toByteArray

theorem Before.trans {a b c : String} (h : Before a b) (h' : Before b c) : Before a c := List.lt_trans h h'

theorem Before.irrefl (a : String) : ¬ Before a a := List.lt_irrefl _

theorem cons_lt_cons_of_le {m n : Nat} {x y : List UInt8} (h : m ≤ n) (hn : n < 256) (htail : m = n → x < y) :
    UInt8.ofNat m :: x < UInt8.ofNat n :: y := by
  rcases Nat.lt_or_eq_of_le h with hlt | rfl
  · have hbyte : UInt8.ofNat m < UInt8.ofNat n := by
      rw [UInt8.lt_iff_toNat_lt, UInt8.toNat_ofNat', UInt8.toNat_ofNat']
      omega
    exact List.cons_lt_cons_iff.2 (.inl hbyte)
  · exact List.cons_lt_cons_iff.2 (.inr ⟨rfl, htail rfl⟩)

/-- **The bytes of a character stand before those of a greater one**, whatever follows. -/
theorem utf8EncodeChar_append_lt {c d : Char} (h : c < d) (x y : List UInt8) :
    String.utf8EncodeChar c ++ x < String.utf8EncodeChar d ++ y := by
  have hlt : c.val.toNat < d.val.toNat := h
  have hd : d.val.toNat < 0x110000 := by
    rcases d.valid with hd | ⟨-, hd⟩
    · exact Nat.lt_trans hd (by decide)
    · exact hd
  unfold String.utf8EncodeChar
  generalize c.val.toNat = m at hlt
  generalize d.val.toNat = n at hlt hd
  dsimp only
  -- The first byte tells how many bytes there are; with equally many, the digits decide from the front.
  by_cases hm₁ : m ≤ 0x7f <;> by_cases hn₁ : n ≤ 0x7f <;> by_cases hm₂ : m ≤ 0x7ff <;> by_cases hn₂ : n ≤ 0x7ff <;>
    by_cases hm₃ : m ≤ 0xffff <;> by_cases hn₃ : n ≤ 0xffff <;> try omega
  all_goals simp only [hm₁, hn₁, hm₂, hn₂, hm₃, hn₃, if_true, if_false, List.cons_append, List.nil_append]
  all_goals repeat' refine cons_lt_cons_of_le ?_ ?_ fun _ => ?_
  all_goals omega

theorem flatMap_utf8EncodeChar_lt {cs ds : List Char} (h : cs < ds) :
    cs.flatMap String.utf8EncodeChar < ds.flatMap String.utf8EncodeChar := by
  induction h with
  | nil =>
    rename_i d ds
    rw [List.flatMap_nil, List.flatMap_cons]
    cases hd : String.utf8EncodeChar d with
    | nil => exact absurd hd String.utf8EncodeChar_ne_nil
    | cons byte rest => exact List.nil_lt_cons _ _
  | rel hlt =>
    rw [List.flatMap_cons, List.flatMap_cons]
    exact utf8EncodeChar_append_lt hlt _ _
  | cons _ ih =>
    rw [List.flatMap_cons, List.flatMap_cons]
    exact List.append_left_lt ih

/-- **Texts stand in the order of their bytes as in the order of their characters.** -/
theorem before_of_lt {a b : String} (h : a.toList < b.toList) : Before a b := by
  unfold Before
  rw [bytes_eq, bytes_eq]
  exact flatMap_utf8EncodeChar_lt h

theorem append_lt_append {α : Type} [LT α] {a b : List α} (h : a < b) (hlength : a.length = b.length)
    (x y : List α) : a ++ x < b ++ y := by
  induction h with
  | nil => cases hlength
  | rel hlt => exact List.cons_lt_cons_iff.2 (.inl hlt)
  | cons _ ih => exact List.cons_lt_cons_iff.2 (.inr ⟨rfl, ih (Nat.succ.inj hlength)⟩)

end Scaffold.Text
