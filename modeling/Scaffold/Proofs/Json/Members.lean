import Scaffold.Json.Text
import Scaffold.Proofs.Json.Value
/-!
# Proofs.Json.Members — reading the members of arrays and objects back

The members of an array or object stand on lines of their own.  Reading takes them off the front one by one: what is
left is always a comma and a line for each further member, and then the closing bracket (`behind`).
-/
namespace Scaffold.Json

variable {α σ : Type}

/-- The lines behind a member: those of the members that follow, and the rest. -/
def behind (depth : Nat) : List (List Char) → List Char → List Char
  | [], rest => rest
  | member :: members, rest => ',' :: (lineAt depth ++ (member ++ behind depth members rest))

theorem lines_append (depth : Nat) (member : List Char) (members : List (List Char)) (rest : List Char) :
    lines depth (member :: members) ++ rest = lineAt depth ++ (member ++ behind depth members rest) := by
  induction members generalizing member with
  | nil =>
    rw [lines, behind, List.append_assoc]
  | cons next members ih =>
    show lineAt depth ++ member ++ ',' :: lines depth (next :: members) ++ rest = _
    rw [List.append_assoc, List.append_assoc, List.cons_append, ih, behind]

theorem bracketed_append (opening closing : Char) (depth : Nat) (member : List Char) (members : List (List Char))
    (rest : List Char) : bracketed opening closing depth (member :: members) ++ rest =
      opening :: (lineAt (depth + 1) ++
        (member ++ behind (depth + 1) members (lineAt depth ++ closing :: rest))) := by
  show opening :: lines (depth + 1) (member :: members) ++ lineAt depth ++ [closing] ++ rest = _
  rw [List.append_assoc, List.append_assoc, List.cons_append, lines_append]
  rfl

theorem length_behind (depth : Nat) (members : List (List Char)) (rest : List Char) :
    members.length ≤ (behind depth members rest).length := by
  induction members with
  | nil => exact Nat.zero_le _
  | cons member members ih =>
    rw [behind]
    simp only [List.length_cons, List.length_append]
    omega

theorem ends_behind {rest : List Char} (h : Ends rest) (depth : Nat) (members : List (List Char)) :
    Ends (behind depth members rest) := by
  cases members with
  | nil => exact h
  | cons member members => exact ⟨',', _, rfl, .inl rfl⟩

theorem closedBy_of_ok {close : Reader Unit} {inner : Reader α} {cs rest rest' : List Char} {a : α}
    (h : inner cs = .ok a rest) (hc : close rest = .ok ⟨⟩ rest') : closedBy close inner cs = .ok a rest' := by
  refine placing_of_ok ?_
  rw [h]
  show (close >>= fun _ => pure a) rest = _
  rw [bind_of_ok hc]
  rfl

theorem get_apply (cs : List Char) : (get : Reader (List Char)) cs = .ok cs cs := rfl

/-! ## Arrays -/

theorem endArray_closing (rest : List Char) : endArray (']' :: rest) = .ok ⟨⟩ rest := by
  unfold endArray
  rw [bind_of_ok (peek_cons rfl rest)]
  rfl

theorem hasElement_closing (first : Bool) {blanks : List Char} (h : ∀ c ∈ blanks, isBlank c = true)
    (rest : List Char) : hasElement first (blanks ++ ']' :: rest) = .ok false (']' :: rest) := by
  unfold hasElement
  rw [bind_of_ok (peek_blanks h rfl rest)]
  rfl

theorem hasElement_first {blanks : List Char} (h : ∀ c ∈ blanks, isBlank c = true) (rest : List Char) :
    hasElement true (blanks ++ '"' :: rest) = .ok true ('"' :: rest) := by
  unfold hasElement
  rw [bind_of_ok (peek_blanks h rfl rest)]
  rfl

theorem hasElement_next {blanks : List Char} (h : ∀ c ∈ blanks, isBlank c = true) (rest : List Char) :
    hasElement false (',' :: (blanks ++ '"' :: rest)) = .ok true ('"' :: rest) := by
  unfold hasElement
  rw [bind_of_ok (peek_cons rfl _)]
  show (drop >>= fun _ => peek >>= _) _ = _
  rw [bind_of_ok (drop_cons _ _), bind_of_ok (peek_blanks h rfl rest)]
  rfl

theorem readElements_of_false {element : Reader α} {fuel : Nat} {first : Bool} {cs rest : List Char}
    (h : hasElement first cs = .ok false rest) : readElements element (fuel + 1) first cs = .ok [] rest := by
  rw [readElements, bind_of_ok h]
  rfl

theorem readElements_of_true {element : Reader α} {fuel : Nat} {first : Bool} {cs rest rest₁ rest₂ : List Char} {a : α}
    {as : List α} (h : hasElement first cs = .ok true rest) (ha : element rest = .ok a rest₁)
    (has : readElements element fuel false rest₁ = .ok as rest₂) :
    readElements element (fuel + 1) first cs = .ok (a :: as) rest₂ := by
  rw [readElements, bind_of_ok h, if_pos rfl, bind_of_ok ha, bind_of_ok has]
  rfl

theorem readText_next (text : String) {rest : List Char} (h : Ends rest) :
    readText ('"' :: (text.toList.flatMap escape ++ '"' :: rest)) = .ok text rest := by
  have := reads_text text [] rest (fun _ h => by cases h) h
  rw [List.nil_append, quote_append] at this
  exact this

theorem readElements_behind {texts : List String} {fuel : Nat} (hfuel : texts.length < fuel) (depth outer : Nat)
    (rest : List Char) :
    readElements readText fuel false (behind depth (texts.map quote) (lineAt outer ++ ']' :: rest)) =
      .ok texts (']' :: rest) := by
  induction texts generalizing fuel with
  | nil =>
    obtain ⟨fuel, rfl⟩ := Nat.exists_eq_succ_of_ne_zero (Nat.ne_of_gt hfuel)
    exact readElements_of_false (hasElement_closing false (isBlank_lineAt outer) rest)
  | cons text texts ih =>
    obtain ⟨fuel, rfl⟩ := Nat.exists_eq_succ_of_ne_zero (Nat.ne_of_gt (Nat.lt_of_le_of_lt (Nat.zero_le _) hfuel))
    rw [List.map_cons, behind, quote_append]
    refine readElements_of_true (hasElement_next (isBlank_lineAt depth) _) (readText_next text ?_) (ih ?_)
    · exact ends_behind (ends_lineAt outer _) depth _
    · exact Nat.lt_of_succ_lt_succ hfuel

/-- **An array of texts is read back.** -/
theorem reads_texts (depth : Nat) (texts : List String) :
    Reads (readArray readText) (array depth (texts.map quote)) texts := by
  intro blanks rest hblanks hrest
  unfold array readArray
  refine placing_of_ok ?_
  cases texts with
  | nil =>
    show (peek >>= _) (blanks ++ '[' :: (']' :: rest)) = _
    rw [bind_of_ok (peek_blanks hblanks rfl _)]
    show (drop >>= fun _ => closedBy endArray _) _ = _
    rw [bind_of_ok (drop_cons _ _)]
    refine closedBy_of_ok ?_ (endArray_closing rest)
    rw [bind_of_ok (get_apply _)]
    exact readElements_of_false (@hasElement_closing true [] (fun _ h => by cases h) rest)
  | cons text texts =>
    rw [List.map_cons, bracketed_append, bind_of_ok (peek_blanks hblanks rfl _)]
    show (drop >>= fun _ => closedBy endArray _) _ = _
    rw [bind_of_ok (drop_cons _ _), quote_append]
    refine closedBy_of_ok ?_ (endArray_closing rest)
    rw [bind_of_ok (get_apply _)]
    refine readElements_of_true (hasElement_first (isBlank_lineAt _) _) (readText_next text ?_)
      (readElements_behind ?_ _ _ rest)
    · exact ends_behind (ends_lineAt depth _) _ _
    · have := length_behind (depth + 1) (texts.map quote) (lineAt depth ++ ']' :: rest)
      simp only [List.length_cons, List.length_append, List.length_map] at this ⊢
      omega

/-! ## Objects -/

theorem endObject_closing (rest : List Char) : endObject ('\x7d' :: rest) = .ok ⟨⟩ rest := by
  unfold endObject
  rw [bind_of_ok (peek_cons rfl rest)]
  rfl

theorem hasKey_closing (first : Bool) {blanks : List Char} (h : ∀ c ∈ blanks, isBlank c = true) (rest : List Char) :
    hasKey first (blanks ++ '\x7d' :: rest) = .ok false ('\x7d' :: rest) := by
  unfold hasKey
  rw [bind_of_ok (peek_blanks h rfl rest)]
  rfl

theorem hasKey_first {blanks : List Char} (h : ∀ c ∈ blanks, isBlank c = true) (rest : List Char) :
    hasKey true (blanks ++ '"' :: rest) = .ok true ('"' :: rest) := by
  unfold hasKey
  rw [bind_of_ok (peek_blanks h rfl rest)]
  rfl

theorem hasKey_next {blanks : List Char} (h : ∀ c ∈ blanks, isBlank c = true) (rest : List Char) :
    hasKey false (',' :: (blanks ++ '"' :: rest)) = .ok true ('"' :: rest) := by
  unfold hasKey
  rw [bind_of_ok (peek_cons rfl _)]
  show (drop >>= fun _ => peek >>= _) _ = _
  rw [bind_of_ok (drop_cons _ _), bind_of_ok (peek_blanks h rfl rest)]
  rfl

theorem readColon_next (rest : List Char) : readColon (':' :: rest) = .ok ⟨⟩ rest := by
  unfold readColon
  rw [bind_of_ok (peek_cons rfl rest)]
  rfl

def entryText (entry : String × List Char) : List Char := quote entry.1 ++ [':', ' '] ++ entry.2

/-- **What entries are read to, one after the other.** -/
inductive EntriesRead (entry : σ → String → Reader σ) : σ → List (String × List Char) → σ → Prop where
  | nil (s : σ) : EntriesRead entry s [] s
  | cons {s t u : σ} {key : String} {value : List Char} {entries : List (String × List Char)} :
      (∀ rest, Ends rest → entry s key (':' :: ([' '] ++ (value ++ rest))) = .ok t rest) →
      EntriesRead entry t entries u → EntriesRead entry s ((key, value) :: entries) u

theorem readEntries_of_false {entry : σ → String → Reader σ} {fuel : Nat} {first : Bool} {s : σ} {cs rest : List Char}
    (h : hasKey first cs = .ok false rest) : readEntries entry (fuel + 1) first s cs = .ok s rest := by
  rw [readEntries, bind_of_ok h]
  rfl

theorem readEntries_of_true {entry : σ → String → Reader σ} {fuel : Nat} {first : Bool} {s t u : σ} {key : String}
    {cs rest rest₁ rest₂ : List Char}
    (h : hasKey first cs = .ok true ('"' :: (key.toList.flatMap escape ++ '"' :: rest)))
    (he : entry s key rest = .ok t rest₁) (hes : readEntries entry fuel false t rest₁ = .ok u rest₂) :
    readEntries entry (fuel + 1) first s cs = .ok u rest₂ := by
  rw [readEntries, bind_of_ok h, if_pos rfl, bind_of_ok (drop_cons _ _), bind_of_ok (readQuoted_quote key rest),
    bind_of_ok he]
  exact hes

theorem entryText_append (key : String) (value rest : List Char) :
    entryText (key, value) ++ rest =
      '"' :: (key.toList.flatMap escape ++ '"' :: (':' :: ([' '] ++ (value ++ rest)))) := by
  show quote key ++ [':', ' '] ++ value ++ rest = _
  rw [List.append_assoc, List.append_assoc, quote_append]
  rfl

theorem readEntries_behind {entry : σ → String → Reader σ} {s t : σ} {entries : List (String × List Char)}
    (h : EntriesRead entry s entries t) {fuel : Nat} (hfuel : entries.length < fuel) (depth outer : Nat)
    (rest : List Char) :
    readEntries entry fuel false s (behind depth (entries.map entryText) (lineAt outer ++ '\x7d' :: rest)) =
      .ok t ('\x7d' :: rest) := by
  induction h generalizing fuel with
  | nil s =>
    obtain ⟨fuel, rfl⟩ := Nat.exists_eq_succ_of_ne_zero (Nat.ne_of_gt hfuel)
    exact readEntries_of_false (hasKey_closing false (isBlank_lineAt outer) rest)
  | cons hentry _ ih =>
    obtain ⟨fuel, rfl⟩ := Nat.exists_eq_succ_of_ne_zero (Nat.ne_of_gt (Nat.lt_of_le_of_lt (Nat.zero_le _) hfuel))
    rw [List.map_cons, behind, entryText_append]
    refine readEntries_of_true (hasKey_next (isBlank_lineAt depth) _) (hentry _ ?_) (ih ?_)
    · exact ends_behind (ends_lineAt outer _) depth _
    · exact Nat.lt_of_succ_lt_succ hfuel

/-- The entries between braces are read to what the chain of them says, and the brace at their end is left. -/
theorem readEntries_object {entry : σ → String → Reader σ} {s t : σ} {key : String} {value : List Char}
    {entries : List (String × List Char)} (h : EntriesRead entry s ((key, value) :: entries) t) (depth outer : Nat)
    (rest cs : List Char) (hcs : cs = lineAt depth ++
      (entryText (key, value) ++ behind depth (entries.map entryText) (lineAt outer ++ '\x7d' :: rest))) :
    readEntries entry (cs.length + 1) true s cs = .ok t ('\x7d' :: rest) := by
  have hlength : entries.length < cs.length := by
    have := length_behind depth (entries.map entryText) (lineAt outer ++ '\x7d' :: rest)
    rw [hcs]
    simp only [List.length_append, List.length_map, lineAt, List.length_cons] at this ⊢
    omega
  cases h with
  | cons hentry hentries =>
    rw [hcs, entryText_append] at *
    refine readEntries_of_true (hasKey_first (isBlank_lineAt depth) _) (hentry _ ?_)
      (readEntries_behind hentries hlength depth outer rest)
    exact ends_behind (ends_lineAt outer _) depth _

theorem object_cons_append (depth : Nat) (entry : String × List Char) (entries : List (String × List Char))
    (rest : List Char) : object depth (entry :: entries) ++ rest = '\x7b' :: (lineAt (depth + 1) ++
      (entryText entry ++ behind (depth + 1) (entries.map entryText) (lineAt depth ++ '\x7d' :: rest))) :=
  bracketed_append '\x7b' '\x7d' depth (entryText entry) (entries.map entryText) rest

/-- **An object is read back** to what the chain of its entries says. -/
theorem reads_object {start t : σ} {entry : σ → String → Reader σ} {entries : List (String × List Char)}
    (h : EntriesRead entry start entries t) (depth : Nat) :
    Reads (readObject start entry) (object depth entries) t := by
  intro blanks rest hblanks hrest
  unfold readObject
  refine placing_of_ok ?_
  cases entries with
  | nil =>
    cases h
    show (peek >>= _) (blanks ++ '\x7b' :: ('\x7d' :: rest)) = _
    rw [bind_of_ok (peek_blanks hblanks rfl _)]
    show (drop >>= fun _ => closedBy endObject _) _ = _
    rw [bind_of_ok (drop_cons _ _)]
    refine closedBy_of_ok ?_ (endObject_closing rest)
    rw [bind_of_ok (get_apply _)]
    exact readEntries_of_false (@hasKey_closing true [] (fun _ h => by cases h) rest)
  | cons first entries =>
    rw [object_cons_append, bind_of_ok (peek_blanks hblanks rfl _)]
    show (drop >>= fun _ => closedBy endObject _) _ = _
    rw [bind_of_ok (drop_cons _ _)]
    refine closedBy_of_ok ?_ (endObject_closing rest)
    rw [bind_of_ok (get_apply _)]
    exact readEntries_object h (depth + 1) depth rest _ rfl

/-! ## Records -/

/-- What a record does with an entry: the value of a known field is read, unless the field was given before. -/
def recordEntry (known : List String) (field : σ → String → Reader σ) (state : List String × σ) (key : String) :
    Reader (List String × σ) := do
  if known.contains key then do
    if state.1.contains key then failUnplaced (.repeatedField key)
    else do
      readColon
      return (key :: state.1, ← field state.2 key)
  else do
    readColon
    skipValue
    return state

theorem recordEntry_known {known seen : List String} {field : σ → String → Reader σ} {s t : σ} {key : String}
    {cs rest : List Char} (hknown : known.contains key = true) (hnew : seen.contains key = false)
    (h : field s key cs = .ok t rest) :
    recordEntry known field (seen, s) key (':' :: cs) = .ok (key :: seen, t) rest := by
  unfold recordEntry
  rw [if_pos hknown, hnew, if_neg Bool.false_ne_true, bind_of_ok (readColon_next cs), bind_of_ok h]
  rfl

/-- **A record that is given as an object is read back.** -/
theorem reads_record {inOrder : Reader α} {known : List String} {start : σ} {field : σ → String → Reader σ}
    {finish : σ → Reader α} {entry : String × List Char} {entries : List (String × List Char)} {a : α}
    (expected : String) (keys : List String) (t : σ)
    (h : EntriesRead (recordEntry known field) ([], start) (entry :: entries) (keys, t))
    (hfinish : ∀ rest, finish t rest = .ok a rest) (depth : Nat) :
    Reads (readRecord expected inOrder known start field finish) (object depth (entry :: entries)) a := by
  intro blanks rest hblanks hrest
  unfold readRecord
  refine placing_of_ok ?_
  rw [object_cons_append, bind_of_ok (peek_blanks hblanks rfl _)]
  show (drop >>= fun _ => closedBy endObject _) _ = _
  rw [bind_of_ok (drop_cons _ _)]
  refine closedBy_of_ok ?_ (endObject_closing rest)
  show (get >>= fun cs => readEntries (recordEntry known field) (cs.length + 1) true ([], start) >>= fun r =>
    finish r.2) _ = _
  rw [bind_of_ok (get_apply _), bind_of_ok (readEntries_object h (depth + 1) depth rest _ rfl)]
  exact hfinish _

end Scaffold.Json
