import ConfigCheck.Json.Printer
import ConfigCheck.Proofs.Json.Numeral
import Mathlib.Data.List.DropRight

/-!
# Texts of strings and numbers

What is written of a string is read back behind its opening quote
(`Json.readString_flatMap_escapeChar`), because each character is written as something that is read
as it.  What is written of an integer of at most 64 bits is read back wherever nothing continues it
(`Json.readValue_int`): a number could be continued by digits, a point or the letter of a power
(`Json.EndsNumber`).
-/

namespace ConfigCheck.Json

/-! ## Spaces -/

lemma skipSpace_cons_of_not {c : Char} (hc : isSpace c = false) (cs : List Char) :
    skipSpace (c :: cs) = c :: cs := by
  rw [skipSpace, List.dropWhile_cons, hc]
  rfl

lemma skipSpace_idem (cs : List Char) : skipSpace (skipSpace cs) = skipSpace cs := by
  unfold skipSpace
  exact List.dropWhile_idempotent isSpace cs

/-- The end of a line and the indentation behind it are skipped. -/
lemma skipSpace_newline_append (indent : Nat) (cs : List Char) :
    skipSpace (newline indent ++ cs) = skipSpace cs := by
  unfold skipSpace newline
  rw [List.cons_append, List.dropWhile_cons_of_pos (by decide)]
  exact List.dropWhile_append_of_pos fun c hc => by
    rw [List.eq_of_mem_replicate hc]
    decide

/-- A value is read behind spaces. -/
lemma readValue_skipSpace (depth : Nat) (cs : List Char) :
    readValue depth (skipSpace cs) = readValue depth cs := by
  rw [readValue.eq_def, readValue.eq_def, skipSpace_idem]

/-! ## Strings -/

lemma four_le_byteCount (a b c d : Char) (rest : List Char) :
    4 ≤ byteCount (a :: b :: c :: d :: rest) := by
  have hle : ∀ (cs : List Char) (n : Nat), n ≤ cs.foldl (fun n c => n + c.utf8Size) n := by
    intro cs
    induction cs with
    | nil => exact fun n => Nat.le_refl n
    | cons c cs ih => exact fun n => Nat.le_trans (Nat.le_add_right n _) (ih _)
  have hsum := hle rest (0 + a.utf8Size + b.utf8Size + c.utf8Size + d.utf8Size)
  have ha := a.utf8Size_pos
  have hb := b.utf8Size_pos
  have hc := c.utf8Size_pos
  have hd := d.utf8Size_pos
  unfold byteCount
  simp only [List.foldl_cons]
  omega

/-- A control character is read back from its four digits. -/
lemma readEscape_controlEscape {c : Char} (hc : c.toNat < 0x20) (rest : List Char) :
    ∃ digits, controlEscape c = '\\' :: digits ∧ readEscape (digits ++ rest) = .ok (c, rest) := by
  have hdigits : ∀ n < 32, controlEscape (Char.ofNat n) =
      ['\\', 'u', '0', '0', Nat.digitChar (n / 16), Nat.digitChar (n % 16)] := by decide
  have hvalues : ∀ n < 16, hexValue? (Nat.digitChar n) = some n := by decide
  have hself : Char.ofNat c.toNat = c := Char.ofNat_toNat c
  refine ⟨_, (congrArg controlEscape hself).symm.trans (hdigits c.toNat hc), ?_⟩
  have hhex : readHex ('0' :: '0' :: Nat.digitChar (c.toNat / 16) ::
      Nat.digitChar (c.toNat % 16) :: rest) = .ok (c.toNat, rest) := by
    have hzero : hexValue? '0' = some 0 := by decide
    have hvalue : ((0 * 16 + 0) * 16 + c.toNat / 16) * 16 + c.toNat % 16 = c.toNat := by omega
    unfold readHex
    rw [if_neg (Nat.not_lt.mpr (four_le_byteCount _ _ _ _ _))]
    simp only [hzero, hvalues (c.toNat / 16) (by omega), hvalues (c.toNat % 16) (by omega), hvalue]
  have hlow : ¬ (0xdc00 ≤ c.toNat && c.toNat ≤ 0xdfff) = true := by
    rw [Bool.and_eq_true, decide_eq_true_eq]
    omega
  have hhigh : ¬ (0xd800 ≤ c.toNat && c.toNat ≤ 0xdbff) = true := by
    rw [Bool.and_eq_true, decide_eq_true_eq]
    omega
  rw [List.cons_append, readEscape]
  refine bind_eq_ok_iff.mpr ⟨(c.toNat, rest), hhex, ?_⟩
  dsimp only
  rw [if_neg hlow, if_neg hhigh, hself]
  rfl

/-- The characters that are written for a character are read as it. -/
lemma readStringFrom_escapeChar (fuel : Nat) (taken : List Char) (c : Char) (rest : List Char) :
    readStringFrom (fuel + 1) taken (escapeChar c ++ rest) =
      readStringFrom fuel (c :: taken) rest := by
  have hescape : ∀ digits : List Char, readEscape (digits ++ rest) = .ok (c, rest) →
      readStringFrom (fuel + 1) taken ('\\' :: digits ++ rest) =
        readStringFrom fuel (c :: taken) rest := by
    intro digits h
    rw [List.cons_append, readStringFrom, if_neg (by decide), if_pos rfl, h]
    rfl
  unfold escapeChar
  split
  · exact hescape ['"'] rfl
  · exact hescape ['\\'] rfl
  · exact hescape ['b'] rfl
  · exact hescape ['t'] rfl
  · exact hescape ['n'] rfl
  · exact hescape ['f'] rfl
  · exact hescape ['r'] rfl
  · rename_i hquote hbackslash _ _ _ _ _
    split
    · rename_i hcontrol
      obtain ⟨digits, hdigits, hread⟩ := readEscape_controlEscape hcontrol rest
      rw [hdigits]
      exact hescape digits hread
    · rename_i hcontrol
      rw [List.singleton_append, readStringFrom, if_neg hquote, if_neg hbackslash, if_neg hcontrol]

/-- What is written of a string is read back, behind its opening quote. -/
theorem readString_flatMap_escapeChar (s : String) (rest : List Char) :
    readString (s.toList.flatMap escapeChar ++ '"' :: rest) = .ok (s, rest) := by
  have hfrom : ∀ (cs : List Char) (fuel : Nat) (taken : List Char), cs.length < fuel →
      readStringFrom fuel taken (cs.flatMap escapeChar ++ '"' :: rest) =
        .ok (String.ofList (taken.reverse ++ cs), rest) := by
    intro cs
    induction cs with
    | nil =>
      intro fuel taken hfuel
      obtain ⟨fuel, rfl⟩ := Nat.exists_eq_add_one.mpr hfuel
      rw [List.flatMap_nil, List.nil_append, readStringFrom, if_pos rfl, List.append_nil]
    | cons c cs ih =>
      intro fuel taken hfuel
      obtain ⟨fuel, rfl⟩ := Nat.exists_eq_add_one.mpr (Nat.zero_lt_of_lt hfuel)
      rw [List.flatMap_cons, List.append_assoc, readStringFrom_escapeChar,
        ih fuel (c :: taken) (Nat.lt_of_succ_lt_succ hfuel), List.reverse_cons, List.append_assoc,
        List.singleton_append]
  have hone : ∀ c : Char, 1 ≤ (escapeChar c).length := by
    intro c
    unfold escapeChar
    split
    all_goals try exact Nat.le_add_left 1 _
    split
    · unfold controlEscape
      exact Nat.le_add_left 1 _
    · exact Nat.le_refl 1
  have hlength : ∀ cs : List Char, cs.length ≤ (cs.flatMap escapeChar).length := by
    intro cs
    induction cs with
    | nil => exact Nat.le_refl 0
    | cons c cs ih =>
      have hc := hone c
      rw [List.flatMap_cons, List.length_append, List.length_cons]
      omega
  have hfuel := hlength s.toList
  rw [readString, hfrom s.toList _ [] (by rw [List.length_append]; omega), List.reverse_nil,
    List.nil_append, String.ofList_toList]

/-! ## Numbers -/

/-- What may follow a number: the end of the text, or a character that does not continue it. -/
def EndsNumber (rest : List Char) : Prop :=
  ∀ c ∈ rest.head?, isDigit c = false ∧ c ≠ '.' ∧ c ≠ 'e' ∧ c ≠ 'E'

lemma endsNumber_cons {c : Char} (hc : isDigit c = false ∧ c ≠ '.' ∧ c ≠ 'e' ∧ c ≠ 'E')
    (rest : List Char) : EndsNumber (c :: rest) := fun _ h => Option.some.inj h ▸ hc

lemma isDigit_of_mem_toDigits {n : Nat} {c : Char} (h : c ∈ Nat.toDigits 10 n) :
    isDigit c = true :=
  Nat.isDigit_of_mem_toDigits (by decide) (by decide) h

/-- The digits of a text stand for the same number as its characters. -/
lemma natFrom_eq_ofDigitChars (cs : List Char) : natFrom 0 cs = Nat.ofDigitChars 10 cs 0 := by
  rw [Nat.ofDigitChars_eq_foldl]
  simp only [Nat.mul_comm 10]
  rfl

/-- The digits of a number have it as their value. -/
lemma natFrom_toDigits (n : Nat) : natFrom 0 (Nat.toDigits 10 n) = n := by
  rw [natFrom_eq_ofDigitChars, Nat.ofDigitChars_ten_toDigits]

/-- Only zero is written with a zero in front. -/
lemma eq_zero_of_head?_toDigits {n : Nat} (h : (Nat.toDigits 10 n).head? = some '0') : n = 0 := by
  induction n using Nat.strongRecOn with
  | ind n ih =>
    by_cases hn : n < 10
    · have hdigits : ∀ n < 10, (Nat.toDigits 10 n).head? = some '0' → n = 0 := by decide
      exact hdigits n hn h
    · rw [Nat.toDigits_of_base_le (by decide) (Nat.le_of_not_lt hn),
        List.head?_append_of_ne_nil _ Nat.toDigits_ne_nil] at h
      have hzero : n / 10 = 0 := ih (n / 10) (by omega) h
      omega

/-- Digits are read up to where they end. -/
lemma readNumber_toDigits {n : Nat} (hn : n < 2 ^ 64) (negative : Bool) {rest : List Char}
    (hrest : EndsNumber rest) :
    readNumber negative (Nat.toDigits 10 n ++ rest) = wholeNumber negative n 0 rest := by
  have hall : ∀ c ∈ Nat.toDigits 10 n, isDigit c = true := fun _ => isDigit_of_mem_toDigits
  have htake : (Nat.toDigits 10 n ++ rest).takeWhile isDigit = Nat.toDigits 10 n := by
    rw [List.takeWhile_append_of_pos hall]
    cases rest with
    | nil => rw [List.takeWhile_nil, List.append_nil]
    | cons c rest =>
      have hc := (hrest c rfl).1
      rw [List.takeWhile_cons_of_neg (by rw [hc]; decide), List.append_nil]
  have hdrop : (Nat.toDigits 10 n ++ rest).dropWhile isDigit = rest := by
    rw [List.dropWhile_append_of_pos hall]
    cases rest with
    | nil => rfl
    | cons c rest =>
      have hc := (hrest c rfl).1
      rw [List.dropWhile_cons_of_neg (by rw [hc]; decide)]
  have habsorb : absorb 0 (Nat.toDigits 10 n) = (n, 0) := by
    obtain ⟨hfits, hlarge⟩ := absorb_spec (by decide : 0 < 2 ^ 64) (Nat.toDigits 10 n)
    rw [natFrom_toDigits] at hfits hlarge
    have hleft : (absorb 0 (Nat.toDigits 10 n)).2 = 0 := by
      by_contra hne
      exact Nat.lt_irrefl _ (Nat.lt_of_lt_of_le hn (hlarge hne))
    exact Prod.ext (hfits hleft).1 hleft
  obtain ⟨c, digits, hcons⟩ := List.exists_cons_of_ne_nil (Nat.toDigits_ne_nil (b := 10) (n := n))
  have hc : isDigit c = true := hall c (hcons ▸ List.mem_cons_self)
  have hzero : ¬ (c = '0' && (Nat.toDigits 10 n).length ≠ 1) = true := by
    intro h
    rw [Bool.and_eq_true, decide_eq_true_eq, decide_eq_true_eq] at h
    have hn : n = 0 := eq_zero_of_head?_toDigits (by rw [hcons, List.head?_cons, h.1])
    subst hn
    exact h.2 rfl
  unfold readNumber
  split
  · rename_i hnil
    exact absurd (List.append_eq_nil_iff.mp hnil).1 Nat.toDigits_ne_nil
  · rename_i c' _ hcons'
    have hc' : c = c' := by
      rw [hcons, List.cons_append] at hcons'
      exact (List.cons.inj hcons').1
    subst hc'
    rw [hc, htake, hdrop, if_neg (by decide)]
    dsimp only
    rw [if_neg hzero, habsorb]
    dsimp only
    cases rest with
    | nil => rfl
    | cons c rest =>
      obtain ⟨-, hpoint, he, hE⟩ := hrest c rfl
      split
      · rename_i heq
        exact absurd (List.cons.inj heq).1 hpoint
      · rename_i heq
        exact absurd (List.cons.inj heq).1 he
      · rename_i heq
        exact absurd (List.cons.inj heq).1 hE
      · rfl

/-- A digit is no space. -/
lemma isSpace_of_isDigit {c : Char} (hc : isDigit c = true) : isSpace c = false := by
  have hne : ∀ d, isDigit d = false → c ≠ d := fun d => ne_of_isDigit hc
  unfold isSpace
  simp [hne ' ' (by decide), hne '\n' (by decide), hne '\t' (by decide), hne '\r' (by decide)]

/-- Where a digit comes first, a number is read. -/
lemma readValue_of_isDigit (depth : Nat) {c : Char} (hc : isDigit c = true) (cs : List Char) :
    readValue depth (c :: cs) =
      readNumber false (c :: cs) >>= fun (n, rest) => .ok (.number n, rest) := by
  rw [readValue.eq_def, skipSpace_cons_of_not (isSpace_of_isDigit hc)]
  dsimp only
  split
  all_goals try exact absurd hc (by decide)
  rw [if_pos hc]
  rfl

lemma toList_toString_negSucc (n : Nat) :
    (toString (Int.negSucc n)).toList = '-' :: Nat.toDigits 10 (n + 1) := by
  have htext : toString (Int.negSucc n) = "-" ++ Nat.repr (n + 1) := rfl
  rw [htext, String.toList_append, Nat.toList_repr]
  rfl

/-- An integer of at most 64 bits is read back. -/
lemma readValue_int (depth : Nat) {i : Int} (hlow : -2 ^ 63 ≤ i) (hhigh : i < 2 ^ 64)
    {rest : List Char} (hrest : EndsNumber rest) :
    readValue depth ((toString i).toList ++ rest) = .ok (.number (.int i), rest) := by
  cases i with
  | ofNat n =>
    have hdigits : (toString (Int.ofNat n)).toList = Nat.toDigits 10 n := Nat.toList_repr
    have hn : n < 2 ^ 64 := Int.ofNat_lt.mp hhigh
    obtain ⟨c, digits, hcons⟩ :=
      List.exists_cons_of_ne_nil (Nat.toDigits_ne_nil (b := 10) (n := n))
    have hc : isDigit c = true := isDigit_of_mem_toDigits (hcons ▸ List.mem_cons_self)
    have hread := readNumber_toDigits hn false hrest
    rw [hcons, List.cons_append] at hread
    rw [hdigits, hcons, List.cons_append, readValue_of_isDigit depth hc, hread]
    rfl
  | negSucc n =>
    have hn : n + 1 ≤ 2 ^ 63 := by
      have hneg : Int.negSucc n = -((n + 1 : Nat) : Int) := rfl
      omega
    have hbounds : (1 ≤ n + 1 && n + 1 ≤ 2 ^ 63) = true := by
      rw [Bool.and_eq_true, decide_eq_true_eq, decide_eq_true_eq]
      exact ⟨Nat.le_add_left 1 n, hn⟩
    have hread : readValue depth ('-' :: (Nat.toDigits 10 (n + 1) ++ rest)) =
        readNumber true (Nat.toDigits 10 (n + 1) ++ rest) >>= fun (n, rest) =>
          .ok (.number n, rest) := by
      rw [readValue.eq_def, skipSpace_cons_of_not (by decide)]
      rfl
    rw [toList_toString_negSucc, List.cons_append, hread, readNumber_toDigits (by omega) true hrest,
      wholeNumber, if_neg (by decide), if_neg (by decide), if_pos hbounds]
    rfl

end ConfigCheck.Json
