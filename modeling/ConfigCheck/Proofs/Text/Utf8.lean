import ConfigCheck.File.Path
import ConfigCheck.Proofs.Outcome

/-!
# UTF-8 and back

Bytes that are UTF-8 are the bytes of their text (`Utf8.encode_of_decode?`), which is also what is
shown of them (`Utf8.decodeLossy_of_decode?`), and the bytes of each text are UTF-8
(`Utf8.decode?_encode`).  So a path whose bytes are UTF-8 is the path that is
written as what is shown of it (`Path.ofString_display`).
-/

namespace ConfigCheck

namespace Utf8

/-! ## The bytes of a text -/

lemma toList_loop (bytes : ByteArray) (i : Nat) (taken : List UInt8) :
    ByteArray.toList.loop bytes i taken = taken.reverse ++ bytes.data.toList.drop i := by
  fun_induction ByteArray.toList.loop bytes i taken with
  | case1 i taken hi ih =>
    have hi' : i < bytes.data.toList.length := by simpa using hi
    have hget : bytes.get! i = bytes.data.toList[i] := by simp [ByteArray.get!, hi]
    rw [ih, List.drop_eq_getElem_cons hi', hget, List.reverse_cons, List.append_assoc,
      List.singleton_append]
  | case2 i taken hi =>
    have hnil : bytes.data.toList.drop i = [] :=
      List.drop_eq_nil_of_le (by simpa using Nat.le_of_not_lt hi)
    rw [hnil, List.append_nil]

/-- The bytes of a text are those of its characters. -/
theorem encode_ofList (cs : List Char) :
    encode (String.ofList cs) = cs.flatMap String.utf8EncodeChar := by
  have hlist : ∀ bytes : ByteArray, bytes.toList = bytes.data.toList := fun bytes => by
    rw [ByteArray.toList, toList_loop, List.reverse_nil, List.nil_append, List.drop_zero]
  unfold encode
  rw [String.toUTF8_eq_toByteArray, String.toByteArray_ofList, hlist, List.utf8Encode,
    List.toList_data_toByteArray]

/-! ## One character -/

/-- A first byte and the bounds of the second one, by the number of bytes that follow. -/
lemma secondByte_cases {n need low high : Nat} (h : secondByte n = some (need, low, high)) :
    need = 1 ∧ 0xc2 ≤ n ∧ n ≤ 0xdf ∧ low = 0x80 ∧ high = 0xbf ∨
      need = 2 ∧ 0xe0 ≤ n ∧ n ≤ 0xef ∧ 0x80 ≤ low ∧ high ≤ 0xbf ∧ (n = 0xe0 → 0xa0 ≤ low) ∧
        (n = 0xed → high ≤ 0x9f) ∨
      need = 3 ∧ 0xf0 ≤ n ∧ n ≤ 0xf4 ∧ 0x80 ≤ low ∧ high ≤ 0xbf ∧ (n = 0xf0 → 0x90 ≤ low) ∧
        (n = 0xf4 → high ≤ 0x8f) := by
  unfold secondByte at h
  simp only [Bool.and_eq_true, decide_eq_true_eq] at h
  repeat' split at h
  all_goals cases h
  all_goals omega

/-- A byte that continues a character is taken if the bytes behind it complete the character. -/
lemma takeContinuation_succ {value need low high n taken : Nat} {bytes : List UInt8}
    (h : takeContinuation value (need + 1) low high bytes = (some n, taken)) :
    ∃ b rest more, bytes = b :: rest ∧ low ≤ b.toNat ∧ b.toNat ≤ high ∧ taken = more + 1 ∧
      takeContinuation (value * 64 + b.toNat % 64) need 0x80 0xbf rest = (some n, more) := by
  cases bytes with
  | nil => cases h
  | cons b rest =>
    rw [takeContinuation] at h
    split at h
    · rename_i hbounds
      simp only [Bool.and_eq_true, decide_eq_true_eq] at hbounds
      cases hmore : takeContinuation (value * 64 + b.toNat % 64) need 0x80 0xbf rest with
      | mk result more =>
        rw [hmore] at h
        cases h
        exact ⟨b, rest, more, rfl, hbounds.1, hbounds.2, rfl, hmore⟩
    · cases h

/-- Nothing is taken when no byte is needed. -/
lemma takeContinuation_zero {value low high n taken : Nat} {bytes : List UInt8}
    (h : takeContinuation value 0 low high bytes = (some n, taken)) : n = value ∧ taken = 0 := by
  rw [takeContinuation] at h
  cases h
  exact ⟨rfl, rfl⟩

lemma toNat_val_ofNat {n : Nat} (h : n.isValidChar) : (Char.ofNat n).val.toNat = n := by
  unfold Char.ofNat
  rw [dif_pos h]
  rfl

lemma ofNat_eq {n : Nat} {b : UInt8} (h : n = b.toNat) : UInt8.ofNat n = b := by
  rw [h, UInt8.ofNat_toNat]

/-- A byte below 0x80 is a character. -/
lemma utf8EncodeChar_one {b : UInt8} (hb : b.toNat < 0x80) :
    String.utf8EncodeChar (Char.ofNat b.toNat) = [b] := by
  have hvalid : b.toNat.isValidChar := Or.inl (by omega)
  simp only [String.utf8EncodeChar, toNat_val_ofNat hvalid]
  rw [if_pos (by omega), ofNat_eq rfl]

/-- Two bytes that are a character. -/
lemma utf8EncodeChar_two {b b₁ : UInt8} (hb : 0xc2 ≤ b.toNat ∧ b.toNat ≤ 0xdf)
    (h₁ : 0x80 ≤ b₁.toNat ∧ b₁.toNat ≤ 0xbf) :
    String.utf8EncodeChar (Char.ofNat (b.toNat % 32 * 64 + b₁.toNat % 64)) = [b, b₁] := by
  have hvalid : (b.toNat % 32 * 64 + b₁.toNat % 64).isValidChar := Or.inl (by omega)
  simp only [String.utf8EncodeChar, toNat_val_ofNat hvalid]
  rw [if_neg (by omega), if_pos (by omega), ofNat_eq (b := b) (by omega),
    ofNat_eq (b := b₁) (by omega)]

/-- Three bytes that are a character: neither one that two bytes hold nor a surrogate. -/
lemma utf8EncodeChar_three {b b₁ b₂ : UInt8} (hb : 0xe0 ≤ b.toNat ∧ b.toNat ≤ 0xef)
    (h₁ : 0x80 ≤ b₁.toNat ∧ b₁.toNat ≤ 0xbf) (h₂ : 0x80 ≤ b₂.toNat ∧ b₂.toNat ≤ 0xbf)
    (hshort : b.toNat = 0xe0 → 0xa0 ≤ b₁.toNat) (hsurrogate : b.toNat = 0xed → b₁.toNat ≤ 0x9f) :
    String.utf8EncodeChar
      (Char.ofNat ((b.toNat % 16 * 64 + b₁.toNat % 64) * 64 + b₂.toNat % 64)) = [b, b₁, b₂] := by
  have hvalid : ((b.toNat % 16 * 64 + b₁.toNat % 64) * 64 + b₂.toNat % 64).isValidChar := by
    unfold Nat.isValidChar
    omega
  simp only [String.utf8EncodeChar, toNat_val_ofNat hvalid]
  rw [if_neg (by omega), if_neg (by omega), if_pos (by omega), ofNat_eq (b := b) (by omega),
    ofNat_eq (b := b₁) (by omega), ofNat_eq (b := b₂) (by omega)]

/-- Four bytes that are a character: neither one that three bytes hold nor beyond the last one. -/
lemma utf8EncodeChar_four {b b₁ b₂ b₃ : UInt8} (hb : 0xf0 ≤ b.toNat ∧ b.toNat ≤ 0xf4)
    (h₁ : 0x80 ≤ b₁.toNat ∧ b₁.toNat ≤ 0xbf) (h₂ : 0x80 ≤ b₂.toNat ∧ b₂.toNat ≤ 0xbf)
    (h₃ : 0x80 ≤ b₃.toNat ∧ b₃.toNat ≤ 0xbf) (hshort : b.toNat = 0xf0 → 0x90 ≤ b₁.toNat)
    (hlarge : b.toNat = 0xf4 → b₁.toNat ≤ 0x8f) :
    String.utf8EncodeChar (Char.ofNat
      (((b.toNat % 8 * 64 + b₁.toNat % 64) * 64 + b₂.toNat % 64) * 64 + b₃.toNat % 64)) =
        [b, b₁, b₂, b₃] := by
  have hvalid : (((b.toNat % 8 * 64 + b₁.toNat % 64) * 64 + b₂.toNat % 64) * 64 +
      b₃.toNat % 64).isValidChar := by
    unfold Nat.isValidChar
    omega
  simp only [String.utf8EncodeChar, toNat_val_ofNat hvalid]
  rw [if_neg (by omega), if_neg (by omega), if_neg (by omega), ofNat_eq (b := b) (by omega),
    ofNat_eq (b := b₁) (by omega), ofNat_eq (b := b₂) (by omega), ofNat_eq (b := b₃) (by omega)]

/-- The bytes of a character that is found at the front stand there. -/
lemma utf8EncodeChar_append_drop {b : UInt8} {rest : List UInt8} {c : Char} {taken : Nat}
    (h : first b rest = (some c, taken)) :
    String.utf8EncodeChar c ++ rest.drop taken = b :: rest := by
  unfold first at h
  dsimp only at h
  split at h
  · rename_i hsmall
    cases h
    rw [utf8EncodeChar_one hsmall]
    rfl
  · split at h
    · cases h
    · rename_i need low high hsecond
      cases hmore : takeContinuation (if need = 1 then b.toNat % 32
          else if need = 2 then b.toNat % 16 else b.toNat % 8) need low high rest with
      | mk result more =>
        rw [hmore] at h
        cases result with
        | none => cases h
        | some n =>
          cases h
          rcases secondByte_cases hsecond with ⟨rfl, h⟩ | ⟨rfl, h⟩ | ⟨rfl, h⟩
          · obtain ⟨b₁, _, _, rfl, hlow₁, hhigh₁, rfl, hmore₁⟩ := takeContinuation_succ hmore
            obtain ⟨rfl, rfl⟩ := takeContinuation_zero hmore₁
            rw [if_pos rfl, utf8EncodeChar_two (by omega) (by omega)]
            rfl
          · obtain ⟨b₁, _, _, rfl, hlow₁, hhigh₁, rfl, hmore₁⟩ := takeContinuation_succ hmore
            obtain ⟨b₂, _, _, rfl, hlow₂, hhigh₂, rfl, hmore₂⟩ := takeContinuation_succ hmore₁
            obtain ⟨rfl, rfl⟩ := takeContinuation_zero hmore₂
            rw [if_neg (by decide), if_pos rfl,
              utf8EncodeChar_three (by omega) (by omega) (by omega) (by omega) (by omega)]
            rfl
          · obtain ⟨b₁, _, _, rfl, hlow₁, hhigh₁, rfl, hmore₁⟩ := takeContinuation_succ hmore
            obtain ⟨b₂, _, _, rfl, hlow₂, hhigh₂, rfl, hmore₂⟩ := takeContinuation_succ hmore₁
            obtain ⟨b₃, _, _, rfl, hlow₃, hhigh₃, rfl, hmore₃⟩ := takeContinuation_succ hmore₂
            obtain ⟨rfl, rfl⟩ := takeContinuation_zero hmore₃
            rw [if_neg (by decide), if_neg (by decide), utf8EncodeChar_four (by omega) (by omega)
              (by omega) (by omega) (by omega) (by omega)]
            rfl

/-! ## One character at the front -/

lemma takeContinuation_cons {value need low high : Nat} {b : UInt8} (hlow : low ≤ b.toNat)
    (hhigh : b.toNat ≤ high) (rest : List UInt8) :
    takeContinuation value (need + 1) low high (b :: rest) =
      ((takeContinuation (value * 64 + b.toNat % 64) need 0x80 0xbf rest).1,
        (takeContinuation (value * 64 + b.toNat % 64) need 0x80 0xbf rest).2 + 1) := by
  rw [takeContinuation, if_pos (by simp [hlow, hhigh])]

/-- A last byte of a character. -/
lemma takeContinuation_last {value low high : Nat} {b : UInt8} (hlow : low ≤ b.toNat)
    (hhigh : b.toNat ≤ high) (rest : List UInt8) :
    takeContinuation value 1 low high (b :: rest) = (some (value * 64 + b.toNat % 64), 1) := by
  rw [takeContinuation_cons hlow hhigh, takeContinuation]

/-- The first byte of three, with a second byte behind it that its bounds admit. -/
lemma secondByte_three {n m : Nat} (hn : 0xe0 ≤ n ∧ n ≤ 0xef) (hm : 0x80 ≤ m ∧ m ≤ 0xbf)
    (hshort : n = 0xe0 → 0xa0 ≤ m) (hsurrogate : n = 0xed → m ≤ 0x9f) :
    ∃ low high, secondByte n = some (2, low, high) ∧ low ≤ m ∧ m ≤ high := by
  unfold secondByte
  simp only [Bool.and_eq_true, decide_eq_true_eq]
  repeat' split
  all_goals first
    | omega
    | exact ⟨_, _, rfl, by omega, by omega⟩

/-- The first byte of four, with a second byte behind it that its bounds admit. -/
lemma secondByte_four {n m : Nat} (hn : 0xf0 ≤ n ∧ n ≤ 0xf4) (hm : 0x80 ≤ m ∧ m ≤ 0xbf)
    (hshort : n = 0xf0 → 0x90 ≤ m) (hlarge : n = 0xf4 → m ≤ 0x8f) :
    ∃ low high, secondByte n = some (3, low, high) ∧ low ≤ m ∧ m ≤ high := by
  unfold secondByte
  simp only [Bool.and_eq_true, decide_eq_true_eq]
  repeat' split
  all_goals first
    | omega
    | exact ⟨_, _, rfl, by omega, by omega⟩

lemma first_one {b : UInt8} (hb : b.toNat < 0x80) (rest : List UInt8) :
    first b rest = (some (Char.ofNat b.toNat), 0) := by
  unfold first
  dsimp only
  rw [if_pos hb]

lemma first_two {b b₁ : UInt8} (hb : 0xc2 ≤ b.toNat ∧ b.toNat ≤ 0xdf)
    (h₁ : 0x80 ≤ b₁.toNat ∧ b₁.toNat ≤ 0xbf) (rest : List UInt8) :
    first b (b₁ :: rest) = (some (Char.ofNat (b.toNat % 32 * 64 + b₁.toNat % 64)), 1) := by
  have hsecond : secondByte b.toNat = some (1, 0x80, 0xbf) := by
    unfold secondByte
    rw [if_pos (by simpa using hb)]
  unfold first
  dsimp only
  rw [if_neg (by omega), hsecond]
  dsimp only
  rw [if_pos rfl, takeContinuation_last h₁.1 h₁.2]
  rfl

lemma first_three {b b₁ b₂ : UInt8} (hb : 0xe0 ≤ b.toNat ∧ b.toNat ≤ 0xef)
    (h₁ : 0x80 ≤ b₁.toNat ∧ b₁.toNat ≤ 0xbf) (h₂ : 0x80 ≤ b₂.toNat ∧ b₂.toNat ≤ 0xbf)
    (hshort : b.toNat = 0xe0 → 0xa0 ≤ b₁.toNat) (hsurrogate : b.toNat = 0xed → b₁.toNat ≤ 0x9f)
    (rest : List UInt8) :
    first b (b₁ :: b₂ :: rest) =
      (some (Char.ofNat ((b.toNat % 16 * 64 + b₁.toNat % 64) * 64 + b₂.toNat % 64)), 2) := by
  obtain ⟨low, high, hsecond, hlow, hhigh⟩ := secondByte_three hb h₁ hshort hsurrogate
  unfold first
  dsimp only
  rw [if_neg (by omega), hsecond]
  dsimp only
  rw [if_neg (by decide), if_pos rfl, takeContinuation_cons hlow hhigh,
    takeContinuation_last h₂.1 h₂.2]
  rfl

lemma first_four {b b₁ b₂ b₃ : UInt8} (hb : 0xf0 ≤ b.toNat ∧ b.toNat ≤ 0xf4)
    (h₁ : 0x80 ≤ b₁.toNat ∧ b₁.toNat ≤ 0xbf) (h₂ : 0x80 ≤ b₂.toNat ∧ b₂.toNat ≤ 0xbf)
    (h₃ : 0x80 ≤ b₃.toNat ∧ b₃.toNat ≤ 0xbf) (hshort : b.toNat = 0xf0 → 0x90 ≤ b₁.toNat)
    (hlarge : b.toNat = 0xf4 → b₁.toNat ≤ 0x8f) (rest : List UInt8) :
    first b (b₁ :: b₂ :: b₃ :: rest) = (some (Char.ofNat
      (((b.toNat % 8 * 64 + b₁.toNat % 64) * 64 + b₂.toNat % 64) * 64 + b₃.toNat % 64)), 3) := by
  obtain ⟨low, high, hsecond, hlow, hhigh⟩ := secondByte_four hb h₁ hshort hlarge
  unfold first
  dsimp only
  rw [if_neg (by omega), hsecond]
  dsimp only
  rw [if_neg (by decide), if_neg (by decide), takeContinuation_cons hlow hhigh,
    takeContinuation_cons h₂.1 h₂.2, takeContinuation_last h₃.1 h₃.2]
  rfl

lemma toNat_ofNat_of_lt {n : Nat} (h : n < 256) : (UInt8.ofNat n).toNat = n := by
  rw [UInt8.toNat_ofNat']
  omega

/-- The bytes of a character are taken for the character, whatever comes behind them. -/
lemma first_utf8EncodeChar (c : Char) (rest : List UInt8) :
    ∃ b tail, String.utf8EncodeChar c = b :: tail ∧
      first b (tail ++ rest) = (some c, tail.length) := by
  obtain ⟨v, hv⟩ : ∃ v, c.val.toNat = v := ⟨_, rfl⟩
  have hvalid : v < 0xd800 ∨ 0xdfff < v ∧ v < 0x110000 := hv ▸ c.valid
  have hc : ∀ {n}, n = v → Char.ofNat n = c := fun hn => by
    rw [hn, ← hv]
    exact Char.ofNat_toNat c
  unfold String.utf8EncodeChar
  rw [hv]
  dsimp only
  split
  · refine ⟨_, _, rfl, ?_⟩
    have hb := toNat_ofNat_of_lt (n := v) (by omega)
    rw [first_one (by omega), hb, hc rfl]
    rfl
  split
  · refine ⟨_, _, rfl, ?_⟩
    have hb := toNat_ofNat_of_lt (n := v / 64 % 32 + 192) (by omega)
    have h₁ := toNat_ofNat_of_lt (n := v % 64 + 128) (by omega)
    rw [List.cons_append, first_two (by omega) (by omega), hb, h₁, hc (by omega)]
    rfl
  split
  · refine ⟨_, _, rfl, ?_⟩
    have hb := toNat_ofNat_of_lt (n := v / 4096 % 16 + 224) (by omega)
    have h₁ := toNat_ofNat_of_lt (n := v / 64 % 64 + 128) (by omega)
    have h₂ := toNat_ofNat_of_lt (n := v % 64 + 128) (by omega)
    rw [List.cons_append, List.cons_append, first_three (by omega) (by omega) (by omega)
      (by omega) (by omega), hb, h₁, h₂, hc (by omega)]
    rfl
  · refine ⟨_, _, rfl, ?_⟩
    have hb := toNat_ofNat_of_lt (n := v / 262144 % 8 + 240) (by omega)
    have h₁ := toNat_ofNat_of_lt (n := v / 4096 % 64 + 128) (by omega)
    have h₂ := toNat_ofNat_of_lt (n := v / 64 % 64 + 128) (by omega)
    have h₃ := toNat_ofNat_of_lt (n := v % 64 + 128) (by omega)
    rw [List.cons_append, List.cons_append, List.cons_append, first_four (by omega) (by omega)
      (by omega) (by omega) (by omega) (by omega), hb, h₁, h₂, h₃, hc (by omega)]
    rfl

/-! ## Texts -/

/-- Bytes that belong to the character before are left out. -/
lemma pieces_eq_pieces_drop (skip : Nat) (bytes : List UInt8) :
    pieces skip bytes = pieces 0 (bytes.drop skip) := by
  induction bytes generalizing skip with
  | nil => rw [List.drop_nil, pieces, pieces]
  | cons b rest ih =>
    cases skip with
    | zero => rfl
    | succ skip => rw [pieces, ih, List.drop_succ_cons]

/-- Bytes that fall into characters are the bytes of these characters. -/
lemma flatMap_of_pieces {bytes : List UInt8} {cs : List Char} (h : pieces 0 bytes = cs.map .ok) :
    cs.flatMap String.utf8EncodeChar = bytes := by
  induction cs generalizing bytes with
  | nil =>
    cases bytes with
    | nil => rfl
    | cons b rest =>
      rw [pieces] at h
      split at h <;> cases h
  | cons c cs ih =>
    cases bytes with
    | nil => cases h
    | cons b rest =>
      rw [pieces, List.map_cons] at h
      split at h
      · rename_i c' taken hfirst
        rw [List.cons.injEq, pieces_eq_pieces_drop] at h
        obtain ⟨hc, hrest⟩ := h
        cases hc
        rw [List.flatMap_cons, ih hrest, utf8EncodeChar_append_drop hfirst]
      · cases h

/-- Bytes are UTF-8 if they fall into characters. -/
lemma decode?_eq_some_iff {bytes : List UInt8} {s : String} :
    decode? bytes = some s ↔ pieces 0 bytes = s.toList.map .ok := by
  unfold decode?
  rw [Option.map_eq_some_iff]
  constructor
  · rintro ⟨cs, hcs, rfl⟩
    rw [String.toList_ofList]
    exact mapM_toOption_eq_some_iff.mp hcs
  · intro h
    exact ⟨s.toList, mapM_toOption_eq_some_iff.mpr h, String.ofList_toList⟩

/-- Bytes that are UTF-8 are the bytes of their text. -/
theorem encode_of_decode? {bytes : List UInt8} {s : String} (h : decode? bytes = some s) :
    encode s = bytes := by
  have hchars := flatMap_of_pieces (decode?_eq_some_iff.mp h)
  rw [← encode_ofList, String.ofList_toList] at hchars
  exact hchars

lemma pieces_utf8EncodeChar_append (c : Char) (rest : List UInt8) :
    pieces 0 (String.utf8EncodeChar c ++ rest) = .ok c :: pieces 0 rest := by
  obtain ⟨b, tail, hbytes, hfirst⟩ := first_utf8EncodeChar c rest
  rw [hbytes, List.cons_append, pieces, hfirst]
  dsimp only
  rw [pieces_eq_pieces_drop, List.drop_left]

/-- The bytes of a text are UTF-8, and it is their text. -/
theorem decode?_encode (s : String) : decode? (encode s) = some s := by
  have hpieces : ∀ cs : List Char,
      pieces 0 (cs.flatMap String.utf8EncodeChar) = cs.map .ok := by
    intro cs
    induction cs with
    | nil => rfl
    | cons c cs ih => rw [List.flatMap_cons, pieces_utf8EncodeChar_append, ih, List.map_cons]
  rw [decode?_eq_some_iff, ← hpieces, ← encode_ofList, String.ofList_toList]

/-- Nothing is replaced in bytes that are UTF-8. -/
theorem decodeLossy_of_decode? {bytes : List UInt8} {s : String} (h : decode? bytes = some s) :
    decodeLossy bytes = s := by
  unfold decodeLossy
  rw [decode?_eq_some_iff.mp h, List.map_map]
  have hself : (fun piece : Except (List UInt8) Char => piece.toOption.getD '\ufffd') ∘ Except.ok =
      id := rfl
  rw [hself, List.map_id, String.ofList_toList]

end Utf8

/-- A path that is UTF-8 is the path that is written as what is shown of it. -/
theorem Path.ofString_display {p : Path} (h : p.text?.isSome = true) :
    Path.ofString p.display = p := by
  obtain ⟨s, hs⟩ := Option.isSome_iff_exists.mp h
  unfold Path.ofString Path.display
  rw [Utf8.decodeLossy_of_decode? hs, Utf8.encode_of_decode? hs]

end ConfigCheck
