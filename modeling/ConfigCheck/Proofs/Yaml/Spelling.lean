import ConfigCheck.Proofs.Decimal.Precision
import ConfigCheck.Proofs.Json.Nearest
import ConfigCheck.Proofs.Yaml.KeyText
import ConfigCheck.Proofs.Yaml.Meaning
import ConfigCheck.Proofs.Yaml.NumberText
import ConfigCheck.Proofs.Yaml.Regular
import ConfigCheck.Yaml.ToJson

/-!
# Spellings of scalars

The name of a boolean or a number is read back as it (`Yaml.resolvePlain_name`), so a plain scalar
keeps its spelling as a key exactly if the spelling is canonical (`Yaml.name_eq_iff`).  Decimals
with at most fifteen digits are canonical (`Yaml.isCanonical_writeDecimal`).
-/

namespace ConfigCheck.Yaml

open Json (Numeral natFrom)

/-! ## Names of scalars -/

/-- Whether a scalar means a boolean or a number. -/
def ScalarValue.isBoolOrNumber : ScalarValue → Bool
  | .bool _ => true
  | .number _ => true
  | _ => false

/-- The name that a scalar becomes as a key. -/
def ScalarValue.name : ScalarValue → String
  | .null => "null"
  | .bool b => toString b
  | .number n => writeNumber n
  | .string s => s

/-- A key that is a scalar becomes its name. -/
lemma keyText_toNode (v : ScalarValue) : v.toNode.keyText = .ok v.name := by
  cases v <;> rfl

/-! ## Canonical spellings -/

/-- The canonical spellings of booleans and numbers: small letters, decimal digits without a plus
sign, and the shortest digits that tell a floating-point number apart. -/
inductive IsCanonical : String → Prop
  /-- A boolean in small letters. -/
  | bool (b : Bool) : IsCanonical (toString b)
  /-- The decimal digits of an integer of 64 bits, with a minus sign if it is negative. -/
  | int {i : ℤ} (hlow : -2 ^ 63 ≤ i) (hhigh : i < 2 ^ 64) : IsCanonical (toString i)
  /-- A finite number that is not zero: of the decimals that round to it the one that comes before
  all others, with its sign. -/
  | decimal {x : Binary64} {d : Decimal} (hfinite : x.isFinite = true) (hzero : x.isZero = false)
      (h : x.IsShortest d) : IsCanonical (String.ofList
        ((if x.negative then ['-'] else []) ++ Notation.key.writeDecimal d))
  /-- The zeros of both signs, with a point. -/
  | zero (negative : Bool) : IsCanonical (if negative then "-0.0" else "0.0")
  /-- The infinities of both signs. -/
  | infinity (negative : Bool) : IsCanonical (if negative then "-.inf" else ".inf")
  /-- What is not a number. -/
  | nan : IsCanonical ".nan"

/-- The text of an integer of 64 bits means the integer. -/
lemma resolvePlain_toString_int {i : ℤ} (hlow : -2 ^ 63 ≤ i) (hhigh : i < 2 ^ 64) :
    resolvePlain (toString i) = .ok (.number (.int i)) := by
  let m : Numeral :=
    { negative := i < 0, whole := Nat.toDigits 10 i.natAbs, fraction := none, power := none
      whole_ne_nil := Nat.toDigits_ne_nil
      isDigit_whole := fun _ => Json.isDigit_of_mem_toDigits
      whole_eq_zero := fun h => by rw [Json.eq_zero_of_head?_toDigits h]; rfl
      fraction_ne_nil := nofun, isDigit_fraction := nofun }
  have htext : m.text = (toString i).toList := by
    have hwrite := toList_writeNumber_int i
    change (toString i).toList = _ at hwrite
    rw [hwrite]
    unfold Numeral.text Numeral.unsigned Numeral.tail
    simp [m]
  have hinteger : m.integer? = some i := by
    have hvalue : natFrom 0 m.whole = i.natAbs := Json.natFrom_toDigits i.natAbs
    have hwhole : m.isWhole = true := rfl
    unfold Numeral.integer?
    rw [hwhole, hvalue]
    dsimp only [m]
    by_cases hneg : i < 0
    · have hbounds : (decide (1 ≤ i.natAbs) && decide (i.natAbs ≤ 2 ^ 63)) = true := by
        rw [Bool.and_eq_true, decide_eq_true_iff, decide_eq_true_iff]
        omega
      simp only [hneg, decide_true, Bool.not_true, Bool.false_eq_true, if_false, hbounds, if_true]
      congr 1
      omega
    · have hlt : i.natAbs < 2 ^ 64 := by omega
      simp only [hneg, decide_false, Bool.not_false, Bool.not_true, Bool.false_eq_true, if_false,
        if_true, hlt]
      congr 1
      omega
  have hresolve := resolvePlain_text m
  rw [integer?_text_of_some m hinteger, htext, String.ofList_toList] at hresolve
  exact hresolve

/-- The text of a finite number means the number. -/
lemma resolvePlain_write {x : Binary64} (hfinite : x.isFinite = true) :
    resolvePlain (Notation.key.write x) = .ok (.number (.float x)) := by
  obtain ⟨m, htext, hwhole, hnearest⟩ := Notation.exists_numeral_write hfinite
  have hinteger : integer? m.text = none := by
    unfold integer?
    simp only [natural?_text, negative?_text, hwhole, Bool.and_false, Bool.false_eq_true, if_false]
  have hresolve := resolvePlain_text m
  rw [hinteger, hnearest, htext, String.ofList_toList] at hresolve
  exact hresolve

/-! ## What plain scalars mean -/

/-- A floating-point number that is written is finite, an infinity, or the one not-a-number. -/
lemma cases_of_float? {cs : List Char} {x : Binary64} (h : float? cs = some x) :
    x.isFinite = true ∨ x = .nan ∨ ∃ negative, x = .infinity negative := by
  unfold float? at h
  dsimp only at h
  split at h
  · cases h
  · split at h
    · cases h
      exact .inr (.inr ⟨_, rfl⟩)
    · split at h
      · cases h
        exact .inr (.inr ⟨_, rfl⟩)
      · split at h
        · cases h
          exact .inr (.inl rfl)
        · exact .inl (Option.filter_eq_some_iff.mp h).2

/-- A plain scalar means null, a boolean, an integer of 64 bits, a floating-point number that can be
written, or itself. -/
lemma cases_of_resolvePlain {s : String} {v : ScalarValue} (h : resolvePlain s = .ok v) :
    v = .null ∨ (∃ b, v = .bool b) ∨
      (∃ i, -2 ^ 63 ≤ i ∧ i < 2 ^ 64 ∧ v = .number (.int i)) ∨
      (∃ x, (x.isFinite = true ∨ x = .nan ∨ ∃ negative, x = .infinity negative) ∧
        v = .number (.float x)) ∨
      v = .string s ∧ isNull s = false := by
  unfold resolvePlain at h
  dsimp only at h
  split at h
  · cases h
    exact .inl rfl
  · rename_i hnull
    split at h
    · cases h
      exact .inr (.inl ⟨_, rfl⟩)
    · rename_i i _ hinteger
      cases h
      obtain ⟨hlow, hhigh⟩ := bounds_of_integer? hinteger
      exact .inr (.inr (.inl ⟨i, hlow, hhigh, rfl⟩))
    · cases h
    · split at h
      · rename_i x hfloat
        cases h
        refine .inr (.inr (.inr (.inl ⟨x, ?_, rfl⟩)))
        split at hfloat
        · cases hfloat
        · exact cases_of_float? hfloat
      · cases h
        rw [Bool.or_eq_true, not_or, Bool.not_eq_true] at hnull
        exact .inr (.inr (.inr (.inr ⟨rfl, Bool.eq_false_iff.mpr hnull.2⟩)))

variable {s : String} {v : ScalarValue}

/-- The text of a finite number is its name. -/
lemma writeNumber_of_isFinite {x : Binary64} (h : x.isFinite = true) :
    writeNumber (.float x) = Notation.key.write x := by
  rcases x.kind_cases with ⟨-, hnan, hinfinite⟩ | ⟨hnot, -⟩ | ⟨hnot, -⟩
  · unfold writeNumber
    simp only [hnan, hinfinite, Bool.false_eq_true, if_false]
  · rw [h] at hnot
    cases hnot
  · rw [h] at hnot
    cases hnot

/-- The text of a floating-point number that can be written means the number. -/
lemma resolvePlain_writeNumber_float {x : Binary64}
    (h : x.isFinite = true ∨ x = .nan ∨ ∃ negative, x = .infinity negative) :
    resolvePlain (writeNumber (.float x)) = .ok (.number (.float x)) := by
  rcases h with hfinite | rfl | ⟨negative, rfl⟩
  · rw [writeNumber_of_isFinite hfinite]
    exact resolvePlain_write hfinite
  · decide
  · cases negative <;> decide

/-- The name of a boolean or a number, as a plain scalar, means the boolean or the number. -/
theorem resolvePlain_name (h : resolvePlain s = .ok v) (hv : v.isBoolOrNumber = true) :
    resolvePlain v.name = .ok v := by
  rcases cases_of_resolvePlain h with
    rfl | ⟨b, rfl⟩ | ⟨i, hlow, hhigh, rfl⟩ | ⟨x, hx, rfl⟩ | ⟨rfl, -⟩
  · cases hv
  · cases b <;> decide
  · exact resolvePlain_toString_int hlow hhigh
  · exact resolvePlain_writeNumber_float hx
  · cases hv

/-- The text of a finite number that is not zero is its sign and its shortest decimal. -/
lemma writeNumber_of_not_isZero {x : Binary64} (hfinite : x.isFinite = true)
    (hzero : x.isZero = false) : writeNumber (.float x) = String.ofList
      ((if x.negative then ['-'] else []) ++ Notation.key.writeDecimal x.shortest) := by
  rw [writeNumber_of_isFinite hfinite]
  unfold Notation.write
  rw [hzero]
  rfl

/-- The text of a floating-point number is canonical. -/
lemma isCanonical_writeNumber_float (x : Binary64) : IsCanonical (writeNumber (.float x)) := by
  rcases x.kind_cases with ⟨hfinite, -⟩ | ⟨-, hnan, hinfinite⟩ | ⟨-, hnan, -⟩
  · cases hzero : x.isZero with
    | false =>
      rw [writeNumber_of_not_isZero hfinite hzero]
      exact .decimal hfinite hzero (Binary64.isShortest_shortest hzero)
    | true =>
      have htext : Notation.key.write x = if x.negative then "-0.0" else "0.0" := by
        unfold Notation.write
        rw [hzero]
        cases x.negative <;> rfl
      rw [writeNumber_of_isFinite hfinite, htext]
      exact .zero _
  · unfold writeNumber
    simp only [hnan, hinfinite, Bool.false_eq_true, if_false, if_true]
    exact .infinity _
  · unfold writeNumber
    simp only [hnan, if_true]
    exact .nan

/-- A canonical spelling is that of its meaning. -/
lemma IsCanonical.exists_resolvePlain (h : IsCanonical s) :
    ∃ v, resolvePlain s = .ok v ∧ v.name = s := by
  cases h with
  | bool b => exact ⟨.bool b, by cases b <;> decide, rfl⟩
  | @int i hlow hhigh => exact ⟨.number (.int i), resolvePlain_toString_int hlow hhigh, rfl⟩
  | @decimal x d hfinite hzero h =>
    obtain rfl := (Binary64.eq_shortest_iff hzero).mpr h
    rw [← writeNumber_of_not_isZero hfinite hzero]
    exact ⟨.number (.float x), resolvePlain_writeNumber_float (.inl hfinite), rfl⟩
  | zero negative =>
    refine ⟨.number (.float (.zero negative)), ?_, ?_⟩
    · cases negative <;> decide
    · cases negative <;> decide
  | infinity negative =>
    refine ⟨.number (.float (.infinity negative)), ?_, ?_⟩
    · cases negative <;> decide
    · cases negative <;> decide
  | nan => exact ⟨.number (.float .nan), by decide, by decide⟩

/-- Decimals with at most fifteen digits are canonical as they stand, if they do not end in zero and
are neither too large nor too small. -/
theorem isCanonical_writeDecimal (negative : Bool) {d : Decimal} (hd : d.IsNormal)
    (hlast : d.digits.getLast? ≠ some '0') (hlength : d.digits.length ≤ 15)
    (hmin : (10 : ℚ) ^ (-307 : ℤ) ≤ d.value) (hmax : d.value < 10 ^ (308 : ℤ)) :
    IsCanonical (String.ofList
      ((if negative then ['-'] else []) ++ Notation.key.writeDecimal d)) := by
  obtain ⟨x, hfinite, hzero, hsign, hshortest⟩ :=
    Binary64.exists_isShortest negative hd hlast hlength hmin hmax
  rw [← hsign]
  exact .decimal hfinite hzero hshortest

/-- The name of a boolean or a number is its spelling exactly if that is canonical. -/
theorem name_eq_iff (h : resolvePlain s = .ok v) (hv : v.isBoolOrNumber = true) :
    v.name = s ↔ IsCanonical s := by
  constructor
  · intro hname
    rw [← hname]
    rcases cases_of_resolvePlain h with
      rfl | ⟨b, rfl⟩ | ⟨i, hlow, hhigh, rfl⟩ | ⟨x, -, rfl⟩ | ⟨rfl, -⟩
    · cases hv
    · exact .bool b
    · exact .int hlow hhigh
    · exact isCanonical_writeNumber_float x
    · cases hv
  · intro hcanonical
    obtain ⟨w, hw, hname⟩ := hcanonical.exists_resolvePlain
    rw [h] at hw
    cases hw
    exact hname

/-- Null alone becomes `null`. -/
theorem name_eq_null_iff (h : resolvePlain s = .ok v) : v.name = "null" ↔ v = .null := by
  constructor
  · intro hname
    rcases cases_of_resolvePlain h with
      rfl | ⟨b, rfl⟩ | ⟨i, -, -, rfl⟩ | ⟨x, -, rfl⟩ | ⟨rfl, hnull⟩
    · rfl
    · exact absurd hname (Node.toString_bool_ne_null b)
    · exact absurd hname (Node.writeNumber_ne_null (.int i))
    · exact absurd hname (Node.writeNumber_ne_null (.float x))
    · rw [show s = "null" from hname] at hnull
      cases hnull
  · rintro rfl
    rfl

end ConfigCheck.Yaml
