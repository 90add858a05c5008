import ConfigCheck.Json.Printer
import ConfigCheck.Proofs.Decimal.Layout
import ConfigCheck.Proofs.Json.Ordered

/-!
# Texts of one line

The compact text of every value is one line (`Json.isOneLine_compact`): between quotes line ends are
escaped as all control characters are, and numbers have only digits, signs and marks.
-/

namespace ConfigCheck

/-- Whether a character does not end a line. -/
def keepsLine (c : Char) : Bool := c != '\n' && c != '\r'

/-- Whether a text is one line: neither a line feed nor a carriage return is in it. -/
def isOneLine (s : String) : Bool := s.toList.all keepsLine

lemma isOneLine_ofList (cs : List Char) : isOneLine (String.ofList cs) = cs.all keepsLine := by
  rw [isOneLine, String.toList_ofList]

/-- A text that is written out is one line if its characters are not line ends. -/
lemma isOneLine_of_all {cs : List Char} (h : cs.all keepsLine = true) :
    isOneLine (String.ofList cs) = true :=
  (isOneLine_ofList cs).trans h

lemma isOneLine_append (s t : String) : isOneLine (s ++ t) = (isOneLine s && isOneLine t) := by
  rw [isOneLine, String.toList_append, List.all_append]
  rfl

/-- Texts with one line between any two of them are one line exactly if each of them is. -/
lemma isOneLine_intercalate {separator : String} (h : isOneLine separator = true)
    (parts : List String) : isOneLine (separator.intercalate parts) = parts.all isOneLine := by
  induction parts with
  | nil => rfl
  | cons part rest ih =>
    cases rest with
    | nil => rw [String.intercalate_singleton, List.all_cons, List.all_nil, Bool.and_true]
    | cons next more =>
      rw [String.intercalate_cons_cons, isOneLine_append, isOneLine_append, h, ih, Bool.and_true]
      rfl

/-! ## Numbers -/

lemma keepsLine_of_isDigit {c : Char} (hc : c.isDigit = true) : keepsLine c = true := by
  have hne : ∀ d : Char, d.isDigit = false → (c != d) = true := by
    intro d hd
    rw [bne_iff_ne]
    rintro rfl
    rw [hc] at hd
    cases hd
  rw [keepsLine, hne '\n' rfl, hne '\r' rfl]
  rfl

lemma keepsLine_of_isDecimalChar {c : Char} (hc : isDecimalChar c = true) :
    keepsLine c = true := by
  rcases Bool.or_eq_true_iff.mp hc with hdigit | hmark
  · exact keepsLine_of_isDigit hdigit
  · have hall : ['-', '.', 'e'].all keepsLine = true := by decide
    exact List.all_eq_true.mp hall c (List.contains_iff_mem.mp hmark)

/-- The digits of a number are one line. -/
lemma all_keepsLine_toDigits (n : ℕ) : (Nat.toDigits 10 n).all keepsLine = true := by
  rw [List.all_eq_true]
  intro c hc
  exact keepsLine_of_isDigit (Nat.isDigit_of_mem_toDigits (by decide) (by decide) hc)

lemma isOneLine_toString (n : ℕ) : isOneLine (toString n) = true := by
  have hdigits : (toString n).toList = Nat.toDigits 10 n := Nat.toList_repr
  rw [isOneLine, hdigits, all_keepsLine_toDigits]

/-- Floating-point numbers are written in one line. -/
lemma Notation.isOneLine_write (n : Notation) (x : Binary64) : isOneLine (n.write x) = true := by
  rw [isOneLine, List.all_eq_true]
  intro c hc
  rcases isDecimalChar_of_mem_write n c hc with hdecimal | ⟨rfl, -⟩
  · exact keepsLine_of_isDecimalChar hdecimal
  · rfl

/-- Numbers are written in one line. -/
lemma Number.isOneLine_write (n : Notation) (number : Number) :
    isOneLine (number.write n) = true := by
  cases number with
  | int i =>
    cases i with
    | ofNat k => exact isOneLine_toString k
    | negSucc k =>
      have htext : (Number.int (.negSucc k)).write n = "-" ++ toString (k + 1) := rfl
      rw [htext, isOneLine_append, isOneLine_toString]
      rfl
  | float x => exact Notation.isOneLine_write n x

/-! ## Values -/

namespace Json

/-- What is written for a character inside a string does not end a line. -/
lemma all_keepsLine_escapeChar (c : Char) : (escapeChar c).all keepsLine = true := by
  have hcontrol : ∀ n < 32, (controlEscape (Char.ofNat n)).all keepsLine = true := by decide
  unfold escapeChar
  split
  case h_8 hfeed _ hreturn =>
    split
    · rename_i hlow
      rw [← Char.ofNat_toNat c]
      exact hcontrol c.toNat hlow
    · rw [List.all_cons, List.all_nil, Bool.and_true, keepsLine, Bool.and_eq_true, bne_iff_ne,
        bne_iff_ne]
      exact ⟨hfeed, hreturn⟩
  all_goals rfl

/-- Strings are written in one line. -/
lemma all_keepsLine_writeString (s : String) : (writeString s).all keepsLine = true := by
  rw [writeString, List.all_append, List.all_cons, List.all_flatMap]
  have hinside : (s.toList.all fun c => (escapeChar c).all keepsLine) = true :=
    List.all_eq_true.mpr fun c _ => all_keepsLine_escapeChar c
  rw [hinside]
  rfl

/-- Items are written in one line if each of them is. -/
lemma all_keepsLine_writeItems {items : List Json}
    (h : ∀ v ∈ items, v.write.all keepsLine = true) :
    (write.writeItems items).all keepsLine = true := by
  induction items with
  | nil => rfl
  | cons v rest ih =>
    rw [List.forall_mem_cons] at h
    have hrest := ih h.2
    cases rest with
    | nil =>
      rw [write.writeItems, List.all_append, h.1]
      rfl
    | cons next more =>
      rw [write.writeItems, List.all_append, List.all_cons, h.1, hrest]
      rfl

/-- Members are written in one line if the value of each of them is. -/
lemma all_keepsLine_writeMembers {members : List (String × Json)}
    (h : ∀ m ∈ members, m.2.write.all keepsLine = true) :
    (write.writeMembers members).all keepsLine = true := by
  induction members with
  | nil => rfl
  | cons m rest ih =>
    obtain ⟨name, v⟩ := m
    rw [List.forall_mem_cons] at h
    have hrest := ih h.2
    have hname := all_keepsLine_writeString name
    cases rest with
    | nil =>
      rw [write.writeMembers, List.all_append, List.all_append, List.all_cons, h.1, hname]
      rfl
    | cons next more =>
      rw [write.writeMembers, List.all_append, List.all_append, List.all_cons, List.all_cons, h.1,
        hname, hrest]
      rfl

/-- Values are written compactly in one line. -/
theorem all_keepsLine_write : (v : Json) → v.write.all keepsLine = true
  | .null | .bool true | .bool false => rfl
  | .number n => by
    have hnumber := Number.isOneLine_write .json n
    rw [write]
    · exact hnumber
    all_goals simp
  | .string s => by
    rw [write]
    · exact all_keepsLine_writeString s
    all_goals simp
  | .array items => by
    have hitems := all_keepsLine_writeItems fun v (hv : v ∈ items) => all_keepsLine_write v
    rw [write, List.all_append, List.all_cons, hitems]
    rfl
  | .object members => by
    have hmembers := all_keepsLine_writeMembers fun m (hm : m ∈ members) => all_keepsLine_write m.2
    rw [write, List.all_append, List.all_cons, hmembers]
    rfl
termination_by v => v.depth
decreasing_by
  · exact depth_lt_of_mem_array hv
  · exact depth_lt_of_mem_object hm

/-- The compact text of a value is one line. -/
theorem isOneLine_compact (v : Json) : isOneLine v.compact = true := by
  rw [compact, isOneLine_ofList, all_keepsLine_write]

end Json

end ConfigCheck
