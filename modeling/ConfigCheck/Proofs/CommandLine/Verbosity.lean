import ConfigCheck.Proofs.Check.Origin
import ConfigCheck.Proofs.CommandLine.Verdict

/-!
# Verbosity

A flag that shows more of the log changes nothing else.  Reading the command line with more of these
flags, each reading stays ahead of the other one by that many (`CommandLine.Reading.Louder`), except
that a flag takes over a value that is still pending in the other reading
(`CommandLine.Reading.Echoes`).  So a command line with such flags put in anywhere
(`CommandLine.AddsVerbose`) is accepted with the same settings up to the verbosity, and the check
only shows more lines of its one log (`CommandLine.run_addsVerbose`).
-/

namespace ConfigCheck

namespace Log

variable {log : List Record}

/-- No level has a threshold above 2. -/
lemma Level.threshold_le (level : Level) : level.threshold ≤ 2 := by
  cases level <;> decide

/-- From 2 on, more verbosity shows nothing more. -/
lemma lines_congr {m n : Nat} (h : min 2 m = min 2 n) : lines m log = lines n log := by
  have hshown : Record.shownAt m = Record.shownAt n := by
    funext r
    have := r.level.threshold_le
    exact decide_eq_decide.mpr (by omega)
  rw [lines, lines, hshown]

/-- More verbosity leaves out fewer lines. -/
lemma lines_sublist {m n : Nat} (h : m ≤ n) : (lines m log).Sublist (lines n log) := by
  refine List.Sublist.map _ (List.monotone_filter_right log fun r hr => ?_)
  exact decide_eq_true ((of_decide_eq_true hr).trans h)

end Log

namespace CommandLine

/-! ## Settings -/

namespace Settings

/-- The settings that show more of the log, up to the limit, as often as said. -/
def louderBy (n : Nat) (s : Settings) : Settings :=
  { s with verbosity := min countLimit (s.verbosity + n) }

lemma louder_louderBy (n : Nat) (s : Settings) : (s.louderBy n).louder = s.louderBy (n + 1) := by
  simp only [louderBy, louder]
  congr 1
  omega

lemma louderBy_louder (n : Nat) (s : Settings) : s.louder.louderBy n = s.louderBy (n + 1) := by
  simp only [louderBy, louder]
  congr 1
  omega

/-- The verbosity does not count for what values flags take. -/
lemma assign?_louderBy (n : Nat) (s : Settings) (flag : Flag) (value : String) :
    (s.louderBy n).assign? flag value = (s.assign? flag value).map (louderBy n) := by
  cases flag with
  | schema | target =>
    unfold assign?
    split_ifs <;> rfl
  | format =>
    unfold assign?
    dsimp only
    cases OutputFormat.ofName? value <;> rfl
  | verbose | help | version => rfl

/-- The flag that shows more of the log takes no value. -/
lemma assign?_verbose (s : Settings) (value : String) : s.assign? .verbose value = none := rfl

end Settings

/-! ## Readings -/

namespace Reading

variable {r r₁ r₂ r' r₂' : Reading} {n : Nat}

/-- The reading after a flag without a value that does not end it. -/
def counting (r : Reading) (flag : Flag) : Reading :=
  { r with settings := r.settings.louder, used := r.used.erase flag ++ [flag] }

/-- A reading is ahead of another one by this many flags that show more of the log, and the same
otherwise. -/
structure Louder (n : Nat) (r r' : Reading) : Prop where
  settings : r'.settings = r.settings.louderBy n
  used : ∀ flag, flag ≠ .verbose → (flag ∈ r'.used ↔ flag ∈ r.used)
  pending : r'.pending = r.pending

lemma Louder.zero : Louder 0 {} {} where
  settings := rfl
  used _ _ := Iff.rfl
  pending := rfl

namespace Louder

/-- Both readings take over a value, or neither does. -/
lemma agree_store (h : Louder n r r') (flag : Flag) (value : String) :
    Agree (Louder n) (orStop (r.store flag value)) (orStop (r'.store flag value)) := by
  by_cases hverbose : flag = .verbose
  · subst hverbose
    unfold store
    simp only [Settings.assign?_verbose]
    split_ifs <;> exact .error _ _
  · unfold store
    simp only [h.used flag hverbose, h.settings, Settings.assign?_louderBy]
    by_cases hused : flag ∈ r.used
    · rw [if_pos hused, if_pos hused]
      exact .error _ _
    · rw [if_neg hused, if_neg hused]
      cases r.settings.assign? flag value with
      | none => exact .error _ _
      | some settings =>
        refine .ok ⟨rfl, fun other hother => ?_, h.pending⟩
        simp only [List.mem_append, h.used other hother]

/-- Both readings take over what is pending, or neither does. -/
lemma agree_settle (h : Louder n r r') :
    Agree (Louder n) (orStop r.settle) (orStop r'.settle) := by
  have hsettled : Louder n { r with pending := none } { r' with pending := none } :=
    ⟨h.settings, h.used, rfl⟩
  unfold settle
  rw [h.pending]
  match r.pending with
  | none => exact .ok hsettled
  | some (flag, none) => exact .error _ _
  | some (flag, some value) => exact hsettled.agree_store flag value

/-- Both readings read a flag without a value, or neither does. -/
lemma agree_readPlain (h : Louder n r r') (flag : Flag) (long : Bool) :
    Agree (Louder n) (r.readPlain flag long) (r'.readPlain flag long) := by
  refine h.agree_settle.bind fun a a' ha => ?_
  have hread : Louder n (a.counting flag) (a'.counting flag) := by
    refine ⟨?_, fun other hother => ?_, ha.pending⟩
    · rw [counting, counting, ha.settings, Settings.louder_louderBy, Settings.louderBy_louder]
    · by_cases heq : other = flag
      · simp [counting, heq]
      · simp only [counting, List.mem_append, List.mem_erase_of_ne heq, ha.used other hother]
  cases flag with
  | help | version => exact .error _ _
  | verbose | schema | target | format => exact .ok hread

/-- One reading reads one flag more. -/
lemma succ (h : Louder n r r') : Louder (n + 1) r (r'.counting .verbose) := by
  refine ⟨?_, fun flag hflag => ?_, h.pending⟩
  · rw [counting, h.settings, Settings.louder_louderBy]
  · simp only [counting, List.mem_append, List.mem_singleton, hflag, or_false,
      List.mem_erase_of_ne hflag, h.used flag hflag]

/-- Both readings read a flag with a value, or neither does. -/
lemma agree_readValued (h : Louder n r r') (flag : Flag) (attached : Option String) :
    Agree (Louder n) (r.readValued flag attached) (r'.readValued flag attached) := by
  refine h.agree_settle.bind fun a a' ha => ?_
  cases attached with
  | some value => exact ha.agree_store flag value
  | none => exact .ok ⟨ha.settings, ha.used, rfl⟩

/-- Both readings read what stands behind two dashes, or neither does. -/
lemma agree_readLong (h : Louder n r r') (body : List Char) :
    Agree (Louder n) (r.readLong body) (r'.readLong body) := by
  unfold readLong
  dsimp only
  cases Flag.ofLong? (String.ofList (body.takeWhile (· != '='))) with
  | none => exact .error _ _
  | some flag =>
    dsimp only
    split_ifs
    · exact h.agree_readValued flag _
    · split
      · exact h.agree_readPlain flag true
      · exact .error _ _

/-- Both readings read letters, or neither does. -/
lemma agree_readShort (h : Louder n r r') (letters : List Char) :
    Agree (Louder n) (r.readShort letters) (r'.readShort letters) := by
  induction letters generalizing r r' with
  | nil => exact .ok h
  | cons letter rest ih =>
    unfold readShort
    cases Flag.ofShort? letter with
    | none => exact .error _ _
    | some flag =>
      dsimp only
      split_ifs
      · split <;> exact h.agree_readValued flag _
      · exact (h.agree_readPlain flag false).bind fun _ _ ha => ih ha

/-- Both readings read a word, or neither does. -/
lemma agree_readWord (h : Louder n r r') (word : String) :
    Agree (Louder n) (r.readWord word) (r'.readWord word) := by
  unfold readWord
  rw [h.pending]
  split
  · exact .ok ⟨h.settings, h.used, rfl⟩
  · exact .error _ _

/-- Both readings read an argument, or neither does. -/
lemma agree_readArgument (h : Louder n r r') (argument : String) :
    Agree (Louder n) (r.readArgument argument) (r'.readArgument argument) := by
  unfold readArgument
  split
  · exact h.agree_readLong _
  · exact h.agree_readWord argument
  · exact h.agree_readShort _
  · exact h.agree_readWord argument

/-- Both readings read all arguments, or neither does. -/
lemma agree_readAll (h : Louder n r r') (arguments : List String) :
    Agree (Louder n) (r.readAll arguments) (r'.readAll arguments) := by
  induction arguments generalizing r r' with
  | nil => exact h.agree_settle
  | cons argument rest ih =>
    unfold readAll
    split_ifs
    · cases rest with
      | nil => exact h.agree_settle
      | cons word rest => exact .error _ _
    · exact (h.agree_readArgument argument).bind fun _ _ ha => ih ha

end Louder

/-! ## Pending values -/

/-- Taking over a value leaves alone what is pending. -/
lemma pending_of_store {flag : Flag} {value : String}
    (h : orStop (r.store flag value) = .ok r₁) : r₁.pending = r.pending := by
  unfold store at h
  by_cases hused : flag ∈ r.used
  · rw [if_pos hused] at h
    cases h
  · rw [if_neg hused] at h
    dsimp only at h
    cases hassign : r.settings.assign? flag value with
    | none =>
      rw [hassign] at h
      cases h
    | some settings =>
      rw [hassign] at h
      cases h
      rfl

/-- Where what is pending has been taken over, nothing is pending. -/
lemma pending_of_settle (h : orStop r.settle = .ok r₁) : r₁.pending = none := by
  unfold settle at h
  match hpending : r.pending with
  | none =>
    rw [hpending] at h
    cases h
    rfl
  | some (flag, none) =>
    rw [hpending] at h
    cases h
  | some (flag, some value) =>
    rw [hpending] at h
    exact pending_of_store h

/-- Where nothing is pending, nothing is taken over. -/
lemma settle_of_pending (h : r.pending = none) : orStop r.settle = .ok r := by
  obtain ⟨settings, used, pending⟩ := r
  cases h
  rfl

/-- Taking over what is pending twice is the same as once. -/
lemma settle_settle (h : orStop r.settle = .ok r₁) : orStop r₁.settle = orStop r.settle := by
  rw [h, settle_of_pending (pending_of_settle h)]

lemma readPlain_settle (h : orStop r.settle = .ok r₁) (flag : Flag) (long : Bool) :
    r₁.readPlain flag long = r.readPlain flag long := by
  unfold readPlain
  rw [settle_settle h]

lemma readValued_settle (h : orStop r.settle = .ok r₁) (flag : Flag) (attached : Option String) :
    r₁.readValued flag attached = r.readValued flag attached := by
  unfold readValued
  rw [settle_settle h]

lemma agree_readWord_settle (h : orStop r.settle = .ok r₁) (word : String) :
    Agree (· = ·) (r.readWord word) (r₁.readWord word) := by
  -- A flag that still waits for its value cannot be taken over, so `r` does not wait either.
  have hword : r₁.readWord word = .error (.wrong (.unknownArgument word none [])) := by
    unfold readWord
    rw [pending_of_settle h]
  rw [hword]
  unfold readWord
  split
  · rename_i flag hpending
    unfold settle at h
    rw [hpending] at h
    cases h
  · exact .error _ _

/-- A value that is pending may be taken over before the next argument is read. -/
lemma agree_readArgument_settle (h : orStop r.settle = .ok r₁) (argument : String) :
    Agree (· = ·) (r.readArgument argument) (r₁.readArgument argument) := by
  -- Every flag takes over what is pending by itself; only the errors show which flags were used.
  unfold readArgument
  split
  · rename_i body _
    unfold readLong
    dsimp only
    cases Flag.ofLong? (String.ofList (body.takeWhile (· != '='))) with
    | none => exact .error _ _
    | some flag =>
      dsimp only
      rw [readValued_settle h, readPlain_settle h]
      split_ifs
      · exact .refl _
      · split
        · exact .refl _
        · exact .error _ _
  · exact agree_readWord_settle h argument
  · rename_i letters _ hletters _
    cases letters with
    | nil => exact absurd rfl (hletters ·)
    | cons letter rest =>
      unfold readShort
      simp only [readValued_settle h, readPlain_settle h]
      exact .refl _
  · exact agree_readWord_settle h argument

/-! ## More flags -/

/-- Behind one dash stand letters. -/
lemma readArgument_dash (r : Reading) {first : Char} (hfirst : first ≠ '-') (rest : List Char) :
    r.readArgument (String.ofList ('-' :: first :: rest)) = r.readShort (first :: rest) := by
  unfold readArgument
  rw [String.toList_ofList]
  split
  · rename_i hdashes
    cases hdashes
    exact absurd rfl hfirst
  · rename_i hdash
    cases hdash
  · rename_i letters _ _ hletters
    cases hletters
    rfl
  · rename_i _ hletters
    exact absurd rfl (hletters _)

/-- Letters behind one dash are not the end of the flags. -/
lemma dash_ne_dashes {first : Char} (hfirst : first ≠ '-') (rest : List Char) :
    String.ofList ('-' :: first :: rest) ≠ "--" := by
  intro h
  have hchars := congrArg String.toList h
  rw [String.toList_ofList] at hchars
  exact hfirst (List.cons.inj (List.cons.inj hchars).2).1

/-- Letters that show more of the log in front of letters are letters. -/
lemma exists_letters (k : Nat) {first : Char} (hfirst : first ≠ '-') (rest : List Char) :
    ∃ first' rest', List.replicate k 'v' ++ first :: rest = first' :: rest' ∧ first' ≠ '-' := by
  cases k with
  | zero => exact ⟨first, rest, rfl, hfirst⟩
  | succ k => exact ⟨'v', List.replicate k 'v' ++ first :: rest, rfl, by decide⟩

/-- An argument is read before the others. -/
lemma readAll_cons (r : Reading) {argument : String} (h : argument ≠ "--") (rest : List String) :
    r.readAll (argument :: rest) = r.readArgument argument >>= fun r => r.readAll rest := by
  conv_lhs => unfold readAll
  rw [if_neg h]

/-- Nothing is accepted behind two dashes. -/
lemma settle_of_readAll {rest : List String} (h : r.readAll ("--" :: rest) = .ok r₁) :
    rest = [] ∧ orStop r.settle = .ok r₁ := by
  unfold readAll at h
  rw [if_pos rfl] at h
  cases rest with
  | nil => exact ⟨rfl, h⟩
  | cons word rest => cases h

/-- The long flag is read as such. -/
lemma readArgument_verbose (r : Reading) : r.readArgument "--verbose" = r.readPlain .verbose true :=
  rfl

/-- A reading echoes another one, which is ahead of it by this many flags, maybe after taking over
what is pending. -/
def Echoes (n : Nat) (r r' : Reading) : Prop :=
  ∃ r₁, (r₁ = r ∨ orStop r.settle = .ok r₁) ∧ Louder n r₁ r'

namespace Echoes

/-- At the end of the command line both readings take over what is pending. -/
lemma settle (h : Echoes n r r') (hr : orStop r.settle = .ok r₂)
    (hr' : orStop r'.settle = .ok r₂') : Louder n r₂ r₂' := by
  obtain ⟨r₁, hr₁, hahead⟩ := h
  have hsettle : orStop r₁.settle = .ok r₂ := by
    rcases hr₁ with rfl | hr₁
    · exact hr
    · rw [settle_settle hr₁, hr]
  obtain ⟨a', ha', hahead⟩ := hahead.agree_settle.exists_of_left hsettle
  cases ha'.symm.trans hr'
  exact hahead

/-- Both readings read the same argument. -/
lemma readArgument (h : Echoes n r r') {argument : String}
    (hr : r.readArgument argument = .ok r₂) (hr' : r'.readArgument argument = .ok r₂') :
    Echoes n r₂ r₂' := by
  obtain ⟨r₁, hr₁, hahead⟩ := h
  have hread : r₁.readArgument argument = .ok r₂ := by
    rcases hr₁ with rfl | hr₁
    · exact hr
    · obtain ⟨a, ha, rfl⟩ := (agree_readArgument_settle hr₁ argument).exists_of_left hr
      exact ha
  obtain ⟨a', ha', hahead⟩ := (hahead.agree_readArgument argument).exists_of_left hread
  cases ha'.symm.trans hr'
  exact ⟨r₂, .inl rfl, hahead⟩

/-- One reading reads one flag more, and takes over what is pending. -/
lemma readPlain (h : Echoes n r r') {long : Bool} (hr' : r'.readPlain .verbose long = .ok r₂') :
    Echoes (n + 1) r r₂' := by
  obtain ⟨a', ha', hr'⟩ := bind_eq_ok_iff.mp hr'
  cases hr'
  obtain ⟨r₁, hr₁, hahead⟩ := h
  obtain ⟨a, ha, hahead⟩ := hahead.agree_settle.exists_of_right ha'
  have hsettle : orStop r.settle = .ok a := by
    rcases hr₁ with rfl | hr₁
    · exact ha
    · rw [← settle_settle hr₁, ha]
  exact ⟨a, .inr hsettle, hahead.succ⟩

/-- One reading reads letters more in front of other letters. -/
lemma readShort (h : Echoes n r r') {k : Nat} {rest : List Char}
    (hr' : r'.readShort (List.replicate k 'v' ++ rest) = .ok r₂') :
    ∃ r₁', Echoes (n + k) r r₁' ∧ r₁'.readShort rest = .ok r₂' := by
  induction k generalizing n r' with
  | zero => exact ⟨r', h, hr'⟩
  | succ k ih =>
    obtain ⟨a', ha', hr'⟩ := bind_eq_ok_iff.mp hr'
    obtain ⟨r₁', hr₁', hrest⟩ := ih (h.readPlain ha') hr'
    exact ⟨r₁', Nat.succ_add_eq_add_succ n k ▸ hr₁', hrest⟩

end Echoes

end Reading

/-! ## Command lines -/

open Reading

/-- A command line comes from another one by putting in this many flags that show more of the log:
arguments of their own, long or as letters, or letters in front of the letters of an argument. -/
inductive AddsVerbose : List String → Nat → List String → Prop
  /-- Nothing is put into nothing. -/
  | nil : AddsVerbose [] 0 []
  /-- An argument stays as it is. -/
  | keep {arguments louder : List String} {n : Nat} (argument : String)
      (h : AddsVerbose arguments n louder) :
      AddsVerbose (argument :: arguments) n (argument :: louder)
  /-- The long flag is an argument of its own. -/
  | long {arguments louder : List String} {n : Nat} (h : AddsVerbose arguments n louder) :
      AddsVerbose arguments (n + 1) ("--verbose" :: louder)
  /-- Letters are an argument of their own. -/
  | short {arguments louder : List String} {n : Nat} (k : Nat)
      (h : AddsVerbose arguments n louder) :
      AddsVerbose arguments (n + (k + 1))
        (String.ofList ('-' :: List.replicate (k + 1) 'v') :: louder)
  /-- Letters come in front of the letters of an argument. -/
  | among {arguments louder : List String} {n : Nat} (k : Nat) {first : Char} (rest : List Char)
      (hfirst : first ≠ '-') (h : AddsVerbose arguments n louder) :
      AddsVerbose (String.ofList ('-' :: first :: rest) :: arguments) (n + k)
        (String.ofList ('-' :: (List.replicate k 'v' ++ first :: rest)) :: louder)

namespace AddsVerbose

variable {arguments louder : List String} {n : Nat}

/-- Flags in front of all arguments are put in. -/
lemma replicate (arguments : List String) (n : Nat) :
    AddsVerbose arguments n (List.replicate n "-v" ++ arguments) := by
  induction n with
  | zero =>
    induction arguments with
    | nil => exact .nil
    | cons argument rest ih => exact .keep argument ih
  | succ n ih => exact .short 0 ih

/-- What two readings have read is as far apart as they have been, and the flags that one of them
has read besides. -/
lemma louder_readAll (h : AddsVerbose arguments n louder) {m : Nat} {r r' r₂ r₂' : Reading}
    (hr : Echoes m r r') (harguments : r.readAll arguments = .ok r₂)
    (hlouder : r'.readAll louder = .ok r₂') : Louder (m + n) r₂ r₂' := by
  -- Along the flags that are put in, the second reading is ahead by those met so far.
  induction h generalizing m r r' with
  | nil => exact hr.settle harguments hlouder
  | @keep arguments louder n argument hadds ih =>
    by_cases hend : argument = "--"
    · subst hend
      obtain ⟨-, hsettle⟩ := settle_of_readAll harguments
      obtain ⟨rfl, hsettle'⟩ := settle_of_readAll hlouder
      cases hadds
      exact hr.settle hsettle hsettle'
    · rw [readAll_cons _ hend] at harguments hlouder
      obtain ⟨r₁, hr₁, harguments⟩ := bind_eq_ok_iff.mp harguments
      obtain ⟨r₁', hr₁', hlouder⟩ := bind_eq_ok_iff.mp hlouder
      exact ih (hr.readArgument hr₁ hr₁') harguments hlouder
  | @long arguments louder n _ ih =>
    rw [readAll_cons _ (by decide), readArgument_verbose] at hlouder
    obtain ⟨r₁', hr₁', hlouder⟩ := bind_eq_ok_iff.mp hlouder
    rw [← Nat.succ_add_eq_add_succ]
    exact ih (hr.readPlain hr₁') harguments hlouder
  | @short arguments louder n k _ ih =>
    rw [List.replicate_succ, readAll_cons _ (dash_ne_dashes (by decide) _),
      readArgument_dash _ (by decide), ← List.replicate_succ,
      ← List.append_nil (List.replicate _ _)] at hlouder
    obtain ⟨r₁', hr₁', hlouder⟩ := bind_eq_ok_iff.mp hlouder
    obtain ⟨a', ha', hnone⟩ := hr.readShort hr₁'
    cases hnone
    rw [Nat.add_comm n, ← Nat.add_assoc]
    exact ih ha' harguments hlouder
  | @among arguments louder n k first rest hfirst _ ih =>
    obtain ⟨first', rest', hletters, hfirst'⟩ := exists_letters k hfirst rest
    rw [readAll_cons _ (dash_ne_dashes hfirst _)] at harguments
    rw [hletters, readAll_cons _ (dash_ne_dashes hfirst' _), readArgument_dash _ hfirst',
      ← hletters] at hlouder
    obtain ⟨r₁, hr₁, harguments⟩ := bind_eq_ok_iff.mp harguments
    obtain ⟨r₁', hr₁', hlouder⟩ := bind_eq_ok_iff.mp hlouder
    obtain ⟨a', ha', hread⟩ := hr.readShort hr₁'
    rw [← readArgument_dash _ hfirst] at hread
    rw [Nat.add_comm n, ← Nat.add_assoc]
    exact ih (ha'.readArgument hr₁ hread) harguments hlouder

end AddsVerbose

/-- Both readings read all arguments, or neither does, if one of them reads flags in front. -/
lemma Reading.Louder.agree_replicate {m : Nat} {r r' : Reading} (h : Louder m r r')
    (hpending : r.pending = none) (n : Nat) (arguments : List String) :
    Agree (Louder (m + n)) (r.readAll arguments)
      (r'.readAll (List.replicate n "-v" ++ arguments)) := by
  induction n generalizing m r' with
  | zero => exact h.agree_readAll arguments
  | succ n ih =>
    have hread : r'.readArgument "-v" = .ok (r'.counting .verbose) := by
      have hplain : r'.readArgument "-v" = r'.readPlain .verbose false >>= .ok := rfl
      rw [hplain, readPlain, settle_of_pending (h.pending.trans hpending)]
      rfl
    rw [List.replicate_succ, List.cons_append, readAll_cons _ (by decide), hread,
      ← Nat.succ_add_eq_add_succ]
    exact ih h.succ

variable {arguments louder : List String} {s s' : Settings} {n : Nat}

/-- Flags in front are accepted. -/
lemma readArguments_replicate (h : readArguments arguments = .ok s) (n : Nat) :
    readArguments (List.replicate n "-v" ++ arguments) = .ok (s.louderBy n) := by
  obtain ⟨r, hr, h⟩ := bind_eq_ok_iff.mp h
  cases h
  obtain ⟨r', hr', hahead⟩ := (Louder.zero.agree_replicate rfl n arguments).exists_of_left hr
  unfold readArguments
  rw [hr']
  show Except.ok r'.settings = _
  rw [hahead.settings, Nat.zero_add]

/-- Flags that are put in and accepted count for the verbosity alone. -/
lemma AddsVerbose.settings_eq (hadds : AddsVerbose arguments n louder)
    (h : readArguments arguments = .ok s) (hlouder : readArguments louder = .ok s') :
    s' = s.louderBy n := by
  obtain ⟨r, hr, h⟩ := bind_eq_ok_iff.mp h
  obtain ⟨r', hr', hlouder⟩ := bind_eq_ok_iff.mp hlouder
  cases h
  cases hlouder
  have hahead := hadds.louder_readAll ⟨_, .inl rfl, Louder.zero⟩ hr hr'
  rw [hahead.settings, Nat.zero_add]

/-! ## Runs -/

variable {fs : FileSystem}

/-- The verbosity does not count for a check. -/
lemma check_louderBy (fs : FileSystem) (n : Nat) (s : Settings) :
    check fs (s.louderBy n) = check fs s := rfl

/-- What a check leaves behind is what the program leaves behind, with the lines of the log that are
shown. -/
lemma run_of_ok (h : readArguments arguments = .ok s) :
    run fs arguments =
      ⟨(check fs s).code, (check fs s).stdout, (check fs s).stderr s.verbosity⟩ := by
  unfold run
  rw [h]

/-- The limit of the verbosity leaves out no line. -/
lemma stderr_louderBy (r : CheckRun) (n : Nat) (s : Settings) :
    r.stderr (s.louderBy n).verbosity =
      String.join ((Log.lines (s.verbosity + n) r.log).map asLine) ++ r.complaint := by
  have hlimit : min 2 (min countLimit (s.verbosity + n)) = min 2 (s.verbosity + n) := by
    unfold countLimit
    omega
  rw [CheckRun.stderr, Settings.louderBy, Log.lines_congr hlimit]

/-- A check that is given up says why in one message. -/
lemma complaint_of_error {e : CheckError} (h : (runCheck fs s.schema s.target).outcome = .error e) :
    (check fs s).complaint = "ERROR: " ++ describe fs e ++ "
" := by
  unfold check
  dsimp only
  rw [h]
  rfl

/-- A check with a report says nothing but its log. -/
lemma complaint_of_ok {report : CheckReport}
    (h : (runCheck fs s.schema s.target).outcome = .ok report) : (check fs s).complaint = "" := by
  unfold check
  dsimp only
  rw [h]
  dsimp only
  cases s.format with
  | text => rfl
  | json =>
    dsimp only
    cases renderJson report <;> rfl

/-- Flags that show more of the log change nothing but the log.  Any number of them may be put in
front of a command line, and wherever they are put in, if the command line is accepted, the exit
code and standard output stay the same, and standard error has lines of one log, of which more flags
leave out fewer, and behind them one message if the check is given up, and nothing if there is a
report. -/
theorem run_addsVerbose (fs : FileSystem) {arguments : List String} {s : Settings}
    (h : readArguments arguments = .ok s) :
    (∀ n, AddsVerbose arguments n (List.replicate n "-v" ++ arguments) ∧
      readArguments (List.replicate n "-v" ++ arguments) = .ok (s.louderBy n)) ∧
    (∀ n louder s', AddsVerbose arguments n louder → readArguments louder = .ok s' →
      (run fs louder).code = (run fs arguments).code ∧
      (run fs louder).stdout = (run fs arguments).stdout ∧
      (run fs louder).stderr =
        String.join ((Log.lines (s.verbosity + n) (check fs s).log).map asLine) ++
          (check fs s).complaint) ∧
    (∀ m n, m ≤ n → (Log.lines (s.verbosity + m) (check fs s).log).Sublist
      (Log.lines (s.verbosity + n) (check fs s).log)) ∧
    (∀ e, (runCheck fs s.schema s.target).outcome = .error e →
      (run fs arguments).stdout = "" ∧
        (check fs s).complaint = "ERROR: " ++ describe fs e ++ "
") ∧
    ∀ report, (runCheck fs s.schema s.target).outcome = .ok report →
      (check fs s).complaint = "" := by
  refine ⟨fun n => ⟨.replicate arguments n, readArguments_replicate h n⟩, ?_,
    fun m n hle => Log.lines_sublist (Nat.add_le_add_left hle _), ?_,
    fun report => complaint_of_ok⟩
  · intro n louder s' hadds hlouder
    cases hadds.settings_eq h hlouder
    rw [run_of_ok h, run_of_ok hlouder, check_louderBy]
    exact ⟨rfl, rfl, stderr_louderBy _ n s⟩
  · intro e he
    rw [run_of_ok h]
    exact ⟨(check_of_error he).2, complaint_of_error he⟩

end CommandLine

namespace Tree

open CommandLine

/-- Four flags change nothing but the log of the check that the open bracket ends, and of three
hundred flags 255 count. -/
theorem run_withOpenBracket :
    (run withOpenBracket.fileSystem ["-vvvs", "s", "-t", ".", "--verbose"]).stdout = "" ∧
    (run withOpenBracket.fileSystem ["-vvvs", "s", "-t", ".", "--verbose"]).stderr =
      String.join ((Log.lines 4 (check withOpenBracket.fileSystem
        ⟨⟨[0x73]⟩, ⟨[0x2e]⟩, .text, 0⟩).log).map asLine) ++
        ("ERROR: " ++ describe withOpenBracket.fileSystem
          (.parseError ⟨[0x2e, 0x2f, 0x62, 0x2e, 0x6a, 0x73, 0x6f, 0x6e]⟩
            (.json ⟨.endInArray, ⟨1, 1⟩⟩)) ++ "\n") ∧
    readArguments (List.replicate 300 "-v" ++ ["-s", "s", "-t", "."]) =
      .ok ⟨⟨[0x73]⟩, ⟨[0x2e]⟩, .text, 255⟩ := by
  have haccepted : readArguments ["-s", "s", "-t", "."] = .ok ⟨⟨[0x73]⟩, ⟨[0x2e]⟩, .text, 0⟩ := by
    decide +kernel
  have hlouder : readArguments ["-vvvs", "s", "-t", ".", "--verbose"] =
      .ok ⟨⟨[0x73]⟩, ⟨[0x2e]⟩, .text, 4⟩ := by decide +kernel
  have hadds : AddsVerbose ["-s", "s", "-t", "."] 4 ["-vvvs", "s", "-t", ".", "--verbose"] :=
    .among 3 [] (by decide) (.keep "s" (.keep "-t" (.keep "." (.long .nil))))
  obtain ⟨hfront, hputIn, -, herror, -⟩ := run_addsVerbose withOpenBracket.fileSystem haccepted
  obtain ⟨-, hstdout, hstderr⟩ := hputIn _ _ _ hadds hlouder
  obtain ⟨hempty, hcomplaint⟩ := herror _ outcome_withOpenBracket
  rw [hcomplaint] at hstderr
  exact ⟨hstdout.trans hempty, hstderr, (hfront 300).2⟩

end Tree

end ConfigCheck
