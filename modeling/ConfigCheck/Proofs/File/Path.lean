import ConfigCheck.File.Path
import Mathlib.Data.List.Basic
import Mathlib.Data.List.TakeWhile
import Mathlib.Tactic.Lemma

/-!
# Paths

The name that a path ends in stands behind the last slash, apart from slashes, and dots between
them, that come behind it (`Path.endsIn_iff`).  A name has an extension if there is a dot in it that
is not the first character; then the extension is what stands behind the last dot
(`Path.extension?_eq_some_iff`).

The path of an entry of a directory is told apart by the bytes behind those that all entries of the
directory have in common (`Path.exists_bytes_join`), which hold no slash.
-/

namespace ConfigCheck

namespace Name

/-- A name holds no slash. -/
lemma slash_notMem (name : Name) : Path.slash ∉ name.bytes := by
  have hvalid := name.valid
  unfold Path.isEntryName at hvalid
  simp only [Bool.and_eq_true, Bool.not_eq_true', List.contains_eq_mem, decide_eq_false_iff_not]
    at hvalid
  exact hvalid.1.2

/-- A name is none of the components that name no file. -/
lemma bytes_ne (name : Name) :
    name.bytes ≠ [] ∧ name.bytes ≠ [Path.dot] ∧ name.bytes ≠ [Path.dot, Path.dot] := by
  have hvalid := name.valid
  unfold Path.isEntryName at hvalid
  simp only [Bool.and_eq_true, bne_iff_ne] at hvalid
  exact ⟨hvalid.1.1.1.1, hvalid.1.1.1.2, hvalid.1.1.2⟩

/-- Names with the same bytes are the same. -/
lemma ext_bytes {a b : Name} (h : a.bytes = b.bytes) : a = b := by
  cases a
  cases b
  cases h
  rfl

lemma le_iff {a b : Name} : a.le b = true ↔ a.bytes ≤ b.bytes := decide_eq_true_iff

end Name

namespace Path

/-- There is always at least one part. -/
lemma splitAt_ne_nil (separator : UInt8) (bytes : List UInt8) : splitAt separator bytes ≠ [] := by
  cases bytes with
  | nil => simp [splitAt]
  | cons b rest =>
    unfold splitAt
    split
    · simp
    · split <;> simp

/-- Bytes without the separator stay together. -/
lemma splitAt_of_notMem {separator : UInt8} {bytes : List UInt8} (h : separator ∉ bytes) :
    splitAt separator bytes = [bytes] := by
  induction bytes with
  | nil => rfl
  | cons b rest ih =>
    rw [List.mem_cons, not_or] at h
    rw [splitAt, ih h.2]
    dsimp only
    rw [if_neg (Ne.symm h.1)]

/-- What stands on the two sides of a separator is split on its own. -/
lemma splitAt_append_cons (separator : UInt8) (before after : List UInt8) :
    splitAt separator (before ++ separator :: after) =
      splitAt separator before ++ splitAt separator after := by
  induction before with
  | nil =>
    obtain ⟨part, parts, hparts⟩ := List.exists_cons_of_ne_nil (splitAt_ne_nil separator after)
    simp [splitAt, hparts]
  | cons b rest ih =>
    obtain ⟨part, parts, hparts⟩ := List.exists_cons_of_ne_nil (splitAt_ne_nil separator rest)
    rw [List.cons_append, splitAt, splitAt, ih, hparts]
    dsimp only [List.cons_append]
    split <;> rfl

/-! ## The name that a path ends in -/

/-- Bytes behind a name that do not count: slashes, and slashes with one dot behind them. -/
inductive Trailer : List UInt8 → Prop
  | nil : Trailer []
  | cons {rest : List UInt8} (h : Trailer rest) : Trailer (slash :: rest)
  | consDot {rest : List UInt8} (h : Trailer rest) : Trailer (slash :: dot :: rest)

/-- A path ends in a name: it holds no slash, is neither empty nor a dot, stands behind a slash or
at the beginning, and nothing that counts comes behind it. -/
def EndsIn (p : Path) (name : List UInt8) : Prop :=
  slash ∉ name ∧ name ≠ [] ∧ name ≠ [dot] ∧
    ∃ before after, p.bytes = before ++ name ++ after ∧
      (before = [] ∨ ∃ base, before = base ++ [slash]) ∧ Trailer after

/-- What is split off behind a name says nothing. -/
lemma Trailer.exists_splitAt {after : List UInt8} (h : Trailer after) {name : List UInt8}
    (hname : slash ∉ name) :
    ∃ parts, splitAt slash (name ++ after) = name :: parts ∧ ∀ c ∈ parts, c = [] ∨ c = [dot] := by
  induction h generalizing name with
  | nil => exact ⟨[], by rw [List.append_nil, splitAt_of_notMem hname], by simp⟩
  | cons _ ih =>
    obtain ⟨parts, hparts, hblank⟩ := @ih [] (by simp)
    refine ⟨[] :: parts, ?_, by simpa using hblank⟩
    rw [List.nil_append] at hparts
    rw [splitAt_append_cons, splitAt_of_notMem hname, hparts]
    rfl
  | consDot _ ih =>
    obtain ⟨parts, hparts, hblank⟩ := @ih [dot] (by decide)
    refine ⟨[dot] :: parts, ?_, by simpa using hblank⟩
    rw [List.singleton_append] at hparts
    rw [splitAt_append_cons, splitAt_of_notMem hname, hparts]
    rfl

/-- The name that a path ends in is its last component. -/
lemma EndsIn.getLast?_components {p : Path} {name : List UInt8} (h : p.EndsIn name) :
    p.components.getLast? = some name := by
  obtain ⟨hslash, hne, hdot, before, after, hbytes, hbefore, hafter⟩ := h
  obtain ⟨parts, hparts, hblank⟩ := hafter.exists_splitAt hslash
  have hnone : parts.filter (fun c => c != [] && c != [dot]) = [] := by
    refine List.filter_eq_nil_iff.mpr fun c hc => ?_
    rcases hblank c hc with rfl | rfl <;> decide
  have hkeep : [name].filter (fun c => c != [] && c != [dot]) = [name] := by simp [hne, hdot]
  have hsplit : ∃ front, splitAt slash p.bytes = front ++ name :: parts := by
    rw [hbytes, List.append_assoc]
    rcases hbefore with rfl | ⟨base, rfl⟩
    · exact ⟨[], hparts⟩
    · exact ⟨splitAt slash base, by rw [List.append_assoc, List.singleton_append,
        splitAt_append_cons, hparts]⟩
  obtain ⟨front, hfront⟩ := hsplit
  rw [components, hfront, List.append_cons, List.filter_append, List.filter_append, hkeep, hnone,
    List.append_nil]
  exact List.getLast?_concat

/-- A path ends in a name, or nothing in it counts. -/
lemma endsIn_or_blank (bytes : List UInt8) :
    (∃ name, EndsIn ⟨bytes⟩ name) ∨
      ∃ part after, bytes = part ++ after ∧ (part = [] ∨ part = [dot]) ∧ Trailer after := by
  induction bytes with
  | nil => exact .inr ⟨[], [], rfl, .inl rfl, .nil⟩
  | cons b rest ih =>
    by_cases hb : b = slash
    · subst hb
      rcases ih with ⟨name, hslash, hne, hdot, before, after, hbytes, hbefore, hafter⟩ |
        ⟨part, after, rfl, rfl | rfl, hafter⟩
      · refine .inl ⟨name, hslash, hne, hdot, slash :: before, after, ?_, .inr ?_, hafter⟩
        · change rest = _ at hbytes
          rw [hbytes]
          rfl
        · rcases hbefore with rfl | ⟨base, rfl⟩
          · exact ⟨[], rfl⟩
          · exact ⟨slash :: base, rfl⟩
      · exact .inr ⟨[], _, rfl, .inl rfl, .cons hafter⟩
      · exact .inr ⟨[], _, rfl, .inl rfl, .consDot hafter⟩
    · rcases ih with ⟨name, hslash, hne, hdot, before, after, hbytes, hbefore, hafter⟩ |
        ⟨part, after, rfl, hpart, hafter⟩
      · change rest = _ at hbytes
        rcases hbefore with rfl | ⟨base, rfl⟩
        · refine .inl ⟨b :: name, by simp [Ne.symm hb, hslash], by simp, by simp [hne], [], after,
            ?_, .inl rfl, hafter⟩
          rw [hbytes]
          rfl
        · refine .inl ⟨name, hslash, hne, hdot, b :: (base ++ [slash]), after, ?_,
            .inr ⟨b :: base, rfl⟩, hafter⟩
          rw [hbytes]
          rfl
      · by_cases hblank : b = dot ∧ part = []
        · obtain ⟨rfl, rfl⟩ := hblank
          exact .inr ⟨[dot], after, rfl, .inr rfl, hafter⟩
        · refine .inl ⟨b :: part, ?_, by simp, ?_, [], after, rfl, .inl rfl, hafter⟩
          · rcases hpart with rfl | rfl
            · simp [Ne.symm hb]
            · simp [Ne.symm hb, show slash ≠ dot by decide]
          · rintro h
            cases h
            exact hblank ⟨rfl, rfl⟩

/-- A path ends in its last component. -/
lemma endsIn_iff {p : Path} {name : List UInt8} :
    p.EndsIn name ↔ p.components.getLast? = some name := by
  refine ⟨EndsIn.getLast?_components, fun h => ?_⟩
  rcases endsIn_or_blank p.bytes with ⟨other, hother⟩ | ⟨part, after, hbytes, hpart, hafter⟩
  · have hlast := hother.getLast?_components
    cases h.symm.trans hlast
    exact hother
  · have hpart' : slash ∉ part := by rcases hpart with rfl | rfl <;> decide
    obtain ⟨parts, hparts, hblank⟩ := hafter.exists_splitAt hpart'
    have hnone : p.components = [] := by
      rw [components, hbytes, hparts]
      refine List.filter_eq_nil_iff.mpr fun c hc => ?_
      have hcases : c = [] ∨ c = [dot] := by
        rcases List.mem_cons.mp hc with rfl | hc
        · exact hpart
        · exact hblank c hc
      rcases hcases with rfl | rfl <;> decide
    rw [hnone] at h
    cases h

/-- The file name is the name that a path ends in, unless it stands for the directory above. -/
lemma fileName?_eq_some_iff {p : Path} {name : List UInt8} :
    p.fileName? = some name ↔ p.EndsIn name ∧ name ≠ [dot, dot] := by
  rw [endsIn_iff, fileName?]
  cases hlast : p.components.getLast? with
  | none => simp
  | some other =>
    dsimp only
    rw [Option.some.injEq]
    by_cases hdots : other = [dot, dot]
    · rw [if_pos hdots]
      constructor
      · intro h
        cases h
      · rintro ⟨rfl, hne⟩
        exact absurd hdots hne
    · rw [if_neg hdots, Option.some.injEq]
      exact ⟨fun h => ⟨h, h ▸ hdots⟩, And.left⟩

/-- A path ends in the same name with other directories in front. -/
lemma EndsIn.below {p : Path} {name : List UInt8} (h : p.EndsIn name) (dir : List UInt8) :
    EndsIn ⟨dir ++ slash :: p.bytes⟩ name := by
  obtain ⟨hslash, hne, hdot, before, after, hbytes, hbefore, hafter⟩ := h
  refine ⟨hslash, hne, hdot, dir ++ slash :: before, after, ?_, .inr ?_, hafter⟩
  · simp [hbytes]
  · rcases hbefore with rfl | ⟨base, rfl⟩
    · exact ⟨dir, rfl⟩
    · exact ⟨dir ++ slash :: base, by simp⟩

/-! ## Extensions -/

/-- A name is split at its last dot. -/
lemma splitLastDot_eq_some_iff {name stem ext : List UInt8} :
    splitLastDot name = some (stem, ext) ↔ name = stem ++ dot :: ext ∧ dot ∉ ext := by
  have hsplit : ∀ {stem ext : List UInt8}, dot ∉ ext →
      splitLastDot (stem ++ dot :: ext) = some (stem, ext) := by
    intro stem ext hext
    have hafter : ((stem ++ dot :: ext).reverse.takeWhile (· != dot)).reverse = ext := by
      rw [List.reverse_append, List.reverse_cons, List.append_assoc, List.takeWhile_append_of_pos]
      · simp
      · intro b hb
        have hne : b ≠ dot := fun h => hext (h ▸ List.mem_reverse.mp hb)
        simpa using hne
    have hlength : ext.length ≠ (stem ++ dot :: ext).length := by
      rw [List.length_append, List.length_cons]
      omega
    have hstem : (stem ++ dot :: ext).length - ext.length - 1 = stem.length := by
      rw [List.length_append, List.length_cons]
      omega
    unfold splitLastDot
    rw [hafter]
    dsimp only
    rw [if_neg hlength, hstem, List.take_left]
  constructor
  · intro h
    by_cases hdot : dot ∈ name.reverse
    · obtain ⟨after, before, hname, hafter⟩ := List.eq_append_cons_of_mem hdot
      have hname' : name = before.reverse ++ dot :: after.reverse := by
        rw [← List.reverse_reverse name, hname]
        simp
      rw [hname', hsplit (by simpa using hafter)] at h
      cases h
      exact ⟨hname', by simpa using hafter⟩
    · have hall : name.reverse.takeWhile (· != dot) = name.reverse := by
        refine List.takeWhile_eq_self_iff.mpr fun b hb => ?_
        have hne : b ≠ dot := fun h => hdot (h ▸ hb)
        simpa using hne
      rw [splitLastDot, hall, List.reverse_reverse, if_pos rfl] at h
      cases h
  · rintro ⟨rfl, hext⟩
    exact hsplit hext

/-- A path ends in a stem, a dot and an extension: something stands before the last dot of its name,
and the name does not stand for the directory above. -/
structure HasExtension (p : Path) (stem ext : List UInt8) : Prop where
  /-- The path ends in the stem and the extension, with a dot between them. -/
  endsIn : p.EndsIn (stem ++ dot :: ext)
  /-- The name is not that of the directory above. -/
  ne_dots : stem ++ dot :: ext ≠ [dot, dot]
  /-- Something stands before the dot. -/
  stem_ne : stem ≠ []
  /-- The dot is the last one. -/
  dot_notMem : dot ∉ ext

/-- The extension is what stands behind the last dot. -/
lemma extension?_eq_some_iff {p : Path} {ext : List UInt8} :
    p.extension? = some ext ↔ ∃ stem, p.HasExtension stem ext := by
  unfold extension?
  simp only [bind, Option.bind_eq_some_iff]
  constructor
  · rintro ⟨name, hname, ⟨stem, after⟩, hsplit, h⟩
    obtain ⟨hends, hdots⟩ := fileName?_eq_some_iff.mp hname
    obtain ⟨rfl, hdot⟩ := splitLastDot_eq_some_iff.mp hsplit
    dsimp only at h
    split at h
    · cases h
    · rename_i hstem
      cases h
      exact ⟨stem, hends, hdots, hstem, hdot⟩
  · rintro ⟨stem, hends, hdots, hstem, hdot⟩
    exact ⟨_, fileName?_eq_some_iff.mpr ⟨hends, hdots⟩, (stem, ext),
      splitLastDot_eq_some_iff.mpr ⟨rfl, hdot⟩, if_neg hstem⟩

/-- There is no extension if the path does not end in a stem, a dot and something behind it. -/
lemma extension?_eq_none_iff {p : Path} :
    p.extension? = none ↔ ∀ stem ext, ¬ p.HasExtension stem ext := by
  simp only [Option.eq_none_iff_forall_ne_some, ne_eq, extension?_eq_some_iff, not_exists]
  exact forall_comm

/-! ## Bytes that are replaced -/

section Replaced

variable {f : UInt8 → UInt8}

/-- What replaces no separator splits nothing and joins nothing. -/
lemma splitAt_map {separator : UInt8} (hf : ∀ b, f b = separator ↔ b = separator)
    (bytes : List UInt8) :
    splitAt separator (bytes.map f) = (splitAt separator bytes).map (List.map f) := by
  induction bytes with
  | nil => rfl
  | cons b rest ih =>
    obtain ⟨part, parts, hparts⟩ := List.exists_cons_of_ne_nil (splitAt_ne_nil separator rest)
    rw [List.map_cons, splitAt, splitAt, ih, hparts, List.map_cons]
    dsimp only
    by_cases hb : b = separator
    · rw [if_pos hb, if_pos ((hf b).mpr hb)]
      rfl
    · rw [if_neg hb, if_neg fun h => hb ((hf b).mp h)]
      rfl

/-- What replaces no dot makes no dots. -/
lemma map_eq_dots_iff (hdot : ∀ b, f b = dot ↔ b = dot) {bytes : List UInt8} (n : ℕ) :
    bytes.map f = List.replicate n dot ↔ bytes = List.replicate n dot := by
  simp [List.eq_replicate_iff, hdot]

/-- If bytes are replaced, but no slash and no dot, they are replaced in the name that a path ends
in. -/
lemma endsIn_map_iff (hslash : ∀ b, f b = slash ↔ b = slash) (hdot : ∀ b, f b = dot ↔ b = dot)
    {p : Path} {name : List UInt8} :
    EndsIn ⟨p.bytes.map f⟩ name ↔ ∃ other, p.EndsIn other ∧ other.map f = name := by
  have hcomponents : components ⟨p.bytes.map f⟩ = p.components.map (List.map f) := by
    unfold components
    rw [splitAt_map hslash, List.filter_map]
    congr 1
    refine List.filter_congr fun c _ => ?_
    have hdot' : (c.map f != [dot]) = (c != [dot]) := by
      rw [Bool.eq_iff_iff, bne_iff_ne, bne_iff_ne]
      exact not_congr (map_eq_dots_iff hdot 1)
    have hempty : (c.map f != []) = (c != []) := by cases c <;> rfl
    rw [Function.comp_apply, hdot', hempty]
  simp only [endsIn_iff, hcomponents, List.getLast?_map, Option.map_eq_some_iff]

/-- If bytes are replaced, but no slash and no dot, they are replaced in the extension. -/
lemma extension?_map (hslash : ∀ b, f b = slash ↔ b = slash) (hdot : ∀ b, f b = dot ↔ b = dot)
    (p : Path) : extension? ⟨p.bytes.map f⟩ = p.extension?.map (List.map f) := by
  refine Option.ext fun ext => ?_
  simp only [Option.map_eq_some_iff, extension?_eq_some_iff]
  constructor
  · rintro ⟨stem, hends, hdots, hstem, hext⟩
    obtain ⟨name, hname, hmap⟩ := (endsIn_map_iff hslash hdot).mp hends
    obtain ⟨stem', tail, rfl, rfl, htail⟩ := List.map_eq_append_iff.mp hmap
    obtain ⟨b, ext', rfl, hb, rfl⟩ := List.map_eq_cons_iff.mp htail
    obtain rfl := (hdot b).mp hb
    refine ⟨ext', ⟨stem', hname, fun h => hdots ?_, fun h => hstem ?_, fun h => hext ?_⟩, rfl⟩
    · rw [← hmap]
      exact (map_eq_dots_iff hdot 2).mpr h
    · rw [h]
      rfl
    · exact List.mem_map.mpr ⟨_, h, hb⟩
  · rintro ⟨ext', ⟨stem, hends, hdots, hstem, hext⟩, rfl⟩
    have hmap : (stem ++ dot :: ext').map f = stem.map f ++ dot :: ext'.map f := by
      rw [List.map_append, List.map_cons, (hdot dot).mpr rfl]
    refine ⟨stem.map f, (endsIn_map_iff hslash hdot).mpr ⟨_, hends, hmap⟩, fun h => hdots ?_,
      fun h => hstem (List.map_eq_nil_iff.mp h), fun h => ?_⟩
    · rw [← hmap] at h
      exact (map_eq_dots_iff hdot 2).mp h
    · obtain ⟨b, hb, hbdot⟩ := List.mem_map.mp h
      exact hext ((hdot b).mp hbdot ▸ hb)

end Replaced

/-! ## Entries of directories -/

/-- The paths of the entries of a directory differ in their names alone, which stand behind a
slash. -/
lemma exists_bytes_join (dir : Path) :
    ∃ base, (base = [] ∨ base.getLast? = some slash) ∧
      ∀ name, (dir.join name).bytes = base ++ name.bytes := by
  by_cases hdir : (dir.bytes = [] || dir.bytes.getLast? = some slash) = true
  · refine ⟨dir.bytes, by simpa using hdir, fun name => ?_⟩
    unfold join
    rw [if_pos hdir]
  · refine ⟨dir.bytes ++ [slash], by simp, fun name => ?_⟩
    unfold join
    rw [if_neg hdir]
    simp

/-- The path of an entry ends in its name. -/
lemma endsIn_join (dir : Path) (name : Name) : (dir.join name).EndsIn name.bytes := by
  obtain ⟨hempty, hdot, -⟩ := name.bytes_ne
  obtain ⟨base, hbase, hjoin⟩ := exists_bytes_join dir
  refine ⟨name.slash_notMem, hempty, hdot, base, [], by rw [hjoin, List.append_nil], ?_, .nil⟩
  exact hbase.imp_right List.getLast?_eq_some_iff.mp

/-- The file name of the path of an entry is the name of the entry. -/
lemma fileName?_join (dir : Path) (name : Name) : (dir.join name).fileName? = some name.bytes :=
  fileName?_eq_some_iff.mpr ⟨endsIn_join dir name, name.bytes_ne.2.2⟩

/-- Different entries have different paths. -/
lemma join_injective (dir : Path) : Function.Injective dir.join := by
  intro a b h
  have hname := congrArg fileName? h
  rw [fileName?_join, fileName?_join, Option.some.injEq] at hname
  exact Name.ext_bytes hname

/-- What lies below an entry is no entry. -/
lemma join_ne_below (dir : Path) (name sub : Name) (tail : List UInt8) :
    dir.join name ≠ ⟨(dir.join sub).bytes ++ slash :: tail⟩ := by
  intro h
  obtain ⟨base, -, hjoin⟩ := exists_bytes_join dir
  have hbytes := congrArg bytes h
  rw [hjoin, hjoin, List.append_assoc, List.append_cancel_left_eq] at hbytes
  refine name.slash_notMem ?_
  rw [hbytes]
  simp

end Path

end ConfigCheck
