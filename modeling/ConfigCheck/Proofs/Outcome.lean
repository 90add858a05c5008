import Mathlib.Data.List.Forall2
import Mathlib.Tactic.Lemma

/-!
# Outcomes

A computation that may fail has a result exactly if each of its steps has one, and fails exactly if
one of them does.  Two computations may agree in that (`Agree`).
-/

namespace ConfigCheck

variable {ε δ α β : Type}

/-- A step that follows another one has a result if both have one. -/
lemma bind_eq_ok_iff {x : Except ε α} {f : α → Except ε β} {b : β} :
    (x >>= f) = .ok b ↔ ∃ a, x = .ok a ∧ f a = .ok b := by
  cases x <;> simp [bind, Except.bind]

/-- A step that follows another one fails if either of them does. -/
lemma bind_eq_error_iff {x : Except ε α} {f : α → Except ε β} {e : ε} :
    (x >>= f) = .error e ↔ x = .error e ∨ ∃ a, x = .ok a ∧ f a = .error e := by
  cases x <;> simp [bind, Except.bind]

/-- A result stays the same if only errors are changed. -/
lemma mapError_eq_ok_iff {x : Except ε α} {f : ε → δ} {a : α} :
    x.mapError f = .ok a ↔ x = .ok a := by
  cases x <;> simp [Except.mapError]

/-- A changed result comes from a result. -/
lemma map_eq_ok_iff {x : Except ε α} {f : α → β} {b : β} :
    x.map f = .ok b ↔ ∃ a, x = .ok a ∧ f a = b := by
  cases x <;> simp [Except.map]

/-- A result is what is left without the errors. -/
lemma toOption_eq_some_iff {x : Except ε α} {a : α} : x.toOption = some a ↔ x = .ok a := by
  cases x <;> simp [Except.toOption]

/-- There is a result if one passes a test. -/
lemma exists_of_any_toOption {x : Except ε α} {test : α → Bool} (h : x.toOption.any test = true) :
    ∃ a, x = .ok a ∧ test a = true := by
  cases x with
  | ok a => exact ⟨a, rfl, h⟩
  | error e => cases h

/-- Outcomes without errors are results. -/
lemma mapM_toOption_eq_some_iff {xs : List (Except ε α)} {as : List α} :
    xs.mapM Except.toOption = some as ↔ xs = as.map .ok := by
  induction xs generalizing as with
  | nil => cases as <;> simp
  | cons x rest ih =>
    rw [List.mapM_cons]
    cases x with
    | error e => cases as <;> simp [Except.toOption]
    | ok a =>
      cases hrest : rest.mapM Except.toOption with
      | none =>
        have hnot : ∀ as', rest ≠ List.map .ok as' := fun as' heq => by
          rw [ih.mpr heq] at hrest
          cases hrest
        cases as <;> simp [Except.toOption, hnot]
      | some as' =>
        rw [ih.mp hrest]
        cases as with
        | nil => simp [Except.toOption]
        | cons a' rest' =>
          have hinj : List.map (Except.ok (ε := ε)) as' = List.map Except.ok rest' ↔ as' = rest' :=
            List.map_inj_right fun a b h => Except.ok.inj h
          simp [Except.toOption, hinj]

/-- A list of computations has a result if each of them has one. -/
lemma forall₂_of_mapM_eq_ok {f : α → Except ε β} {as : List α} {bs : List β}
    (h : as.mapM f = .ok bs) : List.Forall₂ (fun a b => f a = .ok b) as bs := by
  induction as generalizing bs with
  | nil =>
    cases h
    exact .nil
  | cons a as ih =>
    rw [List.mapM_cons] at h
    obtain ⟨b, hb, h⟩ := bind_eq_ok_iff.mp h
    obtain ⟨bs, hbs, h⟩ := bind_eq_ok_iff.mp h
    cases h
    exact .cons hb (ih hbs)

/-! ## Lists that are related item by item -/

section

variable {R S : α → β → Prop} {as : List α} {bs : List β}

/-- What is related to something in a list is in the other list. -/
lemma exists_of_forall₂ {a : α} (h : List.Forall₂ R as bs) (ha : a ∈ as) : ∃ b ∈ bs, R a b := by
  induction h with
  | nil => cases ha
  | cons hab _ ih =>
    rcases List.mem_cons.mp ha with rfl | ha
    · exact ⟨_, List.mem_cons_self, hab⟩
    · obtain ⟨b, hb, hab⟩ := ih ha
      exact ⟨b, List.mem_cons_of_mem _ hb, hab⟩

/-- What follows for each item from its relation and its own property holds of all of them. -/
lemma forall_of_forall₂ {p : α → Prop} {q : β → Prop} (h : List.Forall₂ R as bs)
    (hp : ∀ a ∈ as, p a) (hq : ∀ a b, p a → R a b → q b) : ∀ b ∈ bs, q b := by
  induction h with
  | nil =>
    intro b hb
    cases hb
  | cons hab _ ih =>
    obtain ⟨ha, hrest⟩ := List.forall_mem_cons.mp hp
    exact List.forall_mem_cons.mpr ⟨hq _ _ ha hab, ih hrest⟩

/-- A relation of items that follows from another one for what is in the list. -/
lemma forall₂_imp_of_mem (h : List.Forall₂ R as bs) (hS : ∀ a ∈ as, ∀ b, R a b → S a b) :
    List.Forall₂ S as bs := by
  have hmem : List.Forall₂ (fun a b => a ∈ as ∧ R a b) as bs :=
    (List.forall₂_and_left as bs).mpr ⟨fun a ha => ha, h⟩
  exact hmem.imp fun a b hab => hS a hab.1 b hab.2

/-- Items are related through items in between. -/
lemma forall₂_trans_of_mem {γ : Type} {T : α → γ → Prop} {Q : β → γ → Prop} {cs : List γ}
    (h : List.Forall₂ R as bs) (hnext : List.Forall₂ Q bs cs)
    (hT : ∀ a ∈ as, ∀ b c, R a b → Q b c → T a c) : List.Forall₂ T as cs := by
  induction h generalizing cs with
  | nil =>
    cases hnext
    exact .nil
  | cons hab _ ih =>
    cases hnext with
    | cons hbc hrest =>
      obtain ⟨hfirst, hothers⟩ := List.forall_mem_cons.mp hT
      exact .cons (hfirst _ _ hab hbc) (ih hrest hothers)

/-- Where each item has a partner, what is said of both can be said of the items. -/
lemma forall₂_iff_forall {p : α → Prop} (h : List.Forall₂ R as bs)
    (hp : ∀ a ∈ as, ∀ b, R a b → (S a b ↔ p a)) : List.Forall₂ S as bs ↔ ∀ a ∈ as, p a := by
  induction h with
  | nil => simp
  | cons hab _ ih =>
    obtain ⟨hfirst, hrest⟩ := List.forall_mem_cons.mp hp
    rw [List.forall₂_cons, List.forall_mem_cons, hfirst _ hab, ih hrest]

end

/-! ## Computations that agree -/

/-- Two computations agree: both fail, or both have results, which are related. -/
inductive Agree (R : α → β → Prop) : Except ε α → Except δ β → Prop
  | error (e : ε) (d : δ) : Agree R (.error e) (.error d)
  | ok {a : α} {b : β} (h : R a b) : Agree R (.ok a) (.ok b)

namespace Agree

variable {R : α → β → Prop} {x : Except ε α} {y : Except δ β}

/-- A computation agrees with itself. -/
lemma refl (x : Except ε α) : Agree (· = ·) x x := by
  cases x with
  | error e => exact .error e e
  | ok a => exact .ok rfl

/-- Computations agree if their first steps do and, from related results on, the next ones. -/
lemma bind {γ κ : Type} {S : γ → κ → Prop} {f : α → Except ε γ} {g : β → Except δ κ}
    (h : Agree R x y) (hnext : ∀ a b, R a b → Agree S (f a) (g b)) :
    Agree S (x >>= f) (y >>= g) := by
  cases h with
  | error e d => exact .error e d
  | ok hab => exact hnext _ _ hab

/-- What agrees with a result is a result. -/
lemma exists_of_left {a : α} (h : Agree R x y) (hx : x = .ok a) : ∃ b, y = .ok b ∧ R a b := by
  subst hx
  cases h with
  | ok hab => exact ⟨_, rfl, hab⟩

/-- What a result agrees with is a result. -/
lemma exists_of_right {b : β} (h : Agree R x y) (hy : y = .ok b) : ∃ a, x = .ok a ∧ R a b := by
  subst hy
  cases h with
  | ok hab => exact ⟨_, rfl, hab⟩

end Agree

/-! ## Steps one after the other -/

section

variable {P : β → Prop} {step : β → α → Except ε β} {list : List α}

/-- What takes the first step and goes on with the others, as long as there is no error, is a walk
through the list. -/
lemma eq_foldlM_of_cons {γ : Type} {walk : List γ → β → Except ε β} (element : γ → α)
    (hnil : ∀ b, walk [] b = .ok b)
    (hcons : ∀ c rest b, walk (c :: rest) b = step b (element c) >>= walk rest)
    (list : List γ) (b : β) : walk list b = (list.map element).foldlM step b := by
  induction list generalizing b with
  | nil => exact hnil b
  | cons c rest ih =>
    rw [hcons, List.map_cons, List.foldlM_cons]
    exact congrArg (step b (element c) >>= ·) (funext ih)

/-- A step keeps a property of states: where it leads from a state with the property, the state has
it again. -/
def Keeps (P : β → Prop) (step : β → Except ε β) : Prop :=
  ∀ b b', P b → step b = .ok b' → P b'

/-- A step is refused in all states with a property. -/
def Refused (P : β → Prop) (step : β → Except ε β) : Prop :=
  ∀ b b', P b → step b ≠ .ok b'

/-- A step that leads nowhere keeps everything. -/
lemma Refused.keeps {step : β → Except ε β} (h : Refused P step) : Keeps P step :=
  fun b b' hb hstep => absurd hstep (h b b' hb)

/-- What each of two steps keeps, both keep. -/
lemma Keeps.bind {step next : β → Except ε β} (hstep : Keeps P step) (hnext : Keeps P next) :
    Keeps P fun b => step b >>= next := by
  intro b b' hb h
  obtain ⟨c, hc, h⟩ := bind_eq_ok_iff.mp h
  exact hnext c b' (hstep b c hb hc) h

/-- Two steps are refused if the first one is. -/
lemma Refused.bind {step : β → Except ε β} (hstep : Refused P step) (next : β → Except ε β) :
    Refused P fun b => step b >>= next := by
  intro b b' hb h
  obtain ⟨c, hc, -⟩ := bind_eq_ok_iff.mp h
  exact hstep b c hb hc

/-- Two steps are refused if the second one is, and the first one keeps what it takes for that. -/
lemma Keeps.bind_refused {step next : β → Except ε β} (hstep : Keeps P step)
    (hnext : Refused P next) : Refused P fun b => step b >>= next := by
  intro b b' hb h
  obtain ⟨c, hc, h⟩ := bind_eq_ok_iff.mp h
  exact hnext c b' (hstep b c hb hc) h

/-- What each step of a walk keeps, the walk keeps. -/
lemma Keeps.foldlM (h : ∀ a ∈ list, Keeps P fun b => step b a) :
    Keeps P fun b => list.foldlM step b := by
  induction list with
  | nil =>
    intro b b' hb hwalk
    cases hwalk
    exact hb
  | cons a rest ih =>
    obtain ⟨hfirst, hrest⟩ := List.forall_mem_cons.mp h
    simp only [List.foldlM_cons]
    exact hfirst.bind (ih hrest)

/-- A walk is refused if one of its steps is, and the steps keep what it takes for that. -/
lemma Refused.foldlM (h : ∀ a ∈ list, Keeps P fun b => step b a) {a : α} (ha : a ∈ list)
    (hrefused : Refused P fun b => step b a) : Refused P fun b => list.foldlM step b := by
  induction list with
  | nil => cases ha
  | cons first rest ih =>
    obtain ⟨hfirst, hrest⟩ := List.forall_mem_cons.mp h
    simp only [List.foldlM_cons]
    rcases List.mem_cons.mp ha with rfl | ha
    · exact hrefused.bind _
    · exact hfirst.bind_refused (ih hrest ha)

end

end ConfigCheck
