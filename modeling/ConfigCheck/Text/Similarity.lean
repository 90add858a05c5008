/-!
# Similar words

How much two words resemble each other: characters of both are paired if they are equal and not too
far apart, less than half the length of the longer word.  The similarity is the mean of three
shares: of the paired characters in the one word, of those in the other, and of the pairs that
stand in the same order.  A misspelled word is taken for another one from seven tenths on.
-/

namespace ConfigCheck.Text

/-- Pairs a character with the first equal one that is still free and has an index from `low` on
and below `high`; `index` is that of the first character. -/
def pairWith (c : Char) (low high : Nat) : (index : Nat) → List (Char × Bool) →
    Option (List (Char × Bool))
  | _, [] => none
  | index, (d, paired) :: rest =>
    if high ≤ index then none
    else if low ≤ index && c = d && !paired then some ((d, true) :: rest)
    else (pairWith c low high (index + 1) rest).map ((d, paired) :: ·)

/-- Pairs the characters of a word in turn, each at most `reach` places away.  Gives the characters
that have been paired, and the other word with marks on its paired ones. -/
def pairAll (reach : Nat) : (index : Nat) → List Char → List (Char × Bool) →
    List Char × List (Char × Bool)
  | _, [], other => ([], other)
  | index, c :: rest, other =>
    match pairWith c (index - reach) (index + reach + 1) 0 other with
    | some other =>
      let (found, other) := pairAll reach (index + 1) rest other
      (c :: found, other)
    | none => pairAll reach (index + 1) rest other

/-- The similarity of two words as a fraction. -/
def similarity (a b : List Char) : Nat × Nat :=
  let reach := max a.length b.length / 2 - 1
  let (found, marked) := pairAll reach 0 a (b.map (·, false))
  let partners := (marked.filter Prod.snd).map Prod.fst
  let crossed := ((found.zip partners).filter fun (c, d) => c != d).length / 2
  let n := found.length
  if n = 0 then (0, 1)
  else
    (n * n * b.length + n * n * a.length + (n - crossed) * a.length * b.length,
      3 * a.length * b.length * n)

/-- The option most similar to a word, the last one of several, if one is similar at all. -/
def mostSimilar? {α : Type} (text : α → String) (word : String) (options : List α) : Option α :=
  let scored := options.map fun o => (o, similarity word.toList (text o).toList)
  let close := scored.filter fun (_, num, den) => 7 * den ≤ 10 * num
  let better := fun (best : Option (α × Nat × Nat)) (o : α × Nat × Nat) =>
    match best with
    | some (p, num, den) => if o.2.1 * den < num * o.2.2 then some (p, num, den) else some o
    | none => some o
  (close.foldl better none).map Prod.fst

end ConfigCheck.Text
