/-!
# Replacing a text inside a text

Occurrences are found from the left and do not overlap; what is inserted is not searched again.

## Main definitions

* `replaceAll`: every occurrence of a text replaced by another
* `occursIn`: whether a text occurs in another

## Main results

* `occursIn_iff`: what occurs in a text is an infix of it
* `replaceAll_of_not_infix`: without an occurrence nothing changes
-/

namespace PlatformClient.Text

/-- A text without its first characters, and with every occurrence of `needle` behind them replaced.
An empty `needle` occurs nowhere. -/
def replaceFrom (needle insert : List Char) : Nat → List Char → List Char
  | _, [] => []
  | skip + 1, _ :: rest => replaceFrom needle insert skip rest
  | 0, c :: rest =>
    if needle ≠ [] ∧ needle.isPrefixOf (c :: rest) then
      insert ++ replaceFrom needle insert (needle.length - 1) rest
    else c :: replaceFrom needle insert 0 rest

/-- A text with every occurrence of `needle`, found from the left without overlap, replaced by
`insert`. -/
def replaceAll (needle insert s : List Char) : List Char := replaceFrom needle insert 0 s

/-- Skipping characters is dropping them. -/
theorem replaceFrom_eq_drop (needle insert : List Char) (skip : Nat) (s : List Char) :
    replaceFrom needle insert skip s = replaceAll needle insert (s.drop skip) := by
  induction skip generalizing s with
  | zero => rfl
  | succ skip ih =>
    cases s with
    | nil => cases skip <;> rfl
    | cons c rest => exact ih rest

/-- Whether a text occurs in another. -/
def occursIn (needle : List Char) : List Char → Bool
  | [] => needle.isEmpty
  | c :: rest => needle.isPrefixOf (c :: rest) || occursIn needle rest

/-- What occurs in a text is an infix of it. -/
theorem occursIn_iff {needle s : List Char} : occursIn needle s = true ↔ needle <:+: s := by
  induction s with
  | nil => simp [occursIn]
  | cons c rest ih => simp [occursIn, ih, List.infix_cons_iff, List.isPrefixOf_iff_prefix]

@[simp] theorem replaceAll_nil (needle insert : List Char) : replaceAll needle insert [] = [] := rfl

/-- An occurrence at the front is replaced, and the search goes on behind it. -/
theorem replaceAll_append_of_ne_nil {needle : List Char} (h : needle ≠ []) (insert s : List Char) :
    replaceAll needle insert (needle ++ s) = insert ++ replaceAll needle insert s := by
  obtain ⟨c, rest, rfl⟩ := List.exists_cons_of_ne_nil h
  rw [replaceAll, List.cons_append, replaceFrom,
    if_pos ⟨h, by simp [List.isPrefixOf_iff_prefix]⟩, replaceFrom_eq_drop]
  simp

/-- A character at which no occurrence begins stays. -/
theorem replaceAll_cons_of_not_begins {needle : List Char} {c : Char} {s : List Char}
    (h : ¬ needle <+: c :: s) (insert : List Char) :
    replaceAll needle insert (c :: s) = c :: replaceAll needle insert s := by
  rw [replaceAll, replaceFrom, if_neg fun hp => h (List.isPrefixOf_iff_prefix.1 hp.2), replaceAll]

/-- Without an occurrence nothing changes. -/
theorem replaceAll_of_not_infix {needle : List Char} {s : List Char} (h : ¬ needle <:+: s)
    (insert : List Char) : replaceAll needle insert s = s := by
  induction s with
  | nil => simp
  | cons c rest ih =>
    rw [replaceAll_cons_of_not_begins fun hp => h hp.isInfix,
      ih fun hi => h (hi.trans (List.suffix_cons c rest).isInfix)]

end PlatformClient.Text
