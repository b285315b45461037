/-!
# Cutting texts

## Main definitions

* `cut`: what stands before and behind the first occurrence of a character
* `splitOn`: the pieces between all occurrences of a character

## Main results

* `cut_append_cons`: a text without the character, the character and a rest are cut there
* `cut_fst`: what stands before the first occurrence has no other one
* `splitOn_append_cons`: the first piece of a text ends at the first occurrence
-/

namespace PlatformClient.Text

/-- What stands before the first occurrence of a character, and behind it if it occurs. -/
def cut (separator : Char) : List Char → List Char × Option (List Char)
  | [] => ([], none)
  | c :: rest =>
    if c == separator then ([], some rest)
    else
      let (front, back) := cut separator rest
      (c :: front, back)

/-- The pieces of a text between all occurrences of a character; at least one. -/
def splitOn (separator : Char) : List Char → List (List Char)
  | [] => [[]]
  | c :: rest =>
    if c == separator then [] :: splitOn separator rest
    else
      match splitOn separator rest with
      | [] => [[c]]
      | piece :: pieces => (c :: piece) :: pieces

/-- A text without the character, the character and a rest are cut there. -/
theorem cut_append_cons {separator : Char} {s : List Char} (h : separator ∉ s) (rest : List Char) :
    cut separator (s ++ separator :: rest) = (s, some rest) := by
  induction s with
  | nil => simp [cut]
  | cons c s ih =>
    rw [List.mem_cons, not_or] at h
    simp [cut, Ne.symm h.1, ih h.2]

theorem cut_fst (separator : Char) (s : List Char) :
    (cut separator s).1 = s.takeWhile (· ≠ separator) := by
  induction s with
  | nil => rfl
  | cons c rest ih => by_cases h : c = separator <;> simp [cut, h, ih]

/-- A text without the character is one piece. -/
theorem splitOn_of_not_mem {separator : Char} {s : List Char} (h : separator ∉ s) :
    splitOn separator s = [s] := by
  induction s with
  | nil => rfl
  | cons c rest ih =>
    rw [List.mem_cons, not_or] at h
    simp [splitOn, Ne.symm h.1, ih h.2]

/-- The first piece of a text ends at the first occurrence. -/
theorem splitOn_append_cons {separator : Char} {s : List Char} (h : separator ∉ s)
    (rest : List Char) :
    splitOn separator (s ++ separator :: rest) = s :: splitOn separator rest := by
  induction s with
  | nil => simp [splitOn]
  | cons c s ih =>
    rw [List.mem_cons, not_or] at h
    simp [splitOn, Ne.symm h.1, ih h.2]

end PlatformClient.Text
