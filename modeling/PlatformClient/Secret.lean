/-!
# Masks

A secret is shown by its mask: up to four characters are all hidden, up to eight show one at each
end, and longer ones show three at each end with five masked characters between them, whatever
their length.

## Main definitions

* `maskWith`: a text with its inner characters replaced by the given mark
* `mask`: a text masked by asterisks

## Main results

* `mask_length_le`: a mask has at most eleven characters
-/

namespace PlatformClient.Secret

variable {α : Type}

/-- A number of copies of a mark. -/
def marks (mark : List α) (count : Nat) : List α := (List.replicate count mark).flatten

/-- A text with its inner characters, or all of them, replaced by the mark. -/
def maskWith (mark s : List α) : List α :=
  if s.length ≤ 4 then marks mark s.length
  else if s.length ≤ 8 then s.take 1 ++ marks mark (s.length - 2) ++ s.drop (s.length - 1)
  else s.take 3 ++ marks mark 5 ++ s.drop (s.length - 3)

/-- A text masked by asterisks. -/
def mask (s : List Char) : List Char := maskWith ['*'] s

theorem marks_length (c : α) (count : Nat) : (marks [c] count).length = count := by
  simp [marks]

/-- A mask has at most eleven characters. -/
theorem mask_length_le (s : List Char) : (mask s).length ≤ 11 := by
  unfold mask maskWith
  split
  · rw [marks_length]
    omega
  · split <;> simp [marks_length] <;> omega

end PlatformClient.Secret
