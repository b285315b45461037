import PlatformClient.Proofs.Redaction.SecretInMessage
import PlatformClient.Proofs.Secret.Masks

/-!
# The tokens of a text

The tokens of a message are found from the left: a token's value is the longest run of its
characters behind a marker, and the search goes on behind it. So each text consists in exactly one
way of values behind markers and of what stands between them, and the redacted text differs from it
in the values only, which are replaced by their masks. Since a mask is made of the same kind of
characters and is its own mask, a redacted text is not changed again.

## Main definitions

* `Redaction.Bare`: texts without a token
* `Redaction.TokenText`: a text by its tokens
* `Redaction.Found`: the tokens are those that are found from the left

## Main results

* `Redaction.exists_found`, `Redaction.Found.unique`: the tokens of a text are found in exactly one
  way
* `Redaction.maskTokens_write`: their values are replaced by masks
* `Redaction.maskTokens_maskTokens`: a redacted text is not changed again
-/

namespace PlatformClient

namespace Redaction

/-- No value stands behind a marker. -/
def Bare (s : List Char) : Prop := ∀ c, isTokenChar c = true → ¬ marker ++ [c] <:+: s

/-- A text by its tokens: the value of each, with what stands before its marker, and what stands
behind the last value. -/
structure TokenText where
  tokens : List (List Char × List Char)
  rest : List Char

namespace TokenText

/-- The text, with values in some other form. -/
def write (form : List Char → List Char) (text : TokenText) : List Char :=
  (text.tokens.flatMap fun token => token.1 ++ marker ++ form token.2) ++ text.rest

/-- The same text with other values. -/
def mapValues (form : List Char → List Char) (text : TokenText) : TokenText :=
  ⟨text.tokens.map fun token => (token.1, form token.2), text.rest⟩

theorem write_nil (form : List Char → List Char) (rest : List Char) :
    write form ⟨[], rest⟩ = rest := rfl

theorem write_cons (form : List Char → List Char) (front value : List Char)
    (tokens : List (List Char × List Char)) (rest : List Char) :
    write form ⟨(front, value) :: tokens, rest⟩ =
      front ++ marker ++ form value ++ write form ⟨tokens, rest⟩ := by
  simp only [write, List.flatMap_cons, List.append_assoc]

theorem write_mapValues (outer inner : List Char → List Char) (text : TokenText) :
    (text.mapValues inner).write outer = text.write fun value => outer (inner value) := by
  simp only [write, mapValues, List.flatMap_map]

end TokenText

/-- The tokens of a text are those that are found from the left. -/
inductive Found : TokenText → Prop
  /-- Nothing is found. -/
  | none {rest : List Char} (hrest : Bare rest) : Found ⟨[], rest⟩
  /-- No value stands behind a marker that begins before this one. The value is not empty and goes
  on as far as it can, and the search goes on behind it. -/
  | token {front value : List Char} {tokens : List (List Char × List Char)} {rest : List Char}
      (hfront : Bare (front ++ marker)) (hne : value ≠ [])
      (hvalue : ∀ c ∈ value, isTokenChar c = true)
      (hend : ∀ c ∈ (TokenText.write id ⟨tokens, rest⟩).head?, isTokenChar c = false)
      (hlater : Found ⟨tokens, rest⟩) : Found ⟨(front, value) :: tokens, rest⟩

theorem Bare.of_infix {s t : List Char} (h : Bare t) (hs : s <:+: t) : Bare s :=
  fun c hc hoccurs => h c hc (hoccurs.trans hs)

/-- No value is found where none of its characters stands behind a marker. -/
theorem valueAtFront_eq_nil_iff {s : List Char} :
    valueAtFront s = [] ↔ ∀ c, isTokenChar c = true → ¬ marker ++ [c] <+: s := by
  constructor
  · rintro hnone c hc ⟨rest, rfl⟩
    rw [List.append_assoc, valueAtFront_marker_append, List.singleton_append,
      List.takeWhile_cons_of_pos hc] at hnone
    cases hnone
  · intro h
    cases hvalue : valueAtFront s with
    | nil => rfl
    | cons c value =>
      have hbegins := marker_append_valueAtFront_begins (hvalue ▸ List.cons_ne_nil c value)
      have hc : isTokenChar c = true :=
        isTokenChar_of_mem_valueAtFront (hvalue ▸ List.mem_cons_self)
      rw [hvalue] at hbegins
      exact absurd (((List.prefix_append_right_inj marker).mpr ⟨value, rfl⟩).trans hbegins) (h c hc)

theorem Bare.valueAtFront_eq_nil {s : List Char} (h : Bare s) : valueAtFront s = [] :=
  valueAtFront_eq_nil_iff.mpr fun c hc hbegins => h c hc hbegins.isInfix

theorem Bare.cons {c : Char} {s : List Char} (h : Bare s) (hvalue : valueAtFront (c :: s) = []) :
    Bare (c :: s) := by
  intro d hd hoccurs
  rcases List.infix_cons_iff.mp hoccurs with hbegins | hlater
  · exact valueAtFront_eq_nil_iff.mp hvalue d hd hbegins
  · exact h d hd hlater

theorem bare_nil : Bare [] := fun c _ hoccurs => by
  have hlength := hoccurs.length_le
  rw [List.length_append, List.length_singleton] at hlength
  exact absurd hlength (Nat.not_succ_le_zero _)

theorem bare_marker : Bare marker := fun c _ hoccurs => by
  have hlength := hoccurs.length_le
  rw [List.length_append, List.length_singleton] at hlength
  omega

/-- Whether a value is found before a marker does not depend on what follows this marker. -/
theorem valueAtFront_append_marker {front : List Char} (hne : front ≠ []) (s : List Char) :
    valueAtFront (front ++ marker ++ s) = [] ↔ valueAtFront (front ++ marker) = [] := by
  have hpos : 0 < front.length := List.length_pos_iff.mpr hne
  rw [valueAtFront_eq_nil_iff, valueAtFront_eq_nil_iff]
  refine forall_congr' fun c => forall_congr' fun _ =>
    not_congr ⟨fun hbegins => ?_, fun hbegins => ?_⟩
  · refine List.prefix_of_prefix_length_le hbegins (List.prefix_append _ s) ?_
    rw [List.length_append, List.length_append, List.length_singleton]
    omega
  · exact hbegins.trans (List.prefix_append _ s)

/-! ## Tokens that are found -/

theorem TokenText.head?_write (form other : List Char → List Char) (text : TokenText) :
    (text.write form).head? = (text.write other).head? := by
  obtain ⟨tokens, rest⟩ := text
  cases tokens with
  | nil => rfl
  | cons token tokens =>
    obtain ⟨c, front, hfront⟩ : ∃ c front, token.1 ++ marker = c :: front :=
      List.exists_cons_of_ne_nil (List.append_ne_nil_of_right_ne_nil _ (by decide))
    rw [write_cons, write_cons, hfront]
    rfl

/-- A further character before the tokens, if no value is found there. -/
theorem Found.cons {c : Char} {text : TokenText} (h : Found text)
    (hvalue : valueAtFront (c :: text.write id) = []) :
    ∃ longer, Found longer ∧ longer.write id = c :: text.write id := by
  cases h with
  | @none rest hrest => exact ⟨⟨[], c :: rest⟩, .none (hrest.cons hvalue), rfl⟩
  | @token front value tokens rest hfront hne hvalues hend hlater =>
    have hwrite := TokenText.write_cons id (c :: front) value tokens rest
    refine ⟨⟨(c :: front, value) :: tokens, rest⟩,
      .token (hfront.cons ?_) hne hvalues hend hlater, ?_⟩
    · rw [TokenText.write_cons, List.append_assoc, ← List.cons_append, ← List.cons_append] at hvalue
      exact (valueAtFront_append_marker (List.cons_ne_nil c front) _).mp hvalue
    · rw [hwrite, TokenText.write_cons]
      rfl

/-- In every text tokens are found, or none. The search goes on behind the first character or the
first value. -/
theorem exists_found (s : List Char) : ∃ text, Found text ∧ text.write id = s := by
  induction hlength : s.length using Nat.strongRecOn generalizing s with
  | _ length ih =>
    subst hlength
    by_cases hvalue : valueAtFront s = []
    · cases s with
      | nil => exact ⟨⟨[], []⟩, .none bare_nil, rfl⟩
      | cons c s =>
        obtain ⟨text, hfound, rfl⟩ := ih _ (Nat.lt_succ_self _) s rfl
        exact hfound.cons hvalue
    · obtain ⟨rest, hsplit, hend⟩ := exists_eq_of_value hvalue
      have hlength := congrArg List.length hsplit
      rw [List.length_append, List.length_append] at hlength
      have hpos : 0 < marker.length := by decide
      obtain ⟨text, hfound, rfl⟩ := ih rest.length (by omega) rest rfl
      refine ⟨⟨([], valueAtFront s) :: text.tokens, text.rest⟩, ?_, ?_⟩
      · exact .token bare_marker hvalue (fun c hc => isTokenChar_of_mem_valueAtFront hc) hend hfound
      · rw [TokenText.write_cons]
        exact hsplit.symm

/-- In front of the first marker there is none with a value. -/
theorem length_le_of_bare {front other value s : List Char} (hother : Bare (other ++ marker))
    (hne : value ≠ []) (hvalue : ∀ c ∈ value, isTokenChar c = true)
    (h : front ++ marker ++ value <+: other ++ marker ++ s) : other.length ≤ front.length := by
  refine Nat.le_of_not_lt fun hlt => ?_
  cases value with
  | nil => exact hne rfl
  | cons c value =>
    refine hother c (hvalue c List.mem_cons_self) ?_
    have hbegins : front ++ (marker ++ [c]) <+: other ++ marker := by
      refine List.prefix_of_prefix_length_le (List.IsPrefix.trans ⟨value, ?_⟩ h)
        (List.prefix_append _ s) ?_
      · simp only [List.append_assoc, List.singleton_append]
      · simp only [List.length_append, List.length_singleton]
        omega
    exact (List.suffix_append front _).isInfix.trans hbegins.isInfix

theorem not_bare_append {front value s : List Char} (hne : value ≠ [])
    (hvalue : ∀ c ∈ value, isTokenChar c = true) : ¬ Bare (front ++ marker ++ value ++ s) := by
  intro h
  cases value with
  | nil => exact hne rfl
  | cons c value =>
    exact h c (hvalue c List.mem_cons_self) ⟨front, value ++ s, by simp⟩

/-- A text tells the tokens that are found in it. -/
theorem Found.unique {text other : TokenText} (h : Found text) (hother : Found other)
    (heq : text.write id = other.write id) : text = other := by
  induction h generalizing other with
  | @none rest hrest =>
    cases hother with
    | none => exact congrArg (TokenText.mk []) heq
    | token hfront hne hvalue =>
      rw [TokenText.write_nil, TokenText.write_cons] at heq
      exact absurd (heq ▸ hrest) (not_bare_append hne hvalue)
  | @token front value tokens rest hfront hne hvalue hend hlater ih =>
    cases hother with
    | none hrest =>
      rw [TokenText.write_nil, TokenText.write_cons] at heq
      exact absurd (heq ▸ hrest) (not_bare_append hne hvalue)
    | @token front' value' tokens' rest' hfront' hne' hvalue' hend' hlater' =>
      rw [TokenText.write_cons, TokenText.write_cons, id_eq, id_eq] at heq
      have hlength : front.length = front'.length := Nat.le_antisymm
        (length_le_of_bare hfront hne' hvalue' ⟨_, heq.symm.trans (List.append_assoc _ value _)⟩)
        (length_le_of_bare hfront' hne hvalue ⟨_, heq.trans (List.append_assoc _ value' _)⟩)
      simp only [List.append_assoc] at heq
      obtain ⟨rfl, hmarker⟩ := List.append_inj heq hlength
      obtain rfl : value = value' := by
        rw [← valueAtFront_marker hvalue hend, List.append_assoc, hmarker, ← List.append_assoc,
          valueAtFront_marker hvalue' hend']
      cases ih hlater' (List.append_cancel_left (List.append_cancel_left hmarker))
      rfl

/-! ## Redaction of what is found -/

theorem maskTokens_append_of_bare {front : List Char} (h : Bare (front ++ marker))
    (s : List Char) : maskTokens (front ++ marker ++ s) = front ++ maskTokens (marker ++ s) := by
  induction front with
  | nil => rfl
  | cons c front ih =>
    have hvalue := (valueAtFront_append_marker (List.cons_ne_nil c front) s).mpr
      h.valueAtFront_eq_nil
    have hlater : Bare (front ++ marker) := h.of_infix (List.infix_cons List.infix_rfl)
    rw [List.cons_append, List.cons_append] at hvalue ⊢
    rw [maskTokens_cons_of_no_value hvalue, ih hlater, List.cons_append]

theorem maskTokens_of_bare {s : List Char} (h : Bare s) : maskTokens s = s := by
  induction s with
  | nil => rfl
  | cons c s ih =>
    have hlater : Bare s := h.of_infix (List.infix_cons List.infix_rfl)
    rw [maskTokens_cons_of_no_value h.valueAtFront_eq_nil, ih hlater]

/-- The values that are found are replaced by their masks. -/
theorem maskTokens_write {text : TokenText} (h : Found text) :
    maskTokens (text.write id) = text.write Secret.mask := by
  induction h with
  | none hrest => exact maskTokens_of_bare hrest
  | token hfront hne hvalue hend _ ih =>
    rw [TokenText.write_cons, TokenText.write_cons, ← ih, id_eq, List.append_assoc,
      maskTokens_append_of_bare hfront, ← List.append_assoc, maskTokens_marker hne hvalue hend]
    simp only [List.append_assoc]

/-- In the text with masks the same tokens are found, with their masks as values. -/
theorem Found.mapValues {text : TokenText} (h : Found text) :
    Found (text.mapValues Secret.mask) := by
  induction h with
  | none hrest => exact .none hrest
  | @token front value tokens rest hfront hne hvalue hend _ ih =>
    refine .token hfront (Secret.mask_ne_nil hne) (fun c hc => ?_) (fun c hc => ?_) ih
    · rcases Secret.mem_mask hc with rfl | hmem
      · decide
      · exact hvalue c hmem
    · change c ∈ (TokenText.write id (TokenText.mapValues Secret.mask ⟨tokens, rest⟩)).head? at hc
      rw [TokenText.write_mapValues, TokenText.head?_write _ id] at hc
      exact hend c hc

/-- A redacted text is not changed again. -/
theorem maskTokens_maskTokens (s : List Char) : maskTokens (maskTokens s) = maskTokens s := by
  have hmask : (fun value => Secret.mask (Secret.mask value)) = Secret.mask :=
    funext fun value => Secret.maskWith_maskWith '*' value
  obtain ⟨text, hfound, rfl⟩ := exists_found s
  have hmasked := maskTokens_write hfound.mapValues
  rw [TokenText.write_mapValues, TokenText.write_mapValues, hmask] at hmasked
  rw [maskTokens_write hfound]
  exact hmasked

end Redaction

end PlatformClient
