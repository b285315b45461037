import PlatformClient.Proofs.Redaction.SecretInAddress

/-!
# The secret in a message

A message is logged with every occurrence of the configured secret replaced by its mask. The
occurrences are found from the left and do not overlap, and the mask of a longer secret shows its
last characters. If the secret begins with what its mask shows last, a message in which it overlaps
itself is masked only once: the characters shown are completed to the secret by the text behind
them, and the secret is logged. So the secret stays out of all redacted messages if and only if it
does not begin with an ending that its mask shows.

Tokens are masked before. A secret may hold a token itself, and then the overlapping secrets have to
be a text that can still be there once the tokens are masked.

## Main definitions

* `Redaction.Overlap`: a secret begins with an ending that its mask shows
* `Redaction.Remains`: texts that can stand in a text with all tokens masked
* `Redaction.Returns`: secrets that can be left where they overlap themselves

## Main results

* `Redaction.exists_overlap_of_infix_maskSecret`: a secret in a masked text has overlapped itself
* `Redaction.remains_of_infix_maskTokens`, `Redaction.prefix_maskTokens_append`: texts remain
  exactly if they are found in texts with all tokens masked
* `Redaction.not_infix_redact_iff`: the secrets that stay out of all redacted messages
-/

namespace PlatformClient.Redaction

variable {secret shown hidden s : List Char}

/-! ## Secrets that overlap themselves -/

/-- A secret begins with an ending that its mask shows. Two occurrences that share these characters
are the secret followed by what it goes on with. -/
structure Overlap (secret shown hidden : List Char) : Prop where
  split : secret = shown ++ hidden
  nonempty : shown ≠ []
  shown : shown <:+ Secret.shownEnd secret

/-- Without an occurrence in a text, a secret occurs behind the shown end of a mask only if it
begins there. -/
theorem exists_overlap_of_infix_append (hsecret : secret ≠ []) (hnone : ¬ secret <:+: s)
    (h : secret <:+: Secret.shownEnd secret ++ s) :
    ∃ shown hidden, Overlap secret shown hidden ∧ hidden <+: s := by
  rcases List.infix_append_iff.mp h with hend | hlater | ⟨shown, hidden, hsplit, hshown, hhidden⟩
  · have hshort := Secret.shownEnd_length_lt hsecret
    exact absurd hend.length_le (by omega)
  · exact absurd hlater hnone
  · refine ⟨shown, hidden, ⟨hsplit, ?_, hshown⟩, hhidden⟩
    rintro rfl
    exact hnone (hsplit ▸ hhidden.isInfix)

/-- The secret has been masked before a text. If it occurs once the text is masked as well, two
occurrences have shared characters that are shown. The induction goes on behind the next occurrence
of the secret, so it is on the length. -/
theorem exists_overlap_of_infix_append_maskSecret (hsecret : secret ≠ []) (hstar : '*' ∉ secret)
    (h : secret <:+: Secret.shownEnd secret ++ maskSecret secret s) :
    ∃ shown hidden, Overlap secret shown hidden ∧ secret ++ hidden <:+: secret ++ s := by
  induction hlength : s.length using Nat.strongRecOn generalizing s with
  | _ length ih =>
    by_cases hs : secret <:+: s
    · obtain ⟨front, rest, count, rfl, hmasked, hnone⟩ := exists_maskSecret_eq hsecret hs
      rw [hmasked, ← List.append_assoc, Text.infix_append_cons_iff hstar] at h
      rcases h with hbefore | hbehind
      · -- before the asterisks the next occurrence is only begun
        obtain ⟨shown, hidden, hoverlap, hhidden⟩ :=
          exists_overlap_of_infix_append hsecret hnone hbefore
        have hbegun : front ++ Secret.shownFront secret <+: front ++ secret ++ rest :=
          ((List.prefix_append_right_inj front).mpr (Secret.shownFront_begins secret)).trans
            (List.prefix_append _ rest)
        refine ⟨shown, hidden, hoverlap, ?_⟩
        exact ((List.prefix_append_right_inj secret).mpr (hhidden.trans hbegun)).isInfix
      · have hrest := Text.infix_of_infix_replicate_append hstar hbehind
        have hshorter := length_lt_of_occurrence hsecret front rest
        obtain ⟨shown, hidden, hoverlap, hoccurs⟩ := ih _ (hlength ▸ hshorter) hrest rfl
        refine ⟨shown, hidden, hoverlap, hoccurs.trans ⟨secret ++ front, [], ?_⟩⟩
        simp only [List.append_assoc, List.append_nil]
    · have hunchanged : maskSecret secret s = s := Text.replaceAll_of_not_infix hs _
      rw [hunchanged] at h
      obtain ⟨shown, hidden, hoverlap, hhidden⟩ := exists_overlap_of_infix_append hsecret hs h
      exact ⟨shown, hidden, hoverlap,
        ((List.prefix_append_right_inj secret).mpr hhidden).isInfix⟩

/-- A secret that occurs where it has been masked has overlapped itself there. -/
theorem exists_overlap_of_infix_maskSecret (hsecret : secret ≠ []) (hstar : '*' ∉ secret)
    (h : secret <:+: maskSecret secret s) :
    ∃ shown hidden, Overlap secret shown hidden ∧ secret ++ hidden <:+: s := by
  by_cases hs : secret <:+: s
  · obtain ⟨front, rest, count, rfl, hmasked, hnone⟩ := exists_maskSecret_eq hsecret hs
    rw [hmasked, Text.infix_append_cons_iff hstar] at h
    rcases h with hbefore | hbehind
    · exact absurd hbefore hnone
    · have hrest := Text.infix_of_infix_replicate_append hstar hbehind
      obtain ⟨shown, hidden, hoverlap, hoccurs⟩ :=
        exists_overlap_of_infix_append_maskSecret hsecret hstar hrest
      refine ⟨shown, hidden, hoverlap, hoccurs.trans ⟨front, [], ?_⟩⟩
      simp only [List.append_assoc, List.append_nil]
  · have hunchanged : maskSecret secret s = s := Text.replaceAll_of_not_infix hs _
    exact absurd (hunchanged ▸ h) hs

/-! ## Texts between masked tokens -/

/-- A text can stand, without the asterisks of any mask, in a text with all tokens masked: behind a
marker comes no value in it, or the begin of one, of up to three characters, that ends it. -/
def Remains (s : List Char) : Prop :=
  ∀ back, marker ++ back <:+ s → back.takeWhile isTokenChar = [] ∨
    (∀ c ∈ back, isTokenChar c = true) ∧ back.length ≤ 3

theorem isTokenChar_of_mem_marker : ∀ c ∈ marker, isTokenChar c = true :=
  List.all_eq_true.mp (by decide)

theorem valueAtFront_marker_append (s : List Char) :
    valueAtFront (marker ++ s) = s.takeWhile isTokenChar := by
  rw [valueAtFront, if_pos (List.isPrefixOf_iff_prefix.mpr (List.prefix_append _ _)),
    List.drop_left]

theorem isTokenChar_of_mem_valueAtFront {c : Char} (h : c ∈ valueAtFront s) :
    isTokenChar c = true := by
  unfold valueAtFront at h
  split at h
  · exact List.all_eq_true.mp List.all_takeWhile c h
  · cases h

/-- Behind the value at the front of a text comes the end, or a character of no value. -/
theorem exists_eq_of_value (h : valueAtFront s ≠ []) :
    ∃ rest, s = marker ++ valueAtFront s ++ rest ∧ ∀ c ∈ rest.head?, isTokenChar c = false := by
  obtain ⟨tail, rfl⟩ : marker <+: s :=
    (List.prefix_append _ _).trans (marker_append_valueAtFront_begins h)
  refine ⟨tail.dropWhile isTokenChar, ?_, fun c hc => ?_⟩
  · rw [valueAtFront_marker_append, List.append_assoc, List.takeWhile_append_dropWhile]
  · have hhead := List.head?_dropWhile_not isTokenChar tail
    rwa [Option.mem_def.mp hc] at hhead

/-- A character that begins no marker stays. -/
theorem maskTokens_cons_of_ne {c : Char} {rest : List Char} (h : c ≠ 'a') :
    maskTokens (c :: rest) = c :: maskTokens rest :=
  maskTokens_cons_of_not_begins fun hbegins => h (List.cons_prefix_cons.mp hbegins).1.symm

/-- What a masked text begins with is what the text begins with, as long as no marker begins
there. -/
theorem exists_eq_append_of_prefix_maskTokens {front back : List Char} (hfront : 'a' ∉ front)
    (h : front ++ back <+: maskTokens s) :
    ∃ rest, s = front ++ rest ∧ back <+: maskTokens rest := by
  induction front generalizing s with
  | nil => exact ⟨s, rfl, h⟩
  | cons c front ih =>
    rw [List.mem_cons, not_or] at hfront
    cases s with
    | nil => exact absurd (List.prefix_nil.mp h) (by simp)
    | cons d s =>
      by_cases hvalue : valueAtFront (d :: s) = []
      · rw [maskTokens_cons_of_no_value hvalue, List.cons_append, List.cons_prefix_cons] at h
        obtain ⟨rfl, htail⟩ := h
        obtain ⟨rest, rfl, hback⟩ := ih hfront.2 htail
        exact ⟨rest, rfl, hback⟩
      · rw [maskTokens_of_value hvalue, List.append_assoc] at h
        exact absurd (List.cons_prefix_cons.mp h).1 (Ne.symm hfront.1)

/-- Of what follows a marker, a mask shows up to three characters. -/
theorem prefix_of_infix_marker_append {back front : List Char} (hfront : front.length ≤ 3)
    (h : marker ++ back <:+: marker ++ front) : back <+: front := by
  obtain ⟨before, behind, heq⟩ := h
  have hlength := congrArg List.length heq
  simp only [List.length_append] at hlength
  have hbefore : before.length ≤ 3 := by omega
  have hfirst : ∀ n ≤ 3, marker[n]? = some 'a' → n = 0 := by decide
  have hplace : (marker ++ front)[before.length]? = some 'a' := by
    rw [← heq, List.append_assoc, List.append_assoc, List.getElem?_append_right (Nat.le_refl _),
      Nat.sub_self]
    rfl
  have hinside : before.length < marker.length := Nat.lt_of_le_of_lt hbefore (by decide)
  rw [List.getElem?_append_left hinside] at hplace
  rw [List.length_eq_zero_iff.mp (hfirst _ hbefore hplace), List.nil_append,
    List.append_assoc] at heq
  exact ⟨behind, List.append_cancel_left heq⟩

/-- Behind a masked value no marker begins before the next character of no value. -/
theorem infix_maskTokens_of_infix_append {shown rest word : List Char} (hshown : shown.length ≤ 3)
    (hrest : ∀ c ∈ rest.head?, isTokenChar c = false)
    (h : marker ++ word <:+: shown ++ maskTokens rest) : marker ++ word <:+: maskTokens rest := by
  have hmarker : marker.length = 13 := rfl
  rcases List.infix_append_iff.mp h with hinside | hlater | ⟨front, back, heq, hfront, hback⟩
  · have hlength := hinside.length_le
    rw [List.length_append] at hlength
    omega
  · exact hlater
  · have hshort := hfront.length_le
    obtain ⟨tail, htail, hword⟩ : ∃ tail, marker = front ++ tail ∧ back = tail ++ word := by
      rcases List.append_eq_append_iff.mp heq with ⟨tail, hlong, -⟩ | ⟨tail, hsplit, hword⟩
      · have hlength := congrArg List.length hlong
        rw [List.length_append] at hlength
        omega
      · exact ⟨tail, hsplit, hword⟩
    cases tail with
    | nil =>
      have hlength := congrArg List.length htail
      rw [List.append_nil] at hlength
      omega
    | cons c tail =>
      have hc : isTokenChar c = true :=
        isTokenChar_of_mem_marker c (htail ▸ List.mem_append_right _ List.mem_cons_self)
      rw [hword] at hback
      cases rest with
      | nil => exact absurd (List.prefix_nil.mp hback) (List.cons_ne_nil _ _)
      | cons d rest =>
        have hd : isTokenChar d = false := hrest d rfl
        have hne : d ≠ 'a' := fun heq => absurd (heq ▸ hd) (by decide)
        rw [maskTokens_cons_of_ne hne] at hback
        obtain ⟨rfl, -⟩ := List.cons_prefix_cons.mp hback
        exact absurd (hc.symm.trans hd) (by decide)

/-- Where a masked text begins with no value, neither does what it begins with. -/
theorem takeWhile_isTokenChar_eq_nil {back rest : List Char}
    (hrest : rest.takeWhile isTokenChar = []) (h : back <+: maskTokens rest) :
    back.takeWhile isTokenChar = [] := by
  cases rest with
  | nil => rw [List.prefix_nil.mp h, List.takeWhile_nil]
  | cons d rest =>
    have hd : isTokenChar d = false := by
      cases hd : isTokenChar d with
      | false => rfl
      | true => rw [List.takeWhile_cons_of_pos hd] at hrest; cases hrest
    have hne : d ≠ 'a' := fun heq => absurd (heq ▸ hd) (by decide)
    rw [maskTokens_cons_of_ne hne] at h
    cases back with
    | nil => rfl
    | cons c back =>
      obtain ⟨rfl, -⟩ := List.cons_prefix_cons.mp h
      exact List.takeWhile_cons_of_neg (by simp [hd])

/-- Behind a marker in a text with all tokens masked comes no value, or asterisks do before more
than three characters of it. A value is skipped as a whole, so the induction is on the length. -/
theorem value_of_infix_maskTokens {back : List Char} (hstar : '*' ∉ back)
    (h : marker ++ back <:+: maskTokens s) : back.takeWhile isTokenChar = [] ∨
      (∀ c ∈ back, isTokenChar c = true) ∧ back.length ≤ 3 := by
  induction hlength : s.length using Nat.strongRecOn generalizing s with
  | _ length ih =>
    by_cases hvalue : valueAtFront s = []
    · cases s with
      | nil =>
        rw [maskTokens_nil, List.infix_nil] at h
        exact absurd (List.append_eq_nil_iff.mp h).1 (by decide)
      | cons c s =>
        rw [maskTokens_cons_of_no_value hvalue] at h
        rcases List.infix_cons_iff.mp h with hbegin | hlater
        · obtain ⟨tail, hmarker, hnone⟩ : ∃ tail, marker = 'a' :: tail ∧ 'a' ∉ tail :=
            ⟨_, rfl, by decide⟩
          rw [hmarker, List.cons_append, List.cons_prefix_cons] at hbegin
          obtain ⟨rfl, htail⟩ := hbegin
          obtain ⟨rest, rfl, hback⟩ := exists_eq_append_of_prefix_maskTokens hnone htail
          rw [← List.cons_append, ← hmarker, valueAtFront_marker_append] at hvalue
          exact .inl (takeWhile_isTokenChar_eq_nil hvalue hback)
        · exact ih _ (hlength ▸ Nat.lt_succ_self _) hlater rfl
    · obtain ⟨rest, hs, hrest⟩ := exists_eq_of_value hvalue
      have hchars := fun c => isTokenChar_of_mem_valueAtFront (s := s) (c := c)
      obtain ⟨count, hmask⟩ := Secret.exists_mask_eq hvalue
      have hstar' : '*' ∉ marker ++ back := by
        rw [List.mem_append, not_or]
        exact ⟨by decide, hstar⟩
      have hmasked : maskTokens s = (marker ++ Secret.shownFront (valueAtFront s)) ++ '*' ::
          (List.replicate count '*' ++ (Secret.shownEnd (valueAtFront s) ++ maskTokens rest)) := by
        rw [congrArg maskTokens hs, maskTokens_marker hvalue hchars hrest, hmask]
        simp only [List.append_assoc, List.cons_append]
      rw [hmasked, Text.infix_append_cons_iff hstar'] at h
      rcases h with hfront | hbehind
      · have hshown := prefix_of_infix_marker_append (Secret.shownFront_length_le _) hfront
        have hall : ∀ c ∈ back, isTokenChar c = true := fun c hc =>
          hchars c ((hshown.trans (Secret.shownFront_begins _)).subset hc)
        exact .inr ⟨hall, Nat.le_trans hshown.length_le (Secret.shownFront_length_le _)⟩
      · have hend := Text.infix_of_infix_replicate_append hstar' hbehind
        have hlater := infix_maskTokens_of_infix_append (shownEnd_length_le _) hrest hend
        have hshorter : rest.length < length := by
          rw [← hlength, congrArg List.length hs, List.length_append, List.length_append]
          have hpos : 0 < marker.length := by decide
          omega
        exact ih _ hshorter hlater rfl

/-- What stands between the masked tokens of a text remains. -/
theorem remains_of_infix_maskTokens {word : List Char} (hstar : '*' ∉ word)
    (h : word <:+: maskTokens s) : Remains word := by
  intro back hback
  have hsuffix := (List.suffix_append marker back).trans hback
  exact value_of_infix_maskTokens (fun hmem => hstar (hsuffix.subset hmem)) (hback.isInfix.trans h)

/-! ## Texts that remain are found -/

/-- The first characters of a value remain when it is masked with asterisks behind them. -/
theorem prefix_mask_append {value : List Char} (h : value.length ≤ 3) :
    value ++ ['*'] <+: Secret.mask (value ++ List.replicate 8 '*') := by
  match value, h with
  | [], _ => exact ⟨_, rfl⟩
  | [_], _ => exact ⟨_, rfl⟩
  | [_, _], _ => exact ⟨_, rfl⟩
  | [_, _, _], _ => exact ⟨_, rfl⟩

/-- A text that remains is left as it is before enough asterisks. -/
theorem prefix_maskTokens_append {word : List Char} (hstar : '*' ∉ word) (h : Remains word) :
    word ++ ['*'] <+: maskTokens (word ++ List.replicate 8 '*') := by
  induction word with
  | nil => exact ⟨List.replicate 7 '*', by decide⟩
  | cons c word ih =>
    have htail := ih (fun hmem => hstar (List.mem_cons_of_mem _ hmem))
      (fun back hback => h back (hback.trans (List.suffix_cons c word)))
    have hcons : valueAtFront (c :: (word ++ List.replicate 8 '*')) = [] →
        c :: word ++ ['*'] <+: maskTokens (c :: word ++ List.replicate 8 '*') := by
      intro hvalue
      rw [List.cons_append, List.cons_append, maskTokens_cons_of_no_value hvalue]
      exact List.cons_prefix_cons.mpr ⟨rfl, htail⟩
    by_cases hmarker : marker <+: c :: word
    · obtain ⟨back, hback⟩ := hmarker
      have hbegun : (∀ d ∈ back, isTokenChar d = true) → back.length ≤ 3 →
          c :: word ++ ['*'] <+: maskTokens (c :: word ++ List.replicate 8 '*') := by
        intro hall hshort
        have hvalue : ∀ d ∈ back ++ List.replicate 8 '*', isTokenChar d = true := by
          intro d hd
          rcases List.mem_append.mp hd with hd | hd
          · exact hall d hd
          · rw [List.eq_of_mem_replicate hd]
            decide
        have hnone : ∀ d ∈ ([] : List Char).head?, isTokenChar d = false := nofun
        have hmasked := maskTokens_marker (by simp) hvalue hnone
        rw [List.append_nil, maskTokens_nil, List.append_nil] at hmasked
        rw [← hback, List.append_assoc, List.append_assoc, hmasked]
        exact (List.prefix_append_right_inj marker).mpr (prefix_mask_append hshort)
      rcases h back ⟨[], hback⟩ with hnone | ⟨hall, hshort⟩
      · cases back with
        | nil => exact hbegun (fun _ hd => absurd hd List.not_mem_nil) (Nat.zero_le 3)
        | cons d back =>
          refine hcons ?_
          have hd : ¬ isTokenChar d = true := fun hd => by
            rw [List.takeWhile_cons_of_pos hd] at hnone
            cases hnone
          rw [← List.cons_append, ← hback, List.append_assoc, valueAtFront_marker_append,
            List.cons_append, List.takeWhile_cons_of_neg hd]
      · exact hbegun hall hshort
    · refine hcons ?_
      have hbegins : ¬ marker <+: c :: (word ++ List.replicate 8 '*') := fun hbegins =>
        hmarker (Text.prefix_of_prefix_append_cons (by decide) hbegins)
      rw [valueAtFront, if_neg fun hp => hbegins (List.isPrefixOf_iff_prefix.mp hp)]

/-! ## Secrets that are logged -/

/-- A secret can be left where it overlaps itself: it begins with an ending that its mask shows, and
what two occurrences make up that share it is a text that remains when the tokens are masked. -/
def Returns (secret : List Char) : Prop :=
  ∃ shown hidden, Overlap secret shown hidden ∧ Remains (secret ++ hidden)

/-- A secret the first character of which its mask does not show at its end does not return. -/
theorem not_returns_of_head {c : Char} {rest : List Char}
    (h : c ∉ Secret.shownEnd (c :: rest)) : ¬ Returns (c :: rest) := by
  rintro ⟨shown, hidden, hoverlap, -⟩
  cases shown with
  | nil => exact hoverlap.nonempty rfl
  | cons d shown =>
    obtain ⟨rfl, -⟩ := List.cons_eq_cons.mp hoverlap.split
    exact h (hoverlap.shown.subset List.mem_cons_self)

/-- **The secret in a message.** The configured secret stays out of every redacted message, however
often it occurs, if and only if it cannot be left where it overlaps itself. -/
theorem not_infix_redact_iff {settings : Settings} (hsecret : settings.appSecret ≠ "")
    (hstar : '*' ∉ settings.appSecret.toList) :
    (∀ message, ¬ settings.appSecret.toList <:+: (redact settings message).toList) ↔
      ¬ Returns settings.appSecret.toList := by
  have hne : settings.appSecret.toList ≠ [] := fun h => hsecret (String.toList_eq_nil_iff.mp h)
  have hdouble : ∀ {shown hidden}, Overlap settings.appSecret.toList shown hidden →
      '*' ∉ settings.appSecret.toList ++ hidden := by
    intro shown hidden hoverlap hmem
    rcases List.mem_append.mp hmem with hmem | hmem
    · exact hstar hmem
    · exact hstar (hoverlap.split ▸ List.mem_append_right shown hmem)
  constructor
  · rintro hkept ⟨shown, hidden, hoverlap, hremains⟩
    refine hkept (String.ofList (settings.appSecret.toList ++ hidden ++ List.replicate 8 '*')) ?_
    obtain ⟨rest, hrest⟩ := prefix_maskTokens_append (hdouble hoverlap) hremains
    have hunmasked : ¬ settings.appSecret.toList <:+: hidden := by
      intro hoccurs
      have hlength := congrArg List.length hoverlap.split
      have hpos := List.length_pos_iff.mpr hoverlap.nonempty
      have hle := hoccurs.length_le
      rw [List.length_append] at hlength
      omega
    have hleft := infix_maskSecret_append hne hoverlap.shown hunmasked
    rw [← hoverlap.split] at hleft
    rw [toList_redact, String.toList_ofList, ← hrest, List.append_assoc (_ ++ _) ['*'],
      List.singleton_append, maskSecret_append_cons hstar hne]
    exact List.infix_append_of_infix_left hleft
  · intro hreturns message hoccurs
    rw [toList_redact] at hoccurs
    obtain ⟨shown, hidden, hoverlap, hdoubled⟩ :=
      exists_overlap_of_infix_maskSecret hne hstar hoccurs
    exact hreturns ⟨shown, hidden, hoverlap,
      remains_of_infix_maskTokens (hdouble hoverlap) hdoubled⟩

/-- A secret the end of which does not come again in it stays out of every redacted message. -/
theorem not_infix_redact_of_no_overlap :
    (Settings.ofSecret "my_app_secret").appSecret ≠ "" ∧
      ∀ message, ¬ "my_app_secret".toList <:+:
        (redact (Settings.ofSecret "my_app_secret") message).toList := by
  have hsecret : (Settings.ofSecret "my_app_secret").appSecret ≠ "" := by decide
  refine ⟨hsecret, ?_⟩
  exact (not_infix_redact_iff hsecret (by decide)).mpr (not_returns_of_head (by decide))

/-- A secret that ends with the character it begins with is logged where it overlaps itself. -/
theorem infix_redact_of_overlap :
    (Settings.ofSecret "abcda").appSecret ≠ "" ∧
      '*' ∉ (Settings.ofSecret "abcda").appSecret.toList ∧
      (Settings.ofSecret "abcda").appSecret.toList <:+:
        (redact (Settings.ofSecret "abcda") "abcdabcda").toList := by
  refine ⟨by decide, by decide, Text.occursIn_iff.mp ?_⟩
  decide +kernel

end PlatformClient.Redaction
