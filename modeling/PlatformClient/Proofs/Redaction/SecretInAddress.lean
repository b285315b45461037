import PlatformClient.Endpoint
import PlatformClient.Log.Report
import PlatformClient.Proofs.Query.ReadBack
import PlatformClient.Proofs.Redaction.Masked

/-!
# The secret in the address of the token request

The address that asks for a token carries the secret in its query, where it is percent-encoded. A
text with that address is logged when the request fails. What is masked before it is logged are the
occurrences of the secret as it is configured, and a secret that is not spelled the same in a query
is not among them. So the spelled secret stays out of the log for every text around the address if
and only if it cannot survive the masking of the secret.

## Main definitions

* `Log.KeepsOut`: a word is in no line that shows a message or a fault with a text
* `Query.spelledSecret`: the secret as the address of the token request spells it

## Main results

* `Log.keepsOut_iff`: both ways to log a text show it redacted
* `Redaction.not_survives_of_plain`: a secret that is spelled the same in a query does not survive
* `Redaction.keepsOut_spelledSecret_iff`: the secrets that stay out of the log
-/

namespace PlatformClient

/-! ## Ways to log a text -/

namespace Log

/-- A word is in no line that shows a message with the given text, or a fault that reports it. -/
structure KeepsOut (settings : Settings) (word : List Char) (text : String) : Prop where
  message : ¬ word <:+: (compose settings [.text text]).toList
  logged : ∀ kind channel line, (channel, line) ∈ faultLines settings ⟨kind, text, none⟩ →
    ¬ word <:+: line.toList
  printed : ∀ kind line, Emission.error line ∈ printedFault settings ⟨kind, text, none⟩ →
    ¬ word <:+: line.toList

/-- What stands before the text of a fault in its lines. -/
def announcements : List String := ["Message:", " ‼  Message:"]

/-- Both ways to log a text show it redacted. A word without spaces that no announcement contains
stays out of them if it is not in the redacted text. -/
theorem keepsOut_iff {settings : Settings} {word : List Char} {text : String} (hspace : ' ' ∉ word)
    (hannounced : ∀ announcement ∈ announcements, ¬ word <:+: announcement.toList) :
    KeepsOut settings word text ↔ ¬ word <:+: (Redaction.redact settings text).toList := by
  constructor
  · intro h
    exact h.message
  · intro hredacted
    have hline : ∀ announcement ∈ announcements, ¬ word <:+:
        (announcement ++ " " ++ Redaction.redact settings text).toList := by
      intro announcement hmem hoccurs
      rw [String.toList_append, String.toList_append, List.append_assoc,
        show " ".toList ++ _ = ' ' :: _ from rfl, Text.infix_append_cons_iff hspace] at hoccurs
      rcases hoccurs with hfront | hback
      · exact hannounced announcement hmem hfront
      · exact hredacted hback
    refine ⟨hredacted, fun kind channel line hmem => ?_, fun kind line hmem => ?_⟩
    · obtain rfl : line = "Message:" ++ " " ++ Redaction.redact settings text := by
        simpa [faultLines] using congrArg Prod.snd (List.mem_singleton.mp hmem)
      exact hline _ (by decide)
    · obtain rfl : line = " ‼  Message:" ++ " " ++ Redaction.redact settings text := by
        simpa [printedFault] using List.mem_singleton.mp hmem
      exact hline _ (by decide)

end Log

/-! ## The spelled secret -/

namespace Query

/-- The secret as the address of the token request spells it, with the name in front. -/
def spelledSecret (secret : String) : List Char := "secret=".toList ++ encode secret.toList

theorem not_mem_spelledSecret {c : Char} (hname : c ∉ "secret=".toList)
    (halphanum : c.isAlphanum = false) (hmarks : c ∉ marks) (secret : String) :
    c ∉ spelledSecret secret := by
  intro h
  rcases List.mem_append.mp h with hc | hc
  · exact hname hc
  · exact not_mem_encode halphanum hmarks _ hc

/-- The only equals sign in the spelled secret ends its name. -/
theorem not_infix_spelledSecret (secret : String) : ¬ ['n', '='] <:+: spelledSecret secret := by
  have hequals : '=' ∉ encode secret.toList := not_mem_encode (by decide) (by decide) _
  intro h
  rcases List.infix_append_iff.mp h with hname | hvalue | ⟨front, back, hword, hfront, hback⟩
  · exact absurd (Text.occursIn_iff.mpr hname) (by decide)
  · exact hequals (hvalue.subset (by decide))
  · rcases front with _ | ⟨c, _ | ⟨d, rest⟩⟩
    · obtain rfl : back = ['n', '='] := hword.symm
      exact hequals (hback.subset (by decide))
    · obtain ⟨rfl, rfl⟩ : c = 'n' ∧ back = ['='] := by simpa using hword.symm
      exact absurd hfront (by decide)
    · obtain ⟨rfl, rfl, rfl, -⟩ : c = 'n' ∧ d = '=' ∧ rest = [] ∧ back = [] := by
        simpa using hword.symm
      exact absurd hfront (by decide)

end Query

/-- A configuration of which only the secret is set. -/
def Settings.ofSecret (secret : String) : Settings where
  logLevel := "info"
  timeout := 10
  apiBase := "https://api.weixin.qq.com"
  fileBase := "https://file.api.weixin.qq.com"
  appId := ""
  tokenMargin := 60
  poolSize := 16
  chunkSize := 32768
  version := "dev"
  appSecret := secret

/-! ## What redaction leaves of it -/

namespace Redaction

open Query (spelledSecret)

/-- What is redacted by the only secret of a configuration. -/
theorem toList_redact (settings : Settings) (message : String) :
    (redact settings message).toList =
      maskSecret settings.appSecret.toList (maskTokens message.toList) := by
  simp [redact, Settings.secrets]

/-- A short word of an ending of a secret cannot be completed by the spelled secret to an equals
sign. -/
theorem not_infix_append_hidden {secret : String} {shown hidden : List Char}
    (hspelled : spelledSecret secret = shown ++ hidden) (hshort : shown.length ≤ 3)
    (hsecret : secret.toList <:+: spelledSecret secret) :
    ¬ ['n', '='] <:+: secret.toList ++ hidden := by
  have hnone := Query.not_infix_spelledSecret secret
  intro h
  rcases List.infix_append_iff.mp h with hword | hword | ⟨front, back, hword, hfront, hback⟩
  · exact hnone (hword.trans hsecret)
  · exact hnone (hword.trans ⟨shown, [], by rw [hspelled, List.append_nil]⟩)
  · rcases front with _ | ⟨c, _ | ⟨d, rest⟩⟩
    · exact hnone (hword ▸ hback.isInfix.trans ⟨shown, [], by rw [hspelled, List.append_nil]⟩)
    · obtain ⟨rfl, rfl⟩ : c = 'n' ∧ back = ['='] := by simpa using hword.symm
      obtain ⟨rest, rfl⟩ := hback
      have hplace : (spelledSecret secret)[shown.length]? = some '=' := by
        rw [hspelled]
        simp
      have hname : ∀ n ≤ 3, ("secret=".toList ++ Query.encode secret.toList)[n]? ≠ some '=' := by
        intro n hn
        rw [List.getElem?_append_left (by rw [show "secret=".toList.length = 7 from rfl]; omega)]
        revert n
        decide
      exact hname _ hshort hplace
    · obtain ⟨rfl, rfl, rfl, -⟩ : c = 'n' ∧ d = '=' ∧ rest = [] ∧ back = [] := by
        simpa using hword.symm
      exact hnone (hfront.isInfix.trans hsecret)

theorem shownEnd_length_le (s : List Char) : (Secret.shownEnd s).length ≤ 3 := by
  unfold Secret.shownEnd
  split
  · exact Nat.zero_le 3
  · split <;> simp only [List.length_drop] <;> omega

/-- Behind an asterisk a text can be found in which masking the secret leaves its spelled form, if
that can survive at all. There is no token in that text. -/
theorem exists_infix_maskSecret {secret : String} (hsecret : secret ≠ "")
    (h : Survives secret.toList (spelledSecret secret)) :
    ∃ s, ¬ marker <:+: '*' :: s ∧ spelledSecret secret <:+: maskSecret secret.toList s := by
  have hne : secret.toList ≠ [] := fun hnil => hsecret (String.toList_eq_nil_iff.mp hnil)
  obtain ⟨shown, hidden, hspelled, hshown, hhidden⟩ := h
  have hmarker : ∀ s, ¬ ['n', '='] <:+: s → ¬ marker <:+: '*' :: s := by
    intro s hs hoccurs
    have hend : ['n', '='] <:+: '*' :: s :=
      List.IsInfix.trans ⟨"access_toke".toList, [], by decide⟩ hoccurs
    rcases List.infix_cons_iff.mp hend with hfront | hlater
    · exact absurd (List.cons_prefix_cons.mp hfront).1 (by decide)
    · exact hs hlater
  by_cases hinside : secret.toList <:+: spelledSecret secret
  · refine ⟨secret.toList ++ hidden, hmarker _ ?_, ?_⟩
    · have hshort := Nat.le_trans hshown.length_le (shownEnd_length_le _)
      exact not_infix_append_hidden hspelled hshort hinside
    · rw [hspelled]
      exact infix_maskSecret_append hne hshown hhidden
  · refine ⟨spelledSecret secret, hmarker _ (Query.not_infix_spelledSecret secret), ?_⟩
    have hunchanged : maskSecret secret.toList (spelledSecret secret) = spelledSecret secret :=
      Text.replaceAll_of_not_infix hinside _
    exact hunchanged.symm ▸ List.infix_rfl

/-- A secret that is spelled the same in a query does not survive. -/
theorem not_survives_of_plain {secret : String}
    (hplain : Query.encode secret.toList = secret.toList) :
    ¬ Survives secret.toList (spelledSecret secret) := by
  rintro ⟨shown, hidden, hspelled, hshown, hhidden⟩
  have hshort := Nat.le_trans hshown.length_le (shownEnd_length_le _)
  unfold spelledSecret at hspelled
  rw [hplain] at hspelled
  rcases List.append_eq_append_iff.mp hspelled with ⟨middle, hfront, -⟩ | ⟨middle, -, hback⟩
  · have hlength := congrArg List.length hfront
    rw [List.length_append, show "secret=".toList.length = 7 from rfl] at hlength
    omega
  · exact hhidden ⟨middle, [], by rw [hback, List.append_nil]⟩

/-- **The secret in the address of the token request.** Whatever stands around the address in a
message or in the report of a fault, the secret as the address spells it stays out of the log, if
and only if it cannot survive the masking of the configured secret. -/
theorem keepsOut_spelledSecret_iff {settings : Settings} (hsecret : settings.appSecret ≠ "")
    (hstar : '*' ∉ settings.appSecret.toList) :
    (∀ appId front back : String,
        Log.KeepsOut settings (spelledSecret settings.appSecret)
          (front ++ (Endpoint.accessToken appId settings.appSecret).address settings ++ back)) ↔
      ¬ Survives settings.appSecret.toList (spelledSecret settings.appSecret) := by
  have hne : settings.appSecret.toList ≠ [] := fun h => hsecret (String.toList_eq_nil_iff.mp h)
  have hspace : ' ' ∉ spelledSecret settings.appSecret :=
    Query.not_mem_spelledSecret (by decide) (by decide) (by decide) _
  have hspelledStar : '*' ∉ spelledSecret settings.appSecret :=
    Query.not_mem_spelledSecret (by decide) (by decide) (by decide) _
  have hannounced : ∀ announcement ∈ Log.announcements,
      ¬ spelledSecret settings.appSecret <:+: announcement.toList := by
    intro announcement hmem hoccurs
    have hequals : '=' ∈ announcement.toList :=
      hoccurs.subset (List.mem_append_left _ (by decide))
    have hnone : ∀ announcement ∈ Log.announcements, '=' ∉ announcement.toList := by decide
    exact hnone announcement hmem hequals
  constructor
  · intro hkept hsurvives
    obtain ⟨s, hmarker, hleft⟩ := exists_infix_maskSecret hsecret hsurvives
    refine (Log.keepsOut_iff hspace hannounced).mp
      (hkept "" "" (String.ofList ('&' :: '*' :: s))) ?_
    rw [toList_redact, String.toList_append, String.toList_ofList,
      maskTokens_append_cons (by decide) (by decide), maskTokens_of_not_infix hmarker,
      ← List.singleton_append (x := '&'), ← List.append_assoc,
      maskSecret_append_cons hstar hne]
    exact List.infix_append_of_infix_right (List.infix_cons hleft)
  · intro hsurvives appId front back
    refine (Log.keepsOut_iff hspace hannounced).mpr fun hoccurs => hsurvives ?_
    rw [toList_redact] at hoccurs
    exact survives_of_infix_maskSecret hne hspelledStar hoccurs

/-- A secret of letters stays out of the log. -/
theorem keepsOut_spelledSecret_of_letters :
    (Settings.ofSecret "mysecret").appSecret ≠ "" ∧
      ∀ appId front back : String,
        Log.KeepsOut (Settings.ofSecret "mysecret") (spelledSecret "mysecret")
          (front ++ (Endpoint.accessToken appId "mysecret").address (Settings.ofSecret "mysecret") ++
            back) := by
  have hsecret : (Settings.ofSecret "mysecret").appSecret ≠ "" := by decide
  refine ⟨hsecret, ?_⟩
  exact (keepsOut_spelledSecret_iff hsecret (by decide)).mpr
    (not_survives_of_plain (by decide))

/-- A secret with a slash is spelled with its percent-encoding in the address, and is logged so. -/
theorem not_keepsOut_of_slash :
    (Settings.ofSecret "top/secret-key").appSecret ≠ "" ∧
      '*' ∉ (Settings.ofSecret "top/secret-key").appSecret.toList ∧
      ¬ Log.KeepsOut (Settings.ofSecret "top/secret-key") (spelledSecret "top/secret-key")
        ("" ++ (Endpoint.accessToken "app" "top/secret-key").address
          (Settings.ofSecret "top/secret-key") ++ "") := by
  refine ⟨by decide, by decide, fun h => h.message ?_⟩
  refine Text.occursIn_iff.mp ?_
  decide +kernel

end Redaction

end PlatformClient
