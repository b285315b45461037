import Mathlib.Logic.ExistsUnique
import PlatformClient.Proofs.Endpoint.Address
import PlatformClient.Proofs.Redaction.Found
import PlatformClient.Proofs.Redaction.SecretInAddress

/-!
# The tokens in messages and addresses

Where no secret is configured, redaction concerns the tokens of a message and nothing else: their
values are replaced by masks.

The query of an address has a marker only before its token, whatever its parameters are, so that of
an address the token alone is masked.

## Main definitions

* `Endpoint.token?`, `Endpoint.addressWith`: an address with some text in the place of its token
* `TokensRedacted`: what redaction does to messages and addresses

## Main results

* `Redaction.maskTokens_of_single`: the only token of a text is masked
* `Redaction.isTokenChar_of_mem_encode`: whatever a token is, its encoded form is a value
* `Endpoint.maskTokens_addressWith`: the token of an address is masked
* `tokens_redacted`: redaction without a configured secret
-/

namespace PlatformClient

namespace Redaction

/-! ## One token -/

/-- Where no marker occurs before one, no value is found before it. -/
theorem bare_append_marker {front : List Char} (h : ¬ marker <:+: front) :
    Bare (front ++ marker) := by
  induction front with
  | nil => exact bare_marker
  | cons c front ih =>
    rw [List.infix_cons_iff, not_or] at h
    refine (ih h.2).cons (valueAtFront_eq_nil_iff.mpr fun d _ hbegins => h.1 ?_)
    have hword : 'a' ∉ marker.tail := by decide
    have hmarker : marker <+: (c :: front) ++ (marker ++ []) := by
      rw [List.append_nil]
      exact (List.prefix_append marker [d]).trans hbegins
    exact (Text.prefix_append_word_iff hword (List.cons_ne_nil c front) []).mp hmarker

theorem bare_of_no_marker {s : List Char} (h : ¬ marker <:+: s) : Bare s :=
  fun c _ hoccurs => h ((List.prefix_append marker [c]).isInfix.trans hoccurs)

theorem maskTokens_append_of_not_mem {front : List Char} (h : 'a' ∉ front) (s : List Char) :
    maskTokens (front ++ s) = front ++ maskTokens s := by
  induction front with
  | nil => rfl
  | cons c front ih =>
    rw [List.mem_cons, not_or] at h
    rw [List.cons_append, maskTokens_cons_of_ne (Ne.symm h.1), ih h.2, List.cons_append]

/-- A marker without a value stays. -/
theorem maskTokens_marker_append {s : List Char} (hend : ∀ c ∈ s.head?, isTokenChar c = false) :
    maskTokens (marker ++ s) = marker ++ maskTokens s := by
  have hvalue : valueAtFront (marker ++ [] ++ s) = [] := valueAtFront_marker nofun hend
  rw [List.append_nil] at hvalue
  obtain ⟨tail, hmarker, htail⟩ : ∃ tail, marker = 'a' :: tail ∧ 'a' ∉ tail :=
    ⟨marker.tail, by decide, by decide⟩
  rw [hmarker, List.cons_append] at hvalue ⊢
  rw [maskTokens_cons_of_no_value hvalue, List.cons_append, maskTokens_append_of_not_mem htail]

/-- The only token of a text is masked. Its value may be empty. -/
theorem maskTokens_of_single {front value back : List Char} (hfront : ¬ marker <:+: front)
    (hvalue : ∀ c ∈ value, isTokenChar c = true) (hback : ¬ marker <:+: back)
    (hend : ∀ c ∈ back.head?, isTokenChar c = false) :
    maskTokens (front ++ marker ++ (value ++ back)) =
      front ++ marker ++ (Secret.mask value ++ back) := by
  have hrest : maskTokens back = back := maskTokens_of_bare (bare_of_no_marker hback)
  rw [maskTokens_append_of_bare (bare_append_marker hfront), List.append_assoc]
  congr 1
  by_cases hne : value = []
  · subst hne
    rw [List.nil_append, maskTokens_marker_append hend, hrest]
    rfl
  · rw [← List.append_assoc, maskTokens_marker hne hvalue hend, hrest, List.append_assoc]

/-! ## Queries -/

theorem toNat_of_isAlphanum {c : Char} (h : c.isAlphanum = true) :
    0x30 ≤ c.toNat ∧ c.toNat ≤ 0x39 ∨ 0x41 ≤ c.toNat ∧ c.toNat ≤ 0x5A ∨
      0x61 ≤ c.toNat ∧ c.toNat ≤ 0x7A := by
  have hcases : ((decide (c.val ≥ 'A'.val ∧ c.val ≤ 'Z'.val) ||
      decide (c.val ≥ 'a'.val) && decide (c.val ≤ 'z'.val)) ||
      decide (c.val ≥ '0'.val) && decide (c.val ≤ '9'.val)) = true := h
  simp only [Bool.or_eq_true, Bool.and_eq_true, decide_eq_true_eq, ge_iff_le,
    UInt32.le_iff_toNat_le] at hcases
  have hupper : 'A'.val.toNat = 0x41 ∧ 'Z'.val.toNat = 0x5A := ⟨rfl, rfl⟩
  have hlower : 'a'.val.toNat = 0x61 ∧ 'z'.val.toNat = 0x7A := ⟨rfl, rfl⟩
  have hdigit : '0'.val.toNat = 0x30 ∧ '9'.val.toNat = 0x39 := ⟨rfl, rfl⟩
  have hcode : c.toNat = c.val.toNat := rfl
  omega

theorem isTokenChar_of_isAlphanum {c : Char} (h : c.isAlphanum = true) : isTokenChar c = true := by
  have hrange := toNat_of_isAlphanum h
  cases htoken : isTokenChar c with
  | true => rfl
  | false =>
    simp only [isTokenChar, Bool.not_eq_false', Bool.or_eq_true, beq_iff_eq] at htoken
    rcases htoken with ((rfl | hblank) | rfl) | rfl
    · exact absurd h (by decide)
    · simp [Text.isBlank, Text.isWhiteSpace, Text.CodeRanges.contains] at hblank
      omega
    · exact absurd h (by decide)
    · exact absurd h (by decide)

/-- Whatever a token is, its encoded form is a value. -/
theorem isTokenChar_of_mem_encode {s : List Char} {c : Char} (h : c ∈ Query.encode s) :
    isTokenChar c = true := by
  rcases Query.mem_encode h with halphanum | hmark
  · exact isTokenChar_of_isAlphanum halphanum
  · exact List.all_eq_true.mp (by decide : Query.marks.all isTokenChar = true) c hmark

/-- A parameter with a short name holds no marker, whatever its value is. -/
theorem not_infix_writeParameter {parameter : String × String}
    (h : (Query.encode parameter.1.toList).length < 12) :
    ¬ marker <:+: Query.writeParameter parameter := by
  have hequals (s : List Char) : '=' ∉ Query.encode s :=
    Query.not_mem_encode (by decide) (by decide) s
  have hmarker : '=' ∈ marker := by decide
  intro hoccurs
  rcases List.infix_append_iff.mp hoccurs with hname | hvalue | ⟨front, back, hsplit, hfront, hback⟩
  · exact hequals _ (hname.subset hmarker)
  · rcases List.infix_cons_iff.mp hvalue with hbegins | hlater
    · exact absurd (List.cons_prefix_cons.mp hbegins).1 (by decide)
    · exact hequals _ (hlater.subset hmarker)
  · cases back with
    | nil =>
      rw [List.append_nil] at hsplit
      exact hequals _ (hfront.subset (hsplit ▸ hmarker))
    | cons c back =>
      obtain ⟨rfl, -⟩ := List.cons_prefix_cons.mp hback
      have hshort := hfront.length_le
      have hplace : marker[front.length]? = some '=' := by
        rw [hsplit, List.getElem?_append_right (Nat.le_refl _), Nat.sub_self]
        rfl
      exact (by decide : ∀ n < 12, marker[n]? ≠ some '=') _ (by omega) hplace

/-- Nor do further parameters with short names. -/
theorem not_infix_append_parameters {parameters : Query.Parameters}
    (h : ∀ parameter ∈ parameters, (Query.encode parameter.1.toList).length < 12) {s : List Char}
    (hs : ¬ marker <:+: s) :
    ¬ marker <:+:
      s ++ parameters.flatMap fun parameter => '&' :: Query.writeParameter parameter := by
  induction parameters generalizing s with
  | nil => rwa [List.flatMap_nil, List.append_nil]
  | cons parameter rest ih =>
    rw [List.flatMap_cons, List.cons_append, Text.infix_append_cons_iff (by decide), not_or]
    refine ⟨hs, ih (fun other hother => h other (List.mem_cons_of_mem _ hother)) ?_⟩
    exact not_infix_writeParameter (h parameter List.mem_cons_self)

end Redaction

namespace Query

theorem write_cons_eq (parameter : String × String) (rest : Parameters) :
    write (parameter :: rest) =
      writeParameter parameter ++ rest.flatMap fun other => '&' :: writeParameter other := by
  induction rest generalizing parameter with
  | nil => simp [write]
  | cons next rest ih => rw [write_cons, ih, List.flatMap_cons, List.cons_append]

end Query

/-! ## Addresses -/

namespace Endpoint

/-- The token that an operation takes. -/
def token? (endpoint : Endpoint) : Option String :=
  (endpoint.parameters.find? (·.1 == "access_token")).map (·.2)

/-- The parameters of an operation beside the token. -/
def otherParameters (endpoint : Endpoint) : Query.Parameters :=
  endpoint.parameters.filter (·.1 != "access_token")

/-- The address of an operation with some text in the place of the token. -/
def addressWith (settings : Settings) (endpoint : Endpoint) (shown : List Char) : String :=
  endpoint.base settings ++ endpoint.path ++ "?access_token=" ++ String.ofList shown ++
    String.ofList (endpoint.otherParameters.flatMap fun parameter =>
      '&' :: Query.writeParameter parameter)

variable {endpoint : Endpoint} {token : String}

/-- All operations but the request for a token take one. -/
theorem token?_eq_none_iff :
    endpoint.token? = none ↔ ∃ appId appSecret, endpoint = .accessToken appId appSecret := by
  cases endpoint <;> simp [token?, parameters, parametersWith]

/-- The token is the first parameter. -/
theorem parameters_eq (h : endpoint.token? = some token) :
    endpoint.parameters = ("access_token", token) :: endpoint.otherParameters := by
  cases endpoint <;> simp_all [token?, otherParameters, parameters, parametersWith]

theorem length_name_lt {parameter : String × String} (h : parameter ∈ endpoint.otherParameters) :
    (Query.encode parameter.1.toList).length < 12 := by
  have hname : parameter.1 ∈ ["grant_type", "appid", "secret", "type", "media_id"] := by
    obtain ⟨hmem, hne⟩ := List.mem_filter.mp h
    cases endpoint
    all_goals
      simp only [parameters, parametersWith, List.mem_cons, List.not_mem_nil, or_false] at hmem
      rcases hmem with rfl | rfl | rfl <;> simp at hne ⊢
  exact (by decide : ∀ name ∈ ["grant_type", "appid", "secret", "type", "media_id"],
    (Query.encode name.toList).length < 12) _ hname

theorem toList_addressWith (settings : Settings) (endpoint : Endpoint) (shown : List Char) :
    (endpoint.addressWith settings shown).toList =
      ((endpoint.base settings).toList ++ endpoint.path.toList ++ ['?']) ++ Redaction.marker ++
        (shown ++ endpoint.otherParameters.flatMap fun parameter =>
          '&' :: Query.writeParameter parameter) := by
  have hmarker : "?access_token=".toList = ['?'] ++ Redaction.marker := by decide
  simp only [addressWith, String.toList_append, String.toList_ofList, hmarker, List.append_assoc]

theorem address_eq (h : endpoint.token? = some token) (settings : Settings) :
    endpoint.address settings = endpoint.addressWith settings (Query.encode token.toList) := by
  have hname : Query.writeParameter ("access_token", token) =
      Redaction.marker ++ Query.encode token.toList := by
    have hencode : Query.encode "access_token".toList = "access_token".toList := by decide
    unfold Query.writeParameter
    rw [hencode]
    rfl
  refine String.toList_inj.mp ?_
  rw [toList_addressWith]
  simp only [address, query, parameters_eq h, Query.write_cons_eq, hname, String.toList_append,
    String.toList_ofList, List.append_assoc]
  rfl

/-- The token of an address is masked, if the base address holds no marker. -/
theorem maskTokens_addressWith {settings : Settings}
    (hbase : ¬ Redaction.marker <:+: (endpoint.base settings).toList) {value : List Char}
    (hvalue : ∀ c ∈ value, Redaction.isTokenChar c = true) :
    Redaction.maskTokens (endpoint.addressWith settings value).toList =
      (endpoint.addressWith settings (Secret.mask value)).toList := by
  rw [toList_addressWith, toList_addressWith]
  refine Redaction.maskTokens_of_single ?_ hvalue ?_ ?_
  · obtain ⟨more, hpath, -, hmore⟩ := endpoint.exists_path_eq
    rw [hpath, List.append_assoc, List.cons_append, Text.infix_append_cons_iff (by decide), not_or]
    refine ⟨hbase, fun hoccurs => ?_⟩
    have hequals : '=' ∈ more ++ ['?'] := hoccurs.subset (by decide)
    simp [hmore] at hequals
  · exact Redaction.not_infix_append_parameters (fun _ hmem => length_name_lt hmem) (s := [])
      (by decide)
  · intro c hc
    cases hothers : endpoint.otherParameters with
    | nil =>
      rw [hothers] at hc
      cases hc
    | cons parameter rest =>
      rw [hothers] at hc
      cases hc
      decide

end Endpoint

/-! ## Redaction without a secret -/

open Redaction

/-- What redaction does to messages, and to the addresses that carry a token. -/
structure TokensRedacted (settings : Settings) : Prop where
  /-- In every message tokens are found, in exactly one way. -/
  found : ∀ message : String, ∃! text : TokenText, Found text ∧ text.write id = message.toList
  /-- Their values are replaced by masks, and nothing else is. -/
  masked : ∀ text : TokenText, Found text →
    redact settings (String.ofList (text.write id)) = String.ofList (text.write Secret.mask)
  /-- A redacted message is not changed again. -/
  stable : ∀ message, redact settings (redact settings message) = redact settings message
  /-- All operations but the request for a token carry one. -/
  carried : ∀ endpoint : Endpoint,
    endpoint.token? = none ↔ ∃ appId appSecret, endpoint = .accessToken appId appSecret
  /-- Of an address, the encoded token is replaced by its mask, and nothing else is. -/
  address : ∀ (endpoint : Endpoint) (token : String), endpoint.token? = some token →
    ¬ marker <:+: (endpoint.base settings).toList →
    endpoint.address settings = endpoint.addressWith settings (Query.encode token.toList) ∧
      redact settings (endpoint.address settings) =
        endpoint.addressWith settings (Secret.mask (Query.encode token.toList))

/-- **The redaction of tokens.** Without a configured secret, redaction replaces the values of the
tokens that are found in a message, and of the one token in an address. -/
theorem tokens_redacted {settings : Settings} (h : settings.appSecret = "") :
    TokensRedacted settings where
  found message := by
    obtain ⟨text, hfound, hwrite⟩ := exists_found message.toList
    refine ⟨text, ⟨hfound, hwrite⟩, ?_⟩
    rintro other ⟨hother, heq⟩
    exact hother.unique hfound (heq.trans hwrite.symm)
  masked text hfound := by
    rw [redact_of_no_secret h, String.toList_ofList, maskTokens_write hfound]
  stable message := by
    rw [redact_of_no_secret h, redact_of_no_secret h, String.toList_ofList, maskTokens_maskTokens]
  carried _ := Endpoint.token?_eq_none_iff
  address endpoint token htoken hbase := by
    refine ⟨Endpoint.address_eq htoken settings, ?_⟩
    rw [redact_of_no_secret h, Endpoint.address_eq htoken,
      Endpoint.maskTokens_addressWith hbase fun c hc => isTokenChar_of_mem_encode hc,
      String.ofList_toList]

/-- A token, and behind a quote another whose value looks like a further one; and the address of a
download whose token and identifier hold characters of queries. -/
theorem tokens_redacted_of_tokens :
    (Settings.ofSecret "").appSecret = "" ∧
      redact (Settings.ofSecret "")
          (redact (Settings.ofSecret "") "access_token=12345'access_token=access_token=&") =
        "access_token=1***5'access_token=acc*****en=&" ∧
      redact (Settings.ofSecret "")
          ((Endpoint.mediaDownload "a&b c=\"d" "access_token=x").address (Settings.ofSecret "")) =
        "https://file.api.weixin.qq.com/cgi-bin/media/get?" ++
          "access_token=a%2*****22d&media_id=access_token%3Dx" := by
  have hsecret : (Settings.ofSecret "").appSecret = "" := rfl
  have hredacted : TokensRedacted (Settings.ofSecret "") := tokens_redacted hsecret
  refine ⟨hsecret, ?_, ?_⟩
  · rw [hredacted.stable, redact_of_no_secret hsecret]
    decide +kernel
  · have haddress := hredacted.address (.mediaDownload "a&b c=\"d" "access_token=x") _ rfl
      (by decide +kernel)
    rw [haddress.2]
    decide +kernel

end PlatformClient
