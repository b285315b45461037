import PlatformClient.Secret
import PlatformClient.Settings
import PlatformClient.Text.Blank
import PlatformClient.Text.Replace

/-!
# Redaction

Before a text is logged, the values of access tokens in it are replaced by their masks, and after
that every occurrence of a configured secret. A token's value follows `access_token=` and goes on up
to an ampersand, a blank or a quote.

## Main definitions

* `marker`: what stands before a token's value
* `isTokenChar`: the characters of a token's value
* `maskTokens`: a text with all token values masked
* `maskSecret`: a text with a secret masked
* `redact`: a text as it may be logged

## Main results

* `maskTokens_marker`: the value behind a marker is masked, and the search goes on behind it
* `redact_of_no_secret`: without a secret only token values change
-/

namespace PlatformClient.Redaction

/-- What stands before a token's value. -/
def marker : List Char := "access_token=".toList

/-- Whether a character belongs to a token's value. -/
def isTokenChar (c : Char) : Bool :=
  !(c == '&' || Text.isBlank c || c == '"' || c == '\'')

/-- The value of the token at the front of a text; empty where no marker stands, or no value
follows it. -/
def valueAtFront (s : List Char) : List Char :=
  if marker.isPrefixOf s then (s.drop marker.length).takeWhile isTokenChar else []

/-- A text without its first characters, and with all token values behind them masked. A marker
without a value is left alone. -/
def maskTokensFrom : Nat → List Char → List Char
  | _, [] => []
  | skip + 1, _ :: rest => maskTokensFrom skip rest
  | 0, c :: rest =>
    match valueAtFront (c :: rest) with
    | [] => c :: maskTokensFrom 0 rest
    | value =>
      marker ++ Secret.mask value ++ maskTokensFrom (marker.length + value.length - 1) rest

/-- A text with all token values masked. -/
def maskTokens (s : List Char) : List Char := maskTokensFrom 0 s

/-- Skipping characters is dropping them. -/
theorem maskTokensFrom_eq_drop (skip : Nat) (s : List Char) :
    maskTokensFrom skip s = maskTokens (s.drop skip) := by
  induction skip generalizing s with
  | zero => rfl
  | succ skip ih =>
    cases s with
    | nil => cases skip <;> rfl
    | cons c rest => exact ih rest

@[simp] theorem maskTokens_nil : maskTokens [] = [] := rfl

/-- The token at the front of a text that begins with a marker and a value. -/
theorem valueAtFront_marker {value rest : List Char} (hv : ∀ c ∈ value, isTokenChar c = true)
    (hr : ∀ c ∈ rest.head?, isTokenChar c = false) :
    valueAtFront (marker ++ value ++ rest) = value := by
  have hprefix : marker.isPrefixOf (marker ++ value ++ rest) = true := by
    simp [List.isPrefixOf_iff_prefix, List.append_assoc]
  rw [valueAtFront, if_pos hprefix, List.append_assoc, List.drop_left,
    List.takeWhile_append_of_pos hv]
  cases rest with
  | nil => simp
  | cons c rest => simp [hr c (by simp)]

/-- The value behind a marker is masked, and the search goes on behind it. -/
theorem maskTokens_marker {value : List Char} (hne : value ≠ [])
    (hv : ∀ c ∈ value, isTokenChar c = true) {rest : List Char}
    (hr : ∀ c ∈ rest.head?, isTokenChar c = false) :
    maskTokens (marker ++ value ++ rest) = marker ++ Secret.mask value ++ maskTokens rest := by
  have hvalue := valueAtFront_marker hv hr
  obtain ⟨c, tail, hcons⟩ : ∃ c tail, marker ++ value ++ rest = c :: tail :=
    List.exists_cons_of_ne_nil (by simp [hne])
  have hrest : tail.drop (marker.length + value.length - 1) = rest := by
    have hdrop : (marker ++ value ++ rest).drop (marker.length + value.length) = rest := by
      rw [← List.length_append, List.drop_left]
    have hlength : marker.length + value.length = marker.length + value.length - 1 + 1 := by
      have : 0 < value.length := List.length_pos_iff.2 hne
      omega
    rw [hcons, hlength, List.drop_succ_cons] at hdrop
    exact hdrop
  rw [hcons] at hvalue ⊢
  rw [maskTokens, maskTokensFrom, hvalue]
  cases value with
  | nil => exact absurd rfl hne
  | cons d more => simp only [maskTokensFrom_eq_drop, hrest]

/-- A character at which no marker begins stays. -/
theorem maskTokens_cons_of_not_begins {c : Char} {rest : List Char} (h : ¬ marker <+: c :: rest) :
    maskTokens (c :: rest) = c :: maskTokens rest := by
  have hvalue : valueAtFront (c :: rest) = [] := by
    rw [valueAtFront, if_neg]
    simp [List.isPrefixOf_iff_prefix, h]
  rw [maskTokens, maskTokensFrom, hvalue, maskTokens]

/-- A text with every occurrence of a secret replaced by its mask. -/
def maskSecret (secret s : List Char) : List Char := Text.replaceAll secret (Secret.mask secret) s

@[simp] theorem maskSecret_nil (s : List Char) : maskSecret [] s = s := by
  unfold maskSecret Text.replaceAll
  induction s with
  | nil => rfl
  | cons c rest ih => rw [Text.replaceFrom, if_neg (by simp), ih]

/-- A text as it may be logged: token values are masked first, then the secrets in turn. -/
def redact (settings : Settings) (message : String) : String :=
  String.ofList <|
    settings.secrets.foldl (fun s secret => maskSecret secret.toList s) (maskTokens message.toList)

/-- Without a secret only token values change. -/
theorem redact_of_no_secret {settings : Settings} (h : settings.appSecret = "") (message : String) :
    redact settings message = String.ofList (maskTokens message.toList) := by
  simp [redact, Settings.secrets, h]

end PlatformClient.Redaction
