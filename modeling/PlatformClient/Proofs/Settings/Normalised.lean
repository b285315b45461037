import PlatformClient.Proofs.Endpoint.Address
import PlatformClient.Proofs.Json.Writable
import PlatformClient.Proofs.Text.Trimmed
import PlatformClient.Session

/-!
# Configurations depend on normal values

Of each variable only its trimmed text counts, of the base addresses only what stands before the
slashes at its end, and blank variables count as missing. So environments that differ in nothing
else have the same configuration, or are refused for the same variable with the same message: the
first one, in the order of reading, that should hold a whole number and does not. No base address
ends with a slash, so that an address of the platform has a single slash where its path begins.

A blank before the slashes at the end belongs to the text: the slashes are removed behind it, and it
stays.

## Main definitions

* `Environment.SameValue`, `Environment.Alike`: values and environments with the same normal form
* `Settings.FirstFault`: the first variable in the order of reading that holds no whole number
* `Session.runIn`: a run under the configuration of an environment
* `Settings.Normalised`, `Settings.Same`: what holds of a configuration, and of two environments

## Main results

* `Settings.read_eq_error_iff`: how an environment is refused
* `Environment.Alike.read_eq`: environments that are alike have the same configuration
* `Endpoint.joinedOnce`: an address has a single slash where its path begins
* `Settings.settings_normalised`: configurations depend on normal values
-/

namespace PlatformClient

/-! ## Values with the same normal form -/

namespace Environment

/-- A variable that is missing or blank. -/
def Unset (value : Option String) : Prop := ∀ s ∈ value, ∀ c ∈ s.toList, Text.isBlank c = true

/-- Values that are both missing or blank, or whose trimmed texts are related. -/
inductive SameValue (Related : List Char → List Char → Prop) : Option String → Option String → Prop
  | unset {value other : Option String} (hvalue : Unset value) (hother : Unset other) :
      SameValue Related value other
  | set {s t : String} {core core' : List Char} (hs : Text.Trimmed s.toList core)
      (ht : Text.Trimmed t.toList core') (hcore : core ≠ []) (hcore' : core' ≠ [])
      (hrelated : Related core core') : SameValue Related (some s) (some t)

/-- Texts that differ at most in the number of slashes at their end. -/
def SameButSlashes (s t : List Char) : Prop :=
  ∃ stem count count', s = stem ++ List.replicate count '/' ∧ t = stem ++ List.replicate count' '/'

/-- The variables that hold a base address. -/
def addressVariables : List String := ["WECHAT_API_BASE_URL", "WECHAT_FILE_API_BASE_URL"]

/-- The other variables. -/
def plainVariables : List String :=
  ["LOG_LEVEL", "WEB_TIMEOUT_S", "WECHAT_APP_ID", "ACCESS_TOKEN_EXPIRY_MARGIN_S",
    "BUFFER_POOL_SIZE", "DOWNLOAD_CHUNK_SIZE", "VERSION", "WECHAT_APP_SECRET"]

/-- Environments whose variables have the same normal form. -/
structure Alike (a b : Environment) : Prop where
  plain : ∀ name ∈ plainVariables, SameValue Eq (a name) (b name)
  addresses : ∀ name ∈ addressVariables, SameValue SameButSlashes (a name) (b name)

variable {a b environment : Environment} {name : String}
  {Related : List Char → List Char → Prop}

theorem unset_iff {value : Option String} :
    Unset value ↔ Text.trim (value.getD "").toList = [] := by
  cases value with
  | none => exact ⟨fun _ => rfl, fun _ => nofun⟩
  | some s =>
    refine ⟨fun h => Text.Trimmed.trim_eq ⟨⟨s.toList, [], by simp, h s rfl, by simp⟩, by simp,
      by simp⟩, fun h => ?_⟩
    obtain ⟨front, back, hs, hfront, hback⟩ := (Text.trim_eq_iff.mp h).around
    rintro _ ⟨⟩ c hc
    rw [Option.getD_some, List.append_nil] at hs
    rw [hs] at hc
    exact (List.mem_append.mp hc).elim (hfront c) (hback c)

/-- Plain values have the same normal form if they are trimmed to the same. -/
theorem sameValue_eq_of_trim_eq {value other : Option String}
    (h : Text.trim (value.getD "").toList = Text.trim (other.getD "").toList) :
    SameValue Eq value other := by
  by_cases hunset : Text.trim (value.getD "").toList = []
  · exact .unset (unset_iff.mpr hunset) (unset_iff.mpr (h ▸ hunset))
  · cases value with
    | none => exact absurd rfl hunset
    | some s =>
      cases other with
      | none => exact absurd h hunset
      | some t =>
        exact .set (Text.trimmed_trim s.toList) (Text.trimmed_trim t.toList) hunset (h ▸ hunset) h

theorem value?_eq_none (h : Unset (environment name)) : environment.value? name = none := by
  rw [value?, unset_iff.mp h]

theorem value?_eq_some {s : String} {core : List Char} (h : environment name = some s)
    (htrimmed : Text.Trimmed s.toList core) (hcore : core ≠ []) :
    environment.value? name = some (String.ofList core) := by
  rw [value?, h, Option.getD_some, htrimmed.trim_eq]
  cases core with
  | nil => exact absurd rfl hcore
  | cons first rest => rfl

/-- Values with the same normal form are both missing, or trimmed to related texts. -/
theorem SameValue.value? (h : SameValue Related (a name) (b name)) :
    (a.value? name = none ∧ b.value? name = none) ∨
      ∃ core core', Related core core' ∧ a.value? name = some (String.ofList core) ∧
        b.value? name = some (String.ofList core') := by
  generalize hvalue : a name = value at h
  generalize hother : b name = other at h
  cases h with
  | unset hunset hunset' =>
    exact .inl ⟨value?_eq_none (hvalue ▸ hunset), value?_eq_none (hother ▸ hunset')⟩
  | set hs ht hcore hcore' hrelated =>
    exact .inr ⟨_, _, hrelated, value?_eq_some hvalue hs hcore, value?_eq_some hother ht hcore'⟩

/-- The text of a variable, or its default. -/
def text (environment : Environment) (name default : String) : String :=
  (environment.value? name).getD default

/-- The number in a variable, or in its default. -/
def number (environment : Environment) (name default : String) : Except Text.IntegerFault Int :=
  Text.readSetting (environment.text name default).toList

/-- Plain values with the same normal form are the same. -/
theorem SameValue.text_eq (h : SameValue Eq (a name) (b name)) (default : String) :
    a.text name default = b.text name default := by
  rcases h.value? with ⟨ha, hb⟩ | ⟨core, _, rfl, ha, hb⟩ <;> rw [text, text, ha, hb]

/-- Slashes at the end of an address do not count. -/
theorem withoutSlashes_append (stem : List Char) (count : Nat) :
    Settings.withoutSlashes (String.ofList (stem ++ List.replicate count '/')) =
      Settings.withoutSlashes (String.ofList stem) := by
  have hslashes : ∀ c ∈ List.replicate count '/', (c == '/') = true := fun c hc =>
    beq_iff_eq.mpr (List.eq_of_mem_replicate hc)
  rw [Settings.withoutSlashes, Settings.withoutSlashes, String.toList_ofList, String.toList_ofList,
    Text.trimEndBy_append_of_all hslashes]

/-- Base addresses with the same normal form are the same. -/
theorem SameValue.withoutSlashes_text_eq (h : SameValue SameButSlashes (a name) (b name))
    (default : String) :
    Settings.withoutSlashes (a.text name default) =
      Settings.withoutSlashes (b.text name default) := by
  rcases h.value? with ⟨ha, hb⟩ | ⟨_, _, ⟨stem, count, count', rfl, rfl⟩, ha, hb⟩
  · rw [text, text, ha, hb]
  · rw [text, text, ha, hb, Option.getD_some, Option.getD_some, withoutSlashes_append,
      withoutSlashes_append]

end Environment

/-! ## How a configuration is read -/

namespace Settings

variable {a b environment : Environment} {defaults : Defaults} {fault : Text.IntegerFault}
  {settings : Settings}

theorem read_eq (environment : Environment) (defaults : Defaults) :
    read environment defaults = do
      let timeout ← environment.number "WEB_TIMEOUT_S" defaults.timeout
      let tokenMargin ← environment.number "ACCESS_TOKEN_EXPIRY_MARGIN_S" defaults.tokenMargin
      let poolSize ← environment.number "BUFFER_POOL_SIZE" defaults.poolSize
      let chunkSize ← environment.number "DOWNLOAD_CHUNK_SIZE" defaults.chunkSize
      return {
        logLevel :=
          String.ofList (Text.lowercase (environment.text "LOG_LEVEL" defaults.logLevel).toList)
        timeout
        apiBase := withoutSlashes (environment.text "WECHAT_API_BASE_URL" defaults.apiBase)
        fileBase := withoutSlashes (environment.text "WECHAT_FILE_API_BASE_URL" defaults.fileBase)
        appId := environment.text "WECHAT_APP_ID" defaults.appId
        tokenMargin
        poolSize
        chunkSize
        version := environment.text "VERSION" defaults.version
        appSecret := environment.text "WECHAT_APP_SECRET" defaults.appSecret
      } := rfl

/-- The variables that hold a number with their defaults, in the order of reading. -/
def numbers (defaults : Defaults) : List (String × String) :=
  [("WEB_TIMEOUT_S", defaults.timeout), ("ACCESS_TOKEN_EXPIRY_MARGIN_S", defaults.tokenMargin),
    ("BUFFER_POOL_SIZE", defaults.poolSize), ("DOWNLOAD_CHUNK_SIZE", defaults.chunkSize)]

/-- A fault is that of the first variable from which no number can be read. -/
def FirstFault (environment : Environment) (entries : List (String × String))
    (fault : Text.IntegerFault) : Prop :=
  ∃ before name default after, entries = before ++ (name, default) :: after ∧
    (∀ earlier ∈ before, ∃ n, environment.number earlier.1 earlier.2 = .ok n) ∧
      environment.number name default = .error fault

theorem not_firstFault_nil : ¬ FirstFault environment [] fault := by
  rintro ⟨before, name, default, after, hnil, -, -⟩
  exact List.append_ne_nil_of_right_ne_nil before (List.cons_ne_nil _ _) hnil.symm

/-- The first fault is that of the first variable, or it lies behind it. -/
theorem firstFault_cons_iff {name default : String} {rest : List (String × String)} :
    FirstFault environment ((name, default) :: rest) fault ↔
      environment.number name default = .error fault ∨
        ∃ n, environment.number name default = .ok n ∧ FirstFault environment rest fault := by
  constructor
  · rintro ⟨before, name', default', after, heq, hbefore, hfault⟩
    cases before with
    | nil =>
      cases heq
      exact .inl hfault
    | cons first before =>
      cases heq
      obtain ⟨n, hn⟩ := hbefore (name, default) List.mem_cons_self
      exact .inr ⟨n, hn, before, name', default', after, rfl,
        fun earlier hearlier => hbefore earlier (List.mem_cons_of_mem _ hearlier), hfault⟩
  · rintro (hfault | ⟨n, hn, before, name', default', after, rfl, hbefore, hfault⟩)
    · exact ⟨[], name, default, rest, rfl, nofun, hfault⟩
    · exact ⟨(name, default) :: before, name', default', after, rfl,
        List.forall_mem_cons.mpr ⟨⟨n, hn⟩, hbefore⟩, hfault⟩

/-- A sequence fails with its first part, or behind it. -/
theorem bind_eq_error_iff {ε α β : Type} {first : Except ε α} {next : α → Except ε β} {cause : ε} :
    first >>= next = .error cause ↔
      first = .error cause ∨ ∃ a, first = .ok a ∧ next a = .error cause := by
  cases first with
  | error other =>
    refine ⟨fun h => .inl ?_, ?_⟩
    · cases h
      rfl
    · rintro (h | ⟨a, ha, -⟩)
      · cases h
        rfl
      · cases ha
  | ok a =>
    refine ⟨fun h => .inr ⟨a, rfl, h⟩, ?_⟩
    rintro (h | ⟨a, ha, hnext⟩)
    · cases h
    · cases ha
      exact hnext

/-- An environment is refused for the first variable that holds no number. -/
theorem read_eq_error_iff :
    read environment defaults = .error fault ↔ FirstFault environment (numbers defaults) fault := by
  simp only [read_eq, numbers, bind_eq_error_iff, firstFault_cons_iff, not_firstFault_nil,
    and_false, exists_false, or_false, pure, Except.pure, reduceCtorEq]

/-- No base address of a configuration ends with a slash. -/
theorem getLast?_bases_of_read (h : read environment defaults = .ok settings) :
    settings.apiBase.toList.getLast? ≠ some '/' ∧ settings.fileBase.toList.getLast? ≠ some '/' := by
  rw [read_eq] at h
  obtain ⟨timeout, -, h⟩ := Json.exists_of_bind_eq_ok h
  obtain ⟨tokenMargin, -, h⟩ := Json.exists_of_bind_eq_ok h
  obtain ⟨poolSize, -, h⟩ := Json.exists_of_bind_eq_ok h
  obtain ⟨chunkSize, -, h⟩ := Json.exists_of_bind_eq_ok h
  rw [← Except.ok.inj h]
  exact ⟨getLast?_withoutSlashes _, getLast?_withoutSlashes _⟩

end Settings

namespace Environment

variable {a b : Environment}

/-- Environments that are alike have the same configuration, or are refused with the same fault. -/
theorem Alike.read_eq (h : a.Alike b) (defaults : Settings.Defaults) :
    Settings.read a defaults = Settings.read b defaults := by
  have hplain := fun name hname => (h.plain name hname).text_eq
  have haddresses := fun name hname => (h.addresses name hname).withoutSlashes_text_eq
  simp only [plainVariables, addressVariables, List.forall_mem_cons] at hplain haddresses
  simp only [Settings.read_eq, number, hplain, haddresses]

end Environment

/-! ## Addresses and runs -/

/-- In an address, the base address and the path meet in a single slash. -/
def Endpoint.JoinedOnce (settings : Settings) (endpoint : Endpoint) : Prop :=
  ∃ steps, endpoint.path.toList = '/' :: steps ∧
    (endpoint.address settings).toList =
      (endpoint.base settings).toList ++ '/' :: steps ++ '?' :: endpoint.query.toList ∧
    (endpoint.base settings).toList.getLast? ≠ some '/' ∧ steps.head? ≠ some '/'

/-- It is so if neither base address ends with a slash. -/
theorem Endpoint.joinedOnce {settings : Settings}
    (hapi : settings.apiBase.toList.getLast? ≠ some '/')
    (hfile : settings.fileBase.toList.getLast? ≠ some '/') (endpoint : Endpoint) :
    endpoint.JoinedOnce settings := by
  obtain ⟨steps, hpath, hsteps, -⟩ := endpoint.exists_path_eq
  refine ⟨steps, hpath, ?_, ?_, hsteps⟩
  · rw [← hpath]
    simp [address]
  · rw [base]
    split
    · exact hfile
    · exact hapi

/-- An action under a configuration. -/
def Turn.under {τ : Type} (settings : Settings) (turn : Turn τ) : Turn τ :=
  { turn with surroundings := { turn.surroundings with settings } }

/-- The outcomes of a run under the configuration of an environment, and the session after it. -/
def Session.runIn {τ : Type} [Instant τ] (environment : Environment)
    (defaults : Settings.Defaults) (session : Session τ) (turns : List (Turn τ)) :
    Except Text.IntegerFault (List (Outcome τ) × Session τ) :=
  (Settings.read environment defaults).map fun settings =>
    session.run (turns.map (·.under settings))

namespace Settings

/-- What holds of the configuration of an environment. -/
structure Normalised (environment : Environment) (defaults : Defaults) : Prop where
  /-- There is none exactly if a variable should hold a number and does not. The fault is that of
  the first one. -/
  refused : ∀ fault, read environment defaults = .error fault ↔
    FirstFault environment (numbers defaults) fault
  /-- No base address ends with a slash. -/
  bases : ∀ settings, read environment defaults = .ok settings →
    settings.apiBase.toList.getLast? ≠ some '/' ∧ settings.fileBase.toList.getLast? ≠ some '/'
  /-- Every address has a single slash between the base address and the rest. -/
  joined : ∀ settings, read environment defaults = .ok settings →
    ∀ endpoint : Endpoint, endpoint.JoinedOnce settings

/-- What holds of the configurations of two environments. -/
structure Same (a b : Environment) (defaults : Defaults) : Prop where
  /-- Both are refused for the first number that cannot be read, or the configurations are equal. -/
  configurations :
    (∃ fault, read a defaults = .error fault ∧ read b defaults = .error fault ∧
      FirstFault a (numbers defaults) fault ∧ FirstFault b (numbers defaults) fault) ∨
    ∃ settings, read a defaults = .ok settings ∧ read b defaults = .ok settings
  /-- The outcomes of every run are the same, with the requests that are made. -/
  runs : ∀ {τ : Type} [Instant τ] (session : Session τ) (turns : List (Turn τ)),
    session.runIn a defaults turns = session.runIn b defaults turns

theorem normalised (environment : Environment) (defaults : Defaults) :
    Normalised environment defaults where
  refused _ := read_eq_error_iff
  bases _ h := getLast?_bases_of_read h
  joined _ h endpoint :=
    endpoint.joinedOnce (getLast?_bases_of_read h).1 (getLast?_bases_of_read h).2

theorem same {a b : Environment} (h : a.Alike b) (defaults : Defaults) : Same a b defaults where
  configurations := by
    cases hread : read a defaults with
    | error fault =>
      have hread' := (h.read_eq defaults).symm.trans hread
      exact .inl ⟨fault, rfl, hread', read_eq_error_iff.mp hread, read_eq_error_iff.mp hread'⟩
    | ok settings => exact .inr ⟨settings, rfl, (h.read_eq defaults).symm.trans hread⟩
  runs session turns := by rw [Session.runIn, h.read_eq, Session.runIn]

/-- **Configurations depend on normal values.** For the same defaults, environments whose variables
have the same normal form are refused with the same fault, or have the same configuration and the
same runs. Every refusal is that of the first number that cannot be read, and in every configuration
the base addresses meet the paths in a single slash. -/
theorem settings_normalised {a b : Environment} (h : a.Alike b) (defaults : Defaults) :
    (∀ environment, Normalised environment defaults) ∧ Same a b defaults :=
  ⟨fun environment => normalised environment defaults, same h defaults⟩

/-- Values with blank ends, a blank value, and slashes behind a blank. -/
def padded : Environment := fun name => List.lookup name
  [("WEB_TIMEOUT_S", "\u3000 30\n"), ("VERSION", " \t"),
    ("WECHAT_API_BASE_URL", " http://h/ // ")]

/-- The same values otherwise. -/
def bare : Environment := fun name => List.lookup name
  [("WEB_TIMEOUT_S", "30"), ("WECHAT_API_BASE_URL", "http://h/ /"), ("LOG_LEVEL", "")]

theorem padded_alike_bare : padded.Alike bare where
  plain := by
    have htrimmed : ∀ name ∈ Environment.plainVariables, Text.trim ((padded name).getD "").toList =
        Text.trim ((bare name).getD "").toList := by decide
    exact fun name hname => Environment.sameValue_eq_of_trim_eq (htrimmed name hname)
  addresses := by
    refine List.forall_mem_cons.mpr ⟨?_, List.forall_mem_singleton.mpr ?_⟩
    · exact .set (Text.trim_eq_iff.mp rfl) (Text.trim_eq_iff.mp rfl) (by decide) (by decide)
        ⟨"http://h/ ".toList, 2, 1, by decide, by decide⟩
    · exact .unset (Environment.unset_iff.mpr rfl) (Environment.unset_iff.mpr rfl)

/-- Two environments in which values differ as they may. -/
theorem settings_normalised_padded : padded.Alike bare ∧
    ((∀ environment, Normalised environment {}) ∧ Same padded bare {}) ∧
    (read padded {}).map (fun settings => (settings.apiBase, settings.timeout, settings.version)) =
      .ok ("http://h/ ", 30, "dev") :=
  ⟨padded_alike_bare, settings_normalised padded_alike_bare {}, rfl⟩

end Settings

end PlatformClient
