import PlatformClient.Text.IntegerText
import PlatformClient.Text.LetterCase

/-!
# Settings

The client is configured by environment variables. Each value is trimmed, and a blank one counts as
missing, so that its default holds. Log levels are compared in small letters, base addresses lose
the slashes at their end, and the first number that cannot be read is the error.

## Main definitions

* `Settings`: a configuration
* `Settings.Defaults`: what holds for missing variables
* `Environment.value?`: the trimmed value of a variable
* `Settings.read`: the configuration of an environment

## Main results

* `getLast?_withoutSlashes`: a base address does not end with a slash
-/

namespace PlatformClient

/-- The variables of an environment. -/
abbrev Environment := String → Option String

/-- The trimmed value of a variable, unless it is missing or blank. -/
def Environment.value? (environment : Environment) (name : String) : Option String :=
  match Text.trim ((environment name).getD "").toList with
  | [] => none
  | value => some (String.ofList value)

/-- A configuration. -/
structure Settings where
  logLevel : String
  timeout : Int
  apiBase : String
  fileBase : String
  appId : String
  tokenMargin : Int
  poolSize : Int
  chunkSize : Int
  version : String
  appSecret : String
deriving DecidableEq

namespace Settings

/-- What holds for missing variables. Numbers are given as text and read like those of
variables. -/
structure Defaults where
  logLevel : String := "INFO"
  timeout : String := "10"
  apiBase : String := "https://api.weixin.qq.com"
  fileBase : String := "https://file.api.weixin.qq.com"
  appId : String := ""
  tokenMargin : String := "60"
  poolSize : String := "16"
  chunkSize : String := "32768"
  version : String := "dev"
  appSecret : String := ""

/-- An address without the slashes at its end. -/
def withoutSlashes (address : String) : String :=
  String.ofList (Text.trimEndBy (· == '/') address.toList)

/-- The configuration of an environment. -/
def read (environment : Environment) (defaults : Defaults) : Except Text.IntegerFault Settings := do
  let text (name default : String) : String := (environment.value? name).getD default
  let number (name default : String) : Except Text.IntegerFault Int :=
    Text.readSetting (text name default).toList
  let timeout ← number "WEB_TIMEOUT_S" defaults.timeout
  let tokenMargin ← number "ACCESS_TOKEN_EXPIRY_MARGIN_S" defaults.tokenMargin
  let poolSize ← number "BUFFER_POOL_SIZE" defaults.poolSize
  let chunkSize ← number "DOWNLOAD_CHUNK_SIZE" defaults.chunkSize
  return {
    logLevel := String.ofList (Text.lowercase (text "LOG_LEVEL" defaults.logLevel).toList)
    timeout
    apiBase := withoutSlashes (text "WECHAT_API_BASE_URL" defaults.apiBase)
    fileBase := withoutSlashes (text "WECHAT_FILE_API_BASE_URL" defaults.fileBase)
    appId := text "WECHAT_APP_ID" defaults.appId
    tokenMargin
    poolSize
    chunkSize
    version := text "VERSION" defaults.version
    appSecret := text "WECHAT_APP_SECRET" defaults.appSecret
  }

/-- The secrets that log lines must not show. -/
def secrets (settings : Settings) : List String := [settings.appSecret]

end Settings

/-- A base address does not end with a slash. -/
theorem Settings.getLast?_withoutSlashes (address : String) :
    (Settings.withoutSlashes address).toList.getLast? ≠ some '/' := by
  intro h
  rw [withoutSlashes, String.toList_ofList] at h
  have := Text.getLast?_trimEndBy (· == '/') address.toList '/' h
  simp at this

end PlatformClient
