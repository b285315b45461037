import PlatformClient.Text.IntegerText

/-!
# Reported faults

The client reports faults of its own, which carry a code and may name the fault that caused them,
and hands on faults from outside, such as those of the network, as they are.

## Main definitions

* `ErrorCode`: the codes that the client assigns
* `ServiceKind`, `OutsideKind`: the kinds of faults
* `Fault`: a fault
* `Fault.report`: the text of a fault with its causes
-/

namespace PlatformClient

/-- The codes that the client assigns. -/
inductive ErrorCode where
  | invalidMediaType
  | missingFilename
  | missingReader
  | missingMediaId
  | missingWriter
  | missingNews
  | missingVideo
  | unexpectedHttpStatus
  | missingAppCredentials
deriving DecidableEq

namespace ErrorCode

/-- All codes. -/
def all : List ErrorCode :=
  [
    invalidMediaType, missingFilename, missingReader, missingMediaId, missingWriter, missingNews,
    missingVideo, unexpectedHttpStatus, missingAppCredentials
  ]

/-- The name of a code. -/
def name : ErrorCode → String
  | invalidMediaType => "INVALID_MEDIA_TYPE"
  | missingFilename => "MISSING_FILENAME"
  | missingReader => "MISSING_READER"
  | missingMediaId => "MISSING_MEDIA_ID"
  | missingWriter => "MISSING_WRITER"
  | missingNews => "MISSING_NEWS"
  | missingVideo => "MISSING_VIDEO"
  | unexpectedHttpStatus => "UNEXPECTED_HTTP_STATUS"
  | missingAppCredentials => "MISSING_APP_CREDENTIALS"

/-- The number of a code: 1000 to 1999 for refused arguments, 5000 to 5999 for the platform, 7000
to 7999 for the configuration. -/
def number : ErrorCode → Int
  | invalidMediaType => 1001
  | missingFilename => 1002
  | missingReader => 1003
  | missingMediaId => 1004
  | missingWriter => 1005
  | missingNews => 1006
  | missingVideo => 1007
  | unexpectedHttpStatus => 5001
  | missingAppCredentials => 7001

end ErrorCode

/-- The kinds of the client's own faults. -/
inductive ServiceKind where
  | service
  | validation
  | external
  | configuration
  | api
  | unexpectedStatus (status : Int)
deriving DecidableEq

namespace ServiceKind

/-- The name of a kind. -/
def name : ServiceKind → String
  | service => "ServiceError"
  | validation => "ValidationError"
  | external => "ExternalServiceError"
  | configuration => "ConfigurationError"
  | api => "ApiError"
  | unexpectedStatus _ => "UnexpectedStatusError"

/-- The names of a kind and of the more general ones, nearest first. -/
def lineage : ServiceKind → List String
  | service => [service.name]
  | validation => [validation.name, service.name]
  | external => [external.name, service.name]
  | configuration => [configuration.name, service.name]
  | api => [api.name, external.name, service.name]
  | unexpectedStatus status => [(unexpectedStatus status).name, external.name, service.name]

/-- The sign under which faults of a kind are reported. -/
def emoji : ServiceKind → String
  | service => "⚠️"
  | validation => "✏️"
  | configuration => "⚙️"
  | external | api | unexpectedStatus _ => "🌐"

end ServiceKind

/-- The kinds of faults from outside. -/
inductive OutsideKind where
  | value
  | runtime
  | system
  | type
  | connection
  | timeout
  | readTimeout
  | request
deriving DecidableEq

/-- The name of a kind. -/
def OutsideKind.name : OutsideKind → String
  | value => "ValueError"
  | runtime => "RuntimeError"
  | system => "OSError"
  | type => "TypeError"
  | connection => "ConnectionError"
  | timeout => "Timeout"
  | readTimeout => "ReadTimeout"
  | request => "RequestException"

/-- A fault: one of the client's own, possibly caused by another fault, or one from outside. -/
inductive Fault where
  | service (kind : ServiceKind) (code : Int) (text emoji : String) (cause : Option Fault)
  | outside (kind : OutsideKind) (text : String)

instance : Inhabited Fault := ⟨.outside .runtime ""⟩

namespace Fault

/-- The name of a fault's kind. -/
def name : Fault → String
  | service kind .. => kind.name
  | outside kind _ => kind.name

/-- The names of the more general kinds of the client's own faults. -/
def lineage : Fault → List String
  | service kind .. => kind.lineage
  | outside .. => []

/-- The text of a fault with its causes. -/
def report : Fault → String
  | service _ code text emoji cause =>
    "[" ++ emoji ++ " E" ++ Text.decimal code ++ "] " ++ text ++
      match cause with
      | none => ""
      | some cause => " # Caused by: " ++ cause.report
  | outside _ text => text

/-- A fault of the client's own, with a code of its choice and the usual sign. -/
def ofKind (kind : ServiceKind) (code : Int) (text : String) : Fault :=
  service kind code text kind.emoji none

/-- A refused argument. -/
def validation (code : ErrorCode) (text : String) : Fault := ofKind .validation code.number text

/-- An error that the platform reports. -/
def api (code : Int) (text : String) : Fault := ofKind .api code text

/-- The text of a status with its reason, if there is one. -/
def statusText (status : Int) (reason : Option String) : String :=
  "HTTP status: " ++ Text.decimal status ++
    match reason with
    | none | some "" => ""
    | some reason => " " ++ reason

/-- An answer with another status than 200. -/
def unexpectedStatus (status : Int) (reason : Option String) : Fault :=
  ofKind (.unexpectedStatus status) ErrorCode.unexpectedHttpStatus.number (statusText status reason)

end Fault

end PlatformClient
