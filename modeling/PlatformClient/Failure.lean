import PlatformClient.Fault
import PlatformClient.FileStore
import PlatformClient.Http.Exchange
import PlatformClient.Json.Reader
import PlatformClient.Json.Writer
import PlatformClient.Multipart
import PlatformClient.Pool.Buffer
import PlatformClient.Pool.Basic
import PlatformClient.Record.Document

/-!
# Failures of operations

## Main definitions

* `Failure`: why an operation has no result
* `Failure.ofRefusal`, `Failure.inputsOf`: the failure where a document is refused
* `Failure.message?`: the text of a failure
* `Failure.isUnexpectedStatus`: the failures that report another status than 200
-/

namespace PlatformClient

/-- The wording of a fault with a whole number. -/
def Text.IntegerFault.message : Text.IntegerFault → String
  | malformed text =>
    "invalid literal for int() with base 10: " ++
      String.ofList ((Text.quoted text.toList).take 200)
  | tooManyDigits count => digitsRefusal count
  | tooLarge =>
    "Exceeds the limit (" ++ Text.digitLimit.repr ++ " digits) for integer string conversion; " ++
      "use sys.set_int_max_str_digits() to increase the limit"

/-- The wording of what keeps a value from being written. -/
def Json.WriteFault.message : Json.WriteFault → String
  | integerTooLong => Text.IntegerFault.tooLarge.message
  | tooDeep => depthRefusal "encoding a JSON object"

/-- Why an operation has no result. -/
inductive Failure where
  /-- A fault is reported. -/
  | fault (fault : Fault)
  /-- A document does not have the required form. The values that are refused are handed on. -/
  | refused (refusal : Record.Refusal) (inputs : List Json)
  /-- A text is no document. -/
  | unreadable (error : ReadError)
  /-- The body of a response has no text. -/
  | charset (fault : Http.CharsetFault)
  /-- A whole number has no text, or a text is no whole number. -/
  | integer (fault : Text.IntegerFault)
  /-- A value cannot be written as a document. -/
  | unwritable (fault : Json.WriteFault)
  /-- A boundary cannot be written. -/
  | boundary (fault : Multipart.BoundaryFault)
  /-- The configured size of pieces is no count of octets. -/
  | pieceSize
  /-- A token lives too long for the clock. -/
  | lifetimeTooLong
  /-- What is asked for as a whole number is infinite. -/
  | infiniteNumber
  /-- What is asked for as a whole number is no number. -/
  | notANumber
  /-- The pool of buffers cannot have the configured size. -/
  | poolSize
  /-- A buffer refuses its use. -/
  | buffer (fault : BufferFault)
  /-- A path leads to no file. -/
  | file (fault : FileFault)

namespace Failure

/-- The refusal of a document. -/
def ofRefusal (document : Json) (refusal : Record.Refusal) : Failure :=
  .refused refusal (refusal.inputs document)

/-- The values of a document that are refused, where this keeps a result away. -/
def inputsOf {α : Type} : Except Failure α → List Json
  | .error (.refused _ inputs) => inputs
  | _ => []

/-- The text of a failure; a refused document has a list of faults instead. -/
def message? : Failure → Option String
  | .fault reported => some reported.report
  | .refused .. => none
  | .unreadable error => some error.message
  | .charset cause => some cause.message
  | .integer cause => some cause.message
  | .unwritable cause => some cause.message
  | .boundary cause => some cause.message
  | .pieceSize => some "cannot fit 'int' into an index-sized integer"
  | .lifetimeTooLong => some "int too large to convert to float"
  | .infiniteNumber => some "cannot convert float infinity to integer"
  | .notANumber => some "cannot convert float NaN to integer"
  | .poolSize => some Pool.sizeRefusal
  | .buffer cause => some cause.message
  | .file cause => some cause.message

/-- Whether a failure reports another status than 200. -/
def isUnexpectedStatus : Failure → Bool
  | .fault (.service (.unexpectedStatus _) ..) => true
  | _ => false

end Failure

end PlatformClient
