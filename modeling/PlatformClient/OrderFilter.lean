import PlatformClient.Decimal.Binary64
import PlatformClient.Failure
import PlatformClient.Json.Display
import PlatformClient.OrderStatus

/-!
# Filters for orders

Orders are filtered by their state and by the time of their creation. What is zero does not filter,
and is left out of the object that is sent.

## Main definitions

* `Quantity`: the numbers by which orders are filtered
* `OrderFilter`: a filter
* `OrderFilter.payload`: the object that is sent

## Main results

* `Quantity.isZero_whole`: a whole number is left out exactly when it is zero
-/

namespace PlatformClient

/-- A number: a truth value counts as zero or one. -/
inductive Quantity where
  | flag (b : Bool)
  | whole (n : Int)
  | real (x : Float)

namespace Quantity

/-- Whether a number is zero. -/
def isZero : Quantity → Bool
  | flag b => !b
  | whole n => n == 0
  | real x => x == 0

/-- A number as a value of a document. -/
def toJson : Quantity → Json
  | flag b => .bool b
  | whole n => .integer n
  | real x => .float x

/-- A number inside a text. -/
def text? : Quantity → Except Text.IntegerFault String
  | whole n => Text.decimal? n
  | quantity => .ok quantity.toJson.display

/-- The whole number that remains without the fraction. -/
def wholePart : Quantity → Except Failure Int
  | flag b => .ok (if b then 1 else 0)
  | whole n => .ok n
  | real x =>
    match Binary64.classify x, Binary64.truncate? x with
    | _, some n => .ok n
    | .infinite _, none => .error .infiniteNumber
    | _, none => .error .notANumber

/-- A whole number is left out exactly when it is zero. -/
theorem isZero_whole (n : Int) : (whole n).isZero = true ↔ n = 0 := by
  simp [isZero]

end Quantity

/-- A filter: the state of orders, and the earliest and the latest time of their creation in
seconds. -/
structure OrderFilter where
  status : Quantity := .whole OrderStatus.all.number
  beginTime : Quantity := .whole 0
  endTime : Quantity := .whole 0

namespace OrderFilter

/-- The member for a number, which is left out if it is zero. -/
def member (name : String) (quantity : Quantity) (value : Json) : Members :=
  if quantity.isZero then [] else [(name, value)]

/-- The object that is sent; the state is sent as the given whole number. -/
def payload (filter : OrderFilter) (status : Int) : Json :=
  .object <|
    member "status" filter.status (.integer status) ++
    member "begintime" filter.beginTime filter.beginTime.toJson ++
    member "endtime" filter.endTime filter.endTime.toJson

end OrderFilter

end PlatformClient
