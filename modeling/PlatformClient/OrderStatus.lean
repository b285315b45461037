import PlatformClient.Decimal.Binary64
import PlatformClient.Json.Display

/-!
# States of orders

## Main definitions

* `OrderStatus`: the states by which orders can be filtered
* `OrderStatus.lookup?`: the state a value numbers
* `OrderStatus.display`: a state in log lines
-/

namespace PlatformClient

/-- The states by which orders can be filtered; `all` stands for no filter. -/
inductive OrderStatus where
  | all
  | pendingDelivery
  | delivered
  | completed
  | underDispute
deriving DecidableEq

namespace OrderStatus

/-- Every state. -/
def every : List OrderStatus := [all, pendingDelivery, delivered, completed, underDispute]

/-- The name of a state. -/
def name : OrderStatus → String
  | all => "all"
  | pendingDelivery => "pending_delivery"
  | delivered => "delivered"
  | completed => "completed"
  | underDispute => "under_dispute"

/-- The number of a state. -/
def number : OrderStatus → Int
  | all => 0
  | pendingDelivery => 2
  | delivered => 3
  | completed => 5
  | underDispute => 8

/-- The state of a name. -/
def ofName? (name : String) : Option OrderStatus := every.find? (·.name == name)

/-- The state of a number. -/
def ofNumber? (n : Int) : Option OrderStatus := every.find? (·.number == n)

/-- The state a value numbers. Truth values count as zero and one, and a floating point number
without fraction as the whole number that it is. -/
def lookup? : Json → Option OrderStatus
  | .integer n => ofNumber? n
  | .bool b => ofNumber? (if b then 1 else 0)
  | .float x => Binary64.toInt? x >>= ofNumber?
  | _ => none

/-- The wording of the refusal of a value that numbers no state. -/
def refusal (value : Json) : String := String.ofList value.literal ++ " is not a valid OrderStatus"

/-- A state in log lines. -/
def display (status : OrderStatus) : String :=
  "<OrderStatus." ++ status.name ++ ": " ++ Text.decimal status.number ++ ">"

end OrderStatus

end PlatformClient
