import PlatformClient.Operation.Token
import PlatformClient.Order
import PlatformClient.OrderFilter

/-!
# Orders of a store

## Main definitions

* `Operation.orderById`, `Operation.ordersByFilter`: orders are fetched
* `Operation.setDelivery`: an order gets its delivery
* `Operation.closeOrder`: an order is closed
-/

namespace PlatformClient.Operation

variable {τ : Type} [Instant τ]

/-- The object that names an order. -/
def orderPayload (orderId : String) : Json := .object [("order_id", .string orderId)]

/-- The order of an identifier. -/
def orderById (orderId : String) : Operation τ Order := do
  let _ ← say .trace ("Fetching order #" ++ orderId)
  let token ← requireToken
  let document ← postJson (← addressOf (.orderById token)) (orderPayload orderId)
  decode Order.answer document

/-- The orders that pass a filter, in the platform's order. -/
def ordersByFilter (filter : OrderFilter) : Operation τ (List Order) := do
  let status ← ofExcept id filter.status.wholePart
  let shown ← numeral status
  let earliest ← ofExcept .integer filter.beginTime.text?
  let latest ← ofExcept .integer filter.endTime.text?
  let _ ← say .trace
    ("Fetching orders by filter: status=" ++ shown ++ ", begin=" ++ earliest ++ ", end=" ++ latest)
  let token ← requireToken
  let document ← postJson (← addressOf (.ordersByFilter token)) (filter.payload status)
  let orders ← decode Order.listAnswer document
  let _ ← say .trace ("Found " ++ orders.length.repr ++ " orders")
  return orders

/-- An order gets its delivery: the identifier of the company and the number for tracking. -/
def setDelivery (orderId company trackNumber : String) : Operation τ Unit := do
  let _ ← say .trace ("Setting delivery info for order #" ++ orderId)
  let token ← requireToken
  let document ← postJson (← addressOf (.deliverySetting token)) <| .object
    [
      ("order_id", .string orderId),
      ("delivery_company", .string company),
      ("delivery_track_no", .string trackNumber)
    ]
  let _ ← requireSuccess document

/-- An order is closed. -/
def closeOrder (orderId : String) : Operation τ Unit := do
  let _ ← say .trace ("Closing order #" ++ orderId)
  let token ← requireToken
  let document ← postJson (← addressOf (.orderClosing token)) (orderPayload orderId)
  let _ ← requireSuccess document

end PlatformClient.Operation
