import PlatformClient.Record.Document
import PlatformClient.RichMedia

/-!
# Orders

An order of a store has an identifier and many fields that may be absent. Members that are no known
fields are kept as the platform sent them.

## Main definitions

* `Order`: an order
* `Order.form`: the form of orders
* `Order.toJson`: an order as an object
* `Order.answer`, `Order.listAnswer`: the kinds of documents that carry one order, or a list of them
-/

namespace PlatformClient

open Record

/-- An order: the known fields that were supplied, in the order of the form, and all other members
as they were read. -/
structure Order where
  fields : Members
  others : Members
deriving DecidableEq

namespace Order

/-- A text field that may be absent or null. -/
def text (name : String) : Label × Form := optionalField name .text

/-- A field for a whole number that may be absent or null. -/
def integer (name : String) : Label × Form := optionalField name .integer

/-- The form of orders. -/
def form : Form :=
  .record "Order"
    [
      (.required "order_id", .text),
      integer "order_status",
      integer "order_total_price",
      integer "order_create_time",
      integer "order_express_price",
      text "buyer_openid",
      text "buyer_nick",
      text "receiver_name",
      text "receiver_province",
      text "receiver_city",
      text "receiver_zone",
      text "receiver_address",
      text "receiver_mobile",
      text "receiver_phone",
      text "product_id",
      text "product_name",
      integer "product_price",
      text "product_sku",
      integer "product_count",
      text "product_img",
      text "delivery_id",
      text "delivery_company",
      text "trans_id"
    ]
    true

/-- The order a checked value means. -/
def ofDatum : Datum → Order
  | .record _ slots others => ⟨Datum.slotsToJson (slots.filter (·.1.supplied)), others⟩
  | _ => ⟨[], []⟩

/-- An order as an object. -/
def toJson (order : Order) : Json := .object (order.fields ++ order.others)

/-- The form of answers that carry one order. -/
def answerForm : Form := .record "OrderResult" [(.required "order", form)] false

/-- The form of answers that carry a list of orders. -/
def listAnswerForm : Form :=
  .record "OrderListResult" [optionalField "order_list" (.list form)] false

/-- The documents that carry an order. -/
def document : Document Order := ⟨form, ofDatum⟩

/-- The answers that carry one order. -/
def answer : Document Order := ⟨answerForm, fun datum => ofDatum (datum.field "order")⟩

/-- The answers that carry a list of orders; an absent list is empty. -/
def listAnswer : Document (List Order) :=
  ⟨listAnswerForm, fun datum => (datum.field "order_list").asList.map ofDatum⟩

end Order

end PlatformClient
