import PlatformClient.Order
import PlatformClient.Proofs.Record.Parts

/-!
# Answers that carry orders

An answer carries one order, or a list of them. In both an order is checked in the same way, and its
faults are those of the order itself, seen from the answer.

## Main definitions

* `Order.checked`: the order that a value means, or its faults
* `Order.fetched`, `Order.listed`: what an answer carries

## Main results

* `Order.read_answer`, `Order.read_listAnswer`: answers are read as what they carry
-/

namespace PlatformClient

open Record

namespace Order

/-- The order that a value means, or its faults. -/
def checked (value : Json) : Checked Order := (form.decode value).map ofDatum

/-- The order in an answer with such members. -/
def fetched (members : Members) : Checked Order := members.part checked "order"

/-- The orders that the member of an answer lists. Without one, and if it is null, these are
none. -/
def listed : Option Json → Checked (List Order)
  | none | some .null => .ok []
  | some (.array items) => Checked.under (.member "order_list") (Checked.each checked 0 items)
  | some _ => Checked.under (.member "order_list") (.fail .notList)

theorem read_document (value : Json) :
    document.read value = (checked value).mapError (Refusal.mk form.title) := by
  have hform : document.form = form := rfl
  unfold Document.read checked
  rw [hform]
  cases form.decode value <;> rfl

theorem read_answer (members : Members) :
    answer.read (.object members) = (fetched members).mapError (Refusal.mk answerForm.title) := by
  unfold Document.read
  simp only [answer, answerForm, Form.decode, Record.decodeFields, Label.required,
    Label.source?, List.findSome?_cons, List.findSome?_nil, fetched, Members.part]
  cases members.find? "order" with
  | none => rfl
  | some value =>
    simp only [Option.map_some, Option.elim_some, checked]
    cases form.decode value <;> rfl

theorem read_listAnswer (members : Members) :
    listAnswer.read (.object members) =
      (listed (members.find? "order_list")).mapError (Refusal.mk listAnswerForm.title) := by
  unfold Document.read
  simp only [listAnswer, listAnswerForm, optionalField, Form.decode, Record.decodeFields,
    Label.withDefault, Label.source?, List.findSome?_cons, List.findSome?_nil, listed]
  cases members.find? "order_list" with
  | none => rfl
  | some value =>
    cases value with
    | array items =>
      have hitems : Checked.each checked 0 items =
          (Checked.each form.decode 0 items).map (List.map ofDatum) :=
        Checked.each_map form.decode ofDatum 0 items
      simp only [Option.map_some, hitems]
      cases Checked.each form.decode 0 items <;> rfl
    | _ => rfl

end Order

end PlatformClient
