import PlatformClient.Proofs.Operation.Answered
import PlatformClient.Proofs.Orders.Reading
import PlatformClient.Proofs.Record.Kept

/-!
# Orders keep what the platform sent

An order that is fetched is an object with the names of the one that the platform sent: known fields
that were absent do not appear, and unknown ones are not dropped. Only the values of known fields
may be spelled otherwise, as texts, whole numbers or nulls; and an order read from such an object is
the same order.

## Main definitions

* `Order.declared`: the known fields
* `Order.record`: the members of an order
* `Order.Keeps`: an order keeps the members of an object

## Main results

* `Order.read_object_eq_ok_iff`: how an order is read from an object
* `Order.keeps_of_read`: what is read keeps the members of its object
* `orders_kept`: the orders that are fetched
-/

namespace PlatformClient

open Record

variable {τ : Type}

namespace Order

/-- The known fields of orders. -/
def declared : List (Label × Form) :=
  match form with
  | .record _ fields _ => fields
  | _ => []

/-- The names of the known fields. -/
def declaredNames : List String := declared.map (·.1.name)

/-- The members of an order. -/
def record (order : Order) : Members := order.fields ++ order.others

theorem arePlain_declared : ArePlain declared where
  forms := by
    simp [declared, form, Order.text, Order.integer, optionalField, Form.IsPlain.text,
      Form.IsPlain.integer, Form.IsPlain.optional]
  sources := by
    simp [declared, form, Order.text, Order.integer, optionalField, Label.required,
      Label.withDefault]
  nodup := by decide

/-- An order keeps the members of an object. -/
structure Keeps (members : Members) (order : Order) : Prop where
  /-- It has their names, and no others. -/
  names : ∀ name, name ∈ order.record.names ↔ name ∈ members.names
  /-- It has each name once, as objects do. -/
  once : members.names.Nodup → order.record.names.Nodup
  /-- Its fields are the members with known names. -/
  supplied : ∀ name, name ∈ order.fields.names ↔ name ∈ declaredNames ∧ name ∈ members.names
  /-- All other members have the values that were read. -/
  others : ∀ name ∉ declaredNames, order.record.find? name = members.find? name
  /-- A known field has a value of its type, or is null if it may be. -/
  fields : ∀ field ∈ declared, ∀ value, order.record.find? field.1.name = some value →
    field.2.Holds value
  /-- Read again, it is the same order. -/
  again : Order.document.read order.toJson = .ok order

/-- An order is read from an object field by field. -/
theorem read_object_eq_ok_iff {members : Members} {order : Order} :
    Order.document.read (.object members) = .ok order ↔
      ∃ slots, List.Forall₂ (Takes members) declared slots ∧
        order = ⟨Record.supplied slots, otherMembers declared members⟩ := by
  have hfields (slots : List (Slot × Datum)) :
      decodeFields declared members = .ok slots ↔ List.Forall₂ (Takes members) declared slots :=
    decodeFields_eq_ok_iff arePlain_declared.sources
  rw [Document.read_eq_ok_iff]
  constructor
  · rintro ⟨datum, hdecode, rfl⟩
    obtain ⟨slots, hslots, rfl⟩ := Checked.map_eq_ok_iff.mp hdecode
    exact ⟨slots, (hfields slots).mp hslots, rfl⟩
  · rintro ⟨slots, htakes, rfl⟩
    exact ⟨_, Checked.map_eq_ok_iff.mpr ⟨slots, (hfields slots).mpr htakes, rfl⟩, rfl⟩

/-- What is read keeps the members of its object. -/
theorem keeps_of_read {members : Members} {order : Order}
    (h : Order.document.read (.object members) = .ok order) : order.Keeps members := by
  obtain ⟨slots, htakes, rfl⟩ := read_object_eq_ok_iff.mp h
  refine ⟨fun name => arePlain_declared.mem_names_kept_iff htakes,
    arePlain_declared.nodup_names_kept htakes, fun name => mem_names_supplied_iff htakes,
    fun name hname => arePlain_declared.find?_kept_of_not_declared htakes hname,
    fun field hfield value hvalue => arePlain_declared.holds_of_find?_kept htakes hfield hvalue,
    ?_⟩
  exact Document.read_eq_ok_iff.mpr ⟨_, arePlain_declared.decode_kept htakes "Order", rfl⟩

/-- An answer that is read carries an object, which is read as the order. -/
theorem exists_of_read_answer {told : Json} {order : Order} (h : answer.read told = .ok order) :
    ∃ carrier members : Members, told = .object carrier ∧
      carrier.find? "order" = some (.object members) ∧
      Order.document.read (.object members) = .ok order := by
  cases told with
  | object carrier =>
    rw [read_answer, fetched, Members.part] at h
    cases hfind : Members.find? carrier "order" with
    | none =>
      rw [hfind] at h
      cases h
    | some value =>
      rw [hfind, Option.elim_some] at h
      have hchecked : checked value = .ok order := by
        cases hvalue : checked value with
        | error issues =>
          rw [hvalue] at h
          cases h
        | ok found =>
          rw [hvalue] at h
          cases h
          rfl
      cases value with
      | object members =>
        refine ⟨carrier, members, rfl, hfind, ?_⟩
        rw [read_document, hchecked]
        rfl
      | _ => cases hchecked
  | _ => cases h

end Order

/-- **Orders keep what the platform sent.** Every order that is fetched keeps the members of the
object by which the platform has answered. -/
theorem orders_kept [Instant τ] {step : Step τ} {orderId : String}
    (haction : step.turn.action = .orderById orderId) {order : Order}
    (hresult : step.result = .ok (.order order)) :
    ∃ carrier members : Members, step.IsAnsweredBy (.object carrier) ∧
      carrier.find? "order" = some (.object members) ∧ order.Keeps members := by
  obtain ⟨told, found, hanswered, hread, heq⟩ :=
    Step.exists_answer (Operation.consults_orderById orderId)
      (congrArg Action.operation haction) (haction ▸ trivial) hresult
  cases heq
  obtain ⟨carrier, members, rfl, hfind, horder⟩ := Order.exists_of_read_answer hread
  exact ⟨carrier, members, hanswered, hfind, Order.keeps_of_read horder⟩

/-- An order of which a known field is null, another is a text for a number, and one field is not
known. -/
def trialSent : Members :=
  [("paid", .bool true), ("order_id", .string "1"), ("product_count", .string "7"),
    ("buyer_nick", .null)]

/-- This order is fetched. -/
def trialOrdered : Step Nat :=
  trialCall (.orderById "1")
    ("\x7b\"order\": \x7b\"paid\": true, \"order_id\": \"1\", \"product_count\": \"7\", " ++
      "\"buyer_nick\": null\x7d\x7d")

theorem orders_kept_of_trial :
    let order : Order :=
      ⟨[("order_id", .string "1"), ("buyer_nick", .null), ("product_count", .integer 7)],
        [("paid", .bool true)]⟩
    trialOrdered.turn.action = .orderById "1" ∧ trialOrdered.result = .ok (.order order) ∧
      ∃ carrier members : Members, trialOrdered.IsAnsweredBy (.object carrier) ∧
        carrier.find? "order" = some (.object members) ∧ order.Keeps members := by
  intro order
  have haction : trialOrdered.turn.action = .orderById "1" := rfl
  have hplatform : (Action.orderById "1").IsPlatform := trivial
  have hanswered : trialOrdered.IsAnsweredBy (.object [("order", .object trialSent)]) :=
    trialCall_isAnsweredBy hplatform (by decide +kernel) (by decide +kernel) ⟨⟨0, ""⟩, rfl, rfl⟩
  have hread : Order.answer.read (.object [("order", .object trialSent)]) = .ok order := by
    decide +kernel
  have hresult : trialOrdered.result = .ok (.order order) := by
    rw [Step.result_of_answer (Operation.consults_orderById "1") rfl hanswered, hread]
    rfl
  exact ⟨haction, hresult, orders_kept haction hresult⟩

end PlatformClient
