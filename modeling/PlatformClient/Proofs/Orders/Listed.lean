import Mathlib.Data.List.Forall2
import PlatformClient.Proofs.Operation.Answered
import PlatformClient.Proofs.Orders.Reading

/-!
# Lists of orders and single orders

A list of orders is read as its orders are read one by one. If each of them can be fetched, the list
has them in the platform's order. If one of them cannot, then none is delivered, and the faults of
the list are those of its orders, one after the other, each at the place of its order in the list.

Two steps are compared by the answers to their calls; which clients make them, and when, does not
matter.

## Main definitions

* `Step.FetchesOrder`, `Step.ListsOrders`: answered steps, by what their answers carry
* `Order.IsSingle`: the results of fetching an order
* `Order.listPath`, `Order.listIssues`: the faults of single orders, as faults of their list
* `OrdersAgree`: a list of orders agrees with the orders themselves

## Main results

* `Step.FetchesOrder.result_eq`, `Step.ListsOrders.result_eq`: the results of such steps
* `orders_listed`: lists of orders and single orders
-/

namespace PlatformClient

open Record

variable {τ : Type}

/-! ## Faults -/

namespace Record.Checked

variable {α β : Type}

/-- All items pass exactly if each does. -/
theorem exists_each_iff {check : α → Checked β} {index : Nat} {items : List α} :
    (∃ results, each check index items = .ok results) ↔ ∀ a ∈ items, ∃ b, check a = .ok b := by
  simp only [each_eq_ok_iff]
  induction items with
  | nil => exact ⟨fun _ => nofun, fun _ => ⟨[], rfl⟩⟩
  | cons a rest ih =>
    rw [List.forall_mem_cons, ← ih]
    constructor
    · rintro ⟨results, hresults⟩
      obtain ⟨b, bs, rfl, hb, hbs⟩ := List.map_eq_cons_iff.mp hresults.symm
      exact ⟨⟨b, hb.symm⟩, bs, hbs.symm⟩
    · rintro ⟨⟨b, hb⟩, bs, hbs⟩
      exact ⟨b :: bs, by rw [List.map_cons, List.map_cons, hb, hbs]⟩

end Record.Checked

/-- The faults by which a result is refused. -/
def issuesOf : Except Failure Answer → List Issue
  | .error (.refused refusal _) => refusal.issues
  | _ => []

/-- The refusal of a member of a document, by the faults of its value. -/
theorem Failure.ofRefusal_under {members : Members} {name : String} {value : Json}
    (h : members.find? name = some value) (title : String) (issues : List Issue) :
    Failure.ofRefusal (.object members) ⟨title, issues.map (Issue.under (.member name))⟩ =
      .refused ⟨title, issues.map (Issue.under (.member name))⟩
        (issues.map fun issue => reached issue.path value) := by
  unfold Failure.ofRefusal Refusal.inputs
  rw [List.map_map]
  refine congrArg (Failure.refused _) (List.map_congr_left fun issue _ => ?_)
  simp only [Function.comp_apply, Issue.under, reached, h]

namespace Order

/-- A path in the answer that carries an order, as a path in the answer that lists it at a place. -/
def listPath (index : Nat) : Path → Path
  | [] => []
  | step :: rest =>
    if step = .member "order" then .member "order_list" :: .item index :: rest else step :: rest

/-- The result of fetching the order that a value means. -/
def resultOf (value : Json) : Except Failure Answer :=
  match checked value with
  | .ok order => .ok (.order order)
  | .error issues =>
    .error (.refused ⟨answerForm.title, issues.map (Issue.under (.member "order"))⟩
      (issues.map fun issue => reached issue.path value))

/-- The result of listing the orders that values mean. -/
def resultOfList (values : List Json) : Except Failure Answer :=
  match Checked.each checked 0 values with
  | .ok orders => .ok (.orders orders)
  | .error issues =>
    .error (.refused ⟨listAnswerForm.title, issues.map (Issue.under (.member "order_list"))⟩
      (issues.map fun issue => reached issue.path (.array values)))

/-- The faults of results, one after the other, as faults of their list. -/
def listIssues (results : List (Except Failure Answer)) : List Issue :=
  results.zipIdx.flatMap fun result =>
    (issuesOf result.1).map (Issue.moved (listPath result.2))

variable {value : Json} {values : List Json} {order : Order} {orders : List Order}

theorem resultOf_eq_ok_iff : resultOf value = .ok (.order order) ↔ checked value = .ok order := by
  unfold resultOf
  cases checked value <;> simp

/-- A result is an order, or the refusal of one with faults of its own. -/
def IsSingle (result : Except Failure Answer) : Prop :=
  (∃ order, result = .ok (.order order)) ∨
    ∃ issues inputs, (∀ issue ∈ issues, [.member "order"] <+: issue.path) ∧
      result = .error (.refused ⟨"OrderResult", issues⟩ inputs)

theorem isSingle_resultOf (value : Json) : IsSingle (resultOf value) := by
  unfold resultOf
  cases checked value with
  | ok order => exact .inl ⟨order, rfl⟩
  | error issues =>
    refine .inr ⟨_, _, fun issue hissue => ?_, rfl⟩
    obtain ⟨own, -, rfl⟩ := List.mem_map.mp hissue
    exact ⟨own.path, rfl⟩

theorem issuesOf_resultOf (value : Json) :
    issuesOf (resultOf value) = (checked value).issues.map (Issue.under (.member "order")) := by
  unfold resultOf
  cases checked value <;> rfl

/-- The orders of a list are those that are fetched one by one. -/
theorem resultOfList_eq_ok_iff :
    resultOfList values = .ok (.orders orders) ↔
      values.map resultOf = orders.map fun order => .ok (.order order) := by
  have heach : resultOfList values = .ok (.orders orders) ↔
      Checked.each checked 0 values = .ok orders := by
    unfold resultOfList
    cases Checked.each checked 0 values <;> simp
  rw [heach, Checked.each_eq_ok_iff, ← List.forall₂_eq_eq_eq, ← List.forall₂_eq_eq_eq,
    List.forall₂_map_left_iff, List.forall₂_map_right_iff, List.forall₂_map_left_iff,
    List.forall₂_map_right_iff]
  simp only [resultOf_eq_ok_iff]

theorem exists_resultOfList_iff :
    (∃ orders, resultOfList values = .ok (.orders orders)) ↔
      ∀ value ∈ values, ∃ order, resultOf value = .ok (.order order) := by
  have heach : (∃ orders, Checked.each checked 0 values = .ok orders) ↔
      ∀ value ∈ values, ∃ order, checked value = .ok order := Checked.exists_each_iff
  simp only [resultOf_eq_ok_iff]
  rw [← heach]
  unfold resultOfList
  cases Checked.each checked 0 values <;> simp

/-- Seen from the list, the faults of an order are those at its place. -/
theorem moved_under_order (index : Nat) (issue : Issue) :
    Issue.moved (listPath index) (Issue.under (.member "order") issue) =
      Issue.under (.member "order_list") (Issue.under (.item index) issue) := by
  rw [Issue.moved, Issue.under, listPath, if_pos rfl]
  rfl

theorem listIssues_map_resultOf (values : List Json) :
    listIssues (values.map resultOf) =
      (Checked.each checked 0 values).issues.map (Issue.under (.member "order_list")) := by
  rw [listIssues, List.zipIdx_map, List.flatMap_map, Checked.issues_each, List.map_flatMap]
  refine congrArg (fun faults => List.flatMap faults values.zipIdx) (funext fun item => ?_)
  rw [Prod.map_fst, Prod.map_snd, issuesOf_resultOf, List.map_map, List.map_map]
  exact List.map_congr_left fun issue _ => moved_under_order item.2 issue

theorem inputsOf_resultOf (value : Json) :
    Failure.inputsOf (resultOf value) =
      (checked value).issues.map fun issue => reached issue.path value := by
  unfold resultOf
  cases checked value <;> rfl

/-- The values that are refused in a list are those that are refused one by one. -/
theorem inputsOf_map_resultOf (values : List Json) :
    (values.map resultOf).flatMap Failure.inputsOf =
      (Checked.each checked 0 values).issues.map fun issue =>
        reached issue.path (.array values) := by
  have hvalues : values.zipIdx.map Prod.fst = values := List.zipIdx_map_fst 0 values
  rw [Checked.issues_each, List.map_flatMap, List.flatMap_map]
  conv_lhs => rw [← hvalues]
  rw [List.flatMap_map]
  refine List.flatMap_congr fun item hitem => ?_
  have hfound : values[item.2]? = some item.1 := List.mem_zipIdx_iff_getElem?.mp hitem
  rw [inputsOf_resultOf, List.map_map]
  refine List.map_congr_left fun issue _ => ?_
  simp only [Function.comp_apply, Issue.under, reached, hfound]

/-- If a value is no order, then none is delivered, and the faults are those of all values. -/
theorem resultOfList_of_not_ok
    (h : ∃ value ∈ values, ∀ order, resultOf value ≠ .ok (.order order)) :
    resultOfList values =
      .error (.refused ⟨listAnswerForm.title, listIssues (values.map resultOf)⟩
        ((values.map resultOf).flatMap Failure.inputsOf)) := by
  rw [listIssues_map_resultOf, inputsOf_map_resultOf]
  cases heach : Checked.each checked 0 values with
  | ok orders =>
    obtain ⟨value, hvalue, hnone⟩ := h
    obtain ⟨order, horder⟩ := Checked.exists_each_iff.mp ⟨orders, heach⟩ value hvalue
    exact absurd (resultOf_eq_ok_iff.mpr horder) (hnone order)
  | error issues =>
    rw [resultOfList, heach]
    rfl

end Order

/-! ## Answered steps -/

namespace Step

variable [Instant τ] {step : Step τ}

/-- A step fetches an order and is answered by the value for it. -/
structure FetchesOrder (step : Step τ) (value : Json) : Prop where
  action : ∃ orderId, step.turn.action = .orderById orderId
  answer : ∃ carrier : Members, step.IsAnsweredBy (.object carrier) ∧
    carrier.find? "order" = some value

/-- A step lists orders and is answered by the member for them, or without one. -/
structure ListsOrders (step : Step τ) (list? : Option Json) : Prop where
  action : ∃ filter, step.turn.action = .ordersByFilter filter
  answer : ∃ carrier : Members, step.IsAnsweredBy (.object carrier) ∧
    carrier.find? "order_list" = list?

theorem FetchesOrder.result_eq {value : Json} (h : step.FetchesOrder value) :
    step.result = Order.resultOf value := by
  obtain ⟨⟨orderId, haction⟩, carrier, hanswered, hfind⟩ := h
  rw [result_of_answer (Operation.consults_orderById orderId)
    (congrArg Action.operation haction) hanswered, Order.read_answer, Order.fetched, Members.part,
    hfind, Option.elim_some, Order.resultOf]
  cases Order.checked value with
  | ok order => rfl
  | error issues => exact congrArg Except.error (Failure.ofRefusal_under hfind _ issues)

/-- The result of a step that lists orders is that of its list. -/
theorem ListsOrders.result_eq {list? : Option Json} (h : step.ListsOrders list?) :
    ∃ carrier : Members, carrier.find? "order_list" = list? ∧
      step.result =
        (((Order.listed list?).mapError (Refusal.mk Order.listAnswerForm.title)).mapError
          (Failure.ofRefusal (.object carrier))).map .orders := by
  obtain ⟨⟨filter, haction⟩, carrier, hanswered, hfind⟩ := h
  refine ⟨carrier, hfind, ?_⟩
  rw [result_of_answer (Operation.consults_ordersByFilter filter)
    (congrArg Action.operation haction) hanswered, Order.read_listAnswer, hfind]

theorem ListsOrders.result_of_array {values : List Json}
    (h : step.ListsOrders (some (.array values))) : step.result = Order.resultOfList values := by
  obtain ⟨carrier, hfind, hresult⟩ := h.result_eq
  rw [hresult, Order.listed, Order.resultOfList]
  cases Checked.each Order.checked 0 values with
  | ok orders => rfl
  | error issues => exact congrArg Except.error (Failure.ofRefusal_under hfind _ issues)

/-- Steps that fetch orders have the results of their values. -/
theorem map_result_eq {singles : List (Step τ)} {values : List Json}
    (h : List.Forall₂ FetchesOrder singles values) :
    singles.map result = values.map Order.resultOf := by
  induction h with
  | nil => rfl
  | cons hsingle _ ih => rw [List.map_cons, List.map_cons, hsingle.result_eq, ih]

end Step

/-- A list of orders agrees with the orders themselves. -/
structure OrdersAgree [Instant τ] (listing : Step τ) (singles : List (Step τ)) : Prop where
  /-- Each single order is fetched, or refused with its faults. -/
  single : ∀ single ∈ singles, Order.IsSingle single.result
  /-- The list succeeds if each of them does. -/
  succeeds : (∃ orders, listing.result = .ok (.orders orders)) ↔
    ∀ single ∈ singles, ∃ order, single.result = .ok (.order order)
  /-- It has the orders that are fetched one by one. -/
  orders : ∀ orders, listing.result = .ok (.orders orders) →
    singles.map Step.result = orders.map fun order => .ok (.order order)
  /-- If one of them does not succeed, then none is delivered, and the faults of the list are those
  of all single orders, at their places, with the values that are refused there. -/
  refused : (∃ single ∈ singles, ∀ order, single.result ≠ .ok (.order order)) →
    listing.result =
      .error (.refused ⟨"OrderListResult", Order.listIssues (singles.map Step.result)⟩
        ((singles.map Step.result).flatMap Failure.inputsOf))

/-- **Lists of orders and single orders.** A step that lists orders agrees with any steps that fetch
these orders one by one, and lists none if its answer has no list, null, or an empty one. -/
theorem orders_listed [Instant τ] {listing : Step τ} {list? : Option Json}
    (h : listing.ListsOrders list?) :
    (list? = none ∨ list? = some .null ∨ list? = some (.array []) →
        listing.result = .ok (.orders [])) ∧
      ∀ values singles, list? = some (.array values) →
        List.Forall₂ Step.FetchesOrder singles values → OrdersAgree listing singles := by
  constructor
  · intro hempty
    obtain ⟨carrier, -, hresult⟩ := h.result_eq
    rw [hresult]
    rcases hempty with rfl | rfl | rfl <;> rfl
  · rintro values singles rfl hsingles
    have hlisting := h.result_of_array
    have hresults := Step.map_result_eq hsingles
    have hforall (P : Except Failure Answer → Prop) :
        (∀ single ∈ singles, P single.result) ↔ ∀ value ∈ values, P (Order.resultOf value) := by
      rw [← List.forall_mem_map (f := Step.result), hresults, List.forall_mem_map]
    refine ⟨?_, ?_, ?_, ?_⟩
    · exact (hforall Order.IsSingle).mpr fun value _ => Order.isSingle_resultOf value
    · rw [hlisting, hforall fun result => ∃ order, result = .ok (.order order)]
      exact Order.exists_resultOfList_iff
    · intro orders horders
      rw [hresults]
      exact Order.resultOfList_eq_ok_iff.mp (hlisting.symm.trans horders)
    · rintro ⟨single, hmem, hnone⟩
      obtain ⟨value, hvalue, heq⟩ := List.mem_map.mp (hresults ▸ List.mem_map_of_mem hmem)
      rw [hlisting, hresults]
      exact Order.resultOfList_of_not_ok ⟨value, hvalue, fun order => heq ▸ hnone order⟩

/-- A value that is no order. -/
def trialNoOrder : Json := .object [("order_id", .integer 5), ("product_count", .string "x")]

/-- Of two values, the second is no order. -/
def trialValues : List Json := [.object [("order_id", .string "1")], trialNoOrder]

/-- The values are listed. -/
def trialListing : Step Nat :=
  trialCall (.ordersByFilter ⟨.whole 2, .whole 0, .whole 0⟩)
    ("\x7b\"order_list\": [\x7b\"order_id\": \"1\"\x7d, " ++
      "\x7b\"order_id\": 5, \"product_count\": \"x\"\x7d]\x7d")

/-- The values are fetched one by one. -/
def trialSingles : List (Step Nat) :=
  [trialCall (.orderById "1") "\x7b\"order\": \x7b\"order_id\": \"1\"\x7d\x7d",
    trialCall (.orderById "5")
      "\x7b\"order\": \x7b\"order_id\": 5, \"product_count\": \"x\"\x7d\x7d"]

theorem orders_listed_of_trial :
    trialListing.ListsOrders (some (.array trialValues)) ∧
      List.Forall₂ Step.FetchesOrder trialSingles trialValues ∧
      OrdersAgree trialListing trialSingles ∧
      trialListing.result = .error (.refused ⟨"OrderListResult",
        [⟨[.member "order_list", .item 1, .member "order_id"], .notText⟩,
          ⟨[.member "order_list", .item 1, .member "product_count"], .unparsable⟩]⟩
        [.integer 5, .string "x"]) := by
  have hlisting : trialListing.ListsOrders (some (.array trialValues)) := by
    have hplatform : (Action.ordersByFilter ⟨.whole 2, .whole 0, .whole 0⟩).IsPlatform := trivial
    refine ⟨⟨_, rfl⟩, [("order_list", .array trialValues)], ?_, rfl⟩
    exact trialCall_isAnsweredBy hplatform (by decide +kernel) (by decide +kernel)
      ⟨⟨0, ""⟩, rfl, rfl⟩
  have hfetches {orderId text : String} {value : Json}
      (hrequests : (trialCall (.orderById orderId) text).requests.length = 2)
      (hdocument : (Http.Outcome.response (trialAnswer text)).document? .trial =
        some (.object [("order", value)])) :
      (trialCall (.orderById orderId) text).FetchesOrder value := by
    have hplatform : (Action.orderById orderId).IsPlatform := trivial
    refine ⟨⟨orderId, rfl⟩, [("order", value)], ?_, rfl⟩
    exact trialCall_isAnsweredBy hplatform hrequests hdocument ⟨⟨0, ""⟩, rfl, rfl⟩
  have hsecond : (trialCall (.orderById "5")
      "\x7b\"order\": \x7b\"order_id\": 5, \"product_count\": \"x\"\x7d\x7d").FetchesOrder
        trialNoOrder := hfetches (by decide +kernel) (by decide +kernel)
  have hsingles : List.Forall₂ Step.FetchesOrder trialSingles trialValues :=
    .cons (hfetches (by decide +kernel) (by decide +kernel)) (.cons hsecond .nil)
  have hagree : OrdersAgree trialListing trialSingles :=
    (orders_listed hlisting).2 trialValues trialSingles rfl hsingles
  refine ⟨hlisting, hsingles, hagree, ?_⟩
  have hnone : ∃ single ∈ trialSingles, ∀ order, single.result ≠ .ok (.order order) := by
    refine ⟨_, List.mem_cons_of_mem _ List.mem_cons_self, fun order horder => ?_⟩
    have hchecked := Order.resultOf_eq_ok_iff.mp (hsecond.result_eq.symm.trans horder)
    have hissues : (Order.checked trialNoOrder).issues ≠ [] := by decide +kernel
    rw [hchecked] at hissues
    exact hissues rfl
  have hissues : Order.listIssues (trialValues.map Order.resultOf) =
      [⟨[.member "order_list", .item 1, .member "order_id"], .notText⟩,
        ⟨[.member "order_list", .item 1, .member "product_count"], .unparsable⟩] := by
    decide +kernel
  have hinputs :
      (trialValues.map Order.resultOf).flatMap Failure.inputsOf = [.integer 5, .string "x"] := by
    decide +kernel
  rw [hagree.refused hnone, Step.map_result_eq hsingles, hissues, hinputs]

end PlatformClient
