import PlatformClient.Proofs.Json.ReadOctets
import PlatformClient.Proofs.Upload.Bodies

/-!
# The documents that are sent

What is sent as the body of a document is read back as the document that was meant. So the
operations on orders send what they were asked: the identifiers as they were given, and the numbers
of a filter, of which those that are zero are left out. Only a document in which arrays and objects
lie too deep in one another is refused, and then nothing is sent. How deep that is depends on the
writer; every writer has room for the documents of the operations.

## Main definitions

* `Json.IsReadFrom`: a value is what readers find in octets
* `Operation.SendsDocument`: operations that send a document behind a token
* `OrderFilter.IsWhole`: filters by whole numbers that can be written
* `Members.Filter`: the members that stand for three whole numbers
* `Step.SendsBack`: what is sent in a step is read back as a document
* `DocumentsReadBack`: what is sent in a step that posts a payload or concerns orders

## Main results

* `postJson_world`, `postJson_of_tooDeep`: a payload is posted, or refused
* `sendsDocument_orderById`, `sendsDocument_closeOrder`, `sendsDocument_setDelivery`,
  `sendsDocument_ordersByFilter`: the documents of the operations on orders
* `documents_readBack`: in every step, what is sent is read back as what was meant
-/

namespace PlatformClient

variable {τ α β : Type}

/-- The bodies that have been sent so far. -/
def World.bodies (world : World τ) : List Octets := world.requests.filterMap (·.body)

theorem World.bodies_sent (request : Http.Request) (outcome : Http.Outcome) (world : World τ) :
    (world.sent request outcome).bodies = world.bodies ++ request.body.toList := by
  unfold bodies
  rw [requests_sent, List.filterMap_append]
  cases hbody : request.body <;> simp [hbody]

@[simp] theorem World.bodies_logged (lines : List Emission) (world : World τ) :
    (world.logged lines).bodies = world.bodies := rfl

namespace Operation

/-! ## A document is posted -/

/-- Up to the log, a payload for which there is room is posted as any request is. -/
theorem postJson_world {payload : Json} (hplain : payload.Plain) {surroundings : Surroundings τ}
    (hdepth : payload.depth ≤ surroundings.writing.room) (url : String) (world : World τ) :
    ∃ lines, (postJson url payload surroundings world).2 =
      (world.sent (.post url surroundings.settings.timeout documentType
        (Utf8.encode payload.write)) (world.next surroundings)).logged lines := by
  have htext : payload.text? surroundings.writing = .ok (String.ofList payload.write) := by
    rw [hplain.text?_eq, if_pos hdepth]
  obtain ⟨shown, first, hsay⟩ :=
    exists_say_apply .trace ("POST " ++ Query.stripped url) surroundings world
  obtain ⟨second, hfetch⟩ := fetchJson_world
    (.post url surroundings.settings.timeout documentType (Utf8.encode payload.write)) surroundings
    (world.logged first)
  refine ⟨first ++ second, ?_⟩
  unfold postJson
  rw [bind_apply_of_ok hsay]
  simp only [bind_apply, Operation.surroundings, settings, htext, ofExcept, pure_apply,
    String.toList_ofList]
  rw [hfetch, World.next_logged, World.sent_logged, World.logged_logged]

/-- A payload that lies too deep is refused, and nothing is sent. -/
theorem postJson_of_tooDeep {payload : Json} (hplain : payload.Plain)
    {surroundings : Surroundings τ} (hdepth : surroundings.writing.room < payload.depth)
    (url : String) (world : World τ) :
    ∃ lines, postJson url payload surroundings world =
      (.error (.unwritable .tooDeep), world.logged lines) := by
  have htext : payload.text? surroundings.writing = .error .tooDeep := by
    rw [hplain.text?_eq, if_neg (Nat.not_le_of_lt hdepth)]
  obtain ⟨shown, lines, hsay⟩ := exists_say_apply .trace ("POST " ++ Query.stripped url)
    surroundings world
  refine ⟨lines, ?_⟩
  unfold postJson
  rw [bind_apply_of_ok hsay]
  simp only [bind_apply, Operation.surroundings, htext]
  rfl

/-! ## Documents behind a token -/

variable [Instant τ]

/-- With a token, one document is sent; without one, none is. -/
structure SendsDocument (document : Json) (operation : Operation τ α) : Prop where
  sent : ∀ surroundings world token, (requireToken surroundings world).1 = .ok token →
    (operation surroundings world).2.bodies = world.bodies ++ [Utf8.encode document.write]
  silent : ∀ surroundings world, (∀ token, (requireToken surroundings world).1 ≠ .ok token) →
    (operation surroundings world).2.bodies = world.bodies

theorem bodies_requireToken (surroundings : Surroundings τ) (world : World τ) :
    (requireToken surroundings world).2.bodies = world.bodies := by
  unfold World.bodies
  rw [requests_requireToken, List.filterMap_append, bodies_tokenRequests, List.append_nil]

/-- A token is asked for, and the document is posted. -/
theorem sendsDocument_posted {document : Json} (hplain : document.Plain)
    (hdepth : document.depth ≤ 3) (endpoint : String → Endpoint)
    {next : Json → Operation τ α} (hnext : ∀ answer, LogsOnly (next answer)) :
    SendsDocument document (requireToken >>= fun token => addressOf (endpoint token) >>= fun url =>
      postJson url document >>= next) := by
  constructor
  · intro surroundings world token htoken
    rcases hask : requireToken surroundings world with ⟨result, between⟩
    have hbodies := bodies_requireToken surroundings world
    rw [hask] at htoken hbodies
    obtain rfl : result = .ok token := htoken
    rw [bind_apply_of_ok hask]
    change ((postJson _ document >>= next) surroundings between).2.bodies = _
    obtain ⟨more, hmore⟩ := exists_bind_world
      (postJson ((endpoint token).address surroundings.settings) document) hnext surroundings
      between
    obtain ⟨lines, hlines⟩ := postJson_world hplain
      (Nat.le_trans hdepth surroundings.writing.three_le_room)
      ((endpoint token).address surroundings.settings) between
    rw [hmore, hlines, World.bodies_logged, World.bodies_logged, World.bodies_sent, hbodies]
    rfl
  · intro surroundings world hnone
    rcases hask : requireToken surroundings world with ⟨failure | token, between⟩
    · rw [bind_apply_of_error hask, ← bodies_requireToken surroundings world, hask]
    · exact absurd (congrArg Prod.fst hask) (hnone token)

/-- A report before changes nothing about what is sent. -/
theorem SendsDocument.behind_say {document : Json} {severity : Severity} {text : String}
    {next : String → Operation τ α} (h : ∀ shown, SendsDocument document (next shown)) :
    SendsDocument document (say severity text >>= next) := by
  have hcongr (surroundings : Surroundings τ) (world : World τ) (lines : List Emission)
      (token : String) : (requireToken surroundings (world.logged lines)).1 = .ok token ↔
        (requireToken surroundings world).1 = .ok token :=
    requireToken_congr (World.logged_client world lines) (World.logged_foreseen world lines) token
  constructor
  · intro surroundings world token htoken
    obtain ⟨shown, lines, hsay⟩ := exists_say_apply severity text surroundings world
    rw [bind_apply_of_ok hsay]
    exact (h shown).sent _ _ token ((hcongr _ _ _ _).mpr htoken)
  · intro surroundings world hnone
    obtain ⟨shown, lines, hsay⟩ := exists_say_apply severity text surroundings world
    rw [bind_apply_of_ok hsay]
    exact (h shown).silent _ _ fun token htoken => hnone token ((hcongr _ _ _ _).mp htoken)

end Operation

/-! ## The documents of orders -/

theorem Json.flat_string (s : String) : Plain (.string s) ∧ (string s).depth = 0 :=
  ⟨.string s, by simp [depth]⟩

theorem Json.flat_integer {n : Int} (h : n.natAbs < Nat.pow 10 Text.digitLimit) :
    Plain (.integer n) ∧ (integer n).depth = 0 :=
  ⟨.integer h, by simp [depth]⟩

theorem Json.depth_le_one_of_flat {members : Members} (h : ∀ member ∈ members, member.2.depth = 0) :
    (object members).depth ≤ 1 := by
  rw [depth]
  refine Nat.succ_le_succ (depthOfMembers_le_iff.mpr fun member hmember => ?_)
  exact Nat.le_of_eq (h member hmember)

/-- A flat object of plain values is plain, and not deep. -/
theorem Json.plain_of_flat {members : Members} (hnames : members.names.Nodup)
    (h : ∀ member ∈ members, Plain member.2 ∧ member.2.depth = 0) :
    Plain (.object members) ∧ (object members).depth ≤ 1 :=
  ⟨.object hnames fun member hmember => (h member hmember).1,
    depth_le_one_of_flat fun member hmember => (h member hmember).2⟩

/-- An object of texts of different names. -/
theorem Json.plain_of_texts (texts : List (String × String)) (hnames : (texts.map (·.1)).Nodup) :
    Plain (.object (texts.map fun text => (text.1, .string text.2))) ∧
      (object (texts.map fun text => (text.1, .string text.2))).depth ≤ 1 := by
  refine plain_of_flat ?_ fun member hmember => ?_
  · rw [Members.names, List.map_map]
    exact hnames
  · obtain ⟨text, -, rfl⟩ := List.mem_map.mp hmember
    exact flat_string text.2

/-- A filter by three whole numbers, each of which can be written. -/
structure OrderFilter.IsWhole (filter : OrderFilter) (status earliest latest : Int) : Prop where
  eq : filter = ⟨.whole status, .whole earliest, .whole latest⟩
  written : ∀ n ∈ [status, earliest, latest], n.natAbs < Nat.pow 10 Text.digitLimit

/-- The whole number that a member stands for; a missing one stands for zero. -/
def Members.number? (members : Members) (name : String) : Option Int :=
  match members.find? name with
  | none => some 0
  | some (.integer n) => some n
  | some _ => none

/-- Members that stand for three whole numbers, where zeros are left out. -/
structure Members.Filter (members : Members) (status earliest latest : Int) : Prop where
  /-- There are no other members, and each at most once. -/
  names : members.names.Sublist ["status", "begintime", "endtime"]
  nonzero : ∀ member ∈ members, member.2 ≠ .integer 0
  status : members.number? "status" = some status
  earliest : members.number? "begintime" = some earliest
  latest : members.number? "endtime" = some latest

/-- Members stand for no other numbers. -/
theorem Members.Filter.unique {members : Members}
    {status earliest latest status' earliest' latest' : Int}
    (h : members.Filter status earliest latest) (h' : members.Filter status' earliest' latest') :
    status = status' ∧ earliest = earliest' ∧ latest = latest' :=
  ⟨Option.some.inj (h.status.symm.trans h'.status),
    Option.some.inj (h.earliest.symm.trans h'.earliest),
    Option.some.inj (h.latest.symm.trans h'.latest)⟩

namespace OrderFilter

/-- The members of a filter by whole numbers. -/
def wholeMembers (status earliest latest : Int) : Members :=
  member "status" (.whole status) (.integer status) ++
  member "begintime" (.whole earliest) (.integer earliest) ++
  member "endtime" (.whole latest) (.integer latest)

theorem member_whole (name : String) (n : Int) :
    member name (.whole n) (.integer n) = if n = 0 then [] else [(name, .integer n)] := by
  unfold member
  simp only [Quantity.isZero_whole]

theorem names_member (name : String) (n : Int) :
    (member name (.whole n) (.integer n)).names.Sublist [name] := by
  rw [member_whole]
  split
  · exact List.nil_sublist _
  · exact List.Sublist.refl _

theorem exists_of_mem_member {name : String} {n : Int} {found : String × Json}
    (h : found ∈ member name (.whole n) (.integer n)) : n ≠ 0 ∧ found = (name, .integer n) := by
  rw [member_whole] at h
  split at h
  · cases h
  · rename_i hzero
    exact ⟨hzero, List.mem_singleton.mp h⟩

theorem exists_of_mem_wholeMembers {status earliest latest : Int} {found : String × Json}
    (h : found ∈ wholeMembers status earliest latest) :
    ∃ n ∈ [status, earliest, latest], n ≠ 0 ∧ found.2 = .integer n := by
  unfold wholeMembers at h
  rcases List.mem_append.mp h with h | h
  · rcases List.mem_append.mp h with h | h
    · obtain ⟨hzero, rfl⟩ := exists_of_mem_member h
      exact ⟨status, by simp, hzero, rfl⟩
    · obtain ⟨hzero, rfl⟩ := exists_of_mem_member h
      exact ⟨earliest, by simp, hzero, rfl⟩
  · obtain ⟨hzero, rfl⟩ := exists_of_mem_member h
    exact ⟨latest, by simp, hzero, rfl⟩

/-- The members of a filter stand for its numbers. -/
theorem filter_wholeMembers (status earliest latest : Int) :
    (wholeMembers status earliest latest).Filter status earliest latest := by
  refine ⟨?_, fun found hfound => ?_, ?_, ?_, ?_⟩
  · unfold wholeMembers Members.names
    rw [List.map_append, List.map_append]
    exact ((names_member _ _).append (names_member _ _)).append (names_member _ _)
  · obtain ⟨n, -, hzero, hvalue⟩ := exists_of_mem_wholeMembers hfound
    rw [hvalue]
    exact fun heq => hzero (Json.integer.inj heq)
  all_goals
    unfold wholeMembers Members.number?
    simp only [member_whole]
    by_cases hstatus : status = 0 <;> by_cases hearliest : earliest = 0 <;>
      by_cases hlatest : latest = 0 <;> simp [hstatus, hearliest, hlatest]

end OrderFilter

namespace Operation

variable [Instant τ]

theorem plain_orderPayload (orderId : String) :
    (orderPayload orderId).Plain ∧ (orderPayload orderId).depth ≤ 1 :=
  Json.plain_of_texts [("order_id", orderId)]
    (List.nodup_cons.mpr ⟨List.not_mem_nil, List.nodup_nil⟩)

theorem sendsDocument_orderById (orderId : String) :
    SendsDocument (orderPayload orderId) (orderById orderId : Operation τ Order) := by
  obtain ⟨hplain, hdepth⟩ := plain_orderPayload orderId
  refine SendsDocument.behind_say fun _ => ?_
  exact sendsDocument_posted hplain (Nat.le_trans hdepth (by decide)) _ fun answer =>
    logsOnly_decode _ answer

theorem sendsDocument_closeOrder (orderId : String) :
    SendsDocument (orderPayload orderId) (closeOrder orderId : Operation τ Unit) := by
  obtain ⟨hplain, hdepth⟩ := plain_orderPayload orderId
  refine SendsDocument.behind_say fun _ => ?_
  exact sendsDocument_posted hplain (Nat.le_trans hdepth (by decide)) _ fun answer =>
    (logsOnly_requireSuccess answer).bind fun _ => logsOnly_pure ()

/-- The object that sets the delivery of an order. -/
def deliveryPayload (orderId company trackNumber : String) : Json :=
  .object
    [
      ("order_id", .string orderId),
      ("delivery_company", .string company),
      ("delivery_track_no", .string trackNumber)
    ]

theorem plain_deliveryPayload (orderId company trackNumber : String) :
    (deliveryPayload orderId company trackNumber).Plain ∧
      (deliveryPayload orderId company trackNumber).depth ≤ 1 := by
  have hnames : ["order_id", "delivery_company", "delivery_track_no"].Nodup := by decide
  exact Json.plain_of_texts [("order_id", orderId), ("delivery_company", company),
    ("delivery_track_no", trackNumber)] hnames

theorem sendsDocument_setDelivery (orderId company trackNumber : String) :
    SendsDocument (deliveryPayload orderId company trackNumber)
      (setDelivery orderId company trackNumber : Operation τ Unit) := by
  obtain ⟨hplain, hdepth⟩ := plain_deliveryPayload orderId company trackNumber
  refine SendsDocument.behind_say fun _ => ?_
  exact sendsDocument_posted hplain (Nat.le_trans hdepth (by decide)) _ fun answer =>
    (logsOnly_requireSuccess answer).bind fun _ => logsOnly_pure ()

theorem plain_wholeMembers {status earliest latest : Int}
    (h : ∀ n ∈ [status, earliest, latest], n.natAbs < Nat.pow 10 Text.digitLimit) :
    (Json.object (OrderFilter.wholeMembers status earliest latest)).Plain ∧
      (Json.object (OrderFilter.wholeMembers status earliest latest)).depth ≤ 1 := by
  have hnames : ["status", "begintime", "endtime"].Nodup := by decide
  refine Json.plain_of_flat ?_ fun found hfound => ?_
  · exact hnames.sublist (OrderFilter.filter_wholeMembers status earliest latest).names
  · obtain ⟨n, hn, -, hvalue⟩ := OrderFilter.exists_of_mem_wholeMembers hfound
    rw [hvalue]
    exact Json.flat_integer (h n hn)

theorem sendsDocument_ordersByFilter {filter : OrderFilter} {status earliest latest : Int}
    (h : filter.IsWhole status earliest latest) :
    SendsDocument (.object (OrderFilter.wholeMembers status earliest latest))
      (ordersByFilter filter : Operation τ (List Order)) := by
  obtain ⟨rfl, hwritten⟩ := h
  obtain ⟨hplain, hdepth⟩ := plain_wholeMembers hwritten
  have htext {n : Int} (hn : n ∈ [status, earliest, latest]) :
      (Quantity.whole n).text? = .ok (Text.decimal n) :=
    Text.decimal?_eq_ok_iff.mpr ⟨hwritten n hn, rfl⟩
  unfold ordersByFilter
  simp only [Quantity.wholePart, numeral_eq_pure (hwritten status (by simp)),
    htext (n := earliest) (by simp), htext (n := latest) (by simp), ofExcept, pure_bind]
  refine SendsDocument.behind_say fun _ => ?_
  refine sendsDocument_posted hplain (Nat.le_trans hdepth (by decide)) _ fun answer => ?_
  exact (logsOnly_decode _ answer).bind fun orders =>
    (logsOnly_say _ _).bind fun _ => logsOnly_pure orders

end Operation

/-! ## Each step -/

variable [Instant τ]

/-- A value is what every reader that has room for it finds in octets. -/
def Json.IsReadFrom (value : Json) (octets : Octets) : Prop :=
  ∀ reading : Reading, value.depth ≤ reading.room → readOctets? reading octets = some value

/-- With a token, one body is sent in a step, which is read back as a document; without a token no
body is sent. -/
structure Step.SendsBack (document : Json) (step : Step τ) : Prop where
  sent : ∀ token, step.Obtains token →
    ∃ body, step.bodies = [body] ∧ document.IsReadFrom body
  silent : (∀ token, ¬ step.Obtains token) → step.bodies = []

/-- What is sent in a step, by what is done in it: a payload is posted, or an operation concerns
orders. -/
structure DocumentsReadBack (step : Step τ) : Prop where
  /-- A payload for which the writer has room is posted, and read back as it is. -/
  posted : ∀ url payload, step.turn.action = .postJson url payload → payload.Plain →
    payload.depth ≤ step.turn.surroundings.writing.room →
    ∃ body, step.bodies = [body] ∧ payload.IsReadFrom body
  /-- A deeper one is refused, and nothing is sent. -/
  refused : ∀ url payload, step.turn.action = .postJson url payload → payload.Plain →
    step.turn.surroundings.writing.room < payload.depth →
    step.requests = [] ∧ step.result = .error (.unwritable .tooDeep)
  /-- Orders are named by their identifiers. -/
  named : ∀ orderId,
    step.turn.action = .orderById orderId ∨ step.turn.action = .closeOrder orderId →
    step.SendsBack (.object [("order_id", .string orderId)])
  /-- Deliveries are set as they are given. -/
  delivered : ∀ orderId company trackNumber,
    step.turn.action = .setDelivery orderId company trackNumber →
    step.SendsBack (.object [("order_id", .string orderId), ("delivery_company", .string company),
      ("delivery_track_no", .string trackNumber)])
  /-- The numbers of a filter are told by its members. -/
  filtered : ∀ filter status earliest latest, step.turn.action = .ordersByFilter filter →
    filter.IsWhole status earliest latest →
    ∃ members : Members, members.Filter status earliest latest ∧ step.SendsBack (.object members)
  /-- So filters that send the same body are the same. -/
  distinct : ∀ filter status earliest latest, step.turn.action = .ordersByFilter filter →
    filter.IsWhole status earliest latest →
    ∀ (other : Step τ) filter' status' earliest' latest',
      other.turn.action = .ordersByFilter filter' → filter'.IsWhole status' earliest' latest' →
      ∀ body ∈ step.bodies, body ∈ other.bodies →
      status = status' ∧ earliest = earliest' ∧ latest = latest'

/-- What an operation sends in a step. -/
theorem Step.sendsBack {step : Step τ} {operation : Operation τ α} {answer : α → Answer}
    (haction : step.turn.action.operation = answer <$> operation) {document : Json}
    (h : Operation.SendsDocument document operation)
    (hplain : document.Plain) : step.SendsBack document := by
  have hbodies : step.bodies = (operation step.turn.surroundings step.before).2.bodies :=
    congrArg World.bodies (step.world_of_operation haction)
  constructor
  · intro token htoken
    refine ⟨_, ?_, fun reading => hplain.readOctets?_encode⟩
    rw [hbodies, h.sent step.turn.surroundings step.before token htoken]
    rfl
  · intro hnone
    rw [hbodies, h.silent step.turn.surroundings step.before hnone]
    rfl

/-- A payload for which the writer has no room is refused. -/
theorem Step.refused_of_tooDeep {step : Step τ} {url : String} {payload : Json}
    (haction : step.turn.action = .postJson url payload) (hplain : payload.Plain)
    (hdepth : step.turn.surroundings.writing.room < payload.depth) :
    step.requests = [] ∧ step.result = .error (.unwritable .tooDeep) := by
  obtain ⟨lines, hrefused⟩ := Operation.postJson_of_tooDeep hplain hdepth url step.before
  constructor
  · unfold Step.requests
    rw [step.world_of_operation (congrArg Action.operation haction), hrefused]
    rfl
  · rw [step.result_of_operation (congrArg Action.operation haction), hrefused]
    rfl

/-- A payload for which the writer has room is posted, and read back. -/
theorem Step.posted_of_plain {step : Step τ} {url : String} {payload : Json}
    (haction : step.turn.action = .postJson url payload) (hplain : payload.Plain)
    (hdepth : payload.depth ≤ step.turn.surroundings.writing.room) :
    ∃ body, step.bodies = [body] ∧ payload.IsReadFrom body := by
  obtain ⟨lines, hposted⟩ := Operation.postJson_world hplain hdepth url step.before
  refine ⟨_, ?_, fun reading => hplain.readOctets?_encode⟩
  change step.outcome.world.bodies = _
  rw [step.world_of_operation (congrArg Action.operation haction), hposted, World.bodies_logged,
    World.bodies_sent]
  rfl

/-- A body that is sent in a step is read back. -/
theorem Step.SendsBack.read {step : Step τ} {document : Json} (h : step.SendsBack document)
    {body : Octets} (hbody : body ∈ step.bodies) : document.IsReadFrom body := by
  by_cases htoken : ∃ token, step.Obtains token
  · obtain ⟨token, htoken⟩ := htoken
    obtain ⟨sent, hsent, hread⟩ := h.sent token htoken
    rw [hsent, List.mem_singleton] at hbody
    exact hbody ▸ hread
  · rw [h.silent (not_exists.mp htoken)] at hbody
    cases hbody

/-- What a filter by whole numbers sends. -/
theorem Step.sendsBack_filter {step : Step τ} {filter : OrderFilter}
    {status earliest latest : Int} (haction : step.turn.action = .ordersByFilter filter)
    (h : filter.IsWhole status earliest latest) :
    step.SendsBack (.object (OrderFilter.wholeMembers status earliest latest)) :=
  step.sendsBack (congrArg Action.operation haction) (Operation.sendsDocument_ordersByFilter h)
    (Operation.plain_wholeMembers h.written).1

/-- **The documents that are sent.** In every step, whatever the client keeps, what is sent as a
document is read back as what was meant, whatever room the writer and the reader have; a payload
for which the writer has none is refused. -/
theorem documents_readBack (step : Step τ) : DocumentsReadBack step := by
  refine ⟨fun url payload haction hplain hdepth => step.posted_of_plain haction hplain hdepth,
    fun url payload haction hplain hdepth => step.refused_of_tooDeep haction hplain hdepth,
    fun orderId haction => ?_, fun orderId company trackNumber haction => ?_,
    fun filter status earliest latest haction h => ?_, ?_⟩
  · rcases haction with haction | haction
    · exact step.sendsBack (congrArg Action.operation haction)
        (Operation.sendsDocument_orderById orderId) (Operation.plain_orderPayload orderId).1
    · exact step.sendsBack (congrArg Action.operation haction)
        (Operation.sendsDocument_closeOrder orderId) (Operation.plain_orderPayload orderId).1
  · exact step.sendsBack (congrArg Action.operation haction)
      (Operation.sendsDocument_setDelivery orderId company trackNumber)
      (Operation.plain_deliveryPayload orderId company trackNumber).1
  · exact ⟨_, OrderFilter.filter_wholeMembers status earliest latest,
      step.sendsBack_filter haction h⟩
  · intro filter status earliest latest haction h other filter' status' earliest' latest' haction'
      h' body hbody hbody'
    have hread := (step.sendsBack_filter haction h).read hbody .trial
      (Nat.le_trans (Operation.plain_wholeMembers h.written).2 (by decide))
    have hread' := (other.sendsBack_filter haction' h').read hbody' .trial
      (Nat.le_trans (Operation.plain_wholeMembers h'.written).2 (by decide))
    have hmembers : OrderFilter.wholeMembers status earliest latest =
        OrderFilter.wholeMembers status' earliest' latest' :=
      Json.object.inj (Option.some.inj (hread.symm.trans hread'))
    have hfilter := OrderFilter.filter_wholeMembers status' earliest' latest'
    exact (OrderFilter.filter_wholeMembers status earliest latest).unique (hmembers ▸ hfilter)

/-- A step by a new client. -/
def trialStep (action : Action) : Step Nat := ⟨.new ⟨[]⟩, .trial 0, [], action⟩

theorem trialStep_obtains (action : Action) : (trialStep action).Obtains "T" := by
  have hcredentials : ¬ (Surroundings.trial 0).settings.LacksCredentials := by decide
  have hlife : Instant.after? 0 (TokenCache.usefulLife 60 ⟨"T", 100⟩) ≠ none := by decide
  exact Operation.requireToken_eq_ok_iff.mpr (.inr ⟨TokenCache.usable?_empty 0, hcredentials,
    ⟨"T", 100⟩, trialGrant_delivers, hlife, rfl⟩)

theorem documents_readBack_of_trial :
    (∃ body, (trialStep (.postJson "u" (.array [.null, .integer 7]))).bodies = [body] ∧
      Json.IsReadFrom (.array [.null, .integer 7]) body) ∧
    (∃ body, (trialStep (.closeOrder "é")).bodies = [body] ∧
      Json.IsReadFrom (.object [("order_id", .string "é")]) body) ∧
    ∃ body members, (trialStep (.ordersByFilter ⟨.whole 2, .whole 0, .whole 9⟩)).bodies = [body] ∧
      Json.IsReadFrom (.object members) body ∧ Members.Filter members 2 0 9 := by
  have hshort : ∀ n ∈ [(7 : Int), 2, 0, 9], n.natAbs < Nat.pow 10 Text.digitLimit := by
    decide +kernel
  refine ⟨?_, ?_, ?_⟩
  · refine (documents_readBack _).posted "u" _ rfl ?_ ?_
    · refine .array fun item hitem => ?_
      rcases List.mem_cons.mp hitem with rfl | hitem
      · exact .null
      · obtain rfl := List.mem_singleton.mp hitem
        exact .integer (hshort 7 (by simp))
    · decide
  · exact ((documents_readBack _).named "é" (.inr rfl)).sent "T" (trialStep_obtains _)
  · have hfilter : OrderFilter.IsWhole ⟨.whole 2, .whole 0, .whole 9⟩ 2 0 9 :=
      ⟨rfl, fun n hn => hshort n (List.mem_cons_of_mem _ hn)⟩
    obtain ⟨members, hmembers, hsent⟩ :=
      (documents_readBack (trialStep (.ordersByFilter _))).filtered _ 2 0 9 rfl hfilter
    obtain ⟨body, hbody, hread⟩ := hsent.sent "T" (trialStep_obtains _)
    exact ⟨body, members, hbody, hread, hmembers⟩

/-- Arrays in one another, a number of times. -/
def nested : Nat → Json
  | 0 => .array []
  | n + 1 => .array [nested n]

theorem plain_nested (n : Nat) : (nested n).Plain := by
  induction n with
  | zero => exact .array nofun
  | succ n ih => exact .array fun item hitem => List.mem_singleton.mp hitem ▸ ih

theorem depth_nested (n : Nat) : (nested n).depth = n + 1 := by
  induction n with
  | zero => simp [nested, Json.depth, Json.depthOfItems]
  | succ n ih => simp [nested, Json.depth, Json.depthOfItems, ih]

/-- A payload is posted by a new client, with some room for writing. -/
def trialPost (writing : Json.Writing) (payload : Json) : Step Nat :=
  ⟨.new ⟨[]⟩, { Surroundings.trial 0 with writing := writing }, [], .postJson "u" payload⟩

/-- No writer has room for all plain payloads: some payload is refused, and nothing is sent. -/
theorem not_posted_of_nested :
    ¬ ∃ writing : Json.Writing, ∀ payload : Json, payload.Plain →
      ∃ body, (trialPost writing payload).bodies = [body] ∧ payload.IsReadFrom body := by
  rintro ⟨writing, hposted⟩
  obtain ⟨body, hbody, -⟩ := hposted _ (plain_nested writing.room)
  have hdepth : writing.room < (nested writing.room).depth := by
    rw [depth_nested]
    exact Nat.lt_succ_self _
  have hrefused : (trialPost writing (nested writing.room)).requests = [] ∧
      (trialPost writing (nested writing.room)).result = .error (.unwritable .tooDeep) :=
    Step.refused_of_tooDeep rfl (plain_nested writing.room) hdepth
  unfold Step.bodies at hbody
  rw [hrefused.1] at hbody
  cases hbody

end PlatformClient
