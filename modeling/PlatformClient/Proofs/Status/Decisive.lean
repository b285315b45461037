import PlatformClient.Proofs.Download.Delivered
import PlatformClient.Proofs.Status.Unread

/-!
# Another status decides

A response with another status than 200 ends the operation, whether it answers the request for a
token or the call itself. The failure tells the status, nothing is sent behind it, and a stream is
closed. What else the response carries is not read.

As for the errors of the platform, the requests of an operation are counted against the outcomes
that are foreseen.

## Main definitions

* `Http.Response.HasOtherStatus`: responses with another status than 200
* `Operation.Refused`: how an operation has ended whose last response was refused
* `Operation.Stops`: operations that end with the first such response
* `Step.RefusedAt`: how a step has ended that met such a response

## Main results

* `Stops.bind`, `stops_exchange_bind`: how responses end sequences
* `stops_fetchJson`, `stops_getStream`: the requests of the transport
* `Action.stops`: every operation of a client ends with the first refused response
* `statuses_decide`: another status decides every step and every run
-/

namespace PlatformClient

variable {τ α β : Type}

/-- A response with another status than 200, which has a text. HTTP has three digits for it. -/
structure Http.Response.HasOtherStatus (response : Response) : Prop where
  other : response.status ≠ Operation.acceptedStatus
  text : response.status.natAbs < Nat.pow 10 Text.digitLimit

/-- The failure that reports a status tells it. -/
theorem Fault.status_infix_report (status : Int) (reason : Option String) :
    (Text.decimal status).toList <:+: (unexpectedStatus status reason).report.toList := by
  have htext : (Text.decimal status).toList <:+: (statusText status reason).toList := by
    unfold statusText
    rw [String.toList_append, String.toList_append]
    exact (List.suffix_append _ _).isInfix.trans (List.prefix_append _ _).isInfix
  refine htext.trans ?_
  unfold unexpectedStatus ofKind report
  rw [String.toList_append, String.toList_append]
  exact (List.suffix_append _ _).isInfix.trans (List.prefix_append _ _).isInfix

namespace Operation

/-! ## Operations that end with a refused response -/

/-- How an operation has ended whose last response was refused: it fails with the status, and the
response has been closed if it is a stream. -/
structure Refused (response : Http.Response) (outcome : Except Failure α × World τ) : Prop where
  failed : outcome.1 = .error (.fault (.unexpectedStatus response.status response.reason))
  closed : ∃ call, outcome.2.calls.getLast? = some call ∧
    call.closed = some (if call.request.stream then 1 else 0)

/-- An operation uses up the outcomes of its requests. If there is a response with another status
among them, then it is the last one, and is refused. -/
def Stops (operation : Operation τ α) (surroundings : Surroundings τ) (world : World τ) : Prop :=
  ∃ count, (operation surroundings world).2.foreseen = world.foreseen.drop count ∧
    (operation surroundings world).2.requests.length = world.requests.length + count ∧
    ∀ place < count, ∀ response, world.reply surroundings place = .response response →
      response.HasOtherStatus →
        place + 1 = count ∧ Refused response (operation surroundings world)

variable {surroundings : Surroundings τ} {world : World τ}

/-- What sends nothing meets no response. -/
theorem Keeps.stops {operation : Operation τ α} (h : Keeps World.traffic operation)
    (surroundings : Surroundings τ) (world : World τ) : Stops operation surroundings world :=
  ⟨0, congrArg Prod.fst (h surroundings world),
    congrArg (fun traffic => traffic.2.length) (h surroundings world), nofun⟩

theorem LogsOnly.stops {operation : Operation τ α} (h : LogsOnly operation)
    (surroundings : Surroundings τ) (world : World τ) : Stops operation surroundings world :=
  (h.keeps fun _ _ => rfl : Keeps World.traffic operation).stops surroundings world

/-- A response that is refused in the first part of a sequence ends the sequence there; the others
are those of the second part. -/
theorem Stops.bind {operation : Operation τ α} {next : α → Operation τ β}
    (h : Stops operation surroundings world)
    (hnext : ∀ a after, operation surroundings world = (.ok a, after) →
      Stops (next a) surroundings after) :
    Stops (operation >>= next) surroundings world := by
  obtain ⟨first, hforeseen, hrequests, hstops⟩ := h
  unfold Stops
  rw [bind_apply]
  rcases hresult : operation surroundings world with ⟨failure | a, after⟩
  · rw [hresult] at hforeseen hrequests hstops
    refine ⟨first, hforeseen, hrequests, fun place hplace response hreply hstatus => ?_⟩
    obtain ⟨hlast, hrefused⟩ := hstops place hplace response hreply hstatus
    exact ⟨hlast, congrArg Except.error (Except.error.inj hrefused.failed), hrefused.closed⟩
  · rw [hresult] at hforeseen hrequests hstops
    obtain ⟨second, hforeseen', hrequests', hstops'⟩ := hnext a after hresult
    refine ⟨first + second, ?_, ?_, fun place hplace response hreply hstatus => ?_⟩
    · rw [hforeseen', hforeseen, List.drop_drop]
    · rw [hrequests', hrequests, Nat.add_assoc]
    · rcases Nat.lt_or_ge place first with hearly | hlate
      · cases (hstops place hearly response hreply hstatus).2.failed
      · have hshift := World.reply_sub surroundings hforeseen hlate
        obtain ⟨hlast, hrefused⟩ :=
          hstops' (place - first) (by omega) response (hshift.trans hreply) hstatus
        exact ⟨by omega, hrefused⟩

theorem Stops.map {operation : Operation τ α} (h : Stops operation surroundings world)
    (f : α → β) : Stops (f <$> operation) surroundings world :=
  h.bind fun _ _ _ => (logsOnly_pure _).stops _ _

/-- Steps that send nothing, before others. -/
theorem Keeps.bind_stops {operation : Operation τ α} {next : α → Operation τ β}
    (h : Keeps World.traffic operation) (hnext : ∀ a world, Stops (next a) surroundings world)
    (world : World τ) : Stops (operation >>= next) surroundings world :=
  (h.stops surroundings world).bind fun a after _ => hnext a after

theorem LogsOnly.bind_stops {operation : Operation τ α} {next : α → Operation τ β}
    (h : LogsOnly operation) (hnext : ∀ a world, Stops (next a) surroundings world)
    (world : World τ) : Stops (operation >>= next) surroundings world :=
  (h.stops surroundings world).bind fun a after _ => hnext a after

/-! ## The requests of the transport -/

/-- Another status is reported, and nothing else. -/
theorem checkStatus_of_otherStatus {response : Http.Response} (h : response.HasOtherStatus)
    (call : Nat) (surroundings : Surroundings τ) (world : World τ) :
    ∃ lines, checkStatus (some ⟨call, response⟩) surroundings world =
      (.error (.fault (.unexpectedStatus response.status response.reason)),
        world.logged lines) := by
  let arrival : Arrival := ⟨call, response⟩
  have hother : arrival.response.status ≠ acceptedStatus := h.other
  exact checkStatus_apply_of_ne hother h.text surroundings world

/-- A request, before what sends nothing and refuses the response to it. -/
theorem stops_exchange_bind (request : Http.Request) {next : Option Arrival → Operation τ α}
    (hnext : ∀ arrival?, Keeps World.traffic (next arrival?))
    (hrefused : ∀ (world : World τ) (response : Http.Response), response.HasOtherStatus →
      Refused response (next (some ⟨world.calls.length, response⟩) surroundings
        (world.sent request (.response response))))
    (world : World τ) : Stops (exchange request >>= next) surroundings world := by
  have htraffic : ((exchange request >>= next) surroundings world).2.traffic =
      (world.foreseen.drop 1, world.requests ++ [request]) := by
    have hsent : (world.sent request (world.next surroundings)).traffic =
        (world.foreseen.drop 1, world.requests ++ [request]) :=
      Prod.ext List.drop_one.symm (World.requests_sent _ _ _)
    rw [bind_apply, exchange_apply]
    cases received world.calls.length (world.next surroundings) with
    | error failure => exact hsent
    | ok arrival? => exact (hnext arrival? _ _).trans hsent
  refine ⟨1, congrArg Prod.fst htraffic, ?_, fun place hplace response hreply hstatus => ?_⟩
  · exact (congrArg (fun traffic => traffic.2.length) htraffic).trans List.length_append
  · obtain rfl : place = 0 := by omega
    have hreply : world.next surroundings = .response response := hreply
    rw [bind_apply, exchange_apply, hreply]
    exact ⟨rfl, hrefused world response hstatus⟩

/-- A document is fetched; a refused response is not closed, as it is no stream. -/
theorem stops_fetchJson {request : Http.Request} (hstream : request.stream = false)
    (world : World τ) : Stops (fetchJson request) surroundings world := by
  refine stops_exchange_bind request (fun arrival? => ?_) (fun world response hstatus => ?_) world
  · exact ((logsOnly_checkStatus arrival?).bind fun arrival => logsOnly_readJson arrival).keeps
      fun _ _ => rfl
  · obtain ⟨lines, hcheck⟩ := checkStatus_of_otherStatus hstatus world.calls.length surroundings
      (world.sent request (.response response))
    rw [bind_apply_of_error hcheck]
    refine ⟨rfl, ⟨request, some 0⟩, List.getLast?_concat, ?_⟩
    rw [hstream]
    rfl

theorem keeps_traffic_closeResponse (arrival : Arrival) (world : World τ) :
    (closeResponse arrival world).traffic = world.traffic :=
  congrArg (world.foreseen, ·) (requests_closeResponse arrival world)

/-- A stream is opened; a refused response is closed. -/
theorem stops_getStream (url : String) (world : World τ) :
    Stops (getStream url) surroundings world := by
  refine (logsOnly_say _ _).bind_stops (fun _ => ?_) world
  refine logsOnly_settings.bind_stops fun current => ?_
  refine stops_exchange_bind _ (fun arrival? => ?_) fun world response hstatus => ?_
  · have hchecked : Keeps World.traffic (checkStatus arrival? : Operation τ Arrival) :=
      (logsOnly_checkStatus arrival?).keeps fun _ _ => rfl
    refine hchecked.onFailure _ fun world => ?_
    cases arrival? with
    | none => rfl
    | some arrival => exact keeps_traffic_closeResponse arrival world
  · let request : Http.Request := .get url current.timeout true
    obtain ⟨lines, hcheck⟩ := checkStatus_of_otherStatus hstatus world.calls.length surroundings
      (world.sent request (.response response))
    have hclosed := congrArg World.calls (closeResponse_sent request response world)
    rw [onFailure_apply_of_error hcheck]
    refine ⟨rfl, ⟨request, some 1⟩, ?_, rfl⟩
    exact (congrArg List.getLast? hclosed).trans List.getLast?_concat

theorem stops_getJson (url : String) (world : World τ) :
    Stops (getJson url) surroundings world := by
  refine (logsOnly_say _ _).bind_stops (fun _ => ?_) world
  exact logsOnly_settings.bind_stops fun _ => stops_fetchJson rfl

theorem stops_postJson (url : String) (payload : Json) (world : World τ) :
    Stops (postJson url payload) surroundings world := by
  refine (logsOnly_say _ _).bind_stops (fun _ => ?_) world
  refine (logsOnly_ofExcept _ _).bind_stops fun text => ?_
  exact logsOnly_settings.bind_stops fun _ => stops_fetchJson rfl

theorem stops_postMultipart (url : String) (body : Octets) (contentType : String)
    (world : World τ) : Stops (postMultipart url body contentType) surroundings world := by
  refine (logsOnly_say _ _).bind_stops (fun _ => ?_) world
  exact logsOnly_settings.bind_stops fun _ => stops_fetchJson rfl

/-! ## Media -/

theorem stops_sendFile (token : String) (medium : MediaType) (filename : String)
    (source : Source) (number : Nat) (world : World τ) :
    Stops (sendFile token medium filename source number) surroundings world := by
  refine logsOnly_surroundings.bind_stops (fun current => ?_) world
  have hwrite : Keeps World.traffic (writeMultipart number current.boundary filename source :
      Operation τ Unit) :=
    keeps_writeMultipart (fun _ _ => rfl) (fun _ _ => rfl) _ _ _ _
  have hrest : Keeps World.traffic (bufferRest number : Operation τ Octets) :=
    keeps_bufferRest (fun _ _ => rfl) (fun _ _ => rfl) number
  refine hwrite.bind_stops fun _ => ?_
  refine (blind_addressOf _).logsOnly.bind_stops fun url => ?_
  exact hrest.bind_stops fun body => stops_postMultipart url body _

/-- The buffer of an upload is returned behind the refused response, which does not hide it. -/
theorem stops_borrowing_sendFile (h : world.client.Tidy) (token : String) (medium : MediaType)
    (filename : String) (source : Source) :
    Stops (borrowing (sendFile token medium filename source)) surroundings world := by
  rcases borrowing_sendFile_apply surroundings h token medium filename source with
    hrefused | ⟨number, lent, returned, -, happly⟩
  · unfold Stops
    rw [hrefused]
    exact ⟨0, rfl, rfl, nofun⟩
  · have hwork : Stops (sendFile token medium filename source number) surroundings
        (withPool world lent) := stops_sendFile token medium filename source number _
    obtain ⟨count, hforeseen, hrequests, hstops⟩ := hwork
    unfold Stops
    rw [happly]
    refine ⟨count, hforeseen, hrequests, fun place hplace response hreply hstatus => ?_⟩
    obtain ⟨hlast, hrefused⟩ := hstops place hplace response hreply hstatus
    exact ⟨hlast, hrefused.failed, hrefused.closed⟩

theorem stops_fetchMedia (url : String) (writer : Writer) (world : World τ) :
    Stops (fetchMedia url writer) surroundings world := by
  refine (stops_getStream url world).bind fun arrival after _ => Keeps.stops ?_ _ _
  have hreceive : Keeps World.traffic (receive arrival writer : Operation τ Nat) :=
    keeps_receive (fun _ _ => rfl) (fun _ _ => rfl) (fun _ _ => rfl) arrival writer
  exact hreceive.ensuring (keeps_traffic_closeResponse arrival)

/-! ## The operations of the platform -/

theorem stops_fetchGrant (world : World τ) : Stops fetchGrant surroundings world := by
  refine logsOnly_settings.bind_stops (fun current => ?_) world
  split
  · exact ((blind_say _ _).bind fun _ => blind_raise _).logsOnly.stops surroundings
  · refine (blind_addressOf _).logsOnly.bind_stops fun url world => ?_
    exact (stops_getJson url world).bind fun document after _ =>
      (logsOnly_decode _ document).stops surroundings after

variable [Instant τ]

theorem stops_requireToken (world : World τ) : Stops requireToken surroundings world := by
  refine logsOnly_surroundings.bind_stops (fun current => ?_) world
  refine (logsOnly_observe _).bind_stops fun cache => ?_
  cases cache.usable? current.started with
  | some token => exact (logsOnly_pure token).stops surroundings
  | none =>
    refine (logsOnly_say _ _).bind_stops fun _ world => ?_
    refine (stops_fetchGrant world).bind fun grant after _ => ?_
    exact (keeps_keepGrant grant).bind_stops (fun _ => (logsOnly_pure _).stops surroundings) after

/-- What posts a document ends with the first refused response, to either of its requests. -/
theorem PostsTo.stops {endpoint : String → Endpoint} {operation : Operation τ α}
    (h : PostsTo endpoint operation) (world : World τ) : Stops operation surroundings world := by
  induction h generalizing world with
  | posted payload hnext =>
    refine (stops_requireToken world).bind fun token between _ => ?_
    refine (blind_addressOf (endpoint token)).logsOnly.bind_stops (fun url after => ?_) between
    refine (stops_postJson url payload after).bind fun document last _ => ?_
    exact ((blind_requireSuccess document).bind (hnext document)).logsOnly.stops surroundings last
  | behind hpreface _ ih => exact hpreface.logsOnly.bind_stops ih world

/-- An upload with a tidy pool ends with the first refused response. -/
theorem stops_upload (kind : Json) (filename : String) (source : Option Source)
    (h : world.client.Tidy) : Stops (upload kind filename source) surroundings world := by
  rcases upload_refused_or_accepted (τ := τ) kind filename source with
    ⟨fault, hrefused⟩ | ⟨medium, file, haccepted⟩
  · rw [hrefused]
    exact (logsOnly_raise fault).stops _ _
  · rw [haccepted]
    refine ((logsOnly_say _ _).stops _ _).bind fun shown between hsay => ?_
    refine (stops_requireToken _).bind fun token after htoken => ?_
    have hbetween : TidyWorld between := (logsOnly_say _ _).upholds.after hsay h
    have hafter : TidyWorld after := upholds_requireToken.after htoken hbetween
    refine (stops_borrowing_sendFile hafter token medium filename file).bind ?_
    intro document last _
    exact (blind_readReceipt medium document).logsOnly.stops surroundings last

theorem stops_download (mediaId : String) (writer : Option Writer) (world : World τ) :
    Stops (download mediaId writer) surroundings world := by
  rcases download_refused_or_accepted (τ := τ) mediaId writer with
    ⟨fault, hrefused⟩ | ⟨found, -, haccepted⟩
  · rw [hrefused]
    exact (logsOnly_raise fault).stops surroundings world
  · rw [haccepted]
    refine (logsOnly_say _ _).bind_stops (fun _ between => ?_) world
    refine (stops_requireToken between).bind fun token after _ => ?_
    refine (blind_addressOf _).logsOnly.bind_stops (fun url last => ?_) after
    refine (stops_fetchMedia url found last).bind fun size behind _ => ?_
    exact ((logsOnly_say _ _).bind fun _ => logsOnly_pure ()).stops surroundings behind

end Operation

/-! ## Steps and runs -/

variable [Instant τ]

namespace Action

open Operation

/-- Every operation of a client ends with the first refused response, if the pool is tidy. -/
theorem stops (action : Action) (surroundings : Surroundings τ) {world : World τ}
    (h : world.client.Tidy) : Stops action.operation surroundings world := by
  cases action with
  | requireToken => exact (stops_requireToken world).map _
  | invalidateToken =>
    refine Stops.map ?_ _
    refine (logsOnly_say _ _).bind_stops (fun _ => ?_) world
    exact Keeps.stops (fun _ _ => rfl) surroundings
  | upload kind filename source => exact (stops_upload kind filename source h).map _
  | uploadFromFile kind path =>
    refine Stops.map ?_ _
    refine ((logsOnly_observe _).stops _ _).bind fun files between hfiles => ?_
    refine ((logsOnly_ofExcept _ _).stops _ _).bind fun data after hdata => ?_
    have hbetween : TidyWorld between := (logsOnly_observe _).upholds.after hfiles h
    have hafter : TidyWorld after := (logsOnly_ofExcept _ _).upholds.after hdata hbetween
    exact stops_upload _ _ _ hafter
  | download mediaId writer => exact (stops_download mediaId writer world).map _
  | downloadToFile mediaId path =>
    refine Stops.map ?_ _
    refine (logsOnly_observe _).bind_stops (fun files => ?_) world
    refine (logsOnly_ofExcept _ _).bind_stops fun created => ?_
    have hopened : Keeps World.traffic (Operation.change (World.withFiles created.2)) :=
      fun (_ : Surroundings τ) _ => rfl
    exact hopened.bind_stops fun _ => stops_download mediaId _
  | uploadNews _ | uploadVideo _ | orderById _ | ordersByFilter _ | setDelivery _ _ _
  | closeOrder _ =>
    exact (postsTo rfl).stops world
  | getJson url => exact (stops_getJson url world).map _
  | postJson url payload => exact (stops_postJson url payload world).map _
  | postMultipart url body contentType =>
    exact (stops_postMultipart url body contentType world).map _
  | getStream url => exact (stops_getStream url world).map _

end Action

/-- How a step has ended whose request at a place met a response with another status. -/
structure Step.RefusedAt (step : Step τ) (place : Nat) (response : Http.Response) : Prop where
  /-- The failure has the status, and the reason if there is one. -/
  result : step.result = .error (.fault (.unexpectedStatus response.status response.reason))
  /-- The status is told in its text. -/
  told : (Text.decimal response.status).toList <:+:
    (Fault.unexpectedStatus response.status response.reason).report.toList
  /-- Nothing is sent behind. -/
  last : step.requests.length = place + 1
  /-- The response has been closed if it is a stream. -/
  closed : ∃ call, step.outcome.world.calls[place]? = some call ∧
    call.closed = some (if call.request.stream then 1 else 0)

/-- A response with another status ends the step in which it is met, if the pool is tidy. -/
theorem Step.refusedAt {step : Step τ} (h : step.session.client.Tidy) {place : Nat}
    (hplace : place < step.requests.length) {response : Http.Response}
    (hreply : step.replyTo place = .response response) (hstatus : response.HasOtherStatus) :
    step.RefusedAt place response := by
  have hbefore : step.before.client.Tidy := h
  obtain ⟨count, -, hrequests, hstops⟩ := step.turn.action.stops step.turn.surroundings hbefore
  rw [Step.requests_before, List.length_nil, Nat.zero_add] at hrequests
  obtain ⟨hlast, hrefused⟩ := hstops place (hrequests ▸ hplace) response hreply hstatus
  have hlength : step.requests.length = place + 1 := hrequests.trans hlast.symm
  obtain ⟨call, hcall, hclosed⟩ := hrefused.closed
  refine ⟨hrefused.failed, Fault.status_infix_report _ _, hlength, call, ?_, hclosed⟩
  have hcalls : step.outcome.world.calls.length = place + 1 :=
    (List.length_map Http.Call.request).symm.trans hlength
  have hplace : step.outcome.world.calls.length - 1 = place := by omega
  rw [← hcall, ← hplace]
  exact List.getLast?_eq_getElem?.symm

/-- **Another status decides.** In every run of a new client, whatever its arguments,
configurations, clocks and outcomes: if any request of any operation is answered with another
status than 200, the operation fails with this status, sends nothing more, and has closed the
response if it is a stream. If such answers are replaced by others with the same status and reason,
whatever their headers and bodies, then every operation has the same result, requests and log, and
leaves the same behind; in the end, the clients have the same cache and the same pool. -/
theorem statuses_decide (files : FileStore) (turns : List (Turn τ)) :
    (∀ step ∈ (Session.new files).steps turns, ∀ place < step.requests.length, ∀ response,
      step.replyTo place = .response response → response.HasOtherStatus →
        step.RefusedAt place response) ∧
    ∀ others, List.Forall₂ Turn.Agrees turns others →
      List.Forall₂ Outcome.SameButForeseen ((Session.new files).run turns).1
          ((Session.new files).run others).1 ∧
        ((Session.new files).run turns).2 = ((Session.new files).run others).2 := by
  refine ⟨fun step hstep place hplace response hreply hstatus => ?_, fun others hothers => ?_⟩
  · exact Step.refusedAt (Session.tidy files turns hstep) hplace hreply hstatus
  · exact Session.run_congr hothers _

/-- A response for what is not found. -/
def trialMissing (headers : List (String × String)) (body : Octets) : Http.Response :=
  ⟨404, some "Not Found", headers, body⟩

theorem trialMissing_hasOtherStatus (headers : List (String × String)) (body : Octets) :
    (trialMissing headers body).HasOtherStatus := by
  have hstatus : (404 : Int).natAbs < Nat.pow 10 3 := by decide
  have hother : (404 : Int) ≠ Operation.acceptedStatus := by decide
  exact ⟨hother, Nat.lt_of_lt_of_le hstatus (Text.pow_le_digitLimit (by decide))⟩

/-- A token is granted, and an image is not found. -/
def trialAbsence (headers : List (String × String)) (body : Octets) : Turn Nat :=
  ⟨.trial 0, [.response trialGrant, .response (trialMissing headers body)],
    .download "m" (some (.caller none))⟩

theorem statuses_decide_of_trial :
    (∃ step, (Session.new ⟨[]⟩).steps [trialAbsence [] []] = [step] ∧
      step.requests.length = 2 ∧ step.RefusedAt 1 (trialMissing [] [])) ∧
    ((Session.new ⟨[]⟩).run [trialAbsence [] []]).2 =
      ((Session.new ⟨[]⟩).run [trialAbsence [("Content-Type", "application/json")] [0]]).2 := by
  have hdecide := statuses_decide (τ := Nat) ⟨[]⟩ [trialAbsence [] []]
  have hmissing := trialMissing_hasOtherStatus [] []
  have hagrees : (trialAbsence [] []).Agrees
      (trialAbsence [("Content-Type", "application/json")] [0]) :=
    ⟨rfl, rfl, .cons (.same _) (.cons (.refused ⟨hmissing.other, rfl, rfl⟩) .nil)⟩
  have hreply : (⟨.new ⟨[]⟩, trialAbsence [] []⟩ : Step Nat).replyTo 1 =
      .response (trialMissing [] []) := rfl
  have hrequests : (⟨.new ⟨[]⟩, trialAbsence [] []⟩ : Step Nat).requests.length = 2 := by
    decide +kernel
  refine ⟨⟨_, rfl, hrequests, ?_⟩, (hdecide.2 [trialAbsence _ _] (.cons hagrees .nil)).2⟩
  refine hdecide.1 _ List.mem_cons_self 1 ?_ _ hreply hmissing
  rw [hrequests]
  decide

end PlatformClient
