import Mathlib.Data.List.Forall2
import PlatformClient.Proofs.Download.Delivered
import PlatformClient.Proofs.Record.Parts

/-!
# What is alike but for a token

Two runs of a client may have everything in common except for access tokens, of which only the masks
are the same. Then the requests differ in the value of one parameter, the documents that grant a
token in one member, and what the client keeps in the token. Nothing of this is seen where an
address is shown without its query.

## Main definitions

* `TokensAlike`, `AddressesAlike`: tokens of one mask, and addresses that carry them
* `Http.Request.Alike`, `Http.Call.Alike`: requests that differ in the token of their address
* `Json.GrantsAlike`, `Http.Outcome.Alike`: answers that differ in the token they grant
* `Failure.Alike`: failures that hand on such answers
* `World.Alike`, `World.InStep`, `World.Awaiting`: worlds that differ in their tokens

## Main results

* `AddressesAlike.stripped`: addresses that are alike are shown alike
* `Endpoint.addressesAlike`: the addresses of an endpoint with tokens that are alike
* `Envelope.read_alike`, `Operation.requireSuccess_alike`: documents that are alike report alike
* `Grant.read_alike`: documents that are alike grant tokens that are alike, or nothing
-/

namespace PlatformClient

variable {τ : Type}

/-! ## Tokens and addresses -/

/-- Tokens of the same mask. -/
def TokensAlike (token other : String) : Prop :=
  Operation.maskedToken token = Operation.maskedToken other

/-- Addresses that differ at most in the value of the parameter for the token, which is the first of
their query, and where the tokens are alike. -/
def AddressesAlike (url other : String) : Prop :=
  ∃ (front back : List Char) (token token' : String), TokensAlike token token' ∧
    (back = [] ∨ ∃ rest, back = '&' :: rest) ∧
    url.toList = front ++ '?' :: "access_token=".toList ++ Query.encode token.toList ++ back ∧
    other.toList = front ++ '?' :: "access_token=".toList ++ Query.encode token'.toList ++ back

/-- What stands behind a question mark is not shown, whether or not it is the first one. -/
theorem takeWhile_append_query (front rest : List Char) :
    (front ++ '?' :: rest).takeWhile (· != '?') = front.takeWhile (· != '?') := by
  induction front with
  | nil => rfl
  | cons c front ih =>
    by_cases hc : (c != '?') = true
    · simp only [List.cons_append, List.takeWhile_cons, hc, if_true, ih]
    · simp only [List.cons_append, List.takeWhile_cons, hc, if_false, Bool.false_eq_true]

/-- Addresses that are alike are shown alike. -/
theorem AddressesAlike.stripped {url other : String} (h : AddressesAlike url other) :
    Query.stripped url = Query.stripped other := by
  obtain ⟨front, back, token, token', -, -, hurl, hother⟩ := h
  unfold Query.stripped
  rw [hurl, hother]
  simp only [List.append_assoc, List.cons_append, takeWhile_append_query]

/-- An endpoint that takes a token as its first parameter, at a place of its own. -/
structure Endpoint.TakesToken (endpoint : String → Endpoint) : Prop where
  /-- The parameters behind the token do not depend on it. -/
  parameters : ∃ others, ∀ token, (endpoint token).parameters = ("access_token", token) :: others
  /-- Neither does the place of the endpoint. -/
  place : ∀ settings token token', (endpoint token).base settings ++ (endpoint token).path =
    (endpoint token').base settings ++ (endpoint token').path

/-- A query that begins with a token. -/
theorem Query.write_token (others : Query.Parameters) :
    ∃ back, (back = [] ∨ ∃ rest, back = '&' :: rest) ∧ ∀ token : String,
      Query.write (("access_token", token) :: others) =
        "access_token=".toList ++ Query.encode token.toList ++ back := by
  have hname : ∀ token : String, Query.writeParameter ("access_token", token) =
      "access_token=".toList ++ Query.encode token.toList := by
    intro token
    have hencode : Query.encode "access_token".toList = "access_token".toList := by decide
    unfold Query.writeParameter
    rw [hencode]
    rfl
  cases others with
  | nil => exact ⟨[], .inl rfl, fun token => by simp [Query.write, hname]⟩
  | cons other others =>
    refine ⟨'&' :: Query.write (other :: others), .inr ⟨_, rfl⟩, fun token => ?_⟩
    simp [Query.write, hname, List.intercalate]

/-- The addresses of an endpoint with tokens that are alike. -/
theorem Endpoint.addressesAlike {endpoint : String → Endpoint} (h : TakesToken endpoint)
    {token token' : String} (htokens : TokensAlike token token') (settings : Settings) :
    AddressesAlike ((endpoint token).address settings) ((endpoint token').address settings) := by
  obtain ⟨others, hothers⟩ := h.parameters
  obtain ⟨back, hback, hwrite⟩ := Query.write_token others
  refine ⟨((endpoint token).base settings ++ (endpoint token).path).toList, back, token, token',
    htokens, hback, ?_, ?_⟩
  · simp [address, query, hothers, hwrite]
  · rw [h.place settings token token']
    simp [address, query, hothers, hwrite]

/-! ## Requests -/

namespace Http

/-- Requests that are the same, or differ in the token of their address. -/
def Request.Alike (request other : Request) : Prop :=
  request = other ∨
    AddressesAlike request.url other.url ∧ { other with url := request.url } = request

/-- Calls with requests that are alike and responses that have been closed as often. -/
structure Call.Alike (call other : Call) : Prop where
  request : call.request.Alike other.request
  closed : call.closed = other.closed

theorem Request.alike_get {url other : String} (h : AddressesAlike url other) (timeout : Int)
    (stream : Bool) : (Request.get url timeout stream).Alike (.get other timeout stream) :=
  .inr ⟨h, rfl⟩

theorem Request.alike_post {url other : String} (h : AddressesAlike url other) (timeout : Int)
    (contentType : String) (body : Octets) :
    (Request.post url timeout contentType body).Alike (.post other timeout contentType body) :=
  .inr ⟨h, rfl⟩

end Http

/-- The same is done to the same place of two lists of calls. -/
theorem Http.Call.forall₂_modify {change : Http.Call → Http.Call}
    (hchange : ∀ call other : Http.Call, call.Alike other → (change call).Alike (change other))
    {calls others : List Http.Call} (h : List.Forall₂ Alike calls others) (place : Nat) :
    List.Forall₂ Alike (calls.modify place change) (others.modify place change) := by
  induction h generalizing place with
  | nil => simp
  | cons hcall hrest ih =>
    cases place with
    | zero => exact .cons (hchange _ _ hcall) hrest
    | succ place => exact .cons hcall (ih place)

/-! ## Answers -/

/-- Documents that are the same, or objects that differ at most in the token they grant. -/
def Json.GrantsAlike (document other : Json) : Prop :=
  document = other ∨ ∃ (members members' : Members) (token token' : String),
    document = .object members ∧ other = .object members' ∧ TokensAlike token token' ∧
    members.find? "access_token" = some (.string token) ∧
    members'.find? "access_token" = some (.string token') ∧
    ∀ name, name ≠ "access_token" → members.find? name = members'.find? name

namespace Http

/-- Responses of the same status whose documents are alike. -/
structure Response.Alike (reading : Json.Reading) (response other : Response) : Prop where
  status : response.status = other.status
  reason : response.reason = other.reason
  document : ∃ document document', response.document reading = .ok document ∧
    other.document reading = .ok document' ∧ document.GrantsAlike document'

/-- Outcomes that are the same, or responses that are alike. -/
def Outcome.Alike (reading : Json.Reading) (outcome other : Outcome) : Prop :=
  outcome = other ∨ ∃ response response', outcome = .response response ∧
    other = .response response' ∧ Response.Alike reading response response'

/-- Outcomes to come that are the same, but for the first of them, which are alike. -/
def OutcomesAlike (reading : Json.Reading) (outcomes others : List Outcome) : Prop :=
  outcomes = others ∨ ∃ outcome outcome' rest, outcomes = outcome :: rest ∧
    others = outcome' :: rest ∧ Outcome.Alike reading outcome outcome'

end Http

/-- Two objects have the values in common that a refusal names. -/
theorem Record.Refusal.inputs_eq {members members' : Members} {refusal : Record.Refusal}
    (h : ∀ issue ∈ refusal.issues, ∃ name rest value, issue.path = .member name :: rest ∧
      members.find? name = some value ∧ members'.find? name = some value) :
    refusal.inputs (.object members) = refusal.inputs (.object members') := by
  refine List.map_congr_left fun issue hissue => ?_
  obtain ⟨name, rest, value, hpath, hvalue, hvalue'⟩ := h issue hissue
  simp only [hpath, Record.reached, hvalue, hvalue']

theorem Record.Checked.exists_path_of_mem_under {α : Type} {step : Record.Step}
    {result : Record.Checked α} {issue : Record.Issue} (h : issue ∈ (result.under step).issues) :
    ∃ rest, issue.path = step :: rest := by
  rw [Record.Checked.issues_under] at h
  obtain ⟨own, -, rfl⟩ := List.mem_map.mp h
  exact ⟨own.path, rfl⟩

/-- What may be absent is refused for the value of its member. -/
theorem Members.exists_of_mem_issues {α : Type} {members : Members} {name : String} {absent : α}
    {check : Json → Record.Checked α} {issue : Record.Issue}
    (h : issue ∈ Record.Checked.issues (match members.find? name with
      | none => .ok absent
      | some value => Record.Checked.under (.member name) (check value))) :
    ∃ rest value, issue.path = .member name :: rest ∧ members.find? name = some value := by
  cases hvalue : members.find? name with
  | none =>
    rw [hvalue] at h
    cases h
  | some value =>
    rw [hvalue] at h
    obtain ⟨rest, hpath⟩ := Record.Checked.exists_path_of_mem_under h
    exact ⟨rest, value, hpath, rfl⟩

/-- The envelopes of documents that are alike are the same. -/
theorem Envelope.read_alike {document other : Json} (h : document.GrantsAlike other) :
    Envelope.document.read document = Envelope.document.read other := by
  obtain rfl | ⟨members, members', token, token', rfl, rfl, -, -, -, hothers⟩ := h
  · rfl
  · have hcode : Envelope.codeOf members = Envelope.codeOf members' := by
      unfold Envelope.codeOf
      rw [hothers "errcode" (by decide)]
    have htext : Envelope.textOf members = Envelope.textOf members' := by
      unfold Envelope.textOf
      rw [hothers "errmsg" (by decide)]
    rw [Envelope.read_object, Envelope.read_object, hcode, htext]

/-- The envelopes of documents that are alike are refused for the same values. -/
theorem Envelope.ofRefusal_alike {document other : Json} (h : document.GrantsAlike other)
    {refusal : Record.Refusal} (hread : Envelope.document.read document = .error refusal) :
    Failure.ofRefusal document refusal = .ofRefusal other refusal := by
  obtain rfl | ⟨members, members', token, token', rfl, rfl, -, -, -, hothers⟩ := h
  · rfl
  · rw [Envelope.read_object] at hread
    cases hparts : (codeOf members).both (textOf members) with
    | ok envelope =>
      rw [hparts] at hread
      cases hread
    | error issues =>
      rw [hparts] at hread
      cases hread
      have hissues : issues = (codeOf members).issues ++ (textOf members).issues := by
        rw [← Record.Checked.issues_both, hparts]
        rfl
      refine congrArg (Failure.refused _) (Record.Refusal.inputs_eq fun issue hissue => ?_)
      rcases List.mem_append.mp (hissues ▸ hissue) with hcode | htext
      · obtain ⟨rest, value, hpath, hvalue⟩ := Members.exists_of_mem_issues hcode
        exact ⟨_, rest, value, hpath, hvalue, hothers "errcode" (by decide) ▸ hvalue⟩
      · obtain ⟨rest, value, hpath, hvalue⟩ := Members.exists_of_mem_issues htext
        exact ⟨_, rest, value, hpath, hvalue, hothers "errmsg" (by decide) ▸ hvalue⟩

/-- Documents that are alike report the same. -/
theorem Operation.requireSuccess_alike {document other : Json} (h : document.GrantsAlike other) :
    (requireSuccess document : Operation τ Envelope) = requireSuccess other := by
  cases hread : Envelope.document.read document with
  | error refusal =>
    rw [requireSuccess_of_refusal hread, Envelope.ofRefusal_alike h hread,
      requireSuccess_of_refusal (Envelope.read_alike h ▸ hread)]
  | ok envelope =>
    unfold requireSuccess readAs
    rw [← Envelope.read_alike h, hread]
    rfl

/-- The refusal of a token that is granted without a lifetime. -/
def Grant.noLifetime : Record.Refusal := ⟨"AccessToken", [⟨[.member "expires_in"], .missing⟩]⟩

/-- Failures that are the same, or the refusals of tokens that are granted without a lifetime, which
hand on the documents. -/
def Failure.Alike (failure other : Failure) : Prop :=
  failure = other ∨ ∃ document document' : Json, document.GrantsAlike document' ∧
    failure = .refused Grant.noLifetime [document] ∧ other = .refused Grant.noLifetime [document']

theorem Failure.Alike.isUnexpectedStatus {failure other : Failure} (h : failure.Alike other) :
    failure.isUnexpectedStatus = other.isUnexpectedStatus := by
  obtain rfl | ⟨document, document', -, rfl, rfl⟩ := h <;> rfl

namespace Grant

/-- Grants of tokens that are alike, for the same time. -/
structure Alike (grant other : Grant) : Prop where
  token : TokensAlike grant.token other.token
  lifetime : grant.lifetime = other.lifetime

/-- The lifetime that an object grants. -/
def lifetimeOf (members : Members) : Record.Checked Int :=
  match members.find? "expires_in" with
  | none => .error [⟨[.member "expires_in"], .missing⟩]
  | some value => Record.Checked.under (.member "expires_in") (Record.decodeInteger value)

/-- An object with a token is read as a grant by its lifetime alone. -/
theorem read_object {members : Members} {token : String}
    (htoken : members.find? "access_token" = some (.string token)) :
    Grant.document.read (.object members) =
      match lifetimeOf members with
      | .ok lifetime => .ok ⟨token, lifetime⟩
      | .error issues => .error ⟨"AccessToken", issues⟩ := by
  unfold Record.Document.read
  simp only [Grant.document, form, Record.Form.decode, Record.decodeFields, Record.Label.required,
    Record.Label.source?, lifetimeOf, List.findSome?_cons, List.findSome?_nil, htoken]
  cases members.find? "expires_in" with
  | none => rfl
  | some value =>
    simp only [Option.map]
    cases Record.decodeInteger value <;> rfl

/-- A lifetime is missing, or refused for its value. -/
theorem lifetimeOf_eq_error {members : Members} {issues : List Record.Issue}
    (h : lifetimeOf members = .error issues) :
    members.find? "expires_in" = none ∧ issues = noLifetime.issues ∨
      ∀ issue ∈ issues, ∃ rest value, issue.path = .member "expires_in" :: rest ∧
        members.find? "expires_in" = some value := by
  unfold lifetimeOf at h
  cases hvalue : members.find? "expires_in" with
  | none =>
    rw [hvalue] at h
    cases h
    exact .inl ⟨rfl, rfl⟩
  | some value =>
    simp only [hvalue] at h
    refine .inr fun issue hissue => ?_
    have hmem : issue ∈ (Record.Checked.under (.member "expires_in")
        (Record.decodeInteger value)).issues := by
      rw [h]
      exact hissue
    obtain ⟨rest, hpath⟩ := Record.Checked.exists_path_of_mem_under hmem
    exact ⟨rest, value, hpath, rfl⟩

/-- Objects that differ in the token are refused alike for their lifetimes. -/
theorem ofRefusal_alike {members members' : Members} {issues : List Record.Issue}
    (h : Json.GrantsAlike (.object members) (.object members'))
    (hlifetime : members.find? "expires_in" = members'.find? "expires_in")
    (hrefused : lifetimeOf members = .error issues) :
    (Failure.ofRefusal (.object members) ⟨"AccessToken", issues⟩).Alike
      (.ofRefusal (.object members') ⟨"AccessToken", issues⟩) := by
  rcases lifetimeOf_eq_error hrefused with ⟨hnone, rfl⟩ | hsome
  · have hinput {others : Members} (hothers : others.find? "expires_in" = none) :
        Failure.ofRefusal (.object others) noLifetime =
          .refused noLifetime [.object others] := by
      simp only [Failure.ofRefusal, Record.Refusal.inputs, noLifetime, List.map_cons,
        List.map_nil, Record.reached, hothers]
    exact .inr ⟨_, _, h, hinput hnone, hinput (hlifetime ▸ hnone)⟩
  · refine .inl (congrArg (Failure.refused _) (Record.Refusal.inputs_eq fun issue hissue => ?_))
    obtain ⟨rest, value, hpath, hvalue⟩ := hsome issue hissue
    exact ⟨_, rest, value, hpath, hvalue, hlifetime ▸ hvalue⟩

theorem Alike.refl (grant : Grant) : grant.Alike grant := ⟨rfl, rfl⟩

/-- Documents that are alike grant tokens that are alike, or are refused alike. -/
theorem read_alike {document other : Json} (h : document.GrantsAlike other) :
    (∃ grant grant', Grant.document.read document = .ok grant ∧
        Grant.document.read other = .ok grant' ∧ grant.Alike grant') ∨
      ∃ refusal, Grant.document.read document = .error refusal ∧
        Grant.document.read other = .error refusal ∧
        (Failure.ofRefusal document refusal).Alike (.ofRefusal other refusal) := by
  have halike := h
  obtain rfl | ⟨members, members', token, token', rfl, rfl, htokens, htoken, htoken', hothers⟩ := h
  · cases Grant.document.read document with
    | ok grant => exact .inl ⟨grant, grant, rfl, rfl, .refl grant⟩
    | error refusal => exact .inr ⟨refusal, rfl, rfl, .inl rfl⟩
  · have hlifetime : lifetimeOf members = lifetimeOf members' := by
      unfold lifetimeOf
      rw [hothers "expires_in" (by decide)]
    rw [read_object htoken, read_object htoken', ← hlifetime]
    cases hread : lifetimeOf members with
    | ok lifetime => exact .inl ⟨_, _, rfl, rfl, htokens, rfl⟩
    | error issues =>
      exact .inr ⟨_, rfl, rfl,
        ofRefusal_alike halike (hothers "expires_in" (by decide)) hread⟩

end Grant

/-! ## Worlds -/

/-- Caches with tokens that are alike, which expire at the same instant. -/
structure TokenCache.Alike (cache other : TokenCache τ) : Prop where
  token : Option.Rel TokensAlike cache.token? other.token?
  expiry : cache.expiry = other.expiry

/-- Whether a kept token is usable does not depend on it. -/
theorem TokenCache.Alike.usable [Instant τ] {cache other : TokenCache τ} (h : cache.Alike other)
    (now : τ) : Option.Rel TokensAlike (cache.usable? now) (other.usable? now) := by
  unfold usable?
  rw [h.expiry]
  split
  · exact h.token
  · exact .none

/-- Clients that differ in the kept token. -/
structure Client.Alike (client other : Client τ) : Prop where
  cache : client.cache.Alike other.cache
  pool : client.pool? = other.pool?

/-- Worlds that differ in the kept token and in the tokens of addresses. Nothing is said of the
outcomes to come. -/
structure World.Alike (world other : World τ) : Prop where
  client : world.client.Alike other.client
  files : world.files = other.files
  calls : List.Forall₂ Http.Call.Alike world.calls other.calls
  emissions : world.emissions = other.emissions
  written : world.written = other.written

/-- Worlds that are alike, with the same outcomes to come. -/
structure World.InStep (world other : World τ) : Prop where
  alike : world.Alike other
  foreseen : world.foreseen = other.foreseen

/-- Worlds that are alike before a token is requested: the outcome of that request may differ in the
token. -/
structure World.Pending (surroundings : Surroundings τ) (world other : World τ) : Prop where
  alike : world.Alike other
  foreseen : Http.OutcomesAlike surroundings.reading world.foreseen other.foreseen

/-- Worlds that are alike before a token is asked for. If the kept one is usable, there will be no
request for it. -/
structure World.Awaiting [Instant τ] (surroundings : Surroundings τ) (world other : World τ) :
    Prop where
  alike : world.Alike other
  foreseen : world.foreseen = other.foreseen ∨
    world.client.cache.usable? surroundings.started = none ∧
      Http.OutcomesAlike surroundings.reading world.foreseen other.foreseen

namespace World.Alike

variable {world other : World τ} (h : world.Alike other)
include h

theorem logged (lines : List Emission) : (world.logged lines).Alike (other.logged lines) where
  client := h.client
  files := h.files
  calls := h.calls
  emissions := congrArg (· ++ lines) h.emissions
  written := h.written

theorem withPool (pool : Pool) :
    (Operation.withPool world pool).Alike (Operation.withPool other pool) where
  client := ⟨h.client.cache, rfl⟩
  files := h.files
  calls := h.calls
  emissions := h.emissions
  written := h.written

theorem withCache {cache cache' : TokenCache τ} (hcache : cache.Alike cache') :
    (world.withCache cache).Alike (other.withCache cache') where
  client := ⟨hcache, h.client.pool⟩
  files := h.files
  calls := h.calls
  emissions := h.emissions
  written := h.written

theorem withFiles (files : FileStore) : (world.withFiles files).Alike (other.withFiles files) where
  client := h.client
  files := rfl
  calls := h.calls
  emissions := h.emissions
  written := h.written

theorem sent {request request' : Http.Request} (hrequest : request.Alike request')
    {reading : Json.Reading} {outcome outcome' : Http.Outcome}
    (houtcome : Http.Outcome.Alike reading outcome outcome') :
    (world.sent request outcome).Alike (other.sent request' outcome') where
  client := h.client
  files := h.files
  calls := by
    refine List.rel_append h.calls (.cons ⟨hrequest, ?_⟩ .nil)
    obtain rfl | ⟨response, response', rfl, rfl, -⟩ := houtcome <;> rfl
  emissions := h.emissions
  written := h.written

theorem closeResponse (arrival : Operation.Arrival) :
    (Operation.closeResponse arrival world).Alike (Operation.closeResponse arrival other) where
  client := h.client
  files := h.files
  calls := by
    unfold Operation.closeResponse
    refine Http.Call.forall₂_modify (fun call other hcall => ?_) h.calls arrival.call
    exact ⟨hcall.request, congrArg (Option.map (· + 1)) hcall.closed⟩
  emissions := h.emissions
  written := h.written

end World.Alike

end PlatformClient
