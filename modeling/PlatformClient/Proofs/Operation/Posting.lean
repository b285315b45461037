import PlatformClient.Session
import PlatformClient.Proofs.Operation.Effect

/-!
# Operations that post a document

Most operations of the platform have one form: behind a few checks and reports, a token is asked
for, a document is posted to an endpoint with the token, and the answer is looked at for an error
before it is read. What holds of this form holds of all of them.

## Main definitions

* `Operation.PostsTo`: operations that post a document to an endpoint with a token
* `Action.posting?`: the endpoint to which an action posts

## Main results

* `PostsTo.map`: the result of an operation does not matter
* `Action.postsTo`: the actions that post
-/

namespace PlatformClient

variable {τ α β : Type} [Instant τ]

namespace Operation

/-- An operation that posts a document to an endpoint with a token. Neither before the token is
asked for nor behind the answer does it look at the world. -/
inductive PostsTo (endpoint : String → Endpoint) : Operation τ α → Prop
  /-- A document is posted, and the envelope of the answer is looked at before anything else. -/
  | posted (payload : Json) {next : Json → Envelope → Operation τ α}
      (hnext : ∀ document envelope, Blind (next document envelope)) :
      PostsTo endpoint (requireToken >>= fun token => addressOf (endpoint token) >>= fun url =>
        postJson url payload >>= fun document => requireSuccess document >>= next document)
  /-- Steps before, which may fail. -/
  | behind {β : Type} {preface : Operation τ β} {next : β → Operation τ α}
      (hpreface : Blind preface) (hnext : ∀ b, PostsTo endpoint (next b)) :
      PostsTo endpoint (preface >>= next)

/-- What is made of the result does not matter. -/
theorem PostsTo.map {endpoint : String → Endpoint} {operation : Operation τ α}
    (h : PostsTo endpoint operation) (f : α → β) : PostsTo endpoint (f <$> operation) := by
  induction h with
  | posted payload hnext =>
    simp only [map_bind]
    exact .posted payload fun document envelope =>
      (hnext document envelope).bind fun a => blind_pure (f a)
  | behind hpreface _ ih =>
    rw [map_bind]
    exact .behind hpreface ih

omit [Instant τ] in
theorem blind_require (code : ErrorCode) (text : String) (argument? : Option α) :
    Blind (require code text argument? : Operation τ α) := by
  cases argument? with
  | none => exact blind_raise _
  | some argument => exact blind_pure argument

/-! ## The operations of the platform -/

theorem postsTo_uploadNews (news : Option News) :
    PostsTo .newsUpload (uploadNews news : Operation τ Upload) := by
  refine .behind (blind_require _ _ news) fun news => .behind (blind_say _ _) fun _ => ?_
  exact .posted news.payload fun document _ => blind_readAs _ document

theorem postsTo_uploadVideo (video : Option Video) :
    PostsTo .videoUpload (uploadVideo video : Operation τ Upload) := by
  refine .behind (blind_require _ _ video) fun video => .behind (blind_say _ _) fun _ => ?_
  exact .posted video.payload fun document _ => blind_readAs _ document

theorem postsTo_orderById (orderId : String) :
    PostsTo .orderById (orderById orderId : Operation τ Order) := by
  refine .behind (blind_say _ _) fun _ => ?_
  exact .posted (orderPayload orderId) fun document _ => blind_readAs _ document

theorem postsTo_ordersByFilter (filter : OrderFilter) :
    PostsTo .ordersByFilter (ordersByFilter filter : Operation τ (List Order)) := by
  refine .behind (blind_ofExcept _ _) fun status => .behind (blind_numeral _) fun shown => ?_
  refine .behind (blind_ofExcept _ _) fun earliest => ?_
  refine .behind (blind_ofExcept _ _) fun latest => .behind (blind_say _ _) fun _ => ?_
  simp only [decode, bind_assoc]
  refine .posted (filter.payload status) fun document _ => ?_
  exact (blind_readAs _ document).bind fun orders => (blind_say _ _).bind fun _ => blind_pure orders

theorem postsTo_setDelivery (orderId company trackNumber : String) :
    PostsTo .deliverySetting (setDelivery orderId company trackNumber : Operation τ Unit) :=
  .behind (blind_say _ _) fun _ => .posted _ fun _ _ => blind_pure ()

theorem postsTo_closeOrder (orderId : String) :
    PostsTo .orderClosing (closeOrder orderId : Operation τ Unit) :=
  .behind (blind_say _ _) fun _ => .posted (orderPayload orderId) fun _ _ => blind_pure ()

end Operation

namespace Action

/-- The endpoint to which an action posts a document, given the token. -/
def posting? : Action → Option (String → Endpoint)
  | uploadNews _ => some .newsUpload
  | uploadVideo _ => some .videoUpload
  | orderById _ => some .orderById
  | ordersByFilter _ => some .ordersByFilter
  | setDelivery .. => some .deliverySetting
  | closeOrder _ => some .orderClosing
  | _ => none

/-- The actions that post. -/
theorem postsTo {action : Action} {endpoint : String → Endpoint}
    (h : action.posting? = some endpoint) :
    Operation.PostsTo endpoint (action.operation : Operation τ Answer) := by
  cases action with
  | uploadNews news =>
    cases h
    exact (Operation.postsTo_uploadNews news).map _
  | uploadVideo video =>
    cases h
    exact (Operation.postsTo_uploadVideo video).map _
  | orderById orderId =>
    cases h
    exact (Operation.postsTo_orderById orderId).map _
  | ordersByFilter filter =>
    cases h
    exact (Operation.postsTo_ordersByFilter filter).map _
  | setDelivery orderId company trackNumber =>
    cases h
    exact (Operation.postsTo_setDelivery orderId company trackNumber).map _
  | closeOrder orderId =>
    cases h
    exact (Operation.postsTo_closeOrder orderId).map _
  | _ => cases h

end Action

end PlatformClient
