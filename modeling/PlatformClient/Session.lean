import PlatformClient.Operation.Media
import PlatformClient.Operation.Orders

/-!
# Sessions

A session is a run of actions by one client. Each action has its own surroundings and its own
outcomes of requests; what the client keeps and the files go on from action to action.

## Main definitions

* `Action`, `Answer`: what can be done, and what comes of it
* `Action.operation`: the operation of an action
* `Session`: what goes on from action to action
* `Turn`, `Turn.play`: an action in its surroundings, and its outcome
* `Session.run`: the outcomes of a run

## Main results

* `Session.run_append`: a run of two parts is a run of the first, then one of the second
-/

namespace PlatformClient

/-- What a client can do. -/
inductive Action where
  | requireToken
  | invalidateToken
  | upload (kind : Json) (filename : String) (source : Option Operation.Source)
  | uploadFromFile (kind : Json) (path : String)
  | download (mediaId : String) (writer : Option Operation.Writer)
  | downloadToFile (mediaId path : String)
  | uploadNews (news : Option News)
  | uploadVideo (video : Option Video)
  | orderById (orderId : String)
  | ordersByFilter (filter : OrderFilter)
  | setDelivery (orderId company trackNumber : String)
  | closeOrder (orderId : String)
  | getJson (url : String)
  | postJson (url : String) (payload : Json)
  | postMultipart (url : String) (body : Octets) (contentType : String)
  | getStream (url : String)

/-- What comes of an action. -/
inductive Answer where
  | done
  | token (token : String)
  | upload (receipt : Upload)
  | order (order : Order)
  | orders (orders : List Order)
  | document (document : Json)
  | stream (status : Int) (body : Octets)

variable {τ : Type}

/-- The operation of an action. -/
def Action.operation [Instant τ] : Action → Operation τ Answer
  | requireToken => .token <$> Operation.requireToken
  | invalidateToken => (fun _ => .done) <$> Operation.invalidateToken
  | upload kind filename source => .upload <$> Operation.upload kind filename source
  | uploadFromFile kind path => .upload <$> Operation.uploadFromFile kind path
  | download mediaId writer => (fun _ => .done) <$> Operation.download mediaId writer
  | downloadToFile mediaId path => (fun _ => .done) <$> Operation.downloadToFile mediaId path
  | uploadNews news => .upload <$> Operation.uploadNews news
  | uploadVideo video => .upload <$> Operation.uploadVideo video
  | orderById orderId => .order <$> Operation.orderById orderId
  | ordersByFilter filter => .orders <$> Operation.ordersByFilter filter
  | setDelivery orderId company trackNumber =>
    (fun _ => .done) <$> Operation.setDelivery orderId company trackNumber
  | closeOrder orderId => (fun _ => .done) <$> Operation.closeOrder orderId
  | getJson url => .document <$> Operation.getJson url
  | postJson url payload => .document <$> Operation.postJson url payload
  | postMultipart url body contentType =>
    .document <$> Operation.postMultipart url body contentType
  | getStream url =>
    (fun arrival => .stream arrival.response.status arrival.response.body) <$>
      Operation.getStream url

/-- What goes on from action to action. -/
structure Session (τ : Type) where
  client : Client τ
  files : FileStore

/-- An action in its surroundings, with the outcomes of its requests. -/
structure Turn (τ : Type) where
  surroundings : Surroundings τ
  foreseen : List Http.Outcome
  action : Action

/-- The outcome of an action, and the world after it. -/
structure Outcome (τ : Type) where
  result : Except Failure Answer
  world : World τ

/-- What goes on after an action. -/
def Outcome.session (outcome : Outcome τ) : Session τ := ⟨outcome.world.client, outcome.world.files⟩

/-- The outcome of an action. -/
def Turn.play [Instant τ] (turn : Turn τ) (session : Session τ) : Outcome τ :=
  let (result, world) :=
    turn.action.operation turn.surroundings (.of session.client session.files turn.foreseen)
  ⟨result, world⟩

namespace Session

/-- A session of a new client. -/
def new [Instant τ] (files : FileStore) : Session τ := ⟨.new, files⟩

/-- The outcomes of a run, and the session after it. -/
def run [Instant τ] (session : Session τ) : List (Turn τ) → List (Outcome τ) × Session τ
  | [] => ([], session)
  | turn :: rest =>
    let outcome := turn.play session
    let (outcomes, last) := outcome.session.run rest
    (outcome :: outcomes, last)

/-- A run of two parts is a run of the first, then one of the second. -/
theorem run_append [Instant τ] (session : Session τ) (first second : List (Turn τ)) :
    session.run (first ++ second) =
      ((session.run first).1 ++ ((session.run first).2.run second).1,
        ((session.run first).2.run second).2) := by
  induction first generalizing session with
  | nil => rfl
  | cons turn rest ih => simp [run, ih]

end Session

end PlatformClient
