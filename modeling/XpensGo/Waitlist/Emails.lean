import XpensGo.Transition.System
import XpensGo.Waitlist.Store

/-!
# The waitlist's mail

The deployment of the waitlist: forms arrive, the operator flushes the pending
welcomes or sends a batch of invites, and the scheduler runs the calls that were
scheduled.  Only mutations and queries are transactions, so an action may stop
between any two of them, and any number of actions interleave.
-/

namespace XpensGo

open EcmaScript JsString Relational Transition

namespace Waitlist

abbrev CallId := Nat

abbrev RunId := Nat

section Sending

/-- A scheduled function with its arguments. -/
inductive EmailCall where
  | sendWelcome (id : WaitlistId) (email : JsString)
  | sendOneInvite (id : WaitlistId) (email : JsString) (productUrl : JsString)
  deriving DecidableEq

def EmailCall.id : EmailCall → WaitlistId
  | .sendWelcome id _ | .sendOneInvite id _ _ => id

def EmailCall.email : EmailCall → JsString
  | .sendWelcome _ email | .sendOneInvite _ email _ => email

def EmailCall.isInvite : EmailCall → Bool
  | .sendWelcome .. => false
  | .sendOneInvite .. => true

/-- What `sendEmail` returns. -/
inductive SendResult where
  | ok
  | failed (error : JsString)

/-- What comes of a request to Resend.  One without an answer may have been
accepted all the same. -/
inductive ResendAnswer where
  | accepted
  | rejected (status : Nat) (body : JsString)
  | unreachable (wasAccepted : Bool)

def ResendAnswer.isAccepted : ResendAnswer → Bool
  | .accepted => true
  | .rejected _ _ => false
  | .unreachable wasAccepted => wasAccepted

/-- `sendEmail` under the key of the environment: whether a message was accepted
for delivery, and its result, which is `none` where it throws. -/
def sendEmail (key : Option JsString) (answer : ResendAnswer) :
    Bool × Option SendResult :=
  if (key.getD []).isEmpty then
    (false, some (.failed (ofString "RESEND_API_KEY not set")))
  else
    (answer.isAccepted,
      match answer with
      | .accepted => some .ok
      | .rejected status body =>
          some (.failed
            (ofString (toString status) ++ ofString " " ++ body.take 200))
      | .unreachable _ => none)

/-- A scheduled call, from when it may run until it has ended. -/
inductive CallPhase where
  | waiting (dueAt : Int)
  | marking (result : SendResult)
  | ended

structure ScheduledCall where
  call : EmailCall
  phase : CallPhase

/-- The call after its message was sent: `sendWelcome` marks either result,
`sendOneInvite` only a message that was accepted. -/
def EmailCall.afterSend : EmailCall → Option SendResult → CallPhase
  | .sendWelcome .., some result => .marking result
  | .sendOneInvite .., some .ok => .marking .ok
  | .sendOneInvite .., some (.failed _) => .ended
  | _, none => .ended

/-- The mutation at the end of a call. -/
def EmailCall.mark (call : EmailCall) (result : SendResult) (now : Int)
    (waitlist : WaitlistTable) : Option WaitlistTable :=
  match call, result with
  | .sendWelcome id _, .ok => markWelcome waitlist id .sent none
  | .sendWelcome id _, .failed error =>
      markWelcome waitlist id .pending (some error)
  | .sendOneInvite id _ _, _ => markInvited waitlist id now

end Sending

section Batches

structure LaunchArgs where
  adminToken : JsString
  productUrl : JsString
  limit : Option Int
  dryRun : Option Bool

/-- `queue.slice(0, limit)`. -/
def sliceTo {α : Type} (queue : List α) (limit : Int) : List α :=
  if limit < 0 then
    queue.take (queue.length - limit.natAbs)
  else
    queue.take limit.toNat

def welcomeBatch (waitlist : WaitlistTable) : List EmailCall :=
  (pendingWelcomes waitlist).map (fun entry => .sendWelcome entry.1 entry.2)

def inviteBatch (args : LaunchArgs) (waitlist : WaitlistTable) :
    List EmailCall :=
  (sliceTo (awaitingInvite waitlist) (args.limit.getD 90)).map
    (fun entry => .sendOneInvite entry.1 entry.2 args.productUrl)

/-- An action that schedules a batch, one call after the other. -/
structure BatchRun where
  remaining : List EmailCall
  index : Nat := 0

end Batches

section Deployment

/-- The tables of the deployment, the actions under way, and the messages that
Resend accepted. -/
structure WaitlistState where
  waitlist : WaitlistTable := .empty
  calls : Table CallId ScheduledCall := .empty
  runs : Table RunId BatchRun := .empty
  delivered : List EmailCall := []

/-- What may happen next.  `token` and `key` are the environment's `ADMIN_TOKEN`
and `RESEND_API_KEY` at that moment, `now` is `Date.now()`. -/
inductive WaitlistAction where
  | post (body : Option JsValue) (id : WaitlistId) (call : CallId) (now : Int)
  | flushPendingWelcomes (run : RunId) (token : Option JsString)
      (adminToken : JsString)
  | sendLaunchInvites (run : RunId) (token : Option JsString)
      (args : LaunchArgs)
  | schedule (run : RunId) (call : CallId) (now : Int)
  | stop (run : RunId)
  | send (call : CallId) (key : Option JsString) (answer : ResendAnswer)
      (now : Int)
  | mark (call : CallId) (now : Int)
  | abort (call : CallId)

namespace WaitlistState

def setPhase (state : WaitlistState) (call : CallId) (phase : CallPhase) :
    WaitlistState :=
  { state with
    calls := state.calls.modify call (fun current =>
      { current with phase := phase }) }

/-- `runAfter`, with a fresh identifier of the scheduler. -/
def runAfter (state : WaitlistState) (id : CallId) (call : EmailCall)
    (dueAt : Int) : Option WaitlistState :=
  (state.calls.insert? (fun _ => true) id
    { call := call
      phase := .waiting dueAt }).map (fun calls =>
        { state with calls := calls })

def begin (state : WaitlistState) (run : RunId) (batch : List EmailCall) :
    Option WaitlistState :=
  (state.runs.insert? (fun _ => true) run { remaining := batch }).map
    (fun runs => { state with runs := runs })

/-- The mutation `join` for the arguments of a form; an address that joined is
welcomed. -/
def join (builtins : TextBuiltins) (state : WaitlistState) (id : WaitlistId)
    (call : CallId) (now : Int) (args : JoinArgs) : Option WaitlistState :=
  match Waitlist.join builtins id now args state.waitlist with
  | none => none
  | some (_, none, waitlist) => some { state with waitlist := waitlist }
  | some (_, some email, waitlist) =>
      { state with waitlist := waitlist }.runAfter call
        (.sendWelcome id email) now

def next (builtins : TextBuiltins) (state : WaitlistState) :
    WaitlistAction → Option WaitlistState
  | .post body id call now =>
      match receiveForm builtins body with
      | none | some (.respond _) => some state
      | some (.join args) => state.join builtins id call now args
  | .flushPendingWelcomes run token adminToken =>
      if some adminToken ≠ token then
        some state
      else
        state.begin run (welcomeBatch state.waitlist)
  | .sendLaunchInvites run token args =>
      if some args.adminToken ≠ token ∨ args.dryRun = some true then
        some state
      else
        state.begin run (inviteBatch args state.waitlist)
  | .schedule run id now =>
      match state.runs.find? run with
      | some { remaining := call :: rest, index } =>
          { state with
            runs := state.runs.modify run (fun _ =>
              { remaining := rest
                index := index + 1 }) }.runAfter id call (now + index * 700)
      | _ => none
  | .stop run =>
      some { state with
        runs := state.runs.modify run (fun current =>
          { current with remaining := [] }) }
  | .send id key answer now =>
      match state.calls.find? id with
      | some { call, phase := .waiting dueAt } =>
          if now < dueAt then
            none
          else
            let (accepted, result) := sendEmail key answer
            some ({ state with
              delivered := if accepted then
                state.delivered ++ [call]
              else
                state.delivered }.setPhase id (call.afterSend result))
      | _ => none
  | .mark id now =>
      match state.calls.find? id with
      | some { call, phase := .marking result } =>
          (call.mark result now state.waitlist).map (fun waitlist =>
            { state with waitlist := waitlist }.setPhase id .ended)
      | _ => none
  | .abort id => some (state.setPhase id .ended)

end WaitlistState

def waitlistSystem (builtins : TextBuiltins) :
    System WaitlistState WaitlistAction :=
  { Initial := fun state => state = {}
    next := WaitlistState.next builtins }

end Deployment

end Waitlist

end XpensGo
