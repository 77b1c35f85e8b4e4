import Mathlib.Data.List.Sort
import XpensGo.EcmaScript.RegExp
import XpensGo.EcmaScript.WhiteSpace
import XpensGo.Relational.Table

/-!
# The waitlist

The table of the waitlist, its mutations and queries, and the form handler in
front of `join`.  Each mutation and each query is one transaction of the
database.
-/

namespace XpensGo

open EcmaScript JsString Relational

namespace Waitlist

/-- The built-in functions on text that the handlers call: `toLowerCase`, and
`String(value)`, which is `none` where it throws. -/
structure TextBuiltins where
  toLowerCase : JsString → JsString
  string : JsValue → Option JsString

structure WaitlistId where
  number : Nat
  deriving DecidableEq

/-- The strings `pending` and `sent` of `welcomeStatus`. -/
inductive WelcomeStatus where
  | pending
  | sent
  deriving DecidableEq

structure WaitlistRow where
  email : JsString
  source : Option JsString
  variant : Option JsString
  utmSource : Option JsString
  utmMedium : Option JsString
  utmCampaign : Option JsString
  referrer : Option JsString
  welcomeStatus : WelcomeStatus
  welcomeError : Option JsString
  inviteSentAt : Option Int
  joinedAt : Int

abbrev WaitlistTable := Table WaitlistId WaitlistRow

section Join

/-- `[^@\s]`. -/
def isEmailUnit (unit : CodeUnit) : Bool :=
  unit ≠ 0x40 && !isWhiteSpace unit

/-- `EMAIL_RE`: `^[^@\s]+@[^@\s]+\.[^@\s]{2,}$`. -/
def emailPattern : RegExp :=
  .sequence (.repeated isEmailUnit 1 none)
    (.sequence (.literal (ofString "@"))
      (.sequence (.repeated isEmailUnit 1 none)
        (.sequence (.literal (ofString "."))
          (.repeated isEmailUnit 2 none))))

def isEmail (email : JsString) : Bool :=
  emailPattern.test email && email.length ≤ 254

structure JoinArgs where
  email : JsString
  source : Option JsString
  variant : Option JsString
  utmSource : Option JsString
  utmMedium : Option JsString
  utmCampaign : Option JsString
  referrer : Option JsString

inductive JoinOutcome where
  | invalidEmail
  | joined (alreadyJoined : Bool)

def normalizedEmail (builtins : TextBuiltins) (email : JsString) : JsString :=
  builtins.toLowerCase email.trim

def JoinArgs.row (args : JoinArgs) (email : JsString) (now : Int) :
    WaitlistRow :=
  { email := email
    source := args.source
    variant := some (args.variant.getD (ofString "1a"))
    utmSource := args.utmSource
    utmMedium := args.utmMedium
    utmCampaign := args.utmCampaign
    referrer := args.referrer
    welcomeStatus := .pending
    welcomeError := none
    inviteSentAt := none
    joinedAt := now }

/-- `join`, with the address to welcome.  It fails when `unique()` finds more
than one row, and the identifier is one that `insert` generates. -/
def join (builtins : TextBuiltins) (id : WaitlistId) (now : Int)
    (args : JoinArgs) (waitlist : WaitlistTable) :
    Option (JoinOutcome × Option JsString × WaitlistTable) :=
  let email := normalizedEmail builtins args.email
  if isEmail email then
    match waitlist.select (fun _ row => row.email = email) with
    | [] =>
        (waitlist.insert? (fun _ => true) id (args.row email now)).map
          (fun waitlist => (.joined false, some email, waitlist))
    | [_] => some (.joined true, none, waitlist)
    | _ :: _ :: _ => none
  else
    some (.invalidEmail, none, waitlist)

end Join

section Form

/-- `value ? … : …`. -/
def isTruthy : JsValue → Bool
  | .null => false
  | .boolean value => value
  | .number value => value ≠ 0
  | .string text => !text.isEmpty
  | .array _ | .object _ => true

/-- The properties of a body that is not null. -/
def bodyFields : JsValue → Option (List (JsString × JsValue))
  | .null => none
  | .object fields => some fields
  | .boolean _ | .number _ | .string _ | .array _ => some []

/-- `body.name ? String(body.name).slice(0, most) : undefined`. -/
def textField (builtins : TextBuiltins) (fields : List (JsString × JsValue))
    (name : String) (most : Nat) : Option (Option JsString) :=
  match JsValue.property (ofString name) fields with
  | none => some none
  | some value =>
      if isTruthy value then
        (builtins.string value).map (fun text => some (text.take most))
      else
        some none

/-- `String(body.email ?? "")`. -/
def emailField (builtins : TextBuiltins)
    (fields : List (JsString × JsValue)) : Option JsString :=
  match JsValue.property (ofString "email") fields with
  | none | some .null => builtins.string (.string [])
  | some value => builtins.string value

/-- `typeof body.website === "string" && body.website.trim() !== ""`. -/
def isHoneypotFilled (fields : List (JsString × JsValue)) : Bool :=
  match JsValue.property (ofString "website") fields with
  | some (.string text) => !text.trim.isEmpty
  | _ => false

structure FormResponse where
  status : Nat := 200
  body : List (String × String)
  deriving DecidableEq

/-- What a form comes to before `join` is called. -/
inductive FormStep where
  | respond (response : FormResponse)
  | join (args : JoinArgs)

def joinArgs (builtins : TextBuiltins) (fields : List (JsString × JsValue)) :
    Option JoinArgs := do
  let email ← emailField builtins fields
  let source ← textField builtins fields "source" 32
  let variant ← textField builtins fields "variant" 8
  let utmSource ← textField builtins fields "utmSource" 100
  let utmMedium ← textField builtins fields "utmMedium" 100
  let utmCampaign ← textField builtins fields "utmCampaign" 100
  let referrer ← textField builtins fields "referrer" 400
  pure
    { email := email
      source := source
      variant := variant
      utmSource := utmSource
      utmMedium := utmMedium
      utmCampaign := utmCampaign
      referrer := referrer }

/-- The handler of `POST /waitlist` before `join`; the body is `none` when it is
not JSON, and the handler throws where the result is `none`. -/
def receiveForm (builtins : TextBuiltins) :
    Option JsValue → Option FormStep
  | none =>
      some (.respond
        { status := 400
          body := [("status", "error"), ("message", "Malformed request.")] })
  | some body => do
      let fields ← bodyFields body
      if isHoneypotFilled fields then
        pure (.respond { body := [("status", "joined")] })
      else
        let args ← joinArgs builtins fields
        pure (.join args)

/-- The handler of `POST /waitlist` after `join`. -/
def JoinOutcome.response : JoinOutcome → FormResponse
  | .invalidEmail =>
      { status := 422
        body := [("status", "invalid"),
          ("message", "That doesn't look like an email address.")] }
  | .joined true => { body := [("status", "already_joined")] }
  | .joined false => { body := [("status", "joined")] }

end Form

section Lifecycle

def markWelcome (waitlist : WaitlistTable) (id : WaitlistId)
    (status : WelcomeStatus) (error : Option JsString) :
    Option WaitlistTable :=
  (waitlist.find? id).map (fun _ => waitlist.modify id (fun row =>
    { row with
      welcomeStatus := status
      welcomeError := error }))

def markInvited (waitlist : WaitlistTable) (id : WaitlistId) (now : Int) :
    Option WaitlistTable :=
  (waitlist.find? id).map (fun _ => waitlist.modify id (fun row =>
    { row with inviteSentAt := some now }))

/-- `{ id: r._id, email: r.email }`. -/
def addressee (entry : WaitlistId × WaitlistRow) : WaitlistId × JsString :=
  (entry.1, entry.2.email)

def pendingWelcomes (waitlist : WaitlistTable) :
    List (WaitlistId × JsString) :=
  (waitlist.select (fun _ row => row.welcomeStatus = .pending)).map addressee

/-- `(a, b) => a.joinedAt - b.joinedAt`, as an order. -/
def JoinedNoLater (left right : WaitlistId × WaitlistRow) : Prop :=
  left.2.joinedAt ≤ right.2.joinedAt

instance : DecidableRel JoinedNoLater :=
  fun left right => inferInstanceAs
    (Decidable (left.2.joinedAt ≤ right.2.joinedAt))

/-- The rows without an invite, the first to join first. -/
def waitingRows (waitlist : WaitlistTable) :
    List (WaitlistId × WaitlistRow) :=
  (waitlist.select (fun _ row => row.inviteSentAt.isNone)).insertionSort
    JoinedNoLater

def awaitingInvite (waitlist : WaitlistTable) :
    List (WaitlistId × JsString) :=
  (waitingRows waitlist).map addressee

end Lifecycle

end Waitlist

end XpensGo
