import XpensGo.Channel.Steps
import XpensGo.Relational.View

/-!
# Delivery attempts

Delivery of a reply seen as a small state machine: attempts are numbered, at
most the last one is running or was possibly accepted, and every other one was
explicitly rejected.
-/

namespace XpensGo

open Postgres Relational Relational.View Transition ChannelDatabase

/-- The delivery columns of a reply. -/
structure ReplyState where
  status : OutboundMessageStatus
  deliveryAttempts : Nat
  deliveryClaimId : Option ChannelDeliveryAttemptId

/-- What the delivery protocol knows of an attempt. -/
structure AttemptState where
  outboundMessageId : OutboundChannelMessageId
  attemptNumber : Nat
  status : DeliveryAttemptStatus

/-- The replies and the attempts, as the delivery protocol sees them. -/
structure DeliveryView where
  replies : OutboundChannelMessageId → Option ReplyState
  attempts : ChannelDeliveryAttemptId → Option AttemptState

/-- The state of a reply in the delivery protocol. -/
def OutboundMessageRow.delivery (row : OutboundMessageRow) : ReplyState :=
  { status := row.status
    deliveryAttempts := row.deliveryAttempts
    deliveryClaimId := row.deliveryClaimId }

/-- The state of an attempt in the delivery protocol. -/
def DeliveryAttemptRow.delivery (row : DeliveryAttemptRow) : AttemptState :=
  { outboundMessageId := row.outboundMessageId
    attemptNumber := row.attemptNumber
    status := row.status }

/-- The part of the tables that the delivery protocol is about. -/
def ChannelDatabase.delivery (db : ChannelDatabase) : DeliveryView :=
  { replies := fun outboundMessageId =>
      (db.messages.find? outboundMessageId).map (·.delivery)
    attempts := fun attemptId =>
      (db.attempts.find? attemptId).map (·.delivery) }

namespace DeliveryView

/-- The statuses that an attempt and its reply end with together. -/
inductive EndsAs : DeliveryAttemptStatus → OutboundMessageStatus → Prop where
  | accepted : EndsAs .providerAccepted .providerAccepted
  | transient : EndsAs .transientFailure .pending
  | terminal : EndsAs .terminalFailure .terminalFailure
  | unknown : EndsAs .outcomeUnknown .outcomeUnknown

/-- The abstract steps of delivery. -/
inductive DeliveryTransition (view : DeliveryView) : DeliveryView → Prop where
  | idle : DeliveryTransition view view
  | created {outboundMessageId : OutboundChannelMessageId} :
      view.replies outboundMessageId = none →
      DeliveryTransition view
        { view with
          replies := Function.update view.replies outboundMessageId
            (some ⟨.pending, 0, none⟩) }
  | claimed {outboundMessageId : OutboundChannelMessageId} {reply : ReplyState}
      {attemptId : ChannelDeliveryAttemptId} :
      view.replies outboundMessageId = some reply →
      reply.status = .pending →
      reply.deliveryAttempts < defaultTelegramDeliveryPolicy.maximumAttempts →
      view.attempts attemptId = none →
      DeliveryTransition view
        { replies := Function.update view.replies outboundMessageId
            (some ⟨.delivering, reply.deliveryAttempts + 1, some attemptId⟩)
          attempts := Function.update view.attempts attemptId
            (some ⟨outboundMessageId, reply.deliveryAttempts + 1,
              .attempting⟩) }
  | ended {outboundMessageId : OutboundChannelMessageId} {reply : ReplyState}
      {attemptId : ChannelDeliveryAttemptId} {attempt : AttemptState}
      {attemptStatus : DeliveryAttemptStatus}
      {status : OutboundMessageStatus} :
      view.replies outboundMessageId = some reply →
      reply.status = .delivering →
      reply.deliveryClaimId = some attemptId →
      view.attempts attemptId = some attempt →
      EndsAs attemptStatus status →
      DeliveryTransition view
        { replies := Function.update view.replies outboundMessageId
            (some ⟨status, reply.deliveryAttempts, none⟩)
          attempts := Function.update view.attempts attemptId
            (some { attempt with status := attemptStatus }) }
  | rested {outboundMessageId : OutboundChannelMessageId}
      {reply reply' : ReplyState} :
      view.replies outboundMessageId = some reply →
      reply.status.isIdle = true →
      reply'.status.isIdle = true →
      reply'.deliveryAttempts = reply.deliveryAttempts →
      DeliveryTransition view
        { view with
          replies := Function.update view.replies outboundMessageId
            (some reply') }

/-- What the status of an attempt says about its reply.  An attempt that was
rejected says nothing. -/
def Fits (attemptId : ChannelDeliveryAttemptId) (attempt : AttemptState)
    (reply : ReplyState) : Prop :=
  match attempt.status with
  | .attempting =>
      attempt.attemptNumber = reply.deliveryAttempts ∧
        reply.status = .delivering ∧ reply.deliveryClaimId = some attemptId
  | .providerAccepted =>
      attempt.attemptNumber = reply.deliveryAttempts ∧
        reply.status = .providerAccepted
  | .outcomeUnknown =>
      attempt.attemptNumber = reply.deliveryAttempts ∧
        reply.status = .outcomeUnknown
  | .transientFailure | .terminalFailure => True

/-- What holds of the view in every run. -/
structure Consistent (view : DeliveryView) : Prop where
  bounded : ∀ id reply, view.replies id = some reply →
    reply.deliveryAttempts ≤ defaultTelegramDeliveryPolicy.maximumAttempts
  numbered : ∀ id reply number, view.replies id = some reply → 1 ≤ number →
    number ≤ reply.deliveryAttempts →
    ∃ attemptId attempt, view.attempts attemptId = some attempt ∧
      attempt.outboundMessageId = id ∧ attempt.attemptNumber = number
  attempts : ∀ attemptId attempt, view.attempts attemptId = some attempt →
    ∃ reply, view.replies attempt.outboundMessageId = some reply ∧
      1 ≤ attempt.attemptNumber ∧
        attempt.attemptNumber ≤ reply.deliveryAttempts ∧
          Fits attemptId attempt reply
  distinct : ∀ attemptId attemptId' attempt attempt',
    view.attempts attemptId = some attempt →
    view.attempts attemptId' = some attempt' →
    attempt.outboundMessageId = attempt'.outboundMessageId →
    attempt.attemptNumber = attempt'.attemptNumber → attemptId = attemptId'
  delivering : ∀ id reply, view.replies id = some reply →
    reply.status = .delivering →
    ∃ attemptId attempt, reply.deliveryClaimId = some attemptId ∧
      view.attempts attemptId = some attempt ∧
        attempt.outboundMessageId = id ∧ attempt.status = .attempting

section Steps

variable {view view' : DeliveryView}

theorem fits_of_idle {attemptId : ChannelDeliveryAttemptId}
    {attempt : AttemptState} {reply reply' : ReplyState}
    (idle : reply.status.isIdle = true) (fits : Fits attemptId attempt reply) :
    Fits attemptId attempt reply' := by
  unfold Fits at fits ⊢
  cases status : attempt.status with
  | attempting =>
      simp only [status] at fits
      simp [fits.2.1, OutboundMessageStatus.isIdle] at idle
  | providerAccepted | outcomeUnknown =>
      simp only [status] at fits
      simp [fits.2, OutboundMessageStatus.isIdle] at idle
  | transientFailure | terminalFailure => trivial

theorem Consistent.created (consistent : view.Consistent)
    {outboundMessageId : OutboundChannelMessageId}
    (fresh : view.replies outboundMessageId = none) :
    Consistent { view with
      replies := Function.update view.replies outboundMessageId
        (some ⟨.pending, 0, none⟩) } := by
  exact
    { bounded := by
        intro id reply read
        rcases update_eq_some read with ⟨_, new⟩ | ⟨_, present⟩
        · rw [new]
          exact Nat.zero_le _
        · exact consistent.bounded id reply present
      numbered := by
        intro id reply number read positive below
        rcases update_eq_some read with ⟨_, new⟩ | ⟨_, present⟩
        · rw [new] at below
          exact (Nat.not_succ_le_zero 0 (positive.trans below)).elim
        · exact consistent.numbered id reply number present positive below
      attempts := by
        intro attemptId attempt present
        obtain ⟨reply, found, rest⟩ :=
          consistent.attempts attemptId attempt present
        exact ⟨reply, update_of_none fresh found, rest⟩
      distinct := consistent.distinct
      delivering := by
        intro id reply read delivering
        rcases update_eq_some read with ⟨_, new⟩ | ⟨_, present⟩
        · rw [new] at delivering
          cases delivering
        · exact consistent.delivering id reply present delivering }

theorem Consistent.rested (consistent : view.Consistent)
    {outboundMessageId : OutboundChannelMessageId} {reply reply' : ReplyState}
    (found : view.replies outboundMessageId = some reply)
    (idle : reply.status.isIdle = true) (idle' : reply'.status.isIdle = true)
    (same : reply'.deliveryAttempts = reply.deliveryAttempts) :
    Consistent { view with
      replies := Function.update view.replies outboundMessageId
        (some reply') } := by
  exact
    { bounded := by
        intro id read updated
        rcases update_eq_some updated with ⟨_, new⟩ | ⟨_, present⟩
        · rw [new, same]
          exact consistent.bounded outboundMessageId reply found
        · exact consistent.bounded id read present
      numbered := by
        intro id read number updated positive below
        rcases update_eq_some updated with ⟨key, new⟩ | ⟨_, present⟩
        · rw [new, same] at below
          rw [key]
          exact consistent.numbered outboundMessageId reply number found
            positive below
        · exact consistent.numbered id read number present positive below
      attempts := by
        intro attemptId attempt present
        obtain ⟨old, oldFound, positive, below, fits⟩ :=
          consistent.attempts attemptId attempt present
        by_cases key : attempt.outboundMessageId = outboundMessageId
        · rw [key, found] at oldFound
          cases oldFound
          refine ⟨reply', ?_, positive, same ▸ below, fits_of_idle idle fits⟩
          rw [key]
          exact Function.update_self ..
        · exact ⟨old, update_of_ne key oldFound, positive, below, fits⟩
      distinct := consistent.distinct
      delivering := by
        intro id read updated delivering
        rcases update_eq_some updated with ⟨_, new⟩ | ⟨_, present⟩
        · rw [new] at delivering
          simp [delivering, OutboundMessageStatus.isIdle] at idle'
        · exact consistent.delivering id read present delivering }

theorem Consistent.claimed (consistent : view.Consistent)
    {outboundMessageId : OutboundChannelMessageId} {reply : ReplyState}
    {attemptId : ChannelDeliveryAttemptId}
    (found : view.replies outboundMessageId = some reply)
    (pending : reply.status = .pending)
    (below : reply.deliveryAttempts <
      defaultTelegramDeliveryPolicy.maximumAttempts)
    (fresh : view.attempts attemptId = none) :
    Consistent
      { replies := Function.update view.replies outboundMessageId
          (some ⟨.delivering, reply.deliveryAttempts + 1, some attemptId⟩)
        attempts := Function.update view.attempts attemptId
          (some ⟨outboundMessageId, reply.deliveryAttempts + 1,
            .attempting⟩) } := by
  have idle : reply.status.isIdle = true := by rw [pending]; rfl
  -- the earlier attempts of the claimed reply have smaller numbers
  have smaller : ∀ other attempt, view.attempts other = some attempt →
      attempt.outboundMessageId = outboundMessageId →
      attempt.attemptNumber ≤ reply.deliveryAttempts := by
    intro other attempt present same
    obtain ⟨owner, ownerFound, _, numberBelow, _⟩ :=
      consistent.attempts other attempt present
    rw [same, found] at ownerFound
    cases ownerFound
    exact numberBelow
  exact
    { bounded := by
        intro id read updated
        rcases update_eq_some updated with ⟨_, new⟩ | ⟨_, present⟩
        · rw [new]
          exact below
        · exact consistent.bounded id read present
      numbered := by
        intro id read number updated positive numberBelow
        rcases update_eq_some updated with ⟨key, new⟩ | ⟨_, present⟩
        · rw [key]
          by_cases last : number = reply.deliveryAttempts + 1
          · exact ⟨attemptId, _, Function.update_self .., rfl, last.symm⟩
          · rw [new] at numberBelow
            change number ≤ reply.deliveryAttempts + 1 at numberBelow
            obtain ⟨other, attempt, made, rest⟩ := consistent.numbered
              outboundMessageId reply number found positive (by omega)
            exact ⟨other, attempt, update_of_none fresh made, rest⟩
        · obtain ⟨other, attempt, made, rest⟩ :=
            consistent.numbered id read number present positive numberBelow
          exact ⟨other, attempt, update_of_none fresh made, rest⟩
      attempts := by
        intro other attempt updated
        rcases update_eq_some updated with ⟨key, new⟩ | ⟨_, present⟩
        · rw [key, new]
          exact ⟨_, Function.update_self .., Nat.succ_pos _, le_refl _, rfl,
            rfl, rfl⟩
        · obtain ⟨owner, ownerFound, positive, numberBelow, fits⟩ :=
            consistent.attempts other attempt present
          by_cases key : attempt.outboundMessageId = outboundMessageId
          · rw [key, found] at ownerFound
            cases ownerFound
            refine ⟨⟨.delivering, reply.deliveryAttempts + 1, some attemptId⟩,
              ?_, positive, numberBelow.trans (Nat.le_succ _),
              fits_of_idle idle fits⟩
            rw [key]
            exact Function.update_self ..
          · exact ⟨owner, update_of_ne key ownerFound, positive, numberBelow,
              fits⟩
      distinct := by
        intro first second attempt attempt' read read' same number
        rcases update_eq_some read with ⟨key, new⟩ | ⟨_, present⟩
        · rcases update_eq_some read' with ⟨key', _⟩ | ⟨_, present'⟩
          · rw [key, key']
          · rw [new] at same number
            have old := smaller second attempt' present' same.symm
            change reply.deliveryAttempts + 1 = attempt'.attemptNumber at number
            omega
        · rcases update_eq_some read' with ⟨_, new'⟩ | ⟨_, present'⟩
          · rw [new'] at same number
            have old := smaller first attempt present same
            change attempt.attemptNumber = reply.deliveryAttempts + 1 at number
            omega
          · exact consistent.distinct first second attempt attempt' present
              present' same number
      delivering := by
        intro id read updated delivering
        rcases update_eq_some updated with ⟨key, new⟩ | ⟨_, present⟩
        · rw [key, new]
          exact ⟨attemptId, _, rfl, Function.update_self .., rfl, rfl⟩
        · obtain ⟨other, attempt, claim, made, rest⟩ :=
            consistent.delivering id read present delivering
          exact ⟨other, attempt, claim, update_of_none fresh made, rest⟩ }

/-- The attempt under which a reply is delivered is its last one. -/
theorem Consistent.leased (consistent : view.Consistent)
    {outboundMessageId : OutboundChannelMessageId} {reply : ReplyState}
    {attemptId : ChannelDeliveryAttemptId} {attempt : AttemptState}
    (found : view.replies outboundMessageId = some reply)
    (delivering : reply.status = .delivering)
    (claimed : reply.deliveryClaimId = some attemptId)
    (running : view.attempts attemptId = some attempt) :
    attempt.outboundMessageId = outboundMessageId ∧
      attempt.status = .attempting ∧
        attempt.attemptNumber = reply.deliveryAttempts := by
  obtain ⟨other, held, claim, made, same, attempting⟩ :=
    consistent.delivering outboundMessageId reply found delivering
  rw [claimed] at claim
  cases claim
  rw [running] at made
  cases made
  refine ⟨same, attempting, ?_⟩
  obtain ⟨owner, ownerFound, _, _, fits⟩ :=
    consistent.attempts attemptId attempt running
  rw [same, found] at ownerFound
  cases ownerFound
  simp only [Fits, attempting] at fits
  exact fits.1

/-- No other attempt of a delivering reply is running or possibly accepted. -/
theorem fits_of_other {attemptId other : ChannelDeliveryAttemptId}
    {attempt : AttemptState} {reply reply' : ReplyState}
    (delivering : reply.status = .delivering)
    (claimed : reply.deliveryClaimId = some attemptId)
    (different : other ≠ attemptId) (fits : Fits other attempt reply) :
    Fits other attempt reply' := by
  unfold Fits at fits ⊢
  cases status : attempt.status with
  | attempting =>
      simp only [status] at fits
      rw [claimed] at fits
      exact (different (Option.some.inj fits.2.2).symm).elim
  | providerAccepted | outcomeUnknown =>
      simp only [status] at fits
      rw [delivering] at fits
      cases fits.2
  | transientFailure | terminalFailure => trivial

theorem Consistent.ended (consistent : view.Consistent)
    {outboundMessageId : OutboundChannelMessageId} {reply : ReplyState}
    {attemptId : ChannelDeliveryAttemptId} {attempt : AttemptState}
    {attemptStatus : DeliveryAttemptStatus} {status : OutboundMessageStatus}
    (found : view.replies outboundMessageId = some reply)
    (delivering : reply.status = .delivering)
    (claimed : reply.deliveryClaimId = some attemptId)
    (running : view.attempts attemptId = some attempt)
    (ends : EndsAs attemptStatus status) :
    Consistent
      { replies := Function.update view.replies outboundMessageId
          (some ⟨status, reply.deliveryAttempts, none⟩)
        attempts := Function.update view.attempts attemptId
          (some { attempt with status := attemptStatus }) } := by
  obtain ⟨same, attempting, last⟩ :=
    consistent.leased found delivering claimed running
  have stays : ∀ other made, view.attempts other = some made →
      ∃ made', Function.update view.attempts attemptId
          (some { attempt with status := attemptStatus }) other = some made' ∧
        made'.outboundMessageId = made.outboundMessageId ∧
          made'.attemptNumber = made.attemptNumber := by
    intro other made present
    by_cases key : other = attemptId
    · subst key
      rw [running] at present
      cases present
      exact ⟨_, Function.update_self .., rfl, rfl⟩
    · exact ⟨made, update_of_ne key present, rfl, rfl⟩
  have earlier : ∀ other made, Function.update view.attempts attemptId
        (some { attempt with status := attemptStatus }) other = some made →
      ∃ old, view.attempts other = some old ∧
        old.outboundMessageId = made.outboundMessageId ∧
          old.attemptNumber = made.attemptNumber := by
    intro other made updated
    rcases update_eq_some updated with ⟨key, new⟩ | ⟨_, present⟩
    · rw [key, new]
      exact ⟨attempt, running, rfl, rfl⟩
    · exact ⟨made, present, rfl, rfl⟩
  exact
    { bounded := by
        intro id read updated
        rcases update_eq_some updated with ⟨_, new⟩ | ⟨_, present⟩
        · rw [new]
          exact consistent.bounded outboundMessageId reply found
        · exact consistent.bounded id read present
      numbered := by
        intro id read number updated positive below
        have numbers : ∃ other made, view.attempts other = some made ∧
            made.outboundMessageId = id ∧ made.attemptNumber = number := by
          rcases update_eq_some updated with ⟨key, new⟩ | ⟨_, present⟩
          · rw [new] at below
            rw [key]
            exact consistent.numbered outboundMessageId reply number found
              positive below
          · exact consistent.numbered id read number present positive below
        obtain ⟨other, made, present, ofReply, numbered⟩ := numbers
        obtain ⟨made', present', sameReply, sameNumber⟩ :=
          stays other made present
        exact ⟨other, made', present', sameReply.trans ofReply,
          sameNumber.trans numbered⟩
      attempts := by
        intro other made updated
        rcases update_eq_some updated with ⟨key, new⟩ | ⟨different, present⟩
        · subst key
          subst new
          have position : 1 ≤ attempt.attemptNumber := by
            obtain ⟨_, _, positive, _⟩ :=
              consistent.attempts other attempt running
            exact positive
          refine ⟨⟨status, reply.deliveryAttempts, none⟩, ?_, position,
            last.le, ?_⟩
          · change Function.update _ _ _ attempt.outboundMessageId = _
            rw [same]
            exact Function.update_self ..
          · cases ends with
            | accepted | unknown => exact ⟨last, rfl⟩
            | transient | terminal => trivial
        · obtain ⟨owner, ownerFound, positive, below, fits⟩ :=
            consistent.attempts other made present
          by_cases key : made.outboundMessageId = outboundMessageId
          · rw [key, found] at ownerFound
            cases ownerFound
            refine ⟨⟨status, reply.deliveryAttempts, none⟩, ?_, positive,
              below, fits_of_other delivering claimed different fits⟩
            rw [key]
            exact Function.update_self ..
          · exact ⟨owner, update_of_ne key ownerFound, positive, below, fits⟩
      distinct := by
        intro first second made made' read read' sameReply sameNumber
        obtain ⟨old, present, ofReply, number⟩ := earlier first made read
        obtain ⟨old', present', ofReply', number'⟩ :=
          earlier second made' read'
        exact consistent.distinct first second old old' present present'
          (ofReply.trans (sameReply.trans ofReply'.symm))
          (number.trans (sameNumber.trans number'.symm))
      delivering := by
        intro id read updated stillDelivering
        rcases update_eq_some updated with ⟨_, new⟩ | ⟨different, present⟩
        · rw [new] at stillDelivering
          cases ends <;> cases stillDelivering
        · obtain ⟨other, made, claim, held, ofReply, running'⟩ :=
            consistent.delivering id read present stillDelivering
          have otherAttempt : other ≠ attemptId := by
            intro key
            rw [key, running] at held
            cases held
            exact different (ofReply.symm.trans same)
          exact ⟨other, made, claim, update_of_ne otherAttempt held, ofReply,
            running'⟩ }

theorem Consistent.transition (consistent : view.Consistent)
    (transition : DeliveryTransition view view') : view'.Consistent := by
  cases transition with
  | idle => exact consistent
  | created fresh => exact consistent.created fresh
  | claimed found pending below fresh =>
      exact consistent.claimed found pending below fresh
  | ended found delivering claimed running ends =>
      exact consistent.ended found delivering claimed running ends
  | rested found idle idle' same =>
      exact consistent.rested found idle idle' same

/-- A reply that was accepted or whose outcome is unknown never changes. -/
theorem DeliveryTransition.settled
    (transition : DeliveryTransition view view')
    {outboundMessageId : OutboundChannelMessageId} {reply : ReplyState}
    (found : view.replies outboundMessageId = some reply)
    (settled : reply.status = .providerAccepted ∨
      reply.status = .outcomeUnknown) :
    view'.replies outboundMessageId = some reply := by
  have unchanged : ∀ (other : OutboundChannelMessageId) (old new : ReplyState),
      view.replies other = some old → old.status ≠ reply.status →
      Function.update view.replies other (some new) outboundMessageId =
        some reply := by
    intro other old new present different
    refine update_of_ne ?_ found
    intro key
    rw [← key, found] at present
    cases present
    exact different rfl
  cases transition with
  | idle => exact found
  | created fresh => exact update_of_none fresh found
  | claimed present pending =>
      refine unchanged _ _ _ present ?_
      rcases settled with same | same <;> simp [pending, same]
  | ended present delivering =>
      refine unchanged _ _ _ present ?_
      rcases settled with same | same <;> simp [delivering, same]
  | rested present idle =>
      refine unchanged _ _ _ present ?_
      intro same
      rcases settled with final | final <;>
        simp [same, final, OutboundMessageStatus.isIdle] at idle

end Steps

end DeliveryView

section Refinement

open DeliveryView

variable {db db' : ChannelDatabase}

theorem delivery_replies {outboundMessageId : OutboundChannelMessageId}
    {row : OutboundMessageRow}
    (found : db.messages.find? outboundMessageId = some row) :
    db.delivery.replies outboundMessageId = some row.delivery :=
  Option.map_eq_some_iff.mpr ⟨row, found, rfl⟩

theorem delivery_attempts {attemptId : ChannelDeliveryAttemptId}
    {row : DeliveryAttemptRow}
    (found : db.attempts.find? attemptId = some row) :
    db.delivery.attempts attemptId = some row.delivery :=
  Option.map_eq_some_iff.mpr ⟨row, found, rfl⟩

/-- Ending a running attempt rewrites exactly that attempt. -/
theorem find?_endAttempt {attemptId : ChannelDeliveryAttemptId}
    {condition : DeliveryAttemptRow → Bool}
    {set : DeliveryAttemptRow → DeliveryAttemptRow} {row : DeliveryAttemptRow}
    (found : db.attempts.find? attemptId = some row)
    (attempting : row.status = .attempting) (met : condition row = true)
    (other : ChannelDeliveryAttemptId) :
    (db.endAttempt attemptId condition set).attempts.find? other =
      if other = attemptId then some (set row)
      else db.attempts.find? other := by
  simp only [ChannelDatabase.endAttempt, Table.find?_updateWhere]
  split
  · rename_i same
    subst same
    simp [found, attempting, met]
  · rename_i different
    cases db.attempts.find? other with
    | none => rfl
    | some _ => simp [different]

/-- An attempt and its reply end together. -/
theorem ended_transition (consistent : db.delivery.Consistent)
    {outboundMessageId : OutboundChannelMessageId} {row : OutboundMessageRow}
    {attemptId : ChannelDeliveryAttemptId}
    {condition : DeliveryAttemptRow → Bool}
    {setAttempt : DeliveryAttemptRow → DeliveryAttemptRow}
    {setMessage : OutboundMessageRow → OutboundMessageRow}
    (found : db.messages.find? outboundMessageId = some row)
    (delivering : row.status = .delivering)
    (leased : row.deliveryClaimId = some attemptId)
    (met : ∀ attempt : DeliveryAttemptRow,
      attempt.outboundMessageId = outboundMessageId →
      condition attempt = true)
    (sameAttempt : ∀ attempt,
      (setAttempt attempt).outboundMessageId = attempt.outboundMessageId ∧
        (setAttempt attempt).attemptNumber = attempt.attemptNumber)
    (sameMessage :
      (setMessage row).deliveryAttempts = row.deliveryAttempts ∧
        (setMessage row).deliveryClaimId = none)
    (ends : ∀ attempt,
      EndsAs (setAttempt attempt).status (setMessage row).status) :
    DeliveryTransition db.delivery
      ((db.endAttempt attemptId condition setAttempt).setMessage
        outboundMessageId setMessage).delivery := by
  obtain ⟨other, attempt, claim, made, _, _⟩ :=
    consistent.delivering outboundMessageId row.delivery
      (delivery_replies found) delivering
  have sameClaim : other = attemptId :=
    Option.some.inj (claim.symm.trans leased)
  subst sameClaim
  obtain ⟨sameReply, attempting, _⟩ := consistent.leased
    (delivery_replies found) delivering leased made
  obtain ⟨attemptRow, running, rfl⟩ := Option.map_eq_some_iff.mp made
  have replies : (fun key => ((db.messages.modify outboundMessageId
        setMessage).find? key).map OutboundMessageRow.delivery) = _ :=
    Table.map_find?_modify_eq_update _ found
  have attempts : (fun key => ((db.endAttempt other condition
        setAttempt).attempts.find? key).map DeliveryAttemptRow.delivery) =
      Function.update (fun key => (db.attempts.find? key).map
        DeliveryAttemptRow.delivery) other
          (some (setAttempt attemptRow).delivery) := by
    funext key
    rw [find?_endAttempt running attempting (met attemptRow sameReply),
      Function.update_apply]
    split <;> rfl
  have view : ((db.endAttempt other condition setAttempt).setMessage
        outboundMessageId setMessage).delivery =
      { replies := Function.update db.delivery.replies outboundMessageId
          (some ⟨(setMessage row).status, row.delivery.deliveryAttempts, none⟩)
        attempts := Function.update db.delivery.attempts other
          (some { attemptRow.delivery with
            status := (setAttempt attemptRow).status }) } := by
    have newReply : (setMessage row).delivery =
        ⟨(setMessage row).status, row.deliveryAttempts, none⟩ := by
      simp only [OutboundMessageRow.delivery, sameMessage.1, sameMessage.2]
    have newAttempt : (setAttempt attemptRow).delivery =
        { attemptRow.delivery with
          status := (setAttempt attemptRow).status } := by
      simp only [DeliveryAttemptRow.delivery, (sameAttempt attemptRow).1,
        (sameAttempt attemptRow).2]
    rw [newReply] at replies
    rw [newAttempt] at attempts
    exact DeliveryView.mk.injEq .. |>.mpr ⟨replies, attempts⟩
  rw [view]
  exact .ended (delivery_replies found) delivering leased made
    (ends attemptRow)

theorem complete_endsAs (clock : DatabaseClock)
    (outcome : TelegramProviderAttemptOutcome) (row : OutboundMessageRow) :
    EndsAs outcome.attemptStatus (row.complete clock outcome).status := by
  cases outcome with
  | providerAccepted => exact .accepted
  | transientFailure => exact .transient
  | terminalFailure => exact .terminal
  | outcomeUnknown => exact .unknown

/-- A message moves between two statuses of rest. -/
theorem rested_transition {outboundMessageId : OutboundChannelMessageId}
    {row : OutboundMessageRow} {set : OutboundMessageRow → OutboundMessageRow}
    (found : db.messages.find? outboundMessageId = some row)
    (idle : row.status.isIdle = true) (idle' : (set row).status.isIdle = true)
    (same : (set row).deliveryAttempts = row.deliveryAttempts)
    (messages : db'.messages = db.messages.modify outboundMessageId set)
    (attempts : db'.attempts = db.attempts) :
    DeliveryTransition db.delivery db'.delivery := by
  have view : db'.delivery =
      { db.delivery with
        replies := Function.update db.delivery.replies outboundMessageId
          (some (set row).delivery) } := by
    simp only [ChannelDatabase.delivery, messages, attempts,
      Table.map_find?_modify_eq_update _ found]
  rw [view]
  exact .rested (delivery_replies found) idle idle' same

theorem ChannelChange.delivery (consistent : db.delivery.Consistent)
    (change : ChannelChange db db') :
    DeliveryTransition db.delivery db'.delivery := by
  cases change with
  | unchanged | linked | accepted | eventUpdated | recoveryPublished =>
      exact .idle
  | published publication =>
      obtain ⟨outbox, rfl, _⟩ := publication
      exact .idle
  | consumed _ consumption =>
      obtain ⟨receipts, rfl, _⟩ := consumption
      exact .idle
  | @completed clock ids input _ effect =>
      cases effect with
      | @completed row commands freshMessage =>
          have created : DeliveryTransition db.delivery
              { db.delivery with
                replies := Function.update db.delivery.replies ids.message
                  (some ⟨.pending, 0, none⟩) } := by
            apply DeliveryTransition.created
            simp [ChannelDatabase.delivery,
              Table.find?_eq_none_iff.mpr freshMessage]
          simp only [ChannelDatabase.delivery,
            Table.map_find?_push_eq_update] at created ⊢
          exact created
  | @replyClaimed clock attemptId outboundMessageId row fresh found pending
      below =>
      have view : ({ db with
            messages := db.messages.modify outboundMessageId
              (OutboundMessageRow.claim clock defaultTelegramDeliveryPolicy
                attemptId)
            attempts := db.attempts.push attemptId
              (newDeliveryAttempt clock outboundMessageId row) fresh } :
            ChannelDatabase).delivery =
          { replies := Function.update db.delivery.replies outboundMessageId
              (some ⟨.delivering, row.delivery.deliveryAttempts + 1,
                some attemptId⟩)
            attempts := Function.update db.delivery.attempts attemptId
              (some ⟨outboundMessageId, row.delivery.deliveryAttempts + 1,
                .attempting⟩) } := by
        simp only [ChannelDatabase.delivery,
          Table.map_find?_modify_eq_update _ found,
          Table.map_find?_push_eq_update]
        rfl
      rw [view]
      refine .claimed (delivery_replies found) pending below ?_
      simp [ChannelDatabase.delivery, Table.find?_eq_none_iff.mpr fresh]
  | @replyExpired clock outboundMessageId row found delivering =>
      obtain ⟨attemptId, _, leased, _⟩ :=
        consistent.delivering outboundMessageId row.delivery
          (delivery_replies found) delivering
      change row.deliveryClaimId = some attemptId at leased
      simp only [ChannelDatabase.endLeased, leased]
      exact ended_transition consistent found delivering leased
        (fun _ _ => rfl) (fun _ => ⟨rfl, rfl⟩) ⟨rfl, rfl⟩ (fun _ => .unknown)
  | @attemptCompleted clock input row found delivering leased =>
      refine ended_transition consistent found delivering leased ?_ ?_ ?_ ?_
      · intro attempt same
        simpa using same
      · intro attempt
        exact ⟨rfl, rfl⟩
      · cases input.outcome <;> exact ⟨rfl, rfl⟩
      · intro attempt
        exact complete_endsAs clock input.outcome row
  | replyExhausted found pending =>
      refine rested_transition found ?_ rfl rfl rfl rfl
      rw [pending]
      rfl
  | replyReopened fresh found failed =>
      refine rested_transition found ?_ rfl rfl rfl rfl
      rw [failed]
      rfl

end Refinement

theorem reachable_delivery {state : ChannelState}
    (reached : channelSystem.Reachable state) :
    state.database.delivery.Consistent := by
  refine reachable_of_change (I := fun db => db.delivery.Consistent)
    ?_ ?_ reached
  · intro users ledgers
    constructor <;> intros <;> contradiction
  · intro db db' consistent change
    exact consistent.transition (ChannelChange.delivery consistent change)

end XpensGo
