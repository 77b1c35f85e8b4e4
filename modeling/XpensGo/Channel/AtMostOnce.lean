import XpensGo.Channel.DeliveryAttempts

/-!
# Replies are delivered at most once

The requests to Telegram follow the attempts: each attempt makes at most one
request, and every request but the last one for a reply was explicitly
rejected.
-/

namespace XpensGo

open Postgres Relational Transition ChannelDatabase

section Sends

/-- Telegram may have accepted the request. -/
def TelegramProviderAttemptOutcome.possiblyAccepted :
    TelegramProviderAttemptOutcome → Bool
  | .providerAccepted _ | .outcomeUnknown _ => true
  | .transientFailure _ | .terminalFailure _ => false

/-- The reply that a job has claimed and not yet settled. -/
def JobPhase.heldReply : JobPhase → Option TelegramReplyClaimed
  | .sending claim | .completingAttempt claim _ => some claim
  | .claimingEvent | .processing _ _ | .claimingReply | .consuming
  | .ended => none

/-- Attempts keep their identity, and their status except that they may be
collected or take the given status. -/
def AttemptsKept (db db' : ChannelDatabase)
    (completed : ChannelDeliveryAttemptId → DeliveryAttemptStatus → Prop) :
    Prop :=
  ∀ attemptId row, db.attempts.find? attemptId = some row →
    ∃ row', db'.attempts.find? attemptId = some row' ∧
      row'.outboundMessageId = row.outboundMessageId ∧
        (row'.status = row.status ∨ row'.status = .outcomeUnknown ∨
          completed attemptId row'.status)

/-- Jobs that hold a reply held it before in the same phase, unless they are
excepted. -/
def HeldKept (state state' : ChannelState)
    (excepted : JobId → JobPhase → Prop) : Prop :=
  ∀ job current claim, state'.jobs.find? job = some current →
    current.phase.heldReply = some claim →
    excepted job current.phase ∨
      ∃ earlier, state.jobs.find? job = some earlier ∧
        earlier.phase = current.phase

/-- What a step does to attempts, held replies and requests to Telegram. -/
inductive SendStep (state state' : ChannelState) : Prop where
  | quiet :
      state'.sent = state.sent →
      AttemptsKept state.database state'.database (fun _ _ => False) →
      HeldKept state state' (fun _ _ => False) →
      SendStep state state'
  | claimed {job : JobId} {claim : TelegramReplyClaimed}
      {row : DeliveryAttemptRow} :
      state'.sent = state.sent →
      state.database.attempts.find? claim.attemptId = none →
      state'.database.attempts.find? claim.attemptId = some row →
      row.outboundMessageId = claim.outboundMessageId →
      row.status = .attempting →
      AttemptsKept state.database state'.database (fun _ _ => False) →
      HeldKept state state'
        (fun other phase => other = job ∧ phase = .sending claim) →
      SendStep state state'
  | sent {job : JobId} {current : OutboxJob} {claim : TelegramReplyClaimed}
      {outcome : TelegramProviderAttemptOutcome} :
      state.jobs.find? job = some current →
      current.phase = .sending claim →
      state'.sent = state.sent ++ [⟨claim, outcome⟩] →
      state'.database = state.database →
      (∀ other current', state'.jobs.find? other = some current' →
        (other = job ∧ current'.phase = .completingAttempt claim outcome) ∨
          (other ≠ job ∧ state.jobs.find? other = some current')) →
      SendStep state state'
  | completed {job : JobId} {current : OutboxJob}
      {claim : TelegramReplyClaimed}
      {outcome : TelegramProviderAttemptOutcome} :
      state.jobs.find? job = some current →
      current.phase = .completingAttempt claim outcome →
      state'.sent = state.sent →
      AttemptsKept state.database state'.database
        (fun attemptId status => attemptId = claim.attemptId ∧
          status = outcome.attemptStatus) →
      (∀ other current' held, state'.jobs.find? other = some current' →
        current'.phase.heldReply = some held →
        other ≠ job ∧ state.jobs.find? other = some current') →
      SendStep state state'

variable {state state' : ChannelState} {action : ChannelAction}

theorem AttemptsKept.refl {db : ChannelDatabase}
    {completed : ChannelDeliveryAttemptId → DeliveryAttemptStatus → Prop} :
    AttemptsKept db db completed :=
  fun _ row found => ⟨row, found, rfl, .inl rfl⟩

theorem attemptsKept_of_eq {db db' : ChannelDatabase}
    {completed : ChannelDeliveryAttemptId → DeliveryAttemptStatus → Prop}
    (same : db'.attempts = db.attempts) : AttemptsKept db db' completed := by
  intro attemptId row found
  exact ⟨row, same ▸ found, rfl, .inl rfl⟩

/-- A job that moves to a phase without a reply. -/
theorem heldKept_setJob {database : ChannelDatabase} {job : JobId}
    {phase : JobPhase} {records : List ProcessingRecord}
    (free : phase.heldReply = none) :
    HeldKept state
      ({ state with database := database }.setJob job phase records)
      (fun _ _ => False) := by
  intro other current claim found held
  rcases ChannelState.find?_setJob found with
    ⟨_, earlier, _, moved⟩ | ⟨_, present⟩
  · rw [moved] at held
    rw [free] at held
    cases held
  · exact .inr ⟨current, present, rfl⟩

theorem sendStep_of_quiet {database : ChannelDatabase} {job : JobId}
    {phase : JobPhase} {records : List ProcessingRecord}
    (same : database.attempts = state.database.attempts)
    (free : phase.heldReply = none) :
    SendStep state
      ({ state with database := database }.setJob job phase records) :=
  .quiet rfl (attemptsKept_of_eq same) (heldKept_setJob free)

theorem afterEventClaim_heldReply (seen : Option ClaimTelegramEventOutcome) :
    (JobPhase.afterEventClaim seen).heldReply = none := by
  cases seen with
  | none => rfl
  | some outcome => cases outcome <;> rfl

theorem afterIdentityCall_heldReply {α : Type} (claim : TelegramEventClaimed)
    (next : α → ProcessingStep) (seen : Option α) :
    (JobPhase.afterIdentityCall claim next seen).heldReply = none := by
  cases seen <;> rfl

theorem afterUserLimit_heldReply (claim : TelegramEventClaimed)
    (actor : ChannelActorContext) (next : LimitedStep)
    (seen : Option EnforceTelegramUserLimitOutcome) :
    (JobPhase.afterUserLimit claim actor next seen).heldReply = none := by
  cases seen with
  | none => rfl
  | some outcome => cases outcome <;> rfl

theorem afterCompletion_heldReply (seen : Option OutboundChannelMessageId) :
    (JobPhase.afterCompletion seen).heldReply = none := by
  cases seen <;> rfl

theorem afterAttempt_heldReply (outcome : TelegramProviderAttemptOutcome)
    (seen : Option Unit) :
    (JobPhase.afterAttempt outcome seen).heldReply = none := by
  cases seen with
  | none => rfl
  | some _ => cases outcome <;> rfl

theorem afterReplyClaim_heldReply {outcome : ClaimTelegramReplyOutcome}
    {seen : Option ClaimTelegramReplyOutcome} (saw : Seen seen outcome)
    (unclaimed : ∀ claim, outcome ≠ .claimed claim) :
    (JobPhase.afterReplyClaim seen).heldReply = none := by
  rcases saw with unseen | shown
  · rw [unseen]
    rfl
  · rw [shown]
    cases outcome with
    | claimed claim => exact (unclaimed claim rfl).elim
    | terminal | notFound | deferred => rfl

/-- Collecting a lease ends at most the leased attempt. -/
theorem attemptsKept_endLeased {db : ChannelDatabase}
    {row : OutboundMessageRow} {clock : DatabaseClock}
    {outboundMessageId : OutboundChannelMessageId}
    {set : OutboundMessageRow → OutboundMessageRow}
    {completed : ChannelDeliveryAttemptId → DeliveryAttemptStatus → Prop} :
    AttemptsKept db ((db.endLeased row
      (DeliveryAttemptRow.expire clock)).setMessage outboundMessageId set)
      completed := by
  intro attemptId attempt found
  unfold ChannelDatabase.endLeased
  split
  · change ∃ row', (Table.updateWhere _ _ _).find? attemptId = some row' ∧ _
    rw [Table.find?_updateWhere, found]
    simp only [Option.map_some]
    split
    · exact ⟨_, rfl, rfl, .inr (.inl rfl)⟩
    · exact ⟨_, rfl, rfl, .inl rfl⟩
  · exact ⟨attempt, found, rfl, .inl rfl⟩

theorem sendStep_of_replyClaim {job : JobId} {clock : DatabaseClock}
    {attemptId : ChannelDeliveryAttemptId} {outboxMessageId : OutboxMessageId}
    {outcome : ClaimTelegramReplyOutcome}
    {seen : Option ClaimTelegramReplyOutcome} {database : ChannelDatabase}
    (effect : ReplyClaimEffect clock defaultTelegramDeliveryPolicy attemptId
      outboxMessageId state.database outcome database)
    (saw : Seen seen outcome) :
    SendStep state ({ state with database := database }.setJob job
      (.afterReplyClaim seen) []) := by
  cases effect with
  | notFound | terminal | deferred =>
      refine sendStep_of_quiet rfl (afterReplyClaim_heldReply saw ?_)
      intro claim impossible
      cases impossible
  | exhausted =>
      refine sendStep_of_quiet rfl (afterReplyClaim_heldReply saw ?_)
      intro claim impossible
      cases impossible
  | expired =>
      refine .quiet rfl attemptsKept_endLeased
        (heldKept_setJob (afterReplyClaim_heldReply saw ?_))
      intro claim impossible
      cases impossible
  | @claimed outboundMessageId row fresh =>
      have kept : AttemptsKept state.database
          { state.database with
            messages := state.database.messages.modify outboundMessageId
              (OutboundMessageRow.claim clock defaultTelegramDeliveryPolicy
                attemptId)
            attempts := state.database.attempts.push attemptId
              (newDeliveryAttempt clock outboundMessageId row) fresh }
          (fun _ _ => False) := by
        intro other attempt found
        exact ⟨attempt, Table.find?_push_of_some fresh found, rfl, .inl rfl⟩
      rcases saw with unseen | shown
      · rw [unseen]
        exact .quiet rfl kept (heldKept_setJob rfl)
      · rw [shown]
        refine @SendStep.claimed state _ job
          { attemptId := attemptId
            outboundMessageId := outboundMessageId
            externalConversationId := row.externalConversationId
            intent := row.intent }
          (newDeliveryAttempt clock outboundMessageId row) rfl
          (Table.find?_eq_none_iff.mpr fresh)
          (Table.find?_push_self _ _ fresh) rfl rfl kept ?_
        intro other current claim found held
        rcases ChannelState.find?_setJob found with
          ⟨same, earlier, _, moved⟩ | ⟨_, present⟩
        · rw [moved]
          exact .inl ⟨same, rfl⟩
        · exact .inr ⟨current, present, rfl⟩

theorem sendStep_of_step (step : ChannelStep state action state') :
    SendStep state state' := by
  cases step with
  | environment kept jobs sent =>
      refine .quiet sent (attemptsKept_of_eq kept.attempts) ?_
      intro job current claim found _
      exact .inr ⟨current, jobs ▸ found, rfl⟩
  | recoveryMarked =>
      refine .quiet rfl (attemptsKept_of_eq rfl) ?_
      intro job current claim found _
      exact .inr ⟨current, found, rfl⟩
  | delivered =>
      refine .quiet rfl .refl ?_
      intro other current claim found held
      rcases Table.find?_insertMissing_cases found with earlier | ⟨_, _, rfl⟩
      · exact .inr ⟨current, earlier, rfl⟩
      · cases held
  | stopped _ stops =>
      refine sendStep_of_quiet rfl ?_
      rcases stops with ended | ⟨claim, _, _, released⟩
      · rw [ended]
        rfl
      · rw [released]
        rfl
  | @eventClaimed _ _ _ _ _ _ _ database seen _ _ effect =>
      refine sendStep_of_quiet ?_ (afterEventClaim_heldReply seen)
      cases effect with
      | notFound | duplicate | deferred | refused => rfl
      | suppressed _ _ _ windows | claimed _ _ _ windows =>
          obtain ⟨_, rfl⟩ := windows
          rfl
  | actorResolved | linkConsumed | unlinkConsumed =>
      exact sendStep_of_quiet rfl (afterIdentityCall_heldReply _ _ _)
  | limitEnforced _ _ effect =>
      refine sendStep_of_quiet ?_ (afterUserLimit_heldReply _ _ _ _)
      cases effect with
      | decided => rfl
      | allowed _ _ windows | suppressed _ _ windows =>
          obtain ⟨_, rfl⟩ := windows
          rfl
  | eventCompleted _ _ effect =>
      refine sendStep_of_quiet ?_ (afterCompletion_heldReply _)
      cases effect with
      | completed => rfl
  | eventReleased _ _ effect =>
      refine sendStep_of_quiet ?_ rfl
      cases effect with
      | ignored | released => rfl
  | replyClaimed _ _ effect saw => exact sendStep_of_replyClaim effect saw
  | @telegramSent job current claim outcome found phase =>
      refine .sent found phase rfl rfl ?_
      intro other current' present
      rcases ChannelState.find?_setJob present with
        ⟨same, earlier, _, moved⟩ | ⟨different, unmoved⟩
      · rw [moved]
        exact .inl ⟨same, rfl⟩
      · exact .inr ⟨different, unmoved⟩
  | @attemptCompleted job current fate clock claim outcome row seen found
      phase =>
      refine .completed found phase rfl ?_ ?_
      · intro attemptId attempt present
        change ∃ row', (Table.updateWhere _ _ _).find? attemptId =
          some row' ∧ _
        rw [Table.find?_updateWhere, present]
        simp only [Option.map_some]
        split
        · rename_i met
          simp only [Bool.and_eq_true, decide_eq_true_eq] at met
          exact ⟨_, rfl, rfl, .inr (.inr ⟨met.1.1, rfl⟩)⟩
        · exact ⟨_, rfl, rfl, .inl rfl⟩
      · intro other current' held present holds
        rcases ChannelState.find?_setJob present with
          ⟨_, earlier, _, moved⟩ | ⟨different, unmoved⟩
        · rw [moved] at holds
          rw [afterAttempt_heldReply] at holds
          cases holds
        · exact ⟨different, unmoved⟩
  | consumptionRecorded _ _ _ recorded =>
      refine sendStep_of_quiet ?_ rfl
      rcases recorded with same | ⟨_, receipts, rfl, _⟩
      · rw [same]
      · rfl

end Sends

section SendHistory

variable {state state' : ChannelState}

/-- How the requests to Telegram and the jobs that make them relate to the
attempts. -/
structure SendsConsistent (state : ChannelState) : Prop where
  recorded : ∀ send ∈ state.sent, ∃ row,
    state.database.attempts.find? send.claim.attemptId = some row ∧
      row.outboundMessageId = send.claim.outboundMessageId ∧
        (row.status = .attempting ∨ row.status = send.outcome.attemptStatus ∨
          row.status = .outcomeUnknown)
  distinct : (state.sent.map (·.claim.attemptId)).Nodup
  ordered : state.sent.Pairwise (fun earlier later =>
    earlier.claim.outboundMessageId = later.claim.outboundMessageId →
    earlier.outcome.possiblyAccepted = false)
  sending : ∀ job current claim, state.jobs.find? job = some current →
    current.phase = .sending claim →
    claim.attemptId ∉ state.sent.map (·.claim.attemptId) ∧
      ∃ row, state.database.attempts.find? claim.attemptId = some row ∧
        row.outboundMessageId = claim.outboundMessageId ∧
          (row.status = .attempting ∨ row.status = .outcomeUnknown)
  completing : ∀ job current claim outcome,
    state.jobs.find? job = some current →
    current.phase = .completingAttempt claim outcome →
    ⟨claim, outcome⟩ ∈ state.sent
  holders : ∀ job job' current current' claim claim',
    state.jobs.find? job = some current →
    state.jobs.find? job' = some current' →
    current.phase.heldReply = some claim →
    current'.phase.heldReply = some claim' →
    claim.attemptId = claim'.attemptId → job = job'

/-- The attempt of a reply that a job holds exists. -/
theorem SendsConsistent.held (consistent : SendsConsistent state)
    {job : JobId} {current : OutboxJob} {claim : TelegramReplyClaimed}
    (found : state.jobs.find? job = some current)
    (holds : current.phase.heldReply = some claim) :
    ∃ row, state.database.attempts.find? claim.attemptId = some row := by
  cases phase : current.phase with
  | sending sendingClaim =>
      rw [phase] at holds
      cases holds
      obtain ⟨_, row, made, _⟩ :=
        consistent.sending job current claim found phase
      exact ⟨row, made⟩
  | completingAttempt completingClaim outcome =>
      rw [phase] at holds
      cases holds
      obtain ⟨row, made, _⟩ := consistent.recorded _
        (consistent.completing job current claim outcome found phase)
      exact ⟨row, made⟩
  | claimingEvent | processing | claimingReply | consuming | ended =>
      rw [phase] at holds
      cases holds

/-- Requests keep their attempts when attempts are kept. -/
theorem SendsConsistent.recorded_of_kept (consistent : SendsConsistent state)
    (kept : AttemptsKept state.database state'.database (fun _ _ => False)) :
    ∀ send ∈ state.sent, ∃ row,
      state'.database.attempts.find? send.claim.attemptId = some row ∧
        row.outboundMessageId = send.claim.outboundMessageId ∧
          (row.status = .attempting ∨ row.status = send.outcome.attemptStatus ∨
            row.status = .outcomeUnknown) := by
  intro send member
  obtain ⟨row, made, same, status⟩ := consistent.recorded send member
  obtain ⟨row', made', same', changed⟩ := kept _ row made
  refine ⟨row', made', same'.trans same, ?_⟩
  rcases changed with unchanged | unknown | impossible
  · rw [unchanged]
    exact status
  · exact .inr (.inr unknown)
  · exact impossible.elim

/-- A running or collected attempt stays running or collected. -/
theorem SendsConsistent.sending_of_kept (consistent : SendsConsistent state)
    (kept : AttemptsKept state.database state'.database (fun _ _ => False))
    {job : JobId} {current : OutboxJob} {claim : TelegramReplyClaimed}
    (found : state.jobs.find? job = some current)
    (phase : current.phase = .sending claim) :
    claim.attemptId ∉ state.sent.map (·.claim.attemptId) ∧
      ∃ row, state'.database.attempts.find? claim.attemptId = some row ∧
        row.outboundMessageId = claim.outboundMessageId ∧
          (row.status = .attempting ∨ row.status = .outcomeUnknown) := by
  obtain ⟨unsent, row, made, same, status⟩ :=
    consistent.sending job current claim found phase
  obtain ⟨row', made', same', changed⟩ := kept _ row made
  refine ⟨unsent, row', made', same'.trans same, ?_⟩
  rcases changed with unchanged | unknown | impossible
  · rw [unchanged]
    exact status
  · exact .inr unknown
  · exact impossible.elim

theorem SendsConsistent.quiet (consistent : SendsConsistent state)
    (sent : state'.sent = state.sent)
    (kept : AttemptsKept state.database state'.database (fun _ _ => False))
    (held : HeldKept state state' (fun _ _ => False)) :
    SendsConsistent state' := by
  have before : ∀ job current claim, state'.jobs.find? job = some current →
      current.phase.heldReply = some claim →
      ∃ earlier, state.jobs.find? job = some earlier ∧
        earlier.phase = current.phase := by
    intro job current claim found holds
    rcases held job current claim found holds with impossible | earlier
    · exact impossible.elim
    · exact earlier
  exact
    { recorded := by
        rw [sent]
        exact consistent.recorded_of_kept kept
      distinct := by
        rw [sent]
        exact consistent.distinct
      ordered := by
        rw [sent]
        exact consistent.ordered
      sending := by
        intro job current claim found phase
        obtain ⟨earlier, present, same⟩ :=
          before job current claim found (by rw [phase]; rfl)
        rw [sent]
        exact consistent.sending_of_kept kept present (same.trans phase)
      completing := by
        intro job current claim outcome found phase
        obtain ⟨earlier, present, same⟩ :=
          before job current claim found (by rw [phase]; rfl)
        rw [sent]
        exact consistent.completing job earlier claim outcome present
          (same.trans phase)
      holders := by
        intro job job' current current' claim claim' found found' holds holds'
          same
        obtain ⟨earlier, present, phase⟩ :=
          before job current claim found holds
        obtain ⟨earlier', present', phase'⟩ :=
          before job' current' claim' found' holds'
        exact consistent.holders job job' earlier earlier' claim claim' present
          present' (phase ▸ holds) (phase' ▸ holds') same }

theorem SendsConsistent.claimed (consistent : SendsConsistent state)
    {job : JobId} {claim : TelegramReplyClaimed} {row : DeliveryAttemptRow}
    (sent : state'.sent = state.sent)
    (fresh : state.database.attempts.find? claim.attemptId = none)
    (made : state'.database.attempts.find? claim.attemptId = some row)
    (reply : row.outboundMessageId = claim.outboundMessageId)
    (attempting : row.status = .attempting)
    (kept : AttemptsKept state.database state'.database (fun _ _ => False))
    (held : HeldKept state state'
      (fun other phase => other = job ∧ phase = .sending claim)) :
    SendsConsistent state' := by
  have unsent : claim.attemptId ∉ state.sent.map (·.claim.attemptId) := by
    intro member
    obtain ⟨send, sendMember, same⟩ := List.mem_map.mp member
    obtain ⟨earlier, found, _⟩ := consistent.recorded send sendMember
    rw [same, fresh] at found
    cases found
  have others : ∀ job earlier held, state.jobs.find? job = some earlier →
      earlier.phase.heldReply = some held →
      held.attemptId ≠ claim.attemptId := by
    intro job earlier held present holds same
    obtain ⟨attempt, found⟩ := consistent.held present holds
    rw [same, fresh] at found
    cases found
  exact
    { recorded := by
        rw [sent]
        exact consistent.recorded_of_kept kept
      distinct := by
        rw [sent]
        exact consistent.distinct
      ordered := by
        rw [sent]
        exact consistent.ordered
      sending := by
        intro other current otherClaim found phase
        rw [sent]
        rcases held other current otherClaim found (by rw [phase]; rfl) with
          ⟨_, new⟩ | ⟨earlier, present, same⟩
        · rw [phase] at new
          cases new
          exact ⟨unsent, row, made, reply, .inl attempting⟩
        · exact consistent.sending_of_kept kept present (same.trans phase)
      completing := by
        intro other current otherClaim outcome found phase
        rw [sent]
        rcases held other current otherClaim found (by rw [phase]; rfl) with
          ⟨_, new⟩ | ⟨earlier, present, same⟩
        · rw [phase] at new
          cases new
        · exact consistent.completing other earlier otherClaim outcome present
            (same.trans phase)
      holders := by
        intro first second current current' firstClaim secondClaim found found'
          holds holds' same
        rcases held first current firstClaim found holds with
          ⟨named, new⟩ | ⟨earlier, present, phase⟩
        · rcases held second current' secondClaim found' holds' with
            ⟨named', _⟩ | ⟨earlier', present', phase'⟩
          · rw [named, named']
          · rw [new] at holds
            cases holds
            exact (others second earlier' secondClaim present'
              (phase' ▸ holds') same.symm).elim
        · rcases held second current' secondClaim found' holds' with
            ⟨_, new'⟩ | ⟨earlier', present', phase'⟩
          · rw [new'] at holds'
            cases holds'
            exact (others first earlier firstClaim present
              (phase ▸ holds) same).elim
          · exact consistent.holders first second earlier earlier' firstClaim
              secondClaim present present' (phase ▸ holds) (phase' ▸ holds')
              same }

/-- Requests with a running or collected attempt come after none that Telegram
may have accepted. -/
theorem SendsConsistent.rejected_before (consistent : SendsConsistent state)
    (delivery : state.database.delivery.Consistent) {job : JobId}
    {current : OutboxJob} {claim : TelegramReplyClaimed}
    (found : state.jobs.find? job = some current)
    (phase : current.phase = .sending claim) {send : TelegramSend}
    (member : send ∈ state.sent)
    (same : send.claim.outboundMessageId = claim.outboundMessageId) :
    send.outcome.possiblyAccepted = false := by
  obtain ⟨unsent, row, made, reply, status⟩ :=
    consistent.sending job current claim found phase
  obtain ⟨sentRow, sentMade, sentReply, sentStatus⟩ :=
    consistent.recorded send member
  by_contra possible
  have accepted : send.outcome.possiblyAccepted = true := by
    simpa using possible
  -- both attempts are the last attempt of the reply
  have last : ∀ {attemptId attempt}, state.database.attempts.find? attemptId =
      some attempt → attempt.status ≠ .transientFailure →
      attempt.status ≠ .terminalFailure → ∃ owner,
        state.database.delivery.replies attempt.outboundMessageId =
          some owner ∧ attempt.attemptNumber = owner.deliveryAttempts := by
    intro attemptId attempt present notTransient notTerminal
    obtain ⟨owner, ownerFound, _, _, fits⟩ :=
      delivery.attempts attemptId attempt.delivery (delivery_attempts present)
    refine ⟨owner, ownerFound, ?_⟩
    cases ended : attempt.delivery.status with
    | attempting | providerAccepted | outcomeUnknown =>
        simp only [DeliveryView.Fits, ended] at fits
        exact fits.1
    | transientFailure => exact (notTransient ended).elim
    | terminalFailure => exact (notTerminal ended).elim
  have running : row.status ≠ .transientFailure ∧
      row.status ≠ .terminalFailure := by
    rcases status with attempting | unknown
    · simp [attempting]
    · simp [unknown]
  have sentRunning : sentRow.status ≠ .transientFailure ∧
      sentRow.status ≠ .terminalFailure := by
    rcases sentStatus with attempting | ended | unknown
    · simp [attempting]
    · rw [ended]
      cases outcome : send.outcome with
      | providerAccepted | outcomeUnknown =>
          simp [TelegramProviderAttemptOutcome.attemptStatus]
      | transientFailure | terminalFailure =>
          rw [outcome] at accepted
          cases accepted
    · simp [unknown]
  obtain ⟨owner, ownerFound, number⟩ := last made running.1 running.2
  obtain ⟨sentOwner, sentOwnerFound, sentNumber⟩ :=
    last sentMade sentRunning.1 sentRunning.2
  have sameReply : sentRow.outboundMessageId = row.outboundMessageId :=
    sentReply.trans (same.trans reply.symm)
  rw [sameReply, ownerFound] at sentOwnerFound
  cases sentOwnerFound
  have sameAttempt := delivery.distinct send.claim.attemptId claim.attemptId
    sentRow.delivery row.delivery (delivery_attempts sentMade)
    (delivery_attempts made) sameReply (sentNumber.trans number.symm)
  exact unsent (List.mem_map.mpr ⟨send, member, sameAttempt⟩)

theorem SendsConsistent.sent (consistent : SendsConsistent state)
    (delivery : state.database.delivery.Consistent) {job : JobId}
    {current : OutboxJob} {claim : TelegramReplyClaimed}
    {outcome : TelegramProviderAttemptOutcome}
    (found : state.jobs.find? job = some current)
    (phase : current.phase = .sending claim)
    (sent : state'.sent = state.sent ++ [⟨claim, outcome⟩])
    (same : state'.database = state.database)
    (jobs : ∀ other current', state'.jobs.find? other = some current' →
      (other = job ∧ current'.phase = .completingAttempt claim outcome) ∨
        (other ≠ job ∧ state.jobs.find? other = some current')) :
    SendsConsistent state' := by
  obtain ⟨unsent, row, made, reply, status⟩ :=
    consistent.sending job current claim found phase
  have holds : current.phase.heldReply = some claim := by rw [phase]; rfl
  exact
    { recorded := by
        intro send member
        rw [sent] at member
        rw [same]
        rcases List.mem_append.mp member with earlier | last
        · exact consistent.recorded send earlier
        · cases List.mem_singleton.mp last
          refine ⟨row, made, reply, ?_⟩
          rcases status with attempting | unknown
          · exact .inl attempting
          · exact .inr (.inr unknown)
      distinct := by
        rw [sent, List.map_append, List.nodup_append]
        refine ⟨consistent.distinct, by simp, ?_⟩
        intro first firstMember second secondMember equal
        have secondClaim : second = claim.attemptId := by
          simpa using secondMember
        exact unsent (secondClaim ▸ equal ▸ firstMember)
      ordered := by
        rw [sent, List.pairwise_append]
        refine ⟨consistent.ordered, List.pairwise_singleton _ _, ?_⟩
        intro send member last lastMember sameReply
        cases List.mem_singleton.mp lastMember
        exact consistent.rejected_before delivery found phase member sameReply
      sending := by
        intro other current' otherClaim present otherPhase
        rcases jobs other current' present with
          ⟨_, moved⟩ | ⟨different, unmoved⟩
        · rw [moved] at otherPhase
          cases otherPhase
        · obtain ⟨otherUnsent, rest⟩ :=
            consistent.sending other current' otherClaim unmoved otherPhase
          rw [same]
          refine ⟨?_, rest⟩
          rw [sent, List.map_append, List.mem_append]
          rintro (earlier | last)
          · exact otherUnsent earlier
          · have sameAttempt : otherClaim.attemptId = claim.attemptId := by
              simpa using last
            exact different (consistent.holders other job current' current
              otherClaim claim unmoved found (by rw [otherPhase]; rfl) holds
              sameAttempt)
      completing := by
        intro other current' otherClaim otherOutcome present otherPhase
        rw [sent]
        rcases jobs other current' present with ⟨_, moved⟩ | ⟨_, unmoved⟩
        · rw [moved] at otherPhase
          cases otherPhase
          simp
        · exact List.mem_append_left _ (consistent.completing other current'
            otherClaim otherOutcome unmoved otherPhase)
      holders := by
        intro first second current₁ current₂ claim₁ claim₂ found₁ found₂ holds₁
          holds₂ sameAttempt
        rcases jobs first current₁ found₁ with
          ⟨named, moved⟩ | ⟨_, unmoved⟩
        · rw [moved] at holds₁
          cases holds₁
          rcases jobs second current₂ found₂ with
            ⟨named', _⟩ | ⟨_, unmoved'⟩
          · rw [named, named']
          · rw [named]
            exact consistent.holders job second current current₂ claim claim₂
              found unmoved' holds holds₂ sameAttempt
        · rcases jobs second current₂ found₂ with
            ⟨named', moved'⟩ | ⟨_, unmoved'⟩
          · rw [moved'] at holds₂
            cases holds₂
            rw [named']
            exact consistent.holders first job current₁ current claim₁ claim
              unmoved found holds₁ holds sameAttempt
          · exact consistent.holders first second current₁ current₂ claim₁
              claim₂ unmoved unmoved' holds₁ holds₂ sameAttempt }

theorem SendsConsistent.completed (consistent : SendsConsistent state)
    {job : JobId} {current : OutboxJob} {claim : TelegramReplyClaimed}
    {outcome : TelegramProviderAttemptOutcome}
    (found : state.jobs.find? job = some current)
    (phase : current.phase = .completingAttempt claim outcome)
    (sent : state'.sent = state.sent)
    (kept : AttemptsKept state.database state'.database
      (fun attemptId status => attemptId = claim.attemptId ∧
        status = outcome.attemptStatus))
    (jobs : ∀ other current' held, state'.jobs.find? other = some current' →
      current'.phase.heldReply = some held →
      other ≠ job ∧ state.jobs.find? other = some current') :
    SendsConsistent state' := by
  have holds : current.phase.heldReply = some claim := by rw [phase]; rfl
  have own := consistent.completing job current claim outcome found phase
  exact
    { recorded := by
        intro send member
        rw [sent] at member
        obtain ⟨row, made, same, status⟩ := consistent.recorded send member
        obtain ⟨row', made', same', changed⟩ := kept _ row made
        refine ⟨row', made', same'.trans same, ?_⟩
        rcases changed with unchanged | unknown | ⟨ownAttempt, ended⟩
        · rw [unchanged]
          exact status
        · exact .inr (.inr unknown)
        · have sameSend : send = ⟨claim, outcome⟩ :=
            List.inj_on_of_nodup_map consistent.distinct member own ownAttempt
          rw [sameSend]
          exact .inr (.inl ended)
      distinct := by
        rw [sent]
        exact consistent.distinct
      ordered := by
        rw [sent]
        exact consistent.ordered
      sending := by
        intro other current' otherClaim present otherPhase
        obtain ⟨different, unmoved⟩ :=
          jobs other current' otherClaim present (by rw [otherPhase]; rfl)
        obtain ⟨unsent, row, made, same, status⟩ :=
          consistent.sending other current' otherClaim unmoved otherPhase
        rw [sent]
        obtain ⟨row', made', same', changed⟩ := kept _ row made
        refine ⟨unsent, row', made', same'.trans same, ?_⟩
        rcases changed with unchanged | unknown | ⟨ownAttempt, _⟩
        · rw [unchanged]
          exact status
        · exact .inr unknown
        · exact (different (consistent.holders other job current' current
            otherClaim claim unmoved found (by rw [otherPhase]; rfl) holds
            ownAttempt)).elim
      completing := by
        intro other current' otherClaim otherOutcome present otherPhase
        obtain ⟨_, unmoved⟩ :=
          jobs other current' otherClaim present (by rw [otherPhase]; rfl)
        rw [sent]
        exact consistent.completing other current' otherClaim otherOutcome
          unmoved otherPhase
      holders := by
        intro first second current₁ current₂ claim₁ claim₂ found₁ found₂ holds₁
          holds₂ sameAttempt
        exact consistent.holders first second current₁ current₂ claim₁ claim₂
          (jobs first current₁ claim₁ found₁ holds₁).2
          (jobs second current₂ claim₂ found₂ holds₂).2 holds₁ holds₂
          sameAttempt }

theorem reachable_sends {state : ChannelState}
    (reached : channelSystem.Reachable state) : SendsConsistent state := by
  refine System.Reachable.invariant (I := SendsConsistent) ?_ ?_ reached
  · rintro state ⟨users, ledgers, rfl⟩
    exact
      { recorded := by simp
        distinct := List.nodup_nil
        ordered := .nil
        sending := by simp
        completing := by simp
        holders := by simp }
  · intro state action state' reached consistent taken
    cases sendStep_of_step (channelStep_of_next taken) with
    | quiet sent kept held => exact consistent.quiet sent kept held
    | claimed sent fresh made reply attempting kept held =>
        exact consistent.claimed sent fresh made reply attempting kept held
    | sent found phase sent same jobs =>
        exact consistent.sent (reachable_delivery reached) found phase sent
          same jobs
    | completed found phase sent kept jobs =>
        exact consistent.completed found phase sent kept jobs

end SendHistory

section Deliveries

/-- The attempts of a reply are numbered from one to its count, and at most the
attempt under which it is delivered is running. -/
structure AttemptsNumbered (db : ChannelDatabase)
    (outboundMessageId : OutboundChannelMessageId) (row : OutboundMessageRow) :
    Prop where
  bounded : row.deliveryAttempts ≤
    defaultTelegramDeliveryPolicy.maximumAttempts
  numbers : ∀ number, (1 ≤ number ∧ number ≤ row.deliveryAttempts) ↔
    ∃! attemptId, ∃ attempt, db.attempts.find? attemptId = some attempt ∧
      attempt.outboundMessageId = outboundMessageId ∧
        attempt.attemptNumber = number
  running : ∀ attemptId attempt, db.attempts.find? attemptId = some attempt →
    attempt.outboundMessageId = outboundMessageId →
    (attempt.status = .attempting ↔
      row.status = .delivering ∧ row.deliveryClaimId = some attemptId)
  delivering : row.status = .delivering → ∃ attemptId attempt,
    row.deliveryClaimId = some attemptId ∧
      db.attempts.find? attemptId = some attempt ∧
        attempt.outboundMessageId = outboundMessageId ∧
          attempt.status = .attempting

/-- An attempt of the reply was accepted, or its outcome is not known. -/
def PossiblyDelivered (db : ChannelDatabase)
    (outboundMessageId : OutboundChannelMessageId) : Prop :=
  ∃ attemptId attempt, db.attempts.find? attemptId = some attempt ∧
    attempt.outboundMessageId = outboundMessageId ∧
      (attempt.status = .providerAccepted ∨ attempt.status = .outcomeUnknown)

/-- The reply has this status for good, and no claim on it succeeds. -/
structure Closed (db : ChannelDatabase)
    (outboundMessageId : OutboundChannelMessageId)
    (status : OutboundMessageStatus) : Prop where
  status : ∃ row, db.messages.find? outboundMessageId = some row ∧
    row.status = status
  unclaimed : ∀ clock workerNow policy attemptId outboxMessageId claim db',
    claimTelegramReply clock workerNow policy attemptId outboxMessageId db =
      .ok (.claimed claim, db') →
    claim.outboundMessageId ≠ outboundMessageId

/-- What was sent to the provider for a reply. -/
def sendsOf (state : ChannelState)
    (outboundMessageId : OutboundChannelMessageId) : List TelegramSend :=
  state.sent.filter (fun send =>
    send.claim.outboundMessageId = outboundMessageId)

variable {state state' : ChannelState} {db : ChannelDatabase}
  {outboundMessageId : OutboundChannelMessageId} {row : OutboundMessageRow}

theorem attempts_numbered (consistent : db.delivery.Consistent)
    (found : db.messages.find? outboundMessageId = some row) :
    AttemptsNumbered db outboundMessageId row := by
  have reply := delivery_replies found
  exact
    { bounded := consistent.bounded outboundMessageId row.delivery reply
      numbers := by
        intro number
        constructor
        · rintro ⟨positive, below⟩
          obtain ⟨attemptId, attempt, made, same, numbered⟩ :=
            consistent.numbered outboundMessageId row.delivery number reply
              positive below
          obtain ⟨attemptRow, present, rfl⟩ := Option.map_eq_some_iff.mp made
          refine ⟨attemptId, ⟨attemptRow, present, same, numbered⟩, ?_⟩
          rintro other ⟨otherRow, otherPresent, otherSame, otherNumbered⟩
          exact consistent.distinct other attemptId otherRow.delivery
            attemptRow.delivery (delivery_attempts otherPresent) made
            (otherSame.trans same.symm) (otherNumbered.trans numbered.symm)
        · rintro ⟨attemptId, ⟨attempt, present, same, numbered⟩, _⟩
          obtain ⟨owner, ownerFound, positive, below, _⟩ :=
            consistent.attempts attemptId attempt.delivery
              (delivery_attempts present)
          change db.delivery.replies attempt.outboundMessageId = _
            at ownerFound
          rw [same, reply] at ownerFound
          cases ownerFound
          exact ⟨numbered ▸ positive, numbered ▸ below⟩
      running := by
        intro attemptId attempt present same
        obtain ⟨owner, ownerFound, _, _, fits⟩ :=
          consistent.attempts attemptId attempt.delivery
            (delivery_attempts present)
        change db.delivery.replies attempt.outboundMessageId = _
          at ownerFound
        rw [same, reply] at ownerFound
        cases ownerFound
        constructor
        · intro attempting
          have delivered : attempt.delivery.status = .attempting := attempting
          simp only [DeliveryView.Fits, delivered] at fits
          exact fits.2
        · rintro ⟨delivering, leased⟩
          exact (consistent.leased reply delivering leased
            (delivery_attempts present)).2.1
      delivering := by
        intro delivering
        obtain ⟨attemptId, attempt, leased, made, same, attempting⟩ :=
          consistent.delivering outboundMessageId row.delivery reply delivering
        obtain ⟨attemptRow, present, rfl⟩ := Option.map_eq_some_iff.mp made
        exact ⟨attemptId, attemptRow, leased, present, same, attempting⟩ }

theorem settled_of_possiblyDelivered (consistent : db.delivery.Consistent)
    (found : db.messages.find? outboundMessageId = some row)
    (delivered : PossiblyDelivered db outboundMessageId) :
    row.status = .providerAccepted ∨ row.status = .outcomeUnknown := by
  obtain ⟨attemptId, attempt, present, same, status⟩ := delivered
  obtain ⟨owner, ownerFound, _, _, fits⟩ :=
    consistent.attempts attemptId attempt.delivery (delivery_attempts present)
  change db.delivery.replies attempt.outboundMessageId = _ at ownerFound
  rw [same, delivery_replies found] at ownerFound
  cases ownerFound
  rcases status with accepted | unknown
  · have ended : attempt.delivery.status = .providerAccepted := accepted
    simp only [DeliveryView.Fits, ended] at fits
    exact .inl fits.2
  · have ended : attempt.delivery.status = .outcomeUnknown := unknown
    simp only [DeliveryView.Fits, ended] at fits
    exact .inr fits.2

/-- A settled reply stays settled along every run. -/
theorem settled_forever (reached : channelSystem.Reachable state)
    (found : state.database.messages.find? outboundMessageId = some row)
    (settled : row.status = .providerAccepted ∨ row.status = .outcomeUnknown)
    {labels : List ChannelAction}
    (ran : channelSystem.run state labels = some state') :
    ∃ row', state'.database.messages.find? outboundMessageId = some row' ∧
      row'.status = row.status := by
  have kept : state'.database.delivery.replies outboundMessageId =
      some row.delivery := by
    refine System.run_preserves (I := fun state =>
      state.database.delivery.replies outboundMessageId = some row.delivery)
      ?_ reached (delivery_replies found) ran
    intro state action state' reached present taken
    exact (ChannelChange.delivery (reachable_delivery reached)
      (channelChange_of_next taken)).settled present settled
  obtain ⟨row', present, same⟩ := Option.map_eq_some_iff.mp kept
  exact ⟨row', present, congrArg ReplyState.status same⟩

theorem closed_of_settled
    (found : db.messages.find? outboundMessageId = some row)
    (settled : row.status = .providerAccepted ∨
      row.status = .outcomeUnknown) :
    Closed db outboundMessageId row.status := by
  refine { status := ⟨row, found, rfl⟩, unclaimed := ?_ }
  intro clock workerNow policy attemptId outboxMessageId claim db' ran same
  cases claimTelegramReply_eq_ok ran with
  | @claimed messageId message fresh requested pending =>
      obtain ⟨_, present⟩ := requestedReply_eq_some.mp requested
      have sameReply : messageId = outboundMessageId := same
      rw [sameReply, found] at present
      cases present
      rcases settled with accepted | unknown
      · simp [accepted] at pending
      · simp [unknown] at pending

theorem sendsOf_length_le (consistent : SendsConsistent state)
    (delivery : state.database.delivery.Consistent)
    (found : state.database.messages.find? outboundMessageId = some row) :
    (sendsOf state outboundMessageId).length ≤ row.deliveryAttempts := by
  let number : ChannelDeliveryAttemptId → Nat := fun attemptId =>
    ((state.database.attempts.find? attemptId).map
      (·.attemptNumber)).getD 0
  have attempted : ∀ send ∈ sendsOf state outboundMessageId, ∃ attempt,
      state.database.attempts.find? send.claim.attemptId = some attempt ∧
        attempt.outboundMessageId = outboundMessageId ∧
          number send.claim.attemptId = attempt.attemptNumber := by
    intro send member
    obtain ⟨sent, same⟩ := List.mem_filter.mp member
    obtain ⟨attempt, made, reply, _⟩ := consistent.recorded send sent
    exact ⟨attempt, made, reply.trans (by simpa using same),
      by simp [number, made]⟩
  have numbers : ((sendsOf state outboundMessageId).map (fun send =>
      number send.claim.attemptId)).Nodup := by
    have sublist : ((sendsOf state outboundMessageId).map
        (·.claim.attemptId)).Nodup :=
      consistent.distinct.sublist (List.filter_sublist.map _)
    refine List.Nodup.map_on ?_ (List.Nodup.of_map _ sublist)
    intro first firstMember second secondMember same
    obtain ⟨attempt, made, reply, numbered⟩ := attempted first firstMember
    obtain ⟨attempt', made', reply', numbered'⟩ :=
      attempted second secondMember
    have sameAttempt := delivery.distinct first.claim.attemptId
      second.claim.attemptId attempt.delivery attempt'.delivery
      (delivery_attempts made) (delivery_attempts made')
      (reply.trans reply'.symm)
      (numbered.symm.trans (same.trans numbered'))
    exact List.inj_on_of_nodup_map sublist firstMember secondMember sameAttempt
  have range : ∀ value ∈ (sendsOf state outboundMessageId).map (fun send =>
      number send.claim.attemptId),
      value ∈ List.range' 1 row.deliveryAttempts := by
    intro value member
    obtain ⟨send, sendMember, rfl⟩ := List.mem_map.mp member
    obtain ⟨attempt, made, reply, numbered⟩ := attempted send sendMember
    obtain ⟨owner, ownerFound, positive, below, _⟩ := delivery.attempts
      send.claim.attemptId attempt.delivery (delivery_attempts made)
    change state.database.delivery.replies attempt.outboundMessageId = _
      at ownerFound
    rw [reply, delivery_replies found] at ownerFound
    cases ownerFound
    change 1 ≤ attempt.attemptNumber at positive
    change attempt.attemptNumber ≤ row.deliveryAttempts at below
    simp only [numbered, List.mem_range'_1]
    omega
  have bound := (List.subperm_of_subset numbers range).length_le
  simpa using bound

/-- Across all claims, crashes and recoveries, the attempts of a reply are
numbered within the limit, a reply that may have been delivered is never claimed
again and never changes its status, and Telegram receives at most the limit of
requests for it and none after one that it may have accepted. -/
theorem replies_delivered_at_most_once
    (reached : channelSystem.Reachable state) :
    (∀ outboundMessageId row,
      state.database.messages.find? outboundMessageId = some row →
      AttemptsNumbered state.database outboundMessageId row ∧
      (PossiblyDelivered state.database outboundMessageId →
        ∀ labels state', channelSystem.run state labels = some state' →
          Closed state'.database outboundMessageId row.status) ∧
      (sendsOf state outboundMessageId).length ≤
        defaultTelegramDeliveryPolicy.maximumAttempts) ∧
    (state.sent.map (·.claim.attemptId)).Nodup ∧
    state.sent.Pairwise (fun earlier later =>
      earlier.claim.outboundMessageId = later.claim.outboundMessageId →
      earlier.outcome.possiblyAccepted = false) := by
  have delivery := reachable_delivery reached
  have sends := reachable_sends reached
  refine ⟨?_, sends.distinct, sends.ordered⟩
  intro outboundMessageId row found
  have numbered := attempts_numbered delivery found
  refine ⟨numbered, ?_,
    (sendsOf_length_le sends delivery found).trans numbered.bounded⟩
  intro delivered labels state' ran
  have settled := settled_of_possiblyDelivered delivery found delivered
  obtain ⟨row', present, same⟩ := settled_forever reached found settled ran
  rw [← same] at settled ⊢
  exact closed_of_settled present settled

theorem replies_delivered_at_most_once_accepted :
    ∃ state row, channelSystem.Reachable state ∧
      state.database.messages.find? ⟨401⟩ = some row ∧
        row.status = .providerAccepted ∧
          Closed state.database ⟨401⟩ .providerAccepted ∧
            (sendsOf state ⟨401⟩).length = 1 := by
  obtain ⟨state, reached, tested⟩ := System.exists_reachable_of_run
    (deliveredRun (.providerAccepted "telegram-1"))
    (fun state => (state.database.messages.find? ⟨401⟩).any (fun row =>
        row.status = .providerAccepted) &&
      (state.database.attempts.find? ⟨601⟩).any (fun attempt =>
        attempt.outboundMessageId = ⟨401⟩ &&
          attempt.status = .providerAccepted) &&
        (sendsOf state ⟨401⟩).length = 1)
    sampleChannelStart_initial (by decide +kernel)
  simp only [Bool.and_eq_true, Option.any_eq_true, decide_eq_true_eq]
    at tested
  obtain ⟨⟨⟨row, found, accepted⟩, attempt, made, same, ended⟩, once⟩ := tested
  obtain ⟨_, closed, _⟩ :=
    (replies_delivered_at_most_once reached).1 _ row found
  refine ⟨state, row, reached, found, accepted, ?_, once⟩
  have stays := closed ⟨⟨601⟩, attempt, made, same, .inl ended⟩ [] state rfl
  rw [accepted] at stays
  exact stays

end Deliveries

end XpensGo
