import XpensGo.Channel.ReplyHistory

/-!
# What link and unlink replies stand for

A reply of success is written by a job that consumed the challenge itself, or
that found it consumed and found the account in the state that the challenge
was for.  The second kind does not say who consumed the challenge.
-/

namespace XpensGo

open EcmaScript Postgres Relational Transition ChannelDatabase

/-- The job has nothing left to do but to record the consumption. -/
def JobPhase.Finished (phase : JobPhase) : Prop :=
  phase = .consuming ∨ phase = .ended

/-- A finished job wrote the reply after these answers of the identity
store. -/
structure WrittenBy (state : ChannelState) (job : JobId)
    (terms : OutboundMessageTerms) (claim : TelegramEventClaimed)
    (records : List ProcessingRecord)
    (completion : TelegramEventCompletion) : Prop where
  job : ∃ current, state.jobs.find? job = some current ∧
    current.phase.Finished ∧
      current.trace = .claimed claim :: (records ++ [.completed completion])
  event : claim.inboundEventId = terms.inboundEventId
  answer : Answer claim.event records completion
  intent : terms.intent = completion.intent

section Provenance

variable {state state' : ChannelState} {action : ChannelAction}

theorem find?_setJob_self {database : ChannelDatabase} {job : JobId}
    {current : OutboxJob} {phase : JobPhase}
    {records : List ProcessingRecord} {sent : List TelegramSend}
    (found : state.jobs.find? job = some current) :
    ({ state with
      database := database
      sent := sent }.setJob job phase records).jobs.find? job =
        some { current with
          phase := phase
          trace := current.trace ++ records } := by
  change (Table.modify _ _ _).find? job = _
  rw [Table.find?_modify_self, found]
  rfl

theorem find?_setJob_of_ne {database : ChannelDatabase} {job other : JobId}
    {current : OutboxJob} {phase : JobPhase}
    {records : List ProcessingRecord} {sent : List TelegramSend}
    (different : other ≠ job)
    (found : state.jobs.find? other = some current) :
    ({ state with
      database := database
      sent := sent }.setJob job phase records).jobs.find? other =
        some current := by
  change (Table.modify _ _ _).find? other = _
  rw [Table.find?_modify_of_ne _ _ different]
  exact found

/-- A finished job may stop, and records nothing more. -/
theorem finished_kept (step : ChannelStep state action state')
    {job : JobId} {current : OutboxJob}
    (found : state.jobs.find? job = some current)
    (finished : current.phase.Finished) :
    ∃ current', state'.jobs.find? job = some current' ∧
      current'.phase.Finished ∧ current'.trace = current.trace := by
  -- The other steps of a job start in another phase.
  have busy : ∀ moved running, state.jobs.find? moved = some running →
      ¬ running.phase.Finished → job ≠ moved := by
    intro moved running present unfinished same
    rw [same] at found
    cases Option.some.inj (found.symm.trans present)
    exact unfinished finished
  cases step with
  | environment _ jobs => exact ⟨current, jobs ▸ found, finished, rfl⟩
  | recoveryMarked => exact ⟨current, found, finished, rfl⟩
  | @delivered other message _ absent =>
      refine ⟨current, ?_, finished, rfl⟩
      simp only [Table.find?_insertMissing, absent]
      split
      · rename_i same
        rw [same, absent] at found
        cases found
      · exact found
  | @stopped moved running _ phase present stops =>
      by_cases same : job = moved
      · subst same
        cases Option.some.inj (found.symm.trans present)
        refine ⟨_, find?_setJob_self found, ?_, List.append_nil _⟩
        rcases stops with ended | ⟨claim, step, processing, _⟩
        · exact .inr ended
        · rw [processing] at finished
          rcases finished with impossible | impossible <;> cases impossible
      · exact ⟨current, find?_setJob_of_ne same found, finished, rfl⟩
  | @consumptionRecorded moved running _ _ _ present =>
      by_cases same : job = moved
      · subst same
        cases Option.some.inj (found.symm.trans present)
        exact ⟨_, find?_setJob_self found, .inr rfl, List.append_nil _⟩
      · exact ⟨current, find?_setJob_of_ne same found, finished, rfl⟩
  | eventClaimed present phase | actorResolved present phase
  | linkConsumed present phase | unlinkConsumed present phase
  | limitEnforced present phase | eventCompleted present phase
  | eventReleased present phase | replyClaimed present phase
  | telegramSent present phase | attemptCompleted present phase =>
      have different := busy _ _ present (by
        rw [phase]
        rintro (impossible | impossible) <;> cases impossible)
      exact ⟨current, find?_setJob_of_ne different found, finished, rfl⟩

theorem WrittenBy.kept (step : ChannelStep state action state')
    {job : JobId} {terms : OutboundMessageTerms} {claim : TelegramEventClaimed}
    {records : List ProcessingRecord} {completion : TelegramEventCompletion}
    (written : WrittenBy state job terms claim records completion) :
    WrittenBy state' job terms claim records completion := by
  obtain ⟨current, found, finished, trace⟩ := written.job
  obtain ⟨current', found', finished', same⟩ :=
    finished_kept step found finished
  exact { written with
    job := ⟨current', found', finished', same.trans trace⟩ }

/-- Only the completion of an event writes a reply. -/
theorem repliesKept_or_completed (step : ChannelStep state action state') :
    state.database.RepliesKept state'.database ∨
      ∃ job current clock ids claim completion database seen,
        state.jobs.find? job = some current ∧
          current.phase = .processing claim (.completing completion) ∧
          CompleteEventEffect clock ids (completeEventInput claim
            current.message.correlationId completion) state.database
            database ∧
          state' = { state with database := database }.setJob job
            (.afterCompletion seen) [.completed completion] := by
  cases step with
  | environment kept => exact .inl kept.replies
  | recoveryMarked | delivered | stopped | actorResolved | linkConsumed
  | unlinkConsumed | telegramSent => exact .inl (fun _ => rfl)
  | eventCompleted found phase effect =>
      exact .inr ⟨_, _, _, _, _, _, _, _, found, phase, effect, rfl⟩
  | eventClaimed _ _ effect =>
      cases effect with
      | notFound | duplicate | deferred | refused => exact .inl (fun _ => rfl)
      | suppressed _ _ _ windows | claimed _ _ _ windows =>
          obtain ⟨_, rfl⟩ := windows
          exact .inl (fun _ => rfl)
  | limitEnforced _ _ effect =>
      cases effect with
      | decided => exact .inl (fun _ => rfl)
      | allowed _ _ windows | suppressed _ _ windows =>
          obtain ⟨_, rfl⟩ := windows
          exact .inl (fun _ => rfl)
  | eventReleased _ _ effect =>
      cases effect with
      | ignored | released => exact .inl (fun _ => rfl)
  | replyClaimed _ _ effect =>
      cases effect with
      | notFound | terminal | deferred => exact .inl (fun _ => rfl)
      | exhausted | claimed =>
          exact .inl (find?_modify_terms (fun _ => rfl))
      | @expired _ row =>
          obtain ⟨attempts, ended⟩ := endLeased_attempts row
            (DeliveryAttemptRow.expire _)
          rw [ended]
          exact .inl (find?_modify_terms (fun _ => rfl))
  | attemptCompleted =>
      exact .inl (find?_modify_terms (complete_terms _))
  | consumptionRecorded _ _ _ recorded =>
      rcases recorded with same | ⟨_, receipts, same, _⟩
      · rw [same]
        exact .inl (fun _ => rfl)
      · rw [same]
        exact .inl (fun _ => rfl)

/-- In every run every reply was written by a job whose records lead to it. -/
theorem replies_written (reached : channelSystem.Reachable state) :
    ∀ outboundMessageId terms,
      state.database.processing.replies outboundMessageId = some terms →
      ∃ job claim records completion,
        WrittenBy state job terms claim records completion := by
  refine System.Reachable.invariant (I := fun state =>
    ∀ outboundMessageId terms,
      state.database.processing.replies outboundMessageId = some terms →
      ∃ job claim records completion,
        WrittenBy state job terms claim records completion) ?_ ?_ reached
  · rintro state ⟨users, ledgers, rfl⟩ outboundMessageId terms found
    cases found
  · intro state action state' earlier written taken outboundMessageId terms
      present
    have step := channelStep_of_next taken
    have before : state.database.processing.replies outboundMessageId =
        some terms → ∃ job claim records completion,
          WrittenBy state' job terms claim records completion := by
      intro found
      obtain ⟨job, claim, records, completion, known⟩ :=
        written outboundMessageId terms found
      exact ⟨job, claim, records, completion, known.kept step⟩
    rcases repliesKept_or_completed step with
      kept | ⟨job, current, clock, ids, claim, completion, database, seen,
        found, phase, effect, moved⟩
    · exact before ((kept outboundMessageId).symm.trans present)
    · have truthful := reachable_truthful earlier job current found
      have follows := truthful.follows
      rw [phase] at follows
      obtain ⟨records, shape, answer⟩ := follows
      subst moved
      cases effect with
      | @completed row commands freshMessage =>
          change ((Table.push _ _ _ freshMessage).find? _).map _ = _
            at present
          rw [Table.find?_push] at present
          split at present
          · cases present
            refine ⟨job, claim, records, completion,
              { job := ⟨_, find?_setJob_self found, ?_, ?_⟩
                event := rfl
                answer := answer
                intent := rfl }⟩
            · cases seen with
              | none => exact .inr rfl
              | some _ => exact .inl rfl
            · rw [shape]
              rfl
          · exact before present

end Provenance

section Justification

/-- What a reply of a successful link stands for: the job consumed the
challenge by linking the account, or found the challenge consumed and then
resolved the account to the actor of an active identity. -/
inductive LinkBasis (state : ChannelState) (job : JobId)
    (claim : TelegramEventClaimed)
    (tokenDigest : ChannelLinkChallengeDigest) :
    List ProcessingRecord → Prop where
  | consumed {channelIdentityId : ChannelIdentityId}
      {actor : ChannelActorContext} :
      LinkConsumed state.database.identity tokenDigest
        claim.event.externalAccountId channelIdentityId →
      LinkBasis state job claim tokenDigest
        [.linkPresented (.telegramIdentityLinked channelIdentityId actor)]
  | repeated {actor : ChannelActorContext}
      {presented resolved : ChannelState} :
      RecordedIn resolved job claim [] (.linkPresented .challengeAlreadyConsumed)
        presented →
      Spent presented.database.identity tokenDigest
        (fun purpose => purpose = .link) →
      RecordedIn state job claim [.linkPresented .challengeAlreadyConsumed]
        (.resolved (some actor)) resolved →
      ActsFor resolved.database.identity claim.event.externalAccountId actor →
      LinkBasis state job claim tokenDigest
        [.linkPresented .challengeAlreadyConsumed, .resolved (some actor)]

/-- What a reply of a successful unlink stands for: the job consumed the
challenge by unlinking an identity of the account, or resolved the account to no
active identity and then found the challenge consumed. -/
inductive UnlinkBasis (state : ChannelState) (job : JobId)
    (claim : TelegramEventClaimed)
    (tokenDigest : ChannelLinkChallengeDigest) :
    List ProcessingRecord → Prop where
  | consumed {priorActor : Option ChannelActorContext}
      {channelIdentityId : ChannelIdentityId} :
      UnlinkConsumed state.database.identity tokenDigest
        claim.event.externalAccountId channelIdentityId →
      UnlinkBasis state job claim tokenDigest
        [.resolved priorActor,
          .unlinkPresented (.telegramIdentityUnlinked channelIdentityId)]
  | repeated {resolved presented : ChannelState} :
      RecordedIn presented job claim [] (.resolved none) resolved →
      Unlinked resolved.database.identity claim.event.externalAccountId →
      RecordedIn state job claim [.resolved none]
        (.unlinkPresented .challengeAlreadyConsumed) presented →
      Spent presented.database.identity tokenDigest
        (fun purpose => ∃ target, purpose = .unlink target) →
      UnlinkBasis state job claim tokenDigest
        [.resolved none, .unlinkPresented .challengeAlreadyConsumed]

/-- A reply of success has a basis, and every other reply to a command rejects
its challenge. -/
structure Justified (state : ChannelState) (job : JobId)
    (claim : TelegramEventClaimed) (records : List ProcessingRecord)
    (content : TelegramReplyContent) : Prop where
  linkSucceeded : content = .linkSucceeded →
    ∃ tokenDigest, claim.event.content = .linkCommand tokenDigest ∧
      LinkBasis state job claim tokenDigest records
  unlinkSucceeded : content = .unlinkSucceeded →
    ∃ tokenDigest, claim.event.content = .unlinkCommand tokenDigest ∧
      UnlinkBasis state job claim tokenDigest records
  linkRejected : ∀ tokenDigest,
    claim.event.content = .linkCommand tokenDigest →
    content ≠ .linkSucceeded →
    ∃ reason, content = .challengeRejected .link reason
  unlinkRejected : ∀ tokenDigest,
    claim.event.content = .unlinkCommand tokenDigest →
    content ≠ .unlinkSucceeded →
    ∃ reason, content = .challengeRejected .unlink reason

variable {state : ChannelState} {job : JobId} {current : OutboxJob}
  {claim : TelegramEventClaimed} {records : List ProcessingRecord}
  {completion : TelegramEventCompletion}

@[simp] theorem rejectedChallenge_content (command : ChallengeCommand)
    (reason : ChallengeRejectionReason) :
    (rejectedChallenge command reason).intent.content =
      .challengeRejected command reason := rfl

@[simp] theorem linkSucceeded_content (actor : ChannelActorContext) :
    (linkSucceeded actor).intent.content = .linkSucceeded := rfl

@[simp] theorem unlinkSucceeded_content
    (priorActor : Option ChannelActorContext) :
    (unlinkSucceeded priorActor).intent.content = .unlinkSucceeded := by
  cases priorActor <;> rfl

/-- An answer that follows a job's records is justified by the moments at which
they were made. -/
theorem Answer.justified (answer : Answer claim.event records completion)
    (reached : channelSystem.Reachable state)
    (found : state.jobs.find? job = some current)
    (trace : current.trace = .claimed claim :: (records ++
      [.completed completion])) :
    Justified state job claim records completion.intent.content := by
  cases answer with
  | invalidCommand content | linkRequired content | textAccepted content =>
      constructor <;>
        simp [content, TelegramEventCompletion.intent, intent,
          rejectedChallenge]
  | linked content =>
      obtain ⟨moment, linked⟩ :=
        reachable_recorded reached job current claim [] _ _ found trace
      have consumed := (linked.told _ content).kept linked.linksPersist
      constructor
      · exact fun _ => ⟨_, content, .consumed consumed⟩
      · simp
      · simp
      · simp [content]
  | linkRepeated content =>
      obtain ⟨resolved, resolution⟩ := reachable_recorded reached job current
        claim [_] _ _ found trace
      obtain ⟨_, foundThen, traceThen⟩ := resolution.recorded
      obtain ⟨presented, presentation⟩ := reachable_recorded
        resolution.reached job _ claim [] _ _ foundThen traceThen
      have basis := LinkBasis.repeated presentation
        (presentation.told _ content) resolution resolution.told
      constructor
      · exact fun _ => ⟨_, content, basis⟩
      · simp
      · simp
      · simp [content]
  | linkRejected content => constructor <;> simp [content]
  | unlinked content =>
      obtain ⟨moment, unlinked⟩ := reachable_recorded reached job current
        claim [_] _ _ found trace
      have consumed := (unlinked.told _ content).kept unlinked.linksPersist
      constructor
      · simp
      · exact fun _ => ⟨_, content, .consumed consumed⟩
      · simp [content]
      · simp
  | unlinkRepeated content =>
      obtain ⟨presented, presentation⟩ := reachable_recorded reached job
        current claim [_] _ _ found trace
      obtain ⟨_, foundThen, traceThen⟩ := presentation.recorded
      obtain ⟨resolved, resolution⟩ := reachable_recorded
        presentation.reached job _ claim [] _ _ foundThen traceThen
      have basis := UnlinkBasis.repeated resolution resolution.told
        presentation (presentation.told _ content)
      constructor
      · simp
      · exact fun _ => ⟨_, content, basis⟩
      · simp [content]
      · simp
  | unlinkRejected content => constructor <;> simp [content]

/-- Every persisted reply was written by a job whose answers from the identity
store justify it. -/
theorem link_replies_justified (reached : channelSystem.Reachable state)
    {outboundMessageId : OutboundChannelMessageId} {row : OutboundMessageRow}
    (found : state.database.messages.find? outboundMessageId = some row) :
    ∃ event job claim records completion,
      state.database.events.find? row.inboundEventId = some event ∧
        claim.event = event.normalizedPayload ∧
        WrittenBy state job row.toOutboundMessageTerms claim records
          completion ∧
        Justified state job claim records row.intent.content := by
  have present : state.database.processing.replies outboundMessageId =
      some row.toOutboundMessageTerms := by
    change Option.map _ (state.database.messages.find? _) = _
    rw [found]
    rfl
  obtain ⟨job, claim, records, completion, written⟩ :=
    replies_written reached outboundMessageId _ present
  obtain ⟨current, running, _, trace⟩ := written.job
  obtain ⟨event, received, payload⟩ :=
    (reachable_truthful reached job current running).received _ _ trace
  rw [written.event] at received
  refine ⟨event, job, claim, records, completion, received, payload.symm,
    written, ?_⟩
  have content : row.intent.content = completion.intent.content :=
    congrArg (·.content) written.intent
  rw [content]
  exact written.answer.justified reached running trace

/-- A user creates two challenges, and an account presents the first one. -/
def linkedRun : List ChannelAction :=
  [.createLink .answered sampleOwner (sampleDigest 'a') 5000000,
    .createLink .answered sampleOwner (sampleDigest 'b') 5000000] ++
  arrive sampleAccount 1 5001000 (.linkCommand (sampleDigest 'a')) ++
  [.job 1 (.consumeLink .answered 5001100 ⟨5⟩),
    .job 1 (.enforceLimit .answered (channelClock 5001200))] ++
  answer 1 5001300

/-- The linked account presents the second challenge twice: the first time it
is rejected, because the account is linked already. -/
def linkRepeatedRun : List ChannelAction :=
  linkedRun ++
  arrive sampleAccount 2 5002000 (.linkCommand (sampleDigest 'b')) ++
  [.job 2 (.consumeLink .answered 5002100 ⟨6⟩)] ++
  answer 2 5002200 ++
  arrive sampleAccount 3 5003000 (.linkCommand (sampleDigest 'b')) ++
  [.job 3 (.consumeLink .answered 5003100 ⟨7⟩),
    .job 3 (.resolveActor .answered),
    .job 3 (.enforceLimit .answered (channelClock 5003200))] ++
  answer 3 5003300

theorem link_replies_justified_repeated :
    ∃ state row job claim tokenDigest records,
      channelSystem.Reachable state ∧
        state.database.messages.find? ⟨403⟩ = some row ∧
        row.intent.content = .linkSucceeded ∧
        claim.event.externalAccountId = sampleAccount ∧
        LinkBasis state job claim tokenDigest records := by
  obtain ⟨state, reached, tested⟩ := System.exists_reachable_of_run
    linkRepeatedRun
    (fun state => (state.database.messages.find? ⟨403⟩).any (fun row =>
        row.intent.content = .linkSucceeded && row.inboundEventId = ⟨103⟩) &&
      (state.database.events.find? ⟨103⟩).any (fun event =>
        event.normalizedPayload.externalAccountId = sampleAccount))
    sampleChannelStart_initial (by decide +kernel)
  simp only [Bool.and_eq_true, Option.any_eq_true, decide_eq_true_eq]
    at tested
  obtain ⟨⟨row, found, succeeded, sameEvent⟩, received, present, account⟩ :=
    tested
  obtain ⟨event, job, claim, records, _, eventFound, claimed, _, justified⟩ :=
    link_replies_justified reached found
  rw [sameEvent] at eventFound
  cases Option.some.inj (present.symm.trans eventFound)
  obtain ⟨tokenDigest, _, basis⟩ := justified.linkSucceeded succeeded
  rw [← claimed] at account
  exact ⟨state, row, job, claim, tokenDigest, records, reached, found,
    succeeded, account, basis⟩

/-- A reply of a successful link whose challenge created no identity of the
account. -/
def UnfoundedLink (state : ChannelState) : Prop :=
  ∃ outboundMessageId row event tokenDigest,
    state.database.messages.find? outboundMessageId = some row ∧
      row.intent.content = .linkSucceeded ∧
      state.database.events.find? row.inboundEventId = some event ∧
      event.normalizedPayload.content = .linkCommand tokenDigest ∧
      ∀ channelIdentityId, ¬ LinkConsumed state.database.identity tokenDigest
        event.normalizedPayload.externalAccountId channelIdentityId

/-- A reply of a successful unlink whose challenge unlinked no identity of the
account. -/
def UnfoundedUnlink (state : ChannelState) : Prop :=
  ∃ outboundMessageId row event tokenDigest,
    state.database.messages.find? outboundMessageId = some row ∧
      row.intent.content = .unlinkSucceeded ∧
      state.database.events.find? row.inboundEventId = some event ∧
      event.normalizedPayload.content = .unlinkCommand tokenDigest ∧
      ∀ channelIdentityId, ¬ UnlinkConsumed state.database.identity
        tokenDigest event.normalizedPayload.externalAccountId
        channelIdentityId

def sampleStranger : TelegramExternalAccountId :=
  { digits := "7002" }

/-- An account that was never linked presents the challenge with which the
linked account has unlinked itself. -/
def unlinkRepeatedRun : List ChannelAction :=
  linkedRun ++
  [.createUnlink .answered sampleOwner ⟨5⟩ (sampleDigest 'c') 5002000] ++
  arrive sampleAccount 2 5002000 (.unlinkCommand (sampleDigest 'c')) ++
  [.job 2 (.resolveActor .answered),
    .job 2 (.enforceLimit .answered (channelClock 5002100)),
    .job 2 (.consumeUnlink .answered 5002200)] ++
  answer 2 5002300 ++
  arrive sampleStranger 3 5003000 (.unlinkCommand (sampleDigest 'c')) ++
  [.job 3 (.resolveActor .answered),
    .job 3 (.consumeUnlink .answered 5003200)] ++
  answer 3 5003300

/-- What the third event of the two runs was, and how it was answered. -/
def thirdAnswered (state : ChannelState) (content : PersistedTelegramContent)
    (reply : TelegramReplyContent) : Bool :=
  (state.database.messages.find? ⟨403⟩).any (fun row =>
    row.intent.content = reply &&
      (state.database.events.find? row.inboundEventId).any (fun event =>
        event.normalizedPayload.content = content))

theorem thirdAnswered_eq_true {content : PersistedTelegramContent}
    {reply : TelegramReplyContent}
    (tested : thirdAnswered state content reply = true) :
    ∃ row event, state.database.messages.find? ⟨403⟩ = some row ∧
      row.intent.content = reply ∧
      state.database.events.find? row.inboundEventId = some event ∧
      event.normalizedPayload.content = content := by
  simp only [thirdAnswered, Option.any_eq_true, Bool.and_eq_true,
    decide_eq_true_eq] at tested
  obtain ⟨row, found, same, event, present, contents⟩ := tested
  exact ⟨row, event, found, same, present, contents⟩

theorem success_replies_unfounded :
    (∃ state, channelSystem.Reachable state ∧ UnfoundedLink state) ∧
      ∃ state, channelSystem.Reachable state ∧ UnfoundedUnlink state := by
  constructor
  · obtain ⟨state, reached, tested⟩ := System.exists_reachable_of_run
      linkRepeatedRun
      (fun state => thirdAnswered state (.linkCommand (sampleDigest 'b'))
          .linkSucceeded &&
        (state.database.identity.challenges.find? (sampleDigest 'b')).all
          (fun challenge =>
            state.database.identity.identities.rows.all (fun entry =>
              challenge.consumedAt ≠ some entry.2.linkedAt)))
      sampleChannelStart_initial (by decide +kernel)
    rw [Bool.and_eq_true] at tested
    obtain ⟨answered, separate⟩ := tested
    obtain ⟨row, event, found, succeeded, present, content⟩ :=
      thirdAnswered_eq_true answered
    refine ⟨state, reached, _, row, event, _, found, succeeded, present,
      content, ?_⟩
    rintro channelIdentityId ⟨challenge, identity, challengeFound, _,
      identityFound, _, _, _, linked⟩
    rw [challengeFound, Option.all_some, List.all_eq_true] at separate
    have different := separate _ (Table.find?_eq_some_iff_mem.mp identityFound)
    simp [linked] at different
  · obtain ⟨state, reached, tested⟩ := System.exists_reachable_of_run
      unlinkRepeatedRun
      (fun state => thirdAnswered state (.unlinkCommand (sampleDigest 'c'))
          .unlinkSucceeded &&
        (state.database.messages.find? ⟨403⟩).all (fun row =>
          (state.database.events.find? row.inboundEventId).all (fun event =>
            state.database.identity.identities.rows.all (fun entry =>
              entry.2.externalAccountId ≠
                event.normalizedPayload.externalAccountId))))
      sampleChannelStart_initial (by decide +kernel)
    rw [Bool.and_eq_true] at tested
    obtain ⟨answered, separate⟩ := tested
    obtain ⟨row, event, found, succeeded, present, content⟩ :=
      thirdAnswered_eq_true answered
    refine ⟨state, reached, _, row, event, _, found, succeeded, present,
      content, ?_⟩
    rintro channelIdentityId ⟨challenge, identity, _, _, identityFound,
      account, _⟩
    simp only [found, present, Option.all_some, List.all_eq_true,
      decide_eq_true_eq] at separate
    exact separate _ (Table.find?_eq_some_iff_mem.mp identityFound) account

end Justification

end XpensGo
