import XpensGo.Channel.Changes
import XpensGo.Channel.Jobs

/-!
# Abuse decisions

What a transaction of the event-processing store does to the minute windows and
to the decisions on its event.  A decision counts the event once in each of its
windows and is stored with the event, so that no later delivery counts again.
-/

namespace XpensGo

open EcmaScript Postgres Relational

/-- The scopes of abuse windows without their keys. -/
inductive AbuseScopeKind where
  | system
  | identity
  | user
  deriving DecidableEq, Repr

namespace AbuseScope

/-- The kind of a window. -/
def kind : AbuseScope → AbuseScopeKind
  | .system => .system
  | .identity _ => .identity
  | .user _ => .user

/-- The events per minute that the default policy allows in a window. -/
def limit : AbuseScope → Nat
  | .system => defaultTelegramProcessingPolicy.systemPerMinute
  | .identity _ | .user _ =>
      defaultTelegramProcessingPolicy.perIdentityPerMinute

end AbuseScope

namespace InboundEventRow

/-- The decision on the event for which its windows of this kind count. -/
def decision (row : InboundEventRow) : AbuseScopeKind → Option Bool
  | .system | .identity => row.abuseAllowed
  | .user => row.userAbuseAllowed

/-- The scopes in which a claim counts the event. -/
def claimScopes (row : InboundEventRow) : List AbuseScope :=
  [.system, .identity row.normalizedPayload.externalAccountId]

/-- A change of an event that keeps its decisions. -/
structure DecisionsKept (row row' : InboundEventRow) : Prop where
  decision : ∀ kind, row.decision kind ≠ none →
    row'.decision kind = row.decision kind
  suppressed : row.processingStatus = .suppressed →
    row'.processingStatus = .suppressed
  final : (row.Denied → row.processingStatus = .suppressed) →
    row'.Denied → row'.processingStatus = .suppressed

variable {row : InboundEventRow} {clock : DatabaseClock}

theorem DecisionsKept.refl : DecisionsKept row row :=
  ⟨fun _ _ => rfl, fun suppressed => suppressed, fun final => final⟩

private theorem not_suppressed_of_unfinished
    (unfinished : row.processingStatus.isTerminal = false) :
    row.processingStatus ≠ .suppressed := by
  intro suppressed
  rw [suppressed] at unfinished
  cases unfinished

theorem decisionsKept_claim {policy : TelegramProcessingPolicy}
    {claimId : TelegramProcessingClaimId}
    (unfinished : row.processingStatus.isTerminal = false)
    (permitted : row.abuseAllowed ≠ some false) :
    DecisionsKept row (row.claim clock policy claimId) := by
  have current := not_suppressed_of_unfinished unfinished
  refine ⟨?_, ?_, ?_⟩
  · intro kind decided
    cases kind with
    | system | identity =>
        obtain ⟨allowed, stored⟩ := Option.ne_none_iff_exists'.mp decided
        change some (row.abuseAllowed.getD true) = row.abuseAllowed
        rw [show row.abuseAllowed = some allowed from stored]
        rfl
    | user => rfl
  · intro suppressed
    exact (current suppressed).elim
  · intro final denied
    rcases denied with refused | userRefused
    · have refusedBefore : row.abuseAllowed.getD true = false :=
        Option.some.inj refused
      cases decision : row.abuseAllowed with
      | none =>
          rw [decision] at refusedBefore
          cases refusedBefore
      | some allowed =>
          rw [decision] at refusedBefore permitted
          exact (permitted (congrArg some refusedBefore)).elim
    · exact (current (final (.inr userRefused))).elim

theorem decisionsKept_suppress (undecided : row.abuseAllowed = none) :
    DecisionsKept row (row.suppress clock) := by
  refine ⟨?_, fun _ => rfl, fun _ _ => rfl⟩
  intro kind decided
  cases kind with
  | system | identity => exact (decided undecided).elim
  | user => rfl

theorem decisionsKept_suppressUser (undecided : row.userAbuseAllowed = none) :
    DecisionsKept row (row.suppressUser clock) := by
  refine ⟨?_, fun _ => rfl, fun _ _ => rfl⟩
  intro kind decided
  cases kind with
  | system | identity => rfl
  | user => exact (decided undecided).elim

theorem decisionsKept_allowUser (undecided : row.userAbuseAllowed = none) :
    DecisionsKept row (row.allowUser clock) := by
  refine ⟨?_, fun suppressed => suppressed, ?_⟩
  · intro kind decided
    cases kind with
    | system | identity => rfl
    | user => exact (decided undecided).elim
  · intro final denied
    rcases denied with refused | userRefused
    · exact final (.inl refused)
    · cases userRefused

/-- Completions and releases do not touch the decisions of an event that is
being processed. -/
theorem decisionsKept_of_held {row' : InboundEventRow}
    (held : row.processingStatus = .processing)
    (abuseAllowed : row'.abuseAllowed = row.abuseAllowed)
    (userAbuseAllowed : row'.userAbuseAllowed = row.userAbuseAllowed) :
    DecisionsKept row row' := by
  have current : row.processingStatus ≠ .suppressed := by
    rw [held]
    decide
  refine ⟨?_, ?_, ?_⟩
  · intro kind _
    cases kind with
    | system | identity => exact abuseAllowed
    | user => exact userAbuseAllowed
  · intro suppressed
    exact (current suppressed).elim
  · intro final denied
    rw [Denied, abuseAllowed, userAbuseAllowed] at denied
    exact (current (final denied)).elim

end InboundEventRow

/-- What an answer to a claim says of the decision on its event. -/
def ClaimTelegramEventOutcome.allowed :
    ClaimTelegramEventOutcome → Option Bool
  | .claimed _ => some true
  | .rateLimited => some false
  | .duplicate | .notFound | .deferred _ => none

/-- What the answer says about the event, if it says anything. -/
def EnforceTelegramUserLimitOutcome.decision :
    EnforceTelegramUserLimitOutcome → Option Bool
  | .allowed => some true
  | .rateLimited => some false

namespace ChannelDatabase

/-- The `event_count` of a window, zero as long as it does not exist. -/
def eventCount (db : ChannelDatabase) (window : AbuseWindowKey) : Nat :=
  (db.windows.find? window).getD 0

/-- The window of a scope in the minute of a transaction. -/
def minuteWindow (clock : DatabaseClock) (scope : AbuseScope) :
    AbuseWindowKey :=
  { scope := scope
    windowStartedAt := minuteStart clock }

/-- Every event stays, with its decisions, and no new event is refused. -/
structure EventsKept (db db' : ChannelDatabase) : Prop where
  rows : ∀ inboundEventId row, db.events.find? inboundEventId = some row →
    ∃ row', db'.events.find? inboundEventId = some row' ∧
      InboundEventRow.DecisionsKept row row'
  fresh : ∀ inboundEventId row', db.events.find? inboundEventId = none →
    db'.events.find? inboundEventId = some row' → ¬ row'.Denied

/-- The event was decided for its windows of this kind. -/
def Decided (db : ChannelDatabase) (inboundEventId : InboundEventId)
    (kind : AbuseScopeKind) : Prop :=
  ∃ row, db.events.find? inboundEventId = some row ∧ row.decision kind ≠ none

/-- Every refused event is suppressed. -/
def DenialsFinal (db : ChannelDatabase) : Prop :=
  ∀ inboundEventId row, db.events.find? inboundEventId = some row →
    row.Denied → row.processingStatus = .suppressed

section Counting

variable (db : ChannelDatabase) (clock : DatabaseClock) (scope : AbuseScope)

theorem countEvent_fst :
    (db.countEvent clock scope).1 =
      db.eventCount (minuteWindow clock scope) + 1 := by
  unfold countEvent eventCount minuteWindow
  dsimp only
  split
  · rename_i absent
    simp [absent]
  · rename_i count found
    simp [found]

theorem countEvent_eventCount (window : AbuseWindowKey) :
    (db.countEvent clock scope).2.eventCount window =
      db.eventCount window +
        if window = minuteWindow clock scope then 1 else 0 := by
  unfold countEvent eventCount minuteWindow
  dsimp only
  split
  · rename_i absent
    rw [Table.find?_insertMissing]
    by_cases same : window =
        { scope := scope
          windowStartedAt := minuteStart clock }
    · simp [same, absent]
    · simp [same]
  · rename_i count found
    rw [Table.find?_modify]
    by_cases same : window =
        { scope := scope
          windowStartedAt := minuteStart clock }
    · simp [same, found]
    · simp [same]

end Counting

section Events

variable {db db' : ChannelDatabase} {inboundEventId : InboundEventId}
  {row : InboundEventRow} {clock : DatabaseClock}

theorem EventsKept.refl_of_events (events : db'.events = db.events) :
    db.EventsKept db' := by
  refine ⟨?_, ?_⟩
  · intro other row found
    rw [events]
    exact ⟨row, found, .refl⟩
  · intro other row absent found
    rw [events, absent] at found
    cases found

theorem EventsKept.final (kept : db.EventsKept db')
    (final : db.DenialsFinal) : db'.DenialsFinal := by
  intro inboundEventId row' found' denied
  cases found : db.events.find? inboundEventId with
  | none => exact (kept.fresh inboundEventId row' found found' denied).elim
  | some row =>
      obtain ⟨_, present, decisions⟩ := kept.rows inboundEventId row found
      obtain rfl := Option.some.inj (present.symm.trans found')
      exact decisions.final (final inboundEventId row found) denied

/-- An update of one event that keeps its decisions. -/
theorem eventsKept_modify {set : InboundEventRow → InboundEventRow}
    (events : db'.events = db.events.modify inboundEventId set)
    (found : db.events.find? inboundEventId = some row)
    (kept : InboundEventRow.DecisionsKept row (set row)) :
    db.EventsKept db' := by
  refine ⟨?_, ?_⟩
  · intro other present otherFound
    rw [events]
    by_cases same : other = inboundEventId
    · subst same
      obtain rfl := Option.some.inj (found.symm.trans otherFound)
      exact ⟨set row, by simp [found], kept⟩
    · refine ⟨present, ?_, .refl⟩
      rw [Table.find?_modify_of_ne _ _ same]
      exact otherFound
  · intro other row' absent otherFound
    have different : other ≠ inboundEventId := by
      rintro rfl
      rw [found] at absent
      cases absent
    rw [events, Table.find?_modify_of_ne _ _ different, absent] at otherFound
    cases otherFound

/-- An update of one event decides nothing else. -/
theorem decided_of_modify {set : InboundEventRow → InboundEventRow}
    {other : InboundEventId} {kind : AbuseScopeKind}
    (kinds : AbuseScopeKind → Prop)
    (events : db'.events = db.events.modify inboundEventId set)
    (found : db.events.find? inboundEventId = some row)
    (news : ∀ kind, (set row).decision kind ≠ none →
      row.decision kind ≠ none ∨ kinds kind)
    (decided : db'.Decided other kind) :
    db.Decided other kind ∨ other = inboundEventId ∧ kinds kind := by
  obtain ⟨row', found', decision⟩ := decided
  rw [events] at found'
  rcases Table.find?_modify_cases found' with
    ⟨rfl, before, present, rfl⟩ | ⟨_, unmodified⟩
  · obtain rfl := Option.some.inj (found.symm.trans present)
    rcases news kind decision with earlier | new
    · exact .inl ⟨row, found, earlier⟩
    · exact .inr ⟨rfl, new⟩
  · exact .inl ⟨row', unmodified, decision⟩

end Events

/-- What a call that answers about an event does in these scopes: it counts the
event in the given windows, for whose kinds it was not decided before, and the
event stores what the call answers. -/
structure AbuseEffect (db : ChannelDatabase) (inboundEventId : InboundEventId)
    (scopes : List AbuseScope) (windows : List AbuseWindowKey)
    (allowed : Option Bool) (db' : ChannelDatabase) : Prop where
  distinct : ∀ first ∈ windows, ∀ second ∈ windows,
    first.scope.kind = second.scope.kind → first = second
  counted : ∀ window, db'.eventCount window =
    db.eventCount window + if window ∈ windows then 1 else 0
  inScopes : ∀ window ∈ windows, window.scope ∈ scopes ∧ allowed ≠ none
  kept : db.EventsKept db'
  event : ∃ row row', db.events.find? inboundEventId = some row ∧
    db'.events.find? inboundEventId = some row' ∧
      (∀ window ∈ windows, row.decision window.scope.kind = none) ∧
      (allowed ≠ none → ∀ scope ∈ scopes,
        row'.decision scope.kind = allowed) ∧
      (allowed = some false → row'.processingStatus = .suppressed)
  decides : ∀ other kind, db'.Decided other kind →
    db.Decided other kind ∨
      other = inboundEventId ∧ ∃ window ∈ windows, window.scope.kind = kind
  within : allowed = some true → ∀ window ∈ windows,
    db'.eventCount window ≤ window.scope.limit

section Effects

variable {db db' : ChannelDatabase} {inboundEventId : InboundEventId}
  {row : InboundEventRow} {clock : DatabaseClock}

/-- A call that finds its decision already stored, or answers none. -/
theorem abuseEffect_uncounted {row' : InboundEventRow}
    {scopes : List AbuseScope} {allowed : Option Bool}
    (windows : db'.windows = db.windows) (kept : db.EventsKept db')
    (found : db.events.find? inboundEventId = some row)
    (found' : db'.events.find? inboundEventId = some row')
    (decides : ∀ other kind, db'.Decided other kind → db.Decided other kind)
    (stored : allowed = none ∨ allowed = some true ∧
      ∀ scope ∈ scopes, row'.decision scope.kind = some true) :
    AbuseEffect db inboundEventId scopes [] allowed db' := by
  refine ⟨?_, ?_, ?_, kept, ⟨row, row', found, found', ?_, ?_, ?_⟩, ?_, ?_⟩
  · intro first member
    cases member
  · intro window
    simp [eventCount, windows]
  · intro window member
    cases member
  · intro window member
    cases member
  · intro answered scope member
    rcases stored with none | ⟨rfl, decisions⟩
    · exact (answered none).elim
    · exact decisions scope member
  · rintro rfl
    rcases stored with none | ⟨refused, _⟩
    · cases none
    · cases refused
  · exact fun other kind decided => .inl (decides other kind decided)
  · intro _ window member
    cases member

/-- A call that decides: it counts the event in the window of each scope and
stores the decision. -/
theorem abuseEffect_counted {scopes : List AbuseScope} {answer : Bool}
    {counted : ChannelDatabase} {set : InboundEventRow → InboundEventRow}
    (distinct : ∀ first ∈ scopes, ∀ second ∈ scopes,
      first.kind = second.kind → first = second)
    (events : counted.events = db.events)
    (windows : ∀ window, counted.eventCount window = db.eventCount window +
      if window ∈ scopes.map (minuteWindow clock) then 1 else 0)
    (found : db.events.find? inboundEventId = some row)
    (undecided : ∀ scope ∈ scopes, row.decision scope.kind = none)
    (kept : InboundEventRow.DecisionsKept row (set row))
    (decision : ∀ scope ∈ scopes,
      (set row).decision scope.kind = some answer)
    (news : ∀ kind, (set row).decision kind ≠ none →
      row.decision kind ≠ none ∨ ∃ scope ∈ scopes, scope.kind = kind)
    (denied : answer = false → (set row).processingStatus = .suppressed)
    (within : answer = true → ∀ scope ∈ scopes,
      db.eventCount (minuteWindow clock scope) + 1 ≤ scope.limit) :
    AbuseEffect db inboundEventId scopes (scopes.map (minuteWindow clock))
      (some answer) (counted.setEvent inboundEventId set) := by
  have modified : (counted.setEvent inboundEventId set).events =
      db.events.modify inboundEventId set := by
    rw [← events]
    rfl
  refine ⟨?_, windows, ?_, eventsKept_modify modified found kept,
    ⟨row, set row, found, by simp [modified, found], ?_,
      fun _ => decision, ?_⟩, ?_, ?_⟩
  · intro first firstMember second secondMember sameKind
    obtain ⟨firstScope, firstListed, rfl⟩ := List.mem_map.mp firstMember
    obtain ⟨secondScope, secondListed, rfl⟩ := List.mem_map.mp secondMember
    exact congrArg (minuteWindow clock)
      (distinct firstScope firstListed secondScope secondListed sameKind)
  · intro window member
    obtain ⟨scope, listed, rfl⟩ := List.mem_map.mp member
    exact ⟨listed, by simp⟩
  · intro window member
    obtain ⟨scope, listed, rfl⟩ := List.mem_map.mp member
    exact undecided scope listed
  · intro refused
    exact denied (Option.some.inj refused)
  · intro other kind decided
    refine (decided_of_modify (fun kind => ∃ scope ∈ scopes,
      scope.kind = kind) modified found news decided).imp id ?_
    rintro ⟨same, scope, listed, ofKind⟩
    exact ⟨same, minuteWindow clock scope,
      List.mem_map_of_mem listed, ofKind⟩
  · intro permitted window member
    obtain ⟨scope, listed, rfl⟩ := List.mem_map.mp member
    have limited := within (Option.some.inj permitted) scope listed
    rw [show (counted.setEvent inboundEventId set).eventCount
      (minuteWindow clock scope) = _ from windows _, if_pos member]
    exact limited

theorem minuteWindow_identity_ne
    {externalAccountId : TelegramExternalAccountId} :
    minuteWindow clock (.identity externalAccountId) ≠
      minuteWindow clock .system := by
  intro same
  cases congrArg AbuseWindowKey.scope same

private theorem claimScopes_eventCount (window : AbuseWindowKey) :
    ((db.countEvent clock .system).2.countEvent clock
        (.identity row.normalizedPayload.externalAccountId)).2.eventCount
          window =
      db.eventCount window +
        if window ∈ row.claimScopes.map (minuteWindow clock) then 1
        else 0 := by
  rw [countEvent_eventCount, countEvent_eventCount]
  have different := @minuteWindow_identity_ne clock
    row.normalizedPayload.externalAccountId
  by_cases system : window = minuteWindow clock .system
  · subst system
    simp [InboundEventRow.claimScopes, Ne.symm different]
  · by_cases identity : window = minuteWindow clock
        (.identity row.normalizedPayload.externalAccountId)
    · subst identity
      simp [InboundEventRow.claimScopes, different]
    · simp [InboundEventRow.claimScopes, system, identity]

private theorem abuseEffect_claim {answer : Bool}
    {set : InboundEventRow → InboundEventRow}
    (found : db.events.find? inboundEventId = some row)
    (undecided : row.abuseAllowed = none)
    (kept : InboundEventRow.DecisionsKept row (set row))
    (decision : (set row).abuseAllowed = some answer)
    (untouched : (set row).userAbuseAllowed = row.userAbuseAllowed)
    (denied : answer = false → (set row).processingStatus = .suppressed)
    (within : answer = true →
      (db.countEvent clock .system).1 ≤ AbuseScope.system.limit ∧
        ((db.countEvent clock .system).2.countEvent clock
          (.identity row.normalizedPayload.externalAccountId)).1 ≤
            (AbuseScope.identity
              row.normalizedPayload.externalAccountId).limit) :
    AbuseEffect db inboundEventId row.claimScopes
      (row.claimScopes.map (minuteWindow clock)) (some answer)
      (((db.countEvent clock .system).2.countEvent clock
        (.identity row.normalizedPayload.externalAccountId)).2.setEvent
          inboundEventId set) := by
  have members : ∀ scope, scope ∈ row.claimScopes ↔ scope = .system ∨
      scope = .identity row.normalizedPayload.externalAccountId := by
    intro scope
    simp [InboundEventRow.claimScopes]
  refine abuseEffect_counted ?_ ?_ claimScopes_eventCount found ?_ kept ?_ ?_
    denied ?_
  · intro first firstMember second secondMember sameKind
    rcases (members first).mp firstMember with rfl | rfl
    · rcases (members second).mp secondMember with rfl | rfl
      · rfl
      · cases sameKind
    · rcases (members second).mp secondMember with rfl | rfl
      · cases sameKind
      · rfl
  · obtain ⟨_, same⟩ := (countEvent_windowsOnly db clock .system).trans
      (countEvent_windowsOnly _ clock
        (.identity row.normalizedPayload.externalAccountId))
    rw [same]
  · intro scope member
    rcases (members scope).mp member with rfl | rfl
    · exact undecided
    · exact undecided
  · intro scope member
    rcases (members scope).mp member with rfl | rfl
    · exact decision
    · exact decision
  · intro kind decided
    cases kind with
    | system => exact .inr ⟨.system, (members _).mpr (.inl rfl), rfl⟩
    | identity => exact .inr ⟨_, (members _).mpr (.inr rfl), rfl⟩
    | user => exact .inl (ne_of_eq_of_ne untouched.symm decided)
  · intro permitted scope member
    obtain ⟨system, identity⟩ := within permitted
    rw [countEvent_fst] at system identity
    rw [countEvent_eventCount, if_neg minuteWindow_identity_ne] at identity
    rcases (members scope).mp member with rfl | rfl
    · exact system
    · exact identity

/-- What a claim of an announced event decides. -/
theorem claimTelegramEvent_abuseEffect {workerNow : Int}
    {claimId : TelegramProcessingClaimId} {outboxMessageId : OutboxMessageId}
    {outcome : ClaimTelegramEventOutcome} (final : db.DenialsFinal)
    (announced : db.announcedEvent outboxMessageId =
      some (inboundEventId, row))
    (ran : claimTelegramEvent clock workerNow claimId
      defaultTelegramProcessingPolicy outboxMessageId db =
        .ok (outcome, db')) :
    ∃ windows, AbuseEffect db inboundEventId row.claimScopes windows
      outcome.allowed db' := by
  have found := (announcedEvent_eq_some announced).2
  unfold claimTelegramEvent at ran
  simp only [announced] at ran
  split at ran
  · cases ran
    exact ⟨[], abuseEffect_uncounted rfl (.refl_of_events rfl) found found
      (fun _ _ decided => decided) (.inl rfl)⟩
  · rename_i unfinished
    have pending : row.processingStatus.isTerminal = false := by
      simpa using unfinished
    split at ran
    · cases ran
      exact ⟨[], abuseEffect_uncounted rfl (.refl_of_events rfl) found found
        (fun _ _ decided => decided) (.inl rfl)⟩
    · split at ran
      · -- A refused event is suppressed, so it is not claimed again.
        rename_i refused
        have suppressed := final inboundEventId row found (.inl refused)
        rw [suppressed] at pending
        cases pending
      · -- An event that was allowed before is not counted again.
        rename_i allowed
        obtain ⟨leased, updated, rest⟩ := bind_eq_ok.mp ran
        have written := updateEvent_eq_some (require_eq_ok.mp updated)
        subst written
        cases rest
        have kept : InboundEventRow.DecisionsKept row
            (row.claim clock defaultTelegramProcessingPolicy claimId) :=
          InboundEventRow.decisionsKept_claim pending (by simp [allowed])
        have stored : (row.claim clock defaultTelegramProcessingPolicy
            claimId).abuseAllowed = some true := by
          simp [InboundEventRow.claim, allowed]
        refine ⟨[], abuseEffect_uncounted rfl
          (eventsKept_modify rfl found kept) found
          ((Table.find?_modify_self _ _ _).trans (congrArg _ found)) ?_
          (.inr ⟨rfl, ?_⟩)⟩
        · intro other kind decided
          refine (decided_of_modify (fun _ => False) rfl found ?_
            decided).elim id (fun impossible => impossible.2.elim)
          intro kind _
          cases kind with
          | system | identity =>
              exact .inl (by simp [InboundEventRow.decision, allowed])
          | user => exact .inl ‹_›
        · intro scope member
          simp only [InboundEventRow.claimScopes, List.mem_cons,
            List.not_mem_nil, or_false] at member
          rcases member with rfl | rfl
          · exact stored
          · exact stored
      · rename_i unchecked
        split at ran
        · rename_i within
          obtain ⟨leased, updated, rest⟩ := bind_eq_ok.mp ran
          have written := updateEvent_eq_some (require_eq_ok.mp updated)
          subst written
          cases rest
          refine ⟨_, abuseEffect_claim found unchecked ?_ ?_ rfl
            (fun refused => by cases refused) (fun _ => within)⟩
          · exact InboundEventRow.decisionsKept_claim pending
              (by simp [unchecked])
          · simp [InboundEventRow.claim, unchecked]
        · obtain ⟨suppressed, updated, rest⟩ := bind_eq_ok.mp ran
          have written := updateEvent_eq_some (require_eq_ok.mp updated)
          subst written
          cases rest
          exact ⟨_, abuseEffect_claim found unchecked
            (InboundEventRow.decisionsKept_suppress unchecked) rfl rfl
            (fun _ => rfl) (fun permitted => by cases permitted)⟩

private theorem abuseEffect_enforce {userId : UserId} {answer : Bool}
    {set : InboundEventRow → InboundEventRow}
    (found : db.events.find? inboundEventId = some row)
    (undecided : row.userAbuseAllowed = none)
    (kept : InboundEventRow.DecisionsKept row (set row))
    (decision : (set row).userAbuseAllowed = some answer)
    (untouched : (set row).abuseAllowed = row.abuseAllowed)
    (denied : answer = false → (set row).processingStatus = .suppressed)
    (within : answer = true →
      (db.countEvent clock (.user userId)).1 ≤
        (AbuseScope.user userId).limit) :
    AbuseEffect db inboundEventId [.user userId]
      [minuteWindow clock (.user userId)] (some answer)
      ((db.countEvent clock (.user userId)).2.setEvent inboundEventId
        set) := by
  have members : ∀ scope, scope ∈ [AbuseScope.user userId] →
      scope = .user userId := by
    intro scope member
    exact List.mem_singleton.mp member
  refine abuseEffect_counted ?_ ?_ ?_ found ?_ kept ?_ ?_ denied ?_
  · intro first firstMember second secondMember _
    rw [members first firstMember, members second secondMember]
  · obtain ⟨_, same⟩ := countEvent_windowsOnly db clock (.user userId)
    rw [same]
  · intro window
    rw [countEvent_eventCount]
    simp
  · intro scope member
    rw [members scope member]
    exact undecided
  · intro scope member
    rw [members scope member]
    exact decision
  · intro kind decided
    cases kind with
    | system | identity => exact .inl (ne_of_eq_of_ne untouched.symm decided)
    | user => exact .inr ⟨_, List.mem_singleton_self _, rfl⟩
  · intro permitted scope member
    have limited := within permitted
    rw [countEvent_fst] at limited
    rw [members scope member]
    exact limited

/-- What the limit of a user decides. -/
theorem enforceTelegramUserLimit_abuseEffect {claim : TelegramEventClaimed}
    {actor : ChannelActorContext} {outcome : EnforceTelegramUserLimitOutcome}
    (final : db.DenialsFinal)
    (ran : enforceTelegramUserLimit clock (enforceUserLimitInput claim actor)
      db = .ok (outcome, db')) :
    ∃ windows, AbuseEffect db claim.inboundEventId [.user actor.userId]
      windows outcome.decision db' := by
  unfold enforceTelegramUserLimit at ran
  dsimp only at ran
  split at ran
  · cases ran
  · rename_i row held
    obtain ⟨found, processing, _⟩ := eventHeld_eq_some.mp held
    change db.events.find? claim.inboundEventId = some row at found
    split at ran
    · rename_i allowed
      cases ran
      refine ⟨[], abuseEffect_uncounted rfl (.refl_of_events rfl) found found
        (fun _ _ decided => decided) (.inr ⟨rfl, ?_⟩)⟩
      intro scope member
      rw [List.mem_singleton.mp member]
      exact allowed
    · -- A refused event is suppressed, so it is not being processed.
      rename_i refused
      have suppressed := final claim.inboundEventId row found (.inr refused)
      rw [suppressed] at processing
      cases processing
    · rename_i undecided
      split at ran
      · rename_i within
        obtain ⟨allowed, updated, rest⟩ := bind_eq_ok.mp ran
        have written := updateEvent_eq_some (require_eq_ok.mp updated)
        subst written
        cases rest
        exact ⟨_, abuseEffect_enforce found undecided
          (InboundEventRow.decisionsKept_allowUser undecided) rfl rfl
          (fun refused => by cases refused) (fun _ => within)⟩
      · obtain ⟨suppressed, updated, rest⟩ := bind_eq_ok.mp ran
        have written := updateEvent_eq_some (require_eq_ok.mp updated)
        subst written
        cases rest
        exact ⟨_, abuseEffect_enforce found undecided
          (InboundEventRow.decisionsKept_suppressUser undecided) rfl rfl
          (fun _ => rfl) (fun permitted => by cases permitted)⟩

/-- The transactions that decide nothing keep the windows and the decisions. -/
structure Undecided (db db' : ChannelDatabase) : Prop where
  windows : db'.windows = db.windows
  kept : db.EventsKept db'
  decides : ∀ inboundEventId kind, db'.Decided inboundEventId kind →
    db.Decided inboundEventId kind

theorem persistTelegramEvent_undecided {outboxMessageId : OutboxMessageId}
    {input : PersistTelegramEventInput} {outcome : AcceptTelegramEventOutcome}
    (ran : persistTelegramEvent clock inboundEventId outboxMessageId input db =
      .ok (outcome, db')) : db.Undecided db' := by
  cases persistTelegramEvent_eq_ok ran with
  | duplicate =>
      exact ⟨rfl, .refl_of_events rfl, fun _ _ decided => decided⟩
  | accepted freshEvent freshOutbox _ _ =>
      refine ⟨rfl, ⟨?_, ?_⟩, ?_⟩
      · intro other row found
        exact ⟨row, Table.find?_push_of_some freshEvent found, .refl⟩
      · intro other row' absent found denied
        rw [Table.find?_push] at found
        split at found
        · obtain rfl := Option.some.inj found
          rcases denied with refused | userRefused
          · cases refused
          · cases userRefused
        · rw [absent] at found
          cases found
      · rintro other kind ⟨row', found, decision⟩
        rw [Table.find?_push] at found
        split at found
        · obtain rfl := Option.some.inj found
          cases kind with
          | system | identity | user => exact (decision rfl).elim
        · exact ⟨row', found, decision⟩

private theorem undecided_of_held {claimId : TelegramProcessingClaimId}
    {set : InboundEventRow → InboundEventRow}
    (held : db.eventHeld inboundEventId claimId = some row)
    (windows : db'.windows = db.windows)
    (events : db'.events = db.events.modify inboundEventId set)
    (abuseAllowed : (set row).abuseAllowed = row.abuseAllowed)
    (userAbuseAllowed : (set row).userAbuseAllowed = row.userAbuseAllowed) :
    db.Undecided db' := by
  obtain ⟨found, processing, _⟩ := eventHeld_eq_some.mp held
  refine ⟨windows, eventsKept_modify events found
    (InboundEventRow.decisionsKept_of_held processing abuseAllowed
      userAbuseAllowed), ?_⟩
  intro other kind decided
  refine (decided_of_modify (fun _ => False) events found ?_
    decided).elim id (fun impossible => impossible.2.elim)
  intro kind decision
  cases kind with
  | system | identity => exact .inl (ne_of_eq_of_ne abuseAllowed.symm decision)
  | user => exact .inl (ne_of_eq_of_ne userAbuseAllowed.symm decision)

theorem completeTelegramEvent_undecided {ids : CompletionIds}
    {input : CompleteTelegramEventInput}
    {outcome : OutboundChannelMessageId}
    (ran : completeTelegramEvent clock ids input db =
      .ok (outcome, db')) : db.Undecided db' := by
  cases (completeTelegramEvent_eq_ok ran).2 with
  | completed _ _ held => exact undecided_of_held held rfl rfl rfl rfl

theorem releaseTelegramEvent_undecided {input : ReleaseTelegramEventInput}
    {outcome : Unit}
    (ran : releaseTelegramEvent input db = .ok (outcome, db')) :
    db.Undecided db' := by
  cases releaseTelegramEvent_eq_ok ran with
  | ignored => exact ⟨rfl, .refl_of_events rfl, fun _ _ decided => decided⟩
  | released held => exact undecided_of_held held rfl rfl rfl rfl

end Effects

end ChannelDatabase

end XpensGo
