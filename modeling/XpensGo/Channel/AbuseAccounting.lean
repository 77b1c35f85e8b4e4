import XpensGo.Channel.AbuseDecisions
import XpensGo.Channel.Execution

/-!
# The accounting of abuse windows

Any deliveries of any events, in any order and with any clock readings.  The
history holds one record for each committed answer of a claim and of a user
limit: the event, the scopes it is limited in, the windows before and after it,
and the decision.
-/

namespace XpensGo

open EcmaScript Postgres Relational Transition ChannelDatabase

/-- A transaction that decides about an event, with the windows around it. -/
structure AbuseRecord where
  inboundEventId : InboundEventId
  scopes : List AbuseScope
  before : Table AbuseWindowKey Nat
  after : Table AbuseWindowKey Nat
  allowed : Option Bool

namespace AbuseRecord

/-- What the transaction added to a window. -/
def added (record : AbuseRecord) (window : AbuseWindowKey) : Nat :=
  (record.after.find? window).getD 0 - (record.before.find? window).getD 0

/-- The transaction counted its event in the window. -/
def counts (window : AbuseWindowKey) (record : AbuseRecord) : Bool :=
  0 < record.added window

/-- The transaction counted its event in the window and allowed it. -/
def countsAllowed (window : AbuseWindowKey) (record : AbuseRecord) : Bool :=
  record.counts window && record.allowed = some true

end AbuseRecord

/-- The database, and the transactions that decided about events. -/
structure AbuseState where
  database : ChannelDatabase
  history : List AbuseRecord := []

/-- The transactions that decide about events, and what else is written. -/
inductive AbuseAction where
  | persist (clock : DatabaseClock) (inboundEventId : InboundEventId)
      (outboxMessageId : OutboxMessageId) (input : PersistTelegramEventInput)
  | claim (clock : DatabaseClock) (workerNow : Int)
      (claimId : TelegramProcessingClaimId)
      (outboxMessageId : OutboxMessageId)
  | enforceUserLimit (clock : DatabaseClock) (claim : TelegramEventClaimed)
      (actor : ChannelActorContext)
  | complete (clock : DatabaseClock) (ids : CompletionIds)
      (input : CompleteTelegramEventInput)
  | release (input : ReleaseTelegramEventInput)
  | writeOthers (database : ChannelDatabase)

namespace AbuseState

/-- Run a transaction that decides on an event, and record its answer if it
commits. -/
def answer {α : Type} (state : AbuseState)
    (limited : Option (InboundEventId × List AbuseScope))
    (transaction : ChannelDatabase →
      Except ChannelStoreFailure (α × ChannelDatabase))
    (allowed : α → Option Bool) : AbuseState :=
  match withTransaction transaction state.database with
  | (.ok outcome, database) =>
      { database := database
        history := state.history ++ (limited.map (fun event =>
          { inboundEventId := event.1
            scopes := event.2
            before := state.database.windows
            after := database.windows
            allowed := allowed outcome })).toList }
  | (.error _, database) => { state with database := database }

def execute {α : Type} (state : AbuseState)
    (transaction : ChannelDatabase →
      Except ChannelStoreFailure (α × ChannelDatabase)) : AbuseState :=
  { state with database := (withTransaction transaction state.database).2 }

/-- Transactions of the other stores write neither events nor windows. -/
def next (state : AbuseState) : AbuseAction → Option AbuseState
  | .persist clock inboundEventId outboxMessageId input =>
      some (state.execute
        (persistTelegramEvent clock inboundEventId outboxMessageId input))
  | .claim clock workerNow claimId outboxMessageId =>
      some (state.answer
        ((state.database.announcedEvent outboxMessageId).map (fun event =>
          (event.1, event.2.claimScopes)))
        (claimTelegramEvent clock workerNow claimId
          defaultTelegramProcessingPolicy outboxMessageId)
        ClaimTelegramEventOutcome.allowed)
  | .enforceUserLimit clock claim actor =>
      some (state.answer (some (claim.inboundEventId, [.user actor.userId]))
        (enforceTelegramUserLimit clock (enforceUserLimitInput claim actor))
        EnforceTelegramUserLimitOutcome.decision)
  | .complete clock ids input =>
      some (state.execute (completeTelegramEvent clock ids input))
  | .release input => some (state.execute (releaseTelegramEvent input))
  | .writeOthers database =>
      some { state with
        database := { database with
          events := state.database.events
          windows := state.database.windows } }

/-- Any contents of the tables of the other stores. -/
def Initial (state : AbuseState) : Prop :=
  state.database.events = .empty ∧ state.database.windows = .empty ∧
    state.history = []

/-- What all transactions on an event added to a window. -/
def addedBy (state : AbuseState) (inboundEventId : InboundEventId)
    (window : AbuseWindowKey) : Nat :=
  ((state.history.filter (fun record =>
    record.inboundEventId = inboundEventId)).map (·.added window)).sum

/-- The events that were counted in a window. -/
def countedIn (state : AbuseState) (window : AbuseWindowKey) :
    List InboundEventId :=
  (state.history.filter (AbuseRecord.counts window)).map (·.inboundEventId)

/-- The events that were counted in a window and decided allowed for it. -/
def allowedIn (state : AbuseState) (window : AbuseWindowKey) :
    List InboundEventId :=
  (state.countedIn window).filter (fun inboundEventId =>
    (state.database.events.find? inboundEventId).any (fun row =>
      row.decision window.scope.kind = some true))

/-- The event was counted in exactly one window of this kind. -/
def CountedOnce (state : AbuseState) (inboundEventId : InboundEventId)
    (kind : AbuseScopeKind) : Prop :=
  ∃ window, (window.scope.kind = kind ∧
      inboundEventId ∈ state.countedIn window) ∧
    ∀ other, other.scope.kind = kind →
      inboundEventId ∈ state.countedIn other → other = window

end AbuseState

/-- The limits, from tables without events. -/
def abuseSystem : System AbuseState AbuseAction :=
  { Initial := AbuseState.Initial
    next := AbuseState.next }

/-- The decisions of a reachable state: an event is decided for just the kinds
of windows that count it, no event is counted twice for windows of one kind, and
every refusal is final. -/
structure AbuseSound (state : AbuseState) : Prop where
  final : state.database.DenialsFinal
  decided : ∀ record ∈ state.history, ∀ window,
    record.counts window = true →
    record.added window = 1 ∧ window.scope ∈ record.scopes ∧
      record.allowed ≠ none
  answered : ∀ record ∈ state.history, record.allowed ≠ none →
    ∃ row, state.database.events.find? record.inboundEventId = some row ∧
      ∀ scope ∈ record.scopes, row.decision scope.kind = record.allowed
  counted : ∀ inboundEventId kind,
    state.database.Decided inboundEventId kind →
    ∃ record ∈ state.history, record.inboundEventId = inboundEventId ∧
      ∃ window, record.counts window = true ∧ window.scope.kind = kind
  single : ∀ record ∈ state.history, ∀ first second,
    record.counts first = true → record.counts second = true →
    first.scope.kind = second.scope.kind → first = second
  once : state.history.Pairwise (fun earlier later =>
    earlier.inboundEventId = later.inboundEventId →
    ∀ first second, earlier.counts first = true →
      later.counts second = true → first.scope.kind ≠ second.scope.kind)
  windows : ∀ window, state.database.eventCount window =
    state.history.countP (AbuseRecord.counts window)
  within : ∀ window,
    state.history.countP (AbuseRecord.countsAllowed window) ≤
      window.scope.limit
  refused : ∀ record ∈ state.history, record.allowed = some false →
    ∃ row, state.database.events.find? record.inboundEventId = some row ∧
      row.processingStatus = .suppressed

section Steps

variable {state state' : AbuseState} {db' : ChannelDatabase}
  {inboundEventId : InboundEventId} {scopes : List AbuseScope}
  {windows : List AbuseWindowKey} {allowed : Option Bool}

/-- The record of a decision. -/
private abbrev recordOf (state : AbuseState) (inboundEventId : InboundEventId)
    (scopes : List AbuseScope) (allowed : Option Bool)
    (db' : ChannelDatabase) : AbuseRecord :=
  { inboundEventId := inboundEventId
    scopes := scopes
    before := state.database.windows
    after := db'.windows
    allowed := allowed }

private theorem recordOf_added
    (effect : AbuseEffect state.database inboundEventId scopes windows allowed
      db') (window : AbuseWindowKey) :
    (recordOf state inboundEventId scopes allowed db').added window =
      if window ∈ windows then 1 else 0 := by
  have counted := effect.counted window
  unfold eventCount at counted
  unfold AbuseRecord.added
  rw [counted]
  exact Nat.add_sub_cancel_left _ _

private theorem recordOf_counts
    (effect : AbuseEffect state.database inboundEventId scopes windows allowed
      db') (window : AbuseWindowKey) :
    (recordOf state inboundEventId scopes allowed db').counts window = true ↔
      window ∈ windows := by
  rw [AbuseRecord.counts, decide_eq_true_iff, recordOf_added effect]
  by_cases member : window ∈ windows
  · simp [member]
  · simp [member]

/-- The decision that a counting record names is the one that its event
stores. -/
theorem AbuseSound.stored (sound : AbuseSound state) {record : AbuseRecord}
    (member : record ∈ state.history) {window : AbuseWindowKey}
    (counts : record.counts window = true) :
    ∃ row, state.database.events.find? record.inboundEventId = some row ∧
      row.decision window.scope.kind = record.allowed ∧
      row.decision window.scope.kind ≠ none := by
  obtain ⟨_, inScopes, decided⟩ := sound.decided record member window counts
  obtain ⟨row, found, stored⟩ := sound.answered record member decided
  have same := stored window.scope inScopes
  exact ⟨row, found, same, ne_of_eq_of_ne same decided⟩

private theorem AbuseSound.kept (sound : AbuseSound state)
    (kept : state.database.EventsKept db') :
    (∀ record ∈ state.history, record.allowed ≠ none →
      ∃ row, db'.events.find? record.inboundEventId = some row ∧
        ∀ scope ∈ record.scopes, row.decision scope.kind = record.allowed) ∧
      ∀ record ∈ state.history, record.allowed = some false →
        ∃ row, db'.events.find? record.inboundEventId = some row ∧
          row.processingStatus = .suppressed := by
  constructor
  · intro record member answered
    obtain ⟨row, found, stored⟩ := sound.answered record member answered
    obtain ⟨row', found', decisions⟩ := kept.rows _ row found
    refine ⟨row', found', ?_⟩
    intro scope inScopes
    have same := stored scope inScopes
    exact (decisions.decision scope.kind
      (ne_of_eq_of_ne same answered)).trans same
  · intro record member refused
    obtain ⟨row, found, suppressed⟩ := sound.refused record member refused
    obtain ⟨row', found', decisions⟩ := kept.rows _ row found
    exact ⟨row', found', decisions.suppressed suppressed⟩

theorem AbuseSound.undecided (sound : AbuseSound state)
    (undecided : state.database.Undecided db') :
    AbuseSound { state with database := db' } := by
  obtain ⟨answered, refused⟩ := sound.kept undecided.kept
  refine ⟨undecided.kept.final sound.final, sound.decided, answered, ?_,
    sound.single, sound.once, ?_, sound.within, refused⟩
  · intro inboundEventId kind decided
    exact sound.counted inboundEventId kind
      (undecided.decides inboundEventId kind decided)
  · intro window
    have counted := sound.windows window
    unfold eventCount at counted ⊢
    rw [undecided.windows]
    exact counted

/-- A decision keeps the accounts: the event is counted for kinds of windows
for which no record counts it yet. -/
theorem AbuseSound.decision (sound : AbuseSound state)
    (effect : AbuseEffect state.database inboundEventId scopes windows allowed
      db') :
    AbuseSound
      { database := db'
        history := state.history ++
          [recordOf state inboundEventId scopes allowed db'] } := by
  obtain ⟨stored, refused⟩ := sound.kept effect.kept
  obtain ⟨row, row', found, found', undecided, answered, denied⟩ :=
    effect.event
  refine ⟨effect.kept.final sound.final, ?_, ?_, ?_, ?_, ?_, ?_, ?_, ?_⟩
  · intro record member window counts
    rcases List.mem_append.mp member with earlier | last
    · exact sound.decided record earlier window counts
    · obtain rfl := List.mem_singleton.mp last
      have counted := (recordOf_counts effect window).mp counts
      refine ⟨?_, effect.inScopes window counted⟩
      rw [recordOf_added effect, if_pos counted]
  · intro record member isAnswered
    rcases List.mem_append.mp member with earlier | last
    · exact stored record earlier isAnswered
    · obtain rfl := List.mem_singleton.mp last
      exact ⟨row', found', answered isAnswered⟩
  · intro other kind decided
    rcases effect.decides other kind decided with
      before | ⟨rfl, window, counted, ofKind⟩
    · obtain ⟨record, member, counts⟩ := sound.counted other kind before
      exact ⟨record, List.mem_append_left _ member, counts⟩
    · exact ⟨_, List.mem_append_right _ (List.mem_singleton_self _), rfl,
        window, (recordOf_counts effect window).mpr counted, ofKind⟩
  · intro record member first second countsFirst countsSecond sameKind
    rcases List.mem_append.mp member with earlier | last
    · exact sound.single record earlier first second countsFirst countsSecond
        sameKind
    · obtain rfl := List.mem_singleton.mp last
      exact effect.distinct first ((recordOf_counts effect first).mp countsFirst)
        second ((recordOf_counts effect second).mp countsSecond) sameKind
  · refine List.pairwise_append.mpr ⟨sound.once, List.pairwise_singleton _ _,
      ?_⟩
    intro record member last lastMember sameEvent first second countsFirst
      countsSecond sameKind
    obtain rfl := List.mem_singleton.mp lastMember
    obtain ⟨earlierRow, earlierFound, _, earlierDecided⟩ :=
      sound.stored member countsFirst
    rw [sameEvent] at earlierFound
    obtain rfl := Option.some.inj (found.symm.trans earlierFound)
    have undecidedYet := undecided second
      ((recordOf_counts effect second).mp countsSecond)
    rw [← sameKind] at undecidedYet
    exact earlierDecided undecidedYet
  · intro window
    rw [effect.counted, sound.windows, List.countP_append,
      List.countP_singleton]
    by_cases member : window ∈ windows
    · rw [if_pos member, if_pos ((recordOf_counts effect window).mpr member)]
    · rw [if_neg member, if_neg (fun counts =>
        member ((recordOf_counts effect window).mp counts))]
  · intro window
    rw [List.countP_append, List.countP_singleton]
    by_cases counts : AbuseRecord.countsAllowed window
        (recordOf state inboundEventId scopes allowed db') = true
    · rw [if_pos counts]
      simp only [AbuseRecord.countsAllowed, Bool.and_eq_true,
        decide_eq_true_eq] at counts
      have member := (recordOf_counts effect window).mp counts.1
      have limited := effect.within counts.2 window member
      rw [effect.counted, if_pos member, sound.windows] at limited
      have fewer : state.history.countP (AbuseRecord.countsAllowed window) ≤
          state.history.countP (AbuseRecord.counts window) := by
        apply List.countP_mono_left
        intro record _ both
        exact (Bool.and_eq_true_iff.mp both).1
      omega
    · rw [if_neg counts]
      exact sound.within window
  · intro record member isRefused
    rcases List.mem_append.mp member with earlier | last
    · exact refused record earlier isRefused
    · obtain rfl := List.mem_singleton.mp last
      exact ⟨row', found', denied isRefused⟩

theorem AbuseSound.execute (sound : AbuseSound state) {α : Type}
    {transaction : ChannelDatabase →
      Except ChannelStoreFailure (α × ChannelDatabase)}
    (undecided : ∀ outcome db',
      transaction state.database = .ok (outcome, db') →
      state.database.Undecided db') :
    AbuseSound (state.execute transaction) := by
  rcases withTransaction_cases transaction state.database with
    ⟨_, _, failed⟩ | ⟨outcome, db', ran, committed⟩
  · rw [AbuseState.execute, failed]
    exact sound
  · rw [AbuseState.execute, committed]
    exact sound.undecided (undecided outcome db' ran)

theorem AbuseSound.answer (sound : AbuseSound state) {α : Type}
    {limited : Option (InboundEventId × List AbuseScope)}
    {transaction : ChannelDatabase →
      Except ChannelStoreFailure (α × ChannelDatabase)}
    {decision : α → Option Bool}
    (unannounced : limited = none → ∀ outcome db',
      transaction state.database = .ok (outcome, db') →
      db' = state.database)
    (decided : ∀ inboundEventId scopes outcome db',
      limited = some (inboundEventId, scopes) →
      transaction state.database = .ok (outcome, db') →
      ∃ windows, AbuseEffect state.database inboundEventId scopes windows
        (decision outcome) db') :
    AbuseSound (state.answer limited transaction decision) := by
  rcases withTransaction_cases transaction state.database with
    ⟨_, _, failed⟩ | ⟨outcome, db', ran, committed⟩
  · rw [AbuseState.answer, failed]
    exact sound
  · simp only [AbuseState.answer, committed]
    cases limited with
    | none =>
        rw [unannounced rfl outcome db' ran]
        simpa using sound
    | some event =>
        obtain ⟨windows, effect⟩ :=
          decided event.1 event.2 outcome db' rfl ran
        exact sound.decision effect

theorem AbuseSound.step (sound : AbuseSound state) {action : AbuseAction}
    (taken : abuseSystem.next state action = some state') :
    AbuseSound state' := by
  cases action with
  | persist clock inboundEventId outboxMessageId input =>
      obtain rfl := Option.some.inj taken
      exact sound.execute (fun _ _ ran => persistTelegramEvent_undecided ran)
  | claim clock workerNow claimId outboxMessageId =>
      obtain rfl := Option.some.inj taken
      refine sound.answer ?_ ?_
      · intro unannounced outcome db' ran
        rw [Option.map_eq_none_iff] at unannounced
        cases claimTelegramEvent_eq_ok ran with
        | notFound => rfl
        | duplicate announced | deferred announced | refused announced
        | suppressed announced | claimed announced =>
            cases unannounced.symm.trans announced
      · intro inboundEventId scopes outcome db' announced ran
        obtain ⟨⟨event, row⟩, present, same⟩ :=
          Option.map_eq_some_iff.mp announced
        cases same
        exact claimTelegramEvent_abuseEffect sound.final present ran
  | enforceUserLimit clock claim actor =>
      obtain rfl := Option.some.inj taken
      refine sound.answer ?_ ?_
      · intro absent
        cases absent
      · intro inboundEventId scopes outcome db' same ran
        cases same
        exact enforceTelegramUserLimit_abuseEffect sound.final ran
  | complete clock ids input =>
      obtain rfl := Option.some.inj taken
      exact sound.execute (fun _ _ ran => completeTelegramEvent_undecided ran)
  | release input =>
      obtain rfl := Option.some.inj taken
      exact sound.execute (fun _ _ ran => releaseTelegramEvent_undecided ran)
  | writeOthers database =>
      obtain rfl := Option.some.inj taken
      exact sound.undecided
        ⟨rfl, .refl_of_events rfl, fun _ _ decided => decided⟩

theorem reachable_abuseSound (reached : abuseSystem.Reachable state) :
    AbuseSound state := by
  refine System.Reachable.invariant ?_ ?_ reached
  · rintro state ⟨events, windows, history⟩
    refine ⟨?_, ?_, ?_, ?_, ?_, ?_, ?_, ?_, ?_⟩
    · intro inboundEventId row found
      rw [events] at found
      cases found
    · intro record member
      rw [history] at member
      cases member
    · intro record member
      rw [history] at member
      cases member
    · rintro inboundEventId kind ⟨row, found, _⟩
      rw [events] at found
      cases found
    · intro record member
      rw [history] at member
      cases member
    · rw [history]
      exact .nil
    · intro window
      rw [eventCount, windows, history]
      rfl
    · intro window
      rw [history]
      exact Nat.zero_le _
    · intro record member
      rw [history] at member
      cases member
  · intro state action state' _ sound taken
    exact sound.step taken

end Steps

section Accounts

variable {state : AbuseState} {window : AbuseWindowKey}
  {inboundEventId : InboundEventId}

private theorem sum_added_le {records : List AbuseRecord}
    (once : records.Pairwise (fun earlier later =>
      earlier.counts window = true → later.counts window = true → False))
    (added : ∀ record ∈ records, record.counts window = true →
      record.added window = 1) :
    (records.map (·.added window)).sum ≤ 1 := by
  induction records with
  | nil => simp
  | cons record records induction =>
      obtain ⟨apart, later⟩ := List.pairwise_cons.mp once
      rw [List.map_cons, List.sum_cons]
      by_cases counts : record.counts window = true
      · have none : (records.map (·.added window)).sum = 0 := by
          apply List.sum_eq_zero
          intro amount member
          obtain ⟨other, otherMember, rfl⟩ := List.mem_map.mp member
          by_contra positive
          exact apart other otherMember counts
            (decide_eq_true (Nat.pos_of_ne_zero positive))
        rw [none, added record List.mem_cons_self counts]
      · have nothing : record.added window = 0 := by
          by_contra positive
          exact counts (decide_eq_true (Nat.pos_of_ne_zero positive))
        rw [nothing, Nat.zero_add]
        exact induction later
          (fun other member => added other (List.mem_cons_of_mem _ member))

theorem AbuseSound.addedBy_le (sound : AbuseSound state) :
    state.addedBy inboundEventId window ≤ 1 := by
  apply sum_added_le
  · refine (sound.once.filter _).imp_of_mem ?_
    intro earlier later earlierMember laterMember apart countsEarlier
      countsLater
    have earlierEvent := of_decide_eq_true (List.mem_filter.mp earlierMember).2
    have laterEvent := of_decide_eq_true (List.mem_filter.mp laterMember).2
    exact apart (earlierEvent.trans laterEvent.symm) window window
      countsEarlier countsLater rfl
  · intro record member counts
    exact (sound.decided record (List.mem_filter.mp member).1 window counts).1

theorem AbuseState.mem_countedIn :
    inboundEventId ∈ state.countedIn window ↔
      ∃ record ∈ state.history, record.inboundEventId = inboundEventId ∧
        record.counts window = true := by
  rw [AbuseState.countedIn, List.mem_map]
  constructor
  · rintro ⟨record, member, event⟩
    obtain ⟨recorded, counts⟩ := List.mem_filter.mp member
    exact ⟨record, recorded, event, counts⟩
  · rintro ⟨record, recorded, event, counts⟩
    exact ⟨record, List.mem_filter.mpr ⟨recorded, counts⟩, event⟩

private theorem mem_countedIn_of_addedBy
    (positive : 0 < state.addedBy inboundEventId window) :
    inboundEventId ∈ state.countedIn window := by
  rw [AbuseState.mem_countedIn]
  by_contra none
  have nothing : state.addedBy inboundEventId window = 0 := by
    apply List.sum_eq_zero
    intro amount member
    obtain ⟨record, recordMember, rfl⟩ := List.mem_map.mp member
    obtain ⟨recorded, event⟩ := List.mem_filter.mp recordMember
    by_contra added
    exact none ⟨record, recorded, of_decide_eq_true event,
      decide_eq_true (Nat.pos_of_ne_zero added)⟩
  omega

/-- An event is counted in one window of each kind. -/
theorem AbuseSound.window_unique (sound : AbuseSound state)
    {other : AbuseWindowKey}
    (counted : inboundEventId ∈ state.countedIn window)
    (otherCounted : inboundEventId ∈ state.countedIn other)
    (sameKind : window.scope.kind = other.scope.kind) : window = other := by
  obtain ⟨first, firstMember, rfl, countsFirst⟩ :=
    AbuseState.mem_countedIn.mp counted
  obtain ⟨second, secondMember, sameEvent, countsSecond⟩ :=
    AbuseState.mem_countedIn.mp otherCounted
  have alike : ∀ earlier ∈ state.history, ∀ later ∈ state.history,
      earlier.inboundEventId = later.inboundEventId →
      ∀ first second, earlier.counts first = true →
        later.counts second = true →
          first.scope.kind = second.scope.kind → first = second := by
    apply List.Pairwise.forall_of_forall_of_flip
    · intro record member _
      exact sound.single record member
    · refine sound.once.imp ?_
      intro earlier later apart sameEvent first second countsFirst
        countsSecond same
      exact (apart sameEvent first second countsFirst countsSecond same).elim
    · refine sound.once.imp ?_
      intro earlier later apart sameEvent first second countsFirst
        countsSecond same
      exact (apart sameEvent.symm second first countsSecond countsFirst
        same.symm).elim
  exact alike first firstMember second secondMember sameEvent.symm window
    other countsFirst countsSecond sameKind

/-- An event is decided for just the kinds of windows that count it. -/
theorem AbuseSound.decided_iff (sound : AbuseSound state)
    {kind : AbuseScopeKind} :
    state.database.Decided inboundEventId kind ↔
      ∃ window, window.scope.kind = kind ∧
        inboundEventId ∈ state.countedIn window := by
  constructor
  · intro decided
    obtain ⟨record, member, event, window, counts, ofKind⟩ :=
      sound.counted inboundEventId kind decided
    exact ⟨window, ofKind,
      AbuseState.mem_countedIn.mpr ⟨record, member, event, counts⟩⟩
  · rintro ⟨window, rfl, counted⟩
    obtain ⟨record, member, rfl, counts⟩ :=
      AbuseState.mem_countedIn.mp counted
    obtain ⟨row, found, _, decided⟩ := sound.stored member counts
    exact ⟨row, found, decided⟩

theorem AbuseSound.countedOnce (sound : AbuseSound state)
    {kind : AbuseScopeKind}
    (decided : state.database.Decided inboundEventId kind) :
    state.CountedOnce inboundEventId kind := by
  obtain ⟨window, ofKind, counted⟩ := sound.decided_iff.mp decided
  refine ⟨window, ⟨ofKind, counted⟩, ?_⟩
  intro other sameKind otherCounted
  exact sound.window_unique otherCounted counted (sameKind.trans ofKind.symm)

theorem AbuseSound.countedIn_nodup (sound : AbuseSound state) :
    (state.countedIn window).Nodup := by
  refine List.pairwise_map.mpr ((sound.once.filter _).imp_of_mem ?_)
  intro earlier later earlierMember laterMember apart sameEvent
  exact apart sameEvent window window (List.mem_filter.mp earlierMember).2
    (List.mem_filter.mp laterMember).2 rfl

theorem AbuseSound.eventCount_eq (sound : AbuseSound state) :
    state.database.eventCount window = (state.countedIn window).length := by
  rw [sound.windows, AbuseState.countedIn, List.length_map,
    List.countP_eq_length_filter]

theorem AbuseSound.allowedIn_le (sound : AbuseSound state) :
    (state.allowedIn window).length ≤ window.scope.limit := by
  refine le_trans ?_ (sound.within window)
  rw [AbuseState.allowedIn, AbuseState.countedIn, List.filter_map,
    List.length_map, List.filter_filter, ← List.countP_eq_length_filter]
  apply List.countP_mono_left
  intro record member decidedAndCounted
  obtain ⟨decided, counts⟩ := Bool.and_eq_true_iff.mp decidedAndCounted
  obtain ⟨row, found, stored, _⟩ := sound.stored member counts
  have allowed : row.decision window.scope.kind = some true := by
    simpa [found] using decided
  rw [AbuseRecord.countsAllowed, counts, Bool.true_and]
  exact decide_eq_true (stored.symm.trans allowed)

theorem next_history {state' : AbuseState} {action : AbuseAction}
    {record : AbuseRecord} (member : record ∈ state.history)
    (taken : abuseSystem.next state action = some state') :
    record ∈ state'.history := by
  have answered : ∀ {α : Type}
      (event : Option (InboundEventId × List AbuseScope))
      (transaction : ChannelDatabase →
        Except ChannelStoreFailure (α × ChannelDatabase))
      (decision : α → Option Bool),
      record ∈ (state.answer event transaction decision).history := by
    intro α event transaction decision
    unfold AbuseState.answer
    split
    · exact List.mem_append_left _ member
    · exact member
  cases action with
  | claim | enforceUserLimit =>
      obtain rfl := Option.some.inj taken
      exact answered _ _ _
  | persist | complete | release | writeOthers =>
      obtain rfl := Option.some.inj taken
      exact member

/-- Deliveries of a suppressed event end at its status. -/
theorem claimTelegramEvent_of_suppressed {db : ChannelDatabase}
    {row : InboundEventRow} {outboxMessageId : OutboxMessageId}
    (announced : db.announcedEvent outboxMessageId =
      some (inboundEventId, row))
    (suppressed : row.processingStatus = .suppressed) (clock : DatabaseClock)
    (workerNow : Int) (claimId : TelegramProcessingClaimId)
    (policy : TelegramProcessingPolicy) :
    claimTelegramEvent clock workerNow claimId policy outboxMessageId db =
      .ok (.duplicate, db) := by
  simp only [claimTelegramEvent, announced, suppressed,
    ProcessingStatus.isTerminal, if_true]
  rfl

/-- In every run: an event adds at most one to one window of each kind, every
call that decides counts its event once in each of its scopes, a window counts
the events that were counted in it, as many of them are allowed as its limit,
and a refused event is suppressed for good. -/
theorem abuse_accounted (reached : abuseSystem.Reachable state) :
    (∀ inboundEventId window other,
      state.addedBy inboundEventId window ≤ 1 ∧
        (0 < state.addedBy inboundEventId window →
          0 < state.addedBy inboundEventId other →
          window.scope.kind = other.scope.kind → window = other)) ∧
      (∀ record ∈ state.history,
        (∀ window, record.counts window = true →
          window.scope ∈ record.scopes) ∧
        (record.allowed ≠ none → ∃ row,
          state.database.events.find? record.inboundEventId = some row ∧
            ∀ scope ∈ record.scopes,
              row.decision scope.kind = record.allowed ∧
                state.CountedOnce record.inboundEventId scope.kind)) ∧
      (∀ inboundEventId kind,
        state.database.Decided inboundEventId kind ↔
          state.CountedOnce inboundEventId kind) ∧
      (∀ window,
        state.database.eventCount window = (state.countedIn window).length ∧
          (state.countedIn window).Nodup) ∧
      (∀ window, (state.allowedIn window).length ≤ window.scope.limit) ∧
      ∀ record ∈ state.history, record.allowed = some false →
        ∀ labels later, abuseSystem.run state labels = some later →
          (∃ row, later.database.events.find? record.inboundEventId =
              some row ∧ row.processingStatus = .suppressed) ∧
            ∀ clock workerNow claimId outboxMessageId row,
              later.database.announcedEvent outboxMessageId =
                some (record.inboundEventId, row) →
              claimTelegramEvent clock workerNow claimId
                  defaultTelegramProcessingPolicy outboxMessageId
                  later.database =
                .ok (.duplicate, later.database) := by
  have sound := reachable_abuseSound reached
  refine ⟨?_, ?_, ?_, ?_, ?_, ?_⟩
  · intro inboundEventId window other
    refine ⟨sound.addedBy_le, ?_⟩
    intro positive otherPositive sameKind
    exact sound.window_unique (mem_countedIn_of_addedBy positive)
      (mem_countedIn_of_addedBy otherPositive) sameKind
  · intro record member
    constructor
    · intro window counts
      exact (sound.decided record member window counts).2.1
    · intro answered
      obtain ⟨row, found, stored⟩ := sound.answered record member answered
      refine ⟨row, found, ?_⟩
      intro scope inScopes
      have same := stored scope inScopes
      exact ⟨same, sound.countedOnce
        ⟨row, found, ne_of_eq_of_ne same answered⟩⟩
  · intro inboundEventId kind
    constructor
    · exact sound.countedOnce
    · rintro ⟨window, counted, _⟩
      exact sound.decided_iff.mpr ⟨window, counted⟩
  · intro window
    exact ⟨sound.eventCount_eq, sound.countedIn_nodup⟩
  · intro window
    exact sound.allowedIn_le
  · intro record member refused labels later ran
    have recorded : record ∈ later.history :=
      System.run_preserves (fun _ _ _ _ present taken =>
        next_history present taken) reached member ran
    obtain ⟨row, found, suppressed⟩ :=
      (reachable_abuseSound (reached.run ran)).refused record recorded refused
    refine ⟨⟨row, found, suppressed⟩, ?_⟩
    intro clock workerNow claimId outboxMessageId other announced
    have present := (announcedEvent_eq_some announced).2
    obtain rfl := Option.some.inj (found.symm.trans present)
    exact claimTelegramEvent_of_suppressed announced suppressed clock
      workerNow claimId _

end Accounts

section Samples

/-- An event is persisted, claimed and limited for its user. -/
def limitedEvent (externalAccountId : TelegramExternalAccountId)
    (number : Nat) : List AbuseAction :=
  let event := sampleTelegramEvent externalAccountId (toString number)
    (.text (JsString.ofString "lunch 250"))
  [.persist (channelClock 5000000) ⟨100 + number⟩ ⟨200 + number⟩
      (persistTelegramEventInput ⟨9⟩ event),
    .claim (channelClock 5000000) 5000000 ⟨300 + number⟩ ⟨200 + number⟩,
    .enforceUserLimit (channelClock 5000000)
      { claimId := ⟨300 + number⟩
        inboundEventId := ⟨100 + number⟩
        event := event }
      { userId := ⟨1⟩
        ledgerId := ⟨2⟩
        timezone := "Asia/Kolkata"
        correlationId := ⟨9⟩
        channelIdentityId := ⟨5⟩ }]

/-- The first event of a user is released and claimed again in the next minute,
and two accounts of the user send thirty more in the minute of the first. -/
def userLimitedRun : List AbuseAction :=
  limitedEvent sampleAccount 1 ++
  [.release
      { claimId := ⟨301⟩
        inboundEventId := ⟨101⟩ },
    .claim (channelClock 5060000) 5060000 ⟨401⟩ ⟨201⟩] ++
  (List.range' 2 15).flatMap (limitedEvent sampleAccount) ++
  (List.range' 17 15).flatMap
    (limitedEvent { sampleAccount with digits := "7002" })

/-- The redelivered event was counted once, and the last one is refused for the
window of its user. -/
theorem abuse_accounted_limited :
    ∃ state, abuseSystem.Reachable state ∧
      state.database.eventCount
          (minuteWindow (channelClock 5000000) (.user ⟨1⟩)) = 31 ∧
        (state.allowedIn
          (minuteWindow (channelClock 5000000) (.user ⟨1⟩))).length ≤ 30 ∧
        state.CountedOnce ⟨101⟩ .system ∧
        state.CountedOnce ⟨131⟩ .user ∧
        ∃ record ∈ state.history, record.allowed = some false ∧
          ∃ row, state.database.events.find? record.inboundEventId =
            some row ∧ row.decision .user = some false := by
  obtain ⟨state, reached, tested⟩ := System.exists_reachable_of_run
    userLimitedRun
    (fun state =>
      state.database.eventCount
        (minuteWindow (channelClock 5000000) (.user ⟨1⟩)) = 31 &&
      (state.database.events.find? ⟨101⟩).any (fun row =>
        row.abuseAllowed.isSome) &&
      (state.database.events.find? ⟨131⟩).any (fun row =>
        row.userAbuseAllowed.isSome) &&
      state.history.any (fun record => record.allowed = some false &&
        record.scopes = [.user ⟨1⟩]))
    (show abuseSystem.Initial
        { database := { identity := sampleIdentityStart.database } } from
      ⟨rfl, rfl, rfl⟩) (by decide +kernel)
  simp only [Bool.and_eq_true, Option.any_eq_true, decide_eq_true_eq,
    List.any_eq_true] at tested
  obtain ⟨⟨⟨full, first, firstFound, checked⟩, last, lastFound, limited⟩,
    record, member, refused, scopes⟩ := tested
  obtain ⟨_, answered, decided, _, allowed, _⟩ := abuse_accounted reached
  obtain ⟨row, found, stored⟩ := (answered record member).2 (by simp [refused])
  refine ⟨state, reached, full, allowed _, (decided _ _).mp ⟨first, firstFound,
    Option.isSome_iff_ne_none.mp checked⟩, (decided _ _).mp ⟨last, lastFound,
    Option.isSome_iff_ne_none.mp limited⟩, record, member, refused, row, found,
    ?_⟩
  rw [← refused]
  exact (stored (.user ⟨1⟩) (by simp [scopes])).1

end Samples

end XpensGo
