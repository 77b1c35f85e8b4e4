import XpensGo.Queue.Consumer

/-!
# The settlement of a batch

In every interleaving of its handlers a message is acknowledged or retried at
most once, and by what its own body, its own job and the layer of its group
decide.  The consumer always ends, and it leaves a message without a call only
when a layer fails in a way that nothing catches.
-/

namespace XpensGo

open EcmaScript Transition Concurrency

section Verdicts

variable (batch : MessageBatch) (layers : QueueGroup → QueueLayerOutcome)
  (exits : Nat → QueueJobExits)

/-- The layer of a group fails in a way that the group does not catch. -/
def QueueGroup.Uncaught (group : QueueGroup) : Prop :=
  match layers group with
  | .built _ => False
  | .failed error => group.catches error = false
  | .died _ => True

/-- The layer of a group is built, and its release dies. -/
def QueueGroup.ReleaseDies (group : QueueGroup) : Prop :=
  ∃ causeTag, layers group = .built (some causeTag)

/-- The call for a message of a group. -/
def QueueMessage.verdict (message : QueueMessage) (queue : JsString)
    (exits : QueueJobExits) (job : PlatformQueueJob) : Option QueueVerdict :=
  match layers job.group with
  | .built _ => some (message.handle queue exits job)
  | .failed error =>
      if job.group.catches error then
        some (message.backoff queue job.group.deferralEvent error.tag)
      else
        none
  | .died _ => none

/-- The call for a message, if there is one. -/
def MessageBatch.verdict (position : Nat) : Option QueueVerdict :=
  batch.messages[position]?.bind (fun message =>
    match decodeQueueMessage message.body with
    | none => some (message.invalid batch.queue)
    | some job =>
        message.verdict layers batch.queue (exits position) job)

/-- The calls for a message once only some groups are left. -/
def MessageBatch.settled (rest : List QueueGroup) (position : Nat) :
    List QueueVerdict :=
  match batch.job position with
  | none => batch.refusal position
  | some job =>
      if job.group ∈ rest then []
      else (batch.verdict layers exits position).toList

def ConsumerState.Ended : ConsumerState → Prop
  | .finished _ | .acknowledgedAll _ _ => True
  | .decoding _ | .entering _ _ _ _ | .handling _ _ _ _ => False

/-- What the calls for the messages of a batch are at any moment. -/
structure BatchSettled (state : ConsumerState) : Prop where
  once : ∀ position,
    recordsOf position state.records = [] ∨
      ∃ verdict, batch.verdict layers exits position = some verdict ∧
        recordsOf position state.records = [verdict]
  finished : ∀ records, state = .finished records →
    ∀ position, position < batch.messages.length →
      ∃ verdict, batch.verdict layers exits position = some verdict ∧
        recordsOf position records = [verdict]
  acknowledgedAll : ∀ causeTag records,
    state = .acknowledgedAll causeTag records →
    ∃ before rest, queueGroups = before ++ rest ∧
      ((∃ group ∈ rest.head?, group.Uncaught layers) ∨
        ∃ group ∈ before.getLast?, group.ReleaseDies layers) ∧
      ∀ position, position < batch.messages.length →
        (recordsOf position records = [] ↔
          ∃ job, batch.job position = some job ∧ job.group ∈ rest)

end Verdicts

section Jobs

variable {batch : MessageBatch} {layers : QueueGroup → QueueLayerOutcome}
  {exits : Nat → QueueJobExits} {position : Nat} {group : QueueGroup}
  {rest : List QueueGroup} {job : PlatformQueueJob}

/-- The results of the decoding loop. -/
def MessageBatch.decoded (batch : MessageBatch) :
    List (Option PlatformQueueJob) :=
  batch.positions.map batch.job

theorem length_of_job (found : batch.job position = some job) :
    position < batch.messages.length := by
  obtain ⟨message, present, _⟩ := Option.bind_eq_some_iff.mp found
  exact (List.getElem?_eq_some_iff.mp present).1

theorem decoded_join (batch : MessageBatch) (position : Nat) :
    batch.decoded[position]?.join = batch.job position := by
  by_cases inside : position < batch.messages.length
  · simp [MessageBatch.decoded, MessageBatch.positions, inside]
  · have outside : batch.job position = none := by
      cases found : batch.job position with
      | none => rfl
      | some job => exact absurd (length_of_job found) inside
    simp [MessageBatch.decoded, MessageBatch.positions, inside, outside]

theorem mem_positions :
    position ∈ group.positions batch.decoded ↔
      ∃ job, batch.job position = some job ∧ job.group = group := by
  simp only [QueueGroup.positions, List.mem_filter, List.mem_range,
    decoded_join, decide_eq_true_eq, Option.map_eq_some_iff]
  constructor
  · rintro ⟨_, found⟩
    exact found
  · rintro ⟨job, found, grouped⟩
    refine ⟨?_, job, found, grouped⟩
    simpa [MessageBatch.decoded, MessageBatch.positions] using
      length_of_job found

theorem positions_nodup (group : QueueGroup)
    (decoded : List (Option PlatformQueueJob)) :
    (group.positions decoded).Nodup :=
  List.nodup_range.filter _

theorem verdict_of_job (layers : QueueGroup → QueueLayerOutcome)
    (exits : Nat → QueueJobExits) (found : batch.job position = some job) :
    ∃ message, batch.messages[position]? = some message ∧
      batch.verdict layers exits position =
        message.verdict layers batch.queue (exits position) job := by
  obtain ⟨message, present, decoded⟩ := Option.bind_eq_some_iff.mp found
  refine ⟨message, present, ?_⟩
  simp only [MessageBatch.verdict, present, Option.bind_some, decoded]

theorem verdict_of_refused {message : QueueMessage}
    (present : batch.messages[position]? = some message)
    (refused : batch.job position = none) :
    batch.verdict layers exits position =
      some (message.invalid batch.queue) := by
  have undecoded : decodeQueueMessage message.body = none := by
    simpa [MessageBatch.job, present] using refused
  simp only [MessageBatch.verdict, present, Option.bind_some, undecoded]

theorem refusal_of_refused (refused : batch.job position = none) :
    batch.refusal position =
      (batch.verdict layers exits position).toList := by
  cases present : batch.messages[position]? with
  | none => simp [MessageBatch.refusal, MessageBatch.verdict, present]
  | some message =>
      rw [verdict_of_refused present refused]
      simp [MessageBatch.refusal, present, refused]

theorem refusal_of_not_mem (outside : position ∉ batch.positions) :
    batch.refusal position = [] := by
  have absent : batch.messages[position]? = none := by
    simpa [MessageBatch.positions] using outside
  simp [MessageBatch.refusal, absent]

theorem refusal_of_job (found : batch.job position = some job) :
    batch.refusal position = [] := by
  simp [MessageBatch.refusal, found]

theorem settled_of_job (found : batch.job position = some job) :
    batch.settled layers exits rest position =
      if job.group ∈ rest then []
      else (batch.verdict layers exits position).toList := by
  simp only [MessageBatch.settled, found]

theorem settled_of_refused (refused : batch.job position = none) :
    batch.settled layers exits rest position = batch.refusal position := by
  simp only [MessageBatch.settled, refused]

theorem mem_queueGroups (group : QueueGroup) : group ∈ queueGroups := by
  cases group <;> simp [queueGroups]

theorem settled_queueGroups (position : Nat) :
    batch.settled layers exits queueGroups position =
      batch.refusal position := by
  cases found : batch.job position with
  | none => exact settled_of_refused found
  | some job =>
      rw [settled_of_job found, if_pos (mem_queueGroups _),
        refusal_of_job found]

/-- A group without messages settles nothing. -/
theorem settled_of_empty
    (empty : (group.positions batch.decoded).isEmpty = true)
    (position : Nat) :
    batch.settled layers exits (group :: rest) position =
      batch.settled layers exits rest position := by
  cases found : batch.job position with
  | none => rw [settled_of_refused found, settled_of_refused found]
  | some job =>
      have other : job.group ≠ group := by
        intro grouped
        have member := mem_positions.mpr ⟨job, found, grouped⟩
        rw [List.isEmpty_iff.mp empty] at member
        cases member
      rw [settled_of_job found, settled_of_job found]
      simp [other]

/-- A group settles its own messages. -/
theorem settled_of_group {records : List QueueVerdict}
    (fresh : group ∉ rest)
    (own : ∀ job, batch.job position = some job → job.group = group →
      records = (batch.verdict layers exits position).toList)
    (others : position ∉ group.positions batch.decoded → records = []) :
    batch.settled layers exits rest position =
      batch.settled layers exits (group :: rest) position ++ records := by
  by_cases member : position ∈ group.positions batch.decoded
  · obtain ⟨job, found, grouped⟩ := mem_positions.mp member
    rw [settled_of_job found, settled_of_job found, own job found grouped,
      grouped, if_neg fresh, if_pos List.mem_cons_self, List.nil_append]
  · rw [others member, List.append_nil]
    cases found : batch.job position with
    | none => rw [settled_of_refused found, settled_of_refused found]
    | some job =>
        have other : job.group ≠ group := by
          intro grouped
          exact member (mem_positions.mpr ⟨job, found, grouped⟩)
        rw [settled_of_job found, settled_of_job found]
        simp [other]

theorem settled_handled (exits : Nat → QueueJobExits)
    {releaseDies : Option CauseTag} (built : layers group = .built releaseDies)
    (fresh : group ∉ rest) (position : Nat) :
    batch.settled layers exits rest position =
      batch.settled layers exits (group :: rest) position ++
        if position ∈ group.positions batch.decoded then
          batch.handled exits batch.decoded position
        else
          [] := by
  apply settled_of_group fresh
  · intro job found grouped
    obtain ⟨message, present, verdict⟩ :=
      verdict_of_job layers exits found
    rw [if_pos (mem_positions.mpr ⟨job, found, grouped⟩), verdict]
    simp [MessageBatch.handled, present, decoded_join, found,
      QueueMessage.verdict, grouped, built]
  · intro outside
    rw [if_neg outside]

theorem settled_retried {error : QueueLayerError}
    (failed : layers group = .failed error)
    (caught : group.catches error = true) (fresh : group ∉ rest)
    (position : Nat) :
    batch.settled layers exits rest position =
      batch.settled layers exits (group :: rest) position ++
        recordsOf position (batch.retried group error
          (group.positions batch.decoded)) := by
  rw [MessageBatch.retried,
    recordsOf_filterMap (positions_nodup group batch.decoded)]
  apply settled_of_group fresh
  · intro job found grouped
    obtain ⟨message, present, verdict⟩ :=
      verdict_of_job layers exits found
    rw [if_pos (mem_positions.mpr ⟨job, found, grouped⟩), verdict]
    simp [present, QueueMessage.verdict, grouped, failed, caught]
  · intro outside
    rw [if_neg outside]

end Jobs

section Invariant

variable (batch : MessageBatch) (layers : QueueGroup → QueueLayerOutcome)
  (exits : Nat → QueueJobExits)

/-- The calls are those of the messages without a job and of the groups before
the ones that are left. -/
structure Settles (rest : List QueueGroup) (records : QueueRecords) :
    Prop where
  calls : ∀ position, recordsOf position records =
    batch.settled layers exits rest position
  caught : ∀ position job, batch.job position = some job →
    job.group ∉ rest → ¬job.group.Uncaught layers

inductive ConsumerHolds : ConsumerState → Prop where
  | decoding {loop : DecodeState} :
      (batch.decodeLoop.system []).Reachable loop →
      ConsumerHolds (.decoding loop)
  | entering {group : QueueGroup} {rest : List QueueGroup}
      {records : QueueRecords} :
      group :: rest <:+ queueGroups →
      Settles batch layers exits (group :: rest) records →
      ConsumerHolds (.entering group rest batch.decoded records)
  | handling {group : QueueGroup} {rest : List QueueGroup}
      {records : QueueRecords} {loop : HandleState}
      {releaseDies : Option CauseTag} :
      group :: rest <:+ queueGroups →
      layers group = .built releaseDies →
      Settles batch layers exits (group :: rest) records →
      ((batch.handleLoop exits group batch.decoded).system records).Reachable
        loop →
      ConsumerHolds (.handling group rest batch.decoded loop)
  | finished {records : QueueRecords} :
      Settles batch layers exits [] records →
      ConsumerHolds (.finished records)
  | uncaught {group : QueueGroup} {rest : List QueueGroup}
      {causeTag : CauseTag} {records : QueueRecords} :
      group :: rest <:+ queueGroups →
      group.Uncaught layers →
      Settles batch layers exits (group :: rest) records →
      ConsumerHolds (.acknowledgedAll causeTag records)
  | released {group : QueueGroup} {rest : List QueueGroup}
      {causeTag : CauseTag} {records : QueueRecords} :
      group :: rest <:+ queueGroups →
      group.ReleaseDies layers →
      Settles batch layers exits rest records →
      ConsumerHolds (.acknowledgedAll causeTag records)

variable {batch layers exits} {group : QueueGroup} {rest : List QueueGroup}
  {records : QueueRecords} {state state' : ConsumerState}
  {action : ConsumerAction}

theorem fresh_of_suffix (suffix : group :: rest <:+ queueGroups) :
    group ∉ rest := by
  have distinct : queueGroups.Nodup := by decide
  exact (List.nodup_cons.mp (suffix.sublist.nodup distinct)).1

/-- A group that has settled its messages is left behind. -/
theorem Settles.advance {after : QueueRecords}
    (settles : Settles batch layers exits (group :: rest) records)
    (caught : group.Uncaught layers →
      group.positions batch.decoded = [])
    (calls : ∀ position, recordsOf position after =
      batch.settled layers exits rest position) :
    Settles batch layers exits rest after where
  calls := calls
  caught := by
    intro position job found left uncaught
    by_cases grouped : job.group = group
    · have member := mem_positions.mpr ⟨job, found, grouped⟩
      rw [caught (grouped ▸ uncaught)] at member
      cases member
    · exact settles.caught position job found (by simp [grouped, left])
        uncaught

theorem ConsumerHolds.enter (suffix : rest <:+ queueGroups)
    (settles : Settles batch layers exits rest records) :
    ConsumerHolds batch layers exits
      (.enter batch.decoded records rest) := by
  induction rest with
  | nil => exact .finished settles
  | cons group rest induction =>
      unfold ConsumerState.enter
      split
      · rename_i empty
        apply induction ((List.suffix_cons group rest).trans suffix)
        refine settles.advance (fun _ => List.isEmpty_iff.mp empty) ?_
        intro position
        rw [settles.calls position, settled_of_empty empty]
      · exact .entering suffix settles

theorem ConsumerHolds.layered (suffix : group :: rest <:+ queueGroups)
    (settles : Settles batch layers exits (group :: rest) records) :
    ConsumerHolds batch layers exits
      (.layered batch layers group rest batch.decoded records) := by
  have later := (List.suffix_cons group rest).trans suffix
  unfold ConsumerState.layered
  split
  · rename_i releaseDies built
    exact .handling suffix built settles (.init rfl)
  · rename_i error failed
    split
    · rename_i caught
      apply ConsumerHolds.enter later
      refine settles.advance ?_ ?_
      · intro uncaught
        simp only [QueueGroup.Uncaught, failed, caught] at uncaught
        cases uncaught
      · intro position
        rw [recordsOf_append, settles.calls position,
          settled_retried failed caught (fresh_of_suffix suffix)]
    · rename_i uncaught
      refine .uncaught suffix ?_ settles
      simp only [QueueGroup.Uncaught, failed]
      simpa using uncaught
  · rename_i causeTag died
    refine .uncaught suffix ?_ settles
    simp only [QueueGroup.Uncaught, died]

theorem ConsumerHolds.release (suffix : group :: rest <:+ queueGroups)
    (settles : Settles batch layers exits rest records) :
    ConsumerHolds batch layers exits
      (.released layers group rest batch.decoded records) := by
  have later := (List.suffix_cons group rest).trans suffix
  unfold ConsumerState.released
  split
  · rename_i causeTag dies
    exact .released suffix ⟨causeTag, dies⟩ settles
  · exact .enter later settles
  · exact .enter later settles
  · exact .enter later settles

theorem ConsumerHolds.next (holds : ConsumerHolds batch layers exits state)
    (taken : state.next batch layers exits action = some state') :
    ConsumerHolds batch layers exits state' := by
  cases holds with
  | @decoding loop reached =>
      simp only [ConsumerState.next] at taken
      split at taken
      · obtain ⟨after, moved, rfl⟩ := Option.map_eq_some_iff.mp taken
        exact .decoding (reached.step moved)
      · split at taken
        · rename_i ended
          obtain ⟨decoded, results, rfl⟩ := Option.map_eq_some_iff.mp taken
          have same := ForEach.results_of_ended reached ended
          rw [MessageBatch.decodeLoop] at results
          rw [results] at same
          cases same
          refine ConsumerHolds.enter (List.suffix_refl _) ⟨?_, ?_⟩
          · intro position
            have written := ForEach.recordsOf_of_ended reached ended position
            rw [settled_queueGroups, written, recordsOf_nil, List.nil_append]
            split
            · rfl
            · rename_i outside
              exact (refusal_of_not_mem outside).symm
          · intro position job _ left
            exact absurd (mem_queueGroups _) left
        · cases taken
  | entering suffix settles =>
      simp only [ConsumerState.next] at taken
      split at taken
      · cases taken
      · cases taken
        exact ConsumerHolds.layered suffix settles
  | @handling group rest records loop _ suffix built settles reached =>
      simp only [ConsumerState.next] at taken
      split at taken
      · obtain ⟨after, moved, rfl⟩ := Option.map_eq_some_iff.mp taken
        exact .handling suffix built settles (reached.step moved)
      · split at taken
        · rename_i ended
          cases taken
          apply ConsumerHolds.release suffix
          refine settles.advance ?_ ?_
          · intro uncaught
            simp only [QueueGroup.Uncaught, built] at uncaught
          · intro position
            rw [ForEach.recordsOf_of_ended reached ended position,
              settles.calls position,
              settled_handled exits built (fresh_of_suffix suffix)]
        · cases taken
  | finished => cases taken
  | uncaught => cases taken
  | released => cases taken

theorem reachable_consumerHolds
    (reached : (consumerSystem batch layers exits).Reachable state) :
    ConsumerHolds batch layers exits state := by
  refine System.Reachable.invariant ?_ ?_ reached
  · rintro state rfl
    exact .decoding (.init rfl)
  · intro state action state' _ holds taken
    exact holds.next taken

end Invariant

section Outcomes

variable {batch : MessageBatch} {layers : QueueGroup → QueueLayerOutcome}
  {exits : Nat → QueueJobExits} {group : QueueGroup}
  {rest : List QueueGroup} {records : QueueRecords} {position : Nat}
  {state : ConsumerState}

/-- There is at most one call for a message, and it is the one of its
verdict. -/
def SettledOnce (batch : MessageBatch)
    (layers : QueueGroup → QueueLayerOutcome) (exits : Nat → QueueJobExits)
    (position : Nat) (calls : List QueueVerdict) : Prop :=
  calls = [] ∨ ∃ verdict,
    batch.verdict layers exits position = some verdict ∧ calls = [verdict]

theorem settledOnce_toList :
    SettledOnce batch layers exits position
      (batch.verdict layers exits position).toList := by
  cases found : batch.verdict layers exits position with
  | none => exact .inl rfl
  | some verdict => exact .inr ⟨verdict, found, rfl⟩

theorem settledOnce_settled :
    SettledOnce batch layers exits position
      (batch.settled layers exits rest position) := by
  cases found : batch.job position with
  | none =>
      rw [settled_of_refused found, refusal_of_refused found]
      exact settledOnce_toList
  | some job =>
      rw [settled_of_job found]
      split
      · exact .inl rfl
      · exact settledOnce_toList

theorem settledOnce_refusal :
    SettledOnce batch layers exits position (batch.refusal position) := by
  cases found : batch.job position with
  | none =>
      rw [refusal_of_refused found]
      exact settledOnce_toList
  | some job =>
      rw [refusal_of_job found]
      exact .inl rfl

/-- The calls while a group is being handled. -/
theorem settledOnce_handling {loop : HandleState}
    {releaseDies : Option CauseTag} (suffix : group :: rest <:+ queueGroups)
    (built : layers group = .built releaseDies)
    (settles : Settles batch layers exits (group :: rest) records)
    (reached : ((batch.handleLoop exits group batch.decoded).system
      records).Reachable loop) :
    SettledOnce batch layers exits position
      (recordsOf position loop.store) := by
  have written := (ForEach.reachable_recorded reached).written position
  rw [settles.calls position] at written
  rw [written]
  cases result : (loop.progress position).result? with
  | none =>
      rw [Option.isSome_none, if_neg Bool.false_ne_true, List.append_nil]
      exact settledOnce_settled
  | some value =>
      have member : position ∈ group.positions batch.decoded := by
        apply (ForEach.reachable_orderly reached).started
        intro waiting
        rw [waiting] at result
        cases result
      have handled : batch.settled layers exits rest position = _ :=
        settled_handled exits built (fresh_of_suffix suffix) position
      rw [if_pos member] at handled
      rw [Option.isSome_some, if_pos rfl, ← handled]
      exact settledOnce_settled

theorem ConsumerHolds.settledOnce
    (holds : ConsumerHolds batch layers exits state) (position : Nat) :
    SettledOnce batch layers exits position
      (recordsOf position state.records) := by
  cases holds with
  | @decoding loop reached =>
      have written := (ForEach.reachable_recorded reached).written position
      rw [recordsOf_nil, List.nil_append] at written
      rw [ConsumerState.records, written]
      split
      · exact settledOnce_refusal
      · exact .inl rfl
  | handling suffix built settles reached =>
      exact settledOnce_handling suffix built settles reached
  | entering _ settles | finished settles | uncaught _ _ settles
  | released _ _ settles =>
      rw [ConsumerState.records, settles.calls position]
      exact settledOnce_settled

/-- A message that has a verdict when its group is done. -/
theorem exists_verdict (exits : Nat → QueueJobExits)
    (inside : position < batch.messages.length)
    (caught : ∀ job, batch.job position = some job →
      ¬job.group.Uncaught layers) :
    ∃ verdict, batch.verdict layers exits position = some verdict := by
  cases found : batch.job position with
  | none =>
      have present : batch.messages[position]? =
          some batch.messages[position] :=
        List.getElem?_eq_getElem inside
      exact ⟨_, verdict_of_refused present found⟩
  | some job =>
      obtain ⟨message, present, verdict⟩ :=
        verdict_of_job layers exits found
      rw [verdict]
      have layered := caught job found
      unfold QueueGroup.Uncaught at layered
      unfold QueueMessage.verdict
      cases outcome : layers job.group with
      | built releaseDies => exact ⟨_, rfl⟩
      | died causeTag => simp [outcome] at layered
      | failed error =>
          have caught : job.group.catches error = true := by
            simpa [outcome] using layered
          exact ⟨_, if_pos caught⟩

theorem settled_of_not_mem
    (left : ∀ job, batch.job position = some job → job.group ∉ rest) :
    batch.settled layers exits rest position =
      (batch.verdict layers exits position).toList := by
  cases found : batch.job position with
  | none => rw [settled_of_refused found, refusal_of_refused found]
  | some job => rw [settled_of_job found, if_neg (left job found)]

/-- A message has no call exactly when its group is left. -/
theorem Settles.calls_eq_nil_iff
    (settles : Settles batch layers exits rest records)
    (inside : position < batch.messages.length) :
    recordsOf position records = [] ↔
      ∃ job, batch.job position = some job ∧ job.group ∈ rest := by
  rw [settles.calls position]
  constructor
  · intro none
    by_contra absent
    have left : ∀ job, batch.job position = some job →
        job.group ∉ rest :=
      fun job present member => absent ⟨job, present, member⟩
    obtain ⟨verdict, found⟩ := exists_verdict exits inside
      (fun job present => settles.caught position job present
        (left job present))
    rw [settled_of_not_mem left, found] at none
    cases none
  · rintro ⟨job, found, member⟩
    rw [settled_of_job found, if_pos member]

theorem ConsumerHolds.batchSettled
    (holds : ConsumerHolds batch layers exits state) :
    BatchSettled batch layers exits state where
  once := holds.settledOnce
  finished := by
    rintro records rfl position inside
    cases holds with
    | finished settles =>
        obtain ⟨verdict, found⟩ := exists_verdict exits inside
          (fun job present => settles.caught position job present
            List.not_mem_nil)
        refine ⟨verdict, found, ?_⟩
        rw [settles.calls position,
          settled_of_not_mem (fun _ _ => List.not_mem_nil), found]
        rfl
  acknowledgedAll := by
    rintro causeTag records rfl
    cases holds with
    | @uncaught group rest _ _ suffix uncaught settles =>
        obtain ⟨before, split⟩ := suffix
        exact ⟨before, group :: rest, split.symm,
          .inl ⟨group, rfl, uncaught⟩,
          fun position inside => settles.calls_eq_nil_iff inside⟩
    | @released group rest _ _ suffix dies settles =>
        obtain ⟨before, split⟩ := suffix
        refine ⟨before ++ [group], rest, ?_, .inr ⟨group, ?_, dies⟩,
          fun position inside => settles.calls_eq_nil_iff inside⟩
        · rw [← split, List.append_assoc, List.singleton_append]
        · rw [List.getLast?_concat]
          rfl

end Outcomes

section Progress

variable {batch : MessageBatch} {layers : QueueGroup → QueueLayerOutcome}
  {exits : Nat → QueueJobExits} {group : QueueGroup}
  {rest : List QueueGroup} {records : QueueRecords}
  {state state' : ConsumerState} {action : ConsumerAction}

/-- The most steps that the groups still take. -/
def groupSteps (decoded : List (Option PlatformQueueJob))
    (groups : List QueueGroup) : Nat :=
  (groups.map (fun group =>
    2 * (group.positions decoded).length + 2)).sum

/-- The most steps that the consumer still takes. -/
def remainingSteps (batch : MessageBatch) : ConsumerState → Nat
  | .decoding loop =>
      ForEach.remaining batch.positions loop + 1 +
        groupSteps batch.decoded queueGroups
  | .entering group rest decoded _ => groupSteps decoded (group :: rest)
  | .handling group rest decoded loop =>
      ForEach.remaining (group.positions decoded) loop + 1 +
        groupSteps decoded rest
  | .finished _ | .acknowledgedAll _ _ => 0

theorem remainingSteps_enter (batch : MessageBatch) (rest : List QueueGroup)
    (records : QueueRecords) :
    remainingSteps batch (.enter batch.decoded records rest) ≤
      groupSteps batch.decoded rest := by
  induction rest with
  | nil => exact Nat.zero_le _
  | cons group rest induction =>
      unfold ConsumerState.enter
      split
      · refine induction.trans ?_
        simp [groupSteps]
      · exact Nat.le_refl _

theorem remainingSteps_layered (group : QueueGroup)
    (rest : List QueueGroup) (records : QueueRecords) :
    remainingSteps batch
        (.layered batch layers group rest batch.decoded records) <
      groupSteps batch.decoded (group :: rest) := by
  have summed : groupSteps batch.decoded (group :: rest) =
      2 * (group.positions batch.decoded).length + 2 +
        groupSteps batch.decoded rest :=
    List.sum_cons
  unfold ConsumerState.layered
  split
  · have initial : ForEach.remaining (group.positions batch.decoded)
        (ForEach.initial records : HandleState) =
          2 * (group.positions batch.decoded).length :=
      ForEach.remaining_initial _ _
    simp only [remainingSteps, initial]
    omega
  · split
    · have entered := remainingSteps_enter batch rest
        (records ++ batch.retried group ‹_› (group.positions batch.decoded))
      omega
    · simp only [remainingSteps]
      omega
  · simp only [remainingSteps]
    omega

theorem remainingSteps_released (group : QueueGroup)
    (rest : List QueueGroup) (records : QueueRecords) :
    remainingSteps batch
        (.released layers group rest batch.decoded records) ≤
      groupSteps batch.decoded rest := by
  unfold ConsumerState.released
  split
  · exact Nat.zero_le _
  · exact remainingSteps_enter batch rest records
  · exact remainingSteps_enter batch rest records
  · exact remainingSteps_enter batch rest records

theorem remainingSteps_lt (holds : ConsumerHolds batch layers exits state)
    (taken : state.next batch layers exits action = some state') :
    remainingSteps batch state' < remainingSteps batch state := by
  cases holds with
  | @decoding loop reached =>
      simp only [ConsumerState.next] at taken
      split at taken
      · obtain ⟨after, moved, rfl⟩ := Option.map_eq_some_iff.mp taken
        have fewer : ForEach.remaining batch.positions after + 1 = _ :=
          ForEach.remaining_of_next List.nodup_range reached moved
        simp only [remainingSteps]
        omega
      · split at taken
        · rename_i ended
          obtain ⟨decoded, results, rfl⟩ := Option.map_eq_some_iff.mp taken
          have same := ForEach.results_of_ended reached ended
          rw [MessageBatch.decodeLoop] at results
          rw [results] at same
          cases same
          have entered :
              remainingSteps batch (.enter batch.decoded loop.store
                queueGroups) ≤ _ :=
            remainingSteps_enter batch queueGroups loop.store
          refine entered.trans_lt ?_
          simp only [remainingSteps]
          omega
        · cases taken
  | entering suffix settles =>
      simp only [ConsumerState.next] at taken
      split at taken
      · cases taken
      · cases taken
        exact remainingSteps_layered _ _ _
  | @handling group rest records loop _ suffix built settles reached =>
      simp only [ConsumerState.next] at taken
      split at taken
      · obtain ⟨after, moved, rfl⟩ := Option.map_eq_some_iff.mp taken
        have fewer :
            ForEach.remaining (group.positions batch.decoded) after + 1 = _ :=
          ForEach.remaining_of_next (positions_nodup group batch.decoded)
            reached moved
        simp only [remainingSteps]
        omega
      · split at taken
        · cases taken
          have left :
              remainingSteps batch
                (.released layers group rest batch.decoded loop.store) ≤ _ :=
            remainingSteps_released group rest loop.store
          refine left.trans_lt ?_
          simp only [remainingSteps]
          omega
        · cases taken
  | finished => cases taken
  | uncaught => cases taken
  | released => cases taken

theorem exists_loopAction (action : LoopAction Nat Unit Empty) :
    ∃ consumed : ConsumerAction, consumed.loopAction = some action := by
  cases action with
  | start => exact ⟨.start, rfl⟩
  | step position label => exact ⟨.step position, rfl⟩
  | others action => exact action.elim

theorem ended_of_stuck (holds : ConsumerHolds batch layers exits state)
    (stuck : ∀ action, state.next batch layers exits action = none) :
    state.Ended := by
  cases holds with
  | @decoding loop reached =>
      by_cases ended : batch.decodeLoop.Ended loop
      · have results : batch.decodeLoop.results loop = _ :=
          ForEach.results_of_ended reached ended
        have proceeds := stuck .proceed
        simp [ConsumerState.next, ConsumerAction.loopAction, ended,
          results] at proceeds
      · obtain ⟨action, after, moved⟩ :=
          ForEach.exists_next (by decide) reached ended
        obtain ⟨consumed, same⟩ := exists_loopAction action
        have next : batch.decodeLoop.next loop action = some after := moved
        have moves := stuck consumed
        simp [ConsumerState.next, same, next] at moves
  | entering suffix settles =>
      have proceeds := stuck .proceed
      simp [ConsumerState.next, ConsumerAction.loopAction] at proceeds
  | @handling group rest records loop _ suffix built settles reached =>
      by_cases ended : (batch.handleLoop exits group batch.decoded).Ended loop
      · have proceeds := stuck .proceed
        simp [ConsumerState.next, ConsumerAction.loopAction,
          ended] at proceeds
      · obtain ⟨action, after, moved⟩ :=
          ForEach.exists_next (by decide) reached ended
        obtain ⟨consumed, same⟩ := exists_loopAction action
        have next : (batch.handleLoop exits group batch.decoded).next loop
            action = some after := moved
        have moves := stuck consumed
        simp [ConsumerState.next, same, next] at moves
  | finished => trivial
  | uncaught => trivial
  | released => trivial

private theorem length_filter_groups (positions : List Nat)
    (group : Nat → Option QueueGroup) :
    (positions.filter (group · = some .platformStatus)).length +
        (positions.filter (group · = some .outbox)).length +
        (positions.filter (group · = some .modelOperation)).length ≤
      positions.length := by
  induction positions with
  | nil => exact Nat.le_refl _
  | cons position positions induction =>
      cases grouped : group position with
      | none =>
          simp only [List.filter_cons, grouped, List.length_cons,
            reduceCtorEq, decide_false, Bool.false_eq_true, if_false]
          omega
      | some own =>
          cases own <;>
            simp only [List.filter_cons, grouped, List.length_cons,
              Option.some.injEq, reduceCtorEq, decide_false, decide_true,
              Bool.false_eq_true, if_false, if_true] <;>
            omega

theorem groupSteps_le (decoded : List (Option PlatformQueueJob)) :
    groupSteps decoded queueGroups ≤ 2 * decoded.length + 6 := by
  have disjoint := length_filter_groups (List.range decoded.length)
    (fun position =>
      decoded[position]?.join.map PlatformQueueJob.group)
  rw [List.length_range] at disjoint
  simp only [groupSteps, queueGroups, List.map_cons, List.map_nil,
    List.sum_cons, List.sum_nil, QueueGroup.positions]
  omega

/-- Every run of the consumer is bounded and settles its messages; a run that
cannot go on has ended. -/
theorem batch_settled {actions : List ConsumerAction}
    (ran : (consumerSystem batch layers exits).run
      (.decoding (ForEach.initial [])) actions = some state) :
    actions.length ≤ 4 * batch.messages.length + 7 ∧
      BatchSettled batch layers exits state ∧
      ((∀ action, state.next batch layers exits action = none) →
        state.Ended) := by
  have start : (consumerSystem batch layers exits).Reachable
      (.decoding (ForEach.initial [])) :=
    .init rfl
  have holds := reachable_consumerHolds (start.run ran)
  refine ⟨?_, holds.batchSettled, ended_of_stuck holds⟩
  have bounded := System.length_le_of_run
    (fun state action state' reached taken =>
      remainingSteps_lt (reachable_consumerHolds reached) taken) start ran
  have initial : ForEach.remaining batch.positions
      (ForEach.initial [] : DecodeState) = 2 * batch.positions.length :=
    ForEach.remaining_initial _ _
  have groups := groupSteps_le batch.decoded
  simp only [remainingSteps, initial] at bounded
  simp only [MessageBatch.decoded, MessageBatch.positions, List.length_map,
    List.length_range] at bounded groups
  omega

def statusJob : PlatformStatusJobV1 :=
  { jobId := reorderedOutboxJob.outboxMessageId
    correlationId := reorderedOutboxJob.correlationId }

/-- A job whose layer fails, a body that is no job, and a reply that is
deferred. -/
def mixedBatch : MessageBatch :=
  { queue := .ofString "platform-jobs"
    messages :=
      [{ id := .ofString "first", attempts := 3,
         body := .object statusJob.properties },
        { id := .ofString "second", attempts := 1, body := .null },
        { id := .ofString "third", attempts := 2,
          body := .object reorderedJob }] }

def mixedLayers : QueueGroup → QueueLayerOutcome
  | .platformStatus => .failed .invalidRuntimeConfig
  | .outbox | .modelOperation => .built none

def mixedExits (_ : Nat) : QueueJobExits :=
  { outbox := .failed (.telegramReplyDeliveryDeferred 30)
    modelOperation := .budgetExceeded }

def mixedRun : List ConsumerAction :=
  [.start, .start, .step 1, .start, .step 2, .step 0, .proceed, .proceed,
    .proceed, .start, .step 2, .proceed]

/-- The settlements of a finished batch of three messages. -/
def settlementsOf : ConsumerState → List (List QueueSettlement)
  | .finished records =>
      [0, 1, 2].map (fun position =>
        (recordsOf position records).map (·.settlement))
  | _ => []

theorem batch_settled_mixed :
    ∃ state, settlementsOf state = [[.retry 120], [.ack], [.retry 30]] ∧
      BatchSettled mixedBatch mixedLayers mixedExits state := by
  have ran : ((consumerSystem mixedBatch mixedLayers mixedExits).run
      (.decoding (ForEach.initial [])) mixedRun).any (fun state =>
        settlementsOf state = [[.retry 120], [.ack], [.retry 30]]) = true := by
    decide +kernel
  obtain ⟨state, ran, settled⟩ := (Option.any_eq_true _ _).mp ran
  exact ⟨state, by simpa using settled, (batch_settled ran).2.1⟩

end Progress

end XpensGo
