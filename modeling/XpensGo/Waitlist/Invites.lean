import XpensGo.Waitlist.Members

/-!
# First come, first served

Invites go out in the order people joined, whatever batches the operator sends
and wherever they are cut off.
-/

namespace XpensGo

open EcmaScript JsString Relational Transition

namespace Waitlist

section Turns

/-- Elements that must come before a listed one are among those before it, also
when only the beginning of the sorted list is taken. -/
theorem mem_before_of_pairwise {α : Type} {order : α → α → Prop}
    {sorted before after : List α} {count : Nat} {early late : α}
    (ordered : sorted.Pairwise order)
    (taken : sorted.take count = before ++ late :: after)
    (member : early ∈ sorted) (precedes : ¬order late early)
    (reflexive : order late late) : early ∈ before := by
  have split : sorted = before ++ late :: (after ++ sorted.drop count) := by
    calc
      sorted = sorted.take count ++ sorted.drop count :=
        (List.take_append_drop count sorted).symm
      _ = before ++ late :: (after ++ sorted.drop count) := by
        rw [taken, List.append_assoc, List.cons_append]
  rw [split] at ordered member
  obtain ⟨_, fromLate, _⟩ := List.pairwise_append.mp ordered
  rcases List.mem_append.mp member with earlier | later
  · exact earlier
  · rcases List.mem_cons.mp later with rfl | after
    · exact (precedes reflexive).elim
    · exact (precedes ((List.pairwise_cons.mp fromLate).1 _ after)).elim

instance : Std.Total JoinedNoLater :=
  ⟨fun left right => le_total left.2.joinedAt right.2.joinedAt⟩

instance : IsTrans (WaitlistId × WaitlistRow) JoinedNoLater :=
  ⟨fun _ _ _ first second => le_trans first second⟩

def EmailCall.Invites (call : EmailCall) (id : WaitlistId) : Prop :=
  call.isInvite = true ∧ call.id = id

/-- An invite for the member was handed to the scheduler. -/
def Offered (state : WaitlistState) (id : WaitlistId) : Prop :=
  ∃ call current, state.calls.find? call = some current ∧
    current.call.Invites id

/-- An action under way is going to schedule an invite for the member. -/
def Drawn (state : WaitlistState) (id : WaitlistId) : Prop :=
  ∃ run current, state.runs.find? run = some current ∧
    ∃ call ∈ current.remaining, call.Invites id

/-- Of two members who joined one after the other, the second is not served
before the first, neither by the scheduler nor by an action under way. -/
structure Turn (state : WaitlistState) (first second : WaitlistId) : Prop where
  joined : ∃ row row', state.waitlist.find? first = some row ∧
    state.waitlist.find? second = some row' ∧ row.joinedAt < row'.joinedAt
  offered : Offered state second → Offered state first
  ahead : ∀ run current, state.runs.find? run = some current →
    ∀ before call after, current.remaining = before ++ call :: after →
      call.Invites second →
      Offered state first ∨ ∃ earlier ∈ before, earlier.Invites first

variable {builtins : TextBuiltins} {state state' : WaitlistState}
  {first second : WaitlistId}

theorem offered_setPhase {call : CallId} {phase : CallPhase}
    {id : WaitlistId} :
    Offered (state.setPhase call phase) id ↔ Offered state id := by
  constructor
  · rintro ⟨other, current, found, invites⟩
    rcases Table.find?_modify_cases found with
      ⟨_, before, present, rfl⟩ | ⟨_, unmoved⟩
    · exact ⟨call, before, present, invites⟩
    · exact ⟨other, current, unmoved, invites⟩
  · rintro ⟨other, current, found, invites⟩
    by_cases same : other = call
    · subst same
      refine ⟨other, { current with phase := phase }, ?_, invites⟩
      simp only [WaitlistState.setPhase, Table.find?_modify_self, found,
        Option.map_some]
    · refine ⟨other, current, ?_, invites⟩
      simp only [WaitlistState.setPhase,
        Table.find?_modify_of_ne _ _ same, found]

/-- Who was not invited yet comes in a batch after those who joined before. -/
theorem inviteBatch_in_turn {waitlist : WaitlistTable} {args : LaunchArgs}
    {before after : List EmailCall} {call : EmailCall}
    {row row' : WaitlistRow} (firstListed : waitlist.find? first = some row)
    (secondListed : waitlist.find? second = some row')
    (joined : row.joinedAt < row'.joinedAt)
    (waiting : row.inviteSentAt = none)
    (split : inviteBatch args waitlist = before ++ call :: after)
    (invites : call.Invites second) :
    ∃ earlier ∈ before, earlier.Invites first := by
  obtain ⟨count, same⟩ := exists_inviteBatch_eq args waitlist
  rw [same] at split
  obtain ⟨beforeRows, rest, taken, rfl, restSplit⟩ :=
    List.map_eq_append_iff.mp split
  obtain ⟨entry, afterRows, rfl, rfl, rfl⟩ := List.map_eq_cons_iff.mp restSplit
  have entryListed : (entry.1, entry.2) ∈ waitingRows waitlist := by
    apply List.mem_of_mem_take (i := count)
    rw [taken]
    exact List.mem_append_right _ List.mem_cons_self
  have entryRow : entry.2 = row' := by
    have found := (mem_waitingRows.mp entryListed).1
    have same : entry.1 = second := invites.2
    rw [same, secondListed] at found
    exact (Option.some.inj found).symm
  have member := mem_before_of_pairwise
    (List.pairwise_insertionSort JoinedNoLater _) taken
    (mem_waitingRows.mpr ⟨firstListed, waiting⟩) (by
      unfold JoinedNoLater
      rw [entryRow]
      exact not_le.mpr joined) (le_refl _)
  exact ⟨_, List.mem_map.mpr ⟨(first, row), member, rfl⟩, rfl, rfl⟩

theorem offered_schedule_cases {call : CallId} {current : ScheduledCall}
    {waitlist : WaitlistTable} {runs : Table RunId BatchRun}
    {id : WaitlistId} (fresh : call ∉ state.calls.rows.map Prod.fst)
    (offered : Offered { state with
      waitlist := waitlist
      runs := runs
      calls := state.calls.push call current fresh } id) :
    Offered state id ∨ current.call.Invites id := by
  obtain ⟨other, present, found, invites⟩ := offered
  rw [Table.find?_push] at found
  split at found
  · cases found
    exact .inr invites
  · exact .inl ⟨other, present, found, invites⟩

/-- Whoever is recorded as invited was offered the invite. -/
def InvitesOffered (state : WaitlistState) : Prop :=
  ∀ id row, state.waitlist.find? id = some row →
    row.inviteSentAt.isSome = true → Offered state id

theorem InvitesOffered.setPhase {call : CallId} {phase : CallPhase}
    (recorded : InvitesOffered state) :
    InvitesOffered (state.setPhase call phase) :=
  fun id row listed invited =>
    offered_setPhase.mpr (recorded id row listed invited)

theorem WaitlistChange.invitesOffered
    (change : WaitlistChange builtins state state')
    (recorded : InvitesOffered state) : InvitesOffered state' := by
  cases change with
  | still => exact recorded
  | @joined id call now new member freshId freshCall =>
      intro other row listed invited
      rw [Table.find?_push] at listed
      split at listed
      · cases listed
        rw [member.uninvited] at invited
        cases invited
      · obtain ⟨offer, current, found, invites⟩ :=
          recorded other row listed invited
        exact ⟨offer, current, Table.find?_push_of_some freshCall found,
          invites⟩
  | began drawn fresh => exact recorded
  | scheduled found fresh =>
      intro id row listed invited
      obtain ⟨offer, current, found, invites⟩ := recorded id row listed invited
      exact ⟨offer, current, Table.find?_push_of_some fresh found, invites⟩
  | stopped => exact recorded
  | sent found honest => exact @InvitesOffered.setPhase _ _ _ recorded
  | @marked id call result now waitlist found wrote =>
      obtain ⟨set, rfl, effect⟩ := markEffect_of_mark wrote
      intro other row listed invited
      apply offered_setPhase.mpr
      rcases Table.find?_modify_cases listed with
        ⟨rfl, before, old, rfl⟩ | ⟨_, unmoved⟩
      · rcases effect.invite before invited with already | invite
        · exact recorded _ before old already
        · exact ⟨id, _, found, invite, rfl⟩
      · exact recorded other row unmoved invited
  | aborted => exact recorded.setPhase

theorem invitesOffered_of_reachable
    (reached : (waitlistSystem builtins).Reachable state) :
    InvitesOffered state := by
  refine System.Reachable.invariant (I := InvitesOffered) ?_ ?_ reached
  · rintro _ rfl _ _ listed
    cases listed
  · intro state action state' _ recorded taken
    exact (waitlistChange_of_next taken).invitesOffered recorded

/-- A step that leaves the actions under way alone and offers nothing to the
second member. -/
theorem Turn.keep (turn : Turn state first second)
    (joined : ∃ row row', state'.waitlist.find? first = some row ∧
      state'.waitlist.find? second = some row' ∧ row.joinedAt < row'.joinedAt)
    (runs : state'.runs = state.runs)
    (served : Offered state first → Offered state' first)
    (nothing : Offered state' second → Offered state second) :
    Turn state' first second :=
  { joined := joined
    offered := fun offered => served (turn.offered (nothing offered))
    ahead := by
      intro run current found before call after split invites
      rw [runs] at found
      exact (turn.ahead run current found before call after split invites).imp
        served (fun ahead => ahead) }

/-- An action under way schedules its next call. -/
theorem Turn.schedule {run : RunId} {call : EmailCall}
    {rest : List EmailCall} {index : Nat} {id : CallId} {dueAt : Int}
    (turn : Turn state first second)
    (found : state.runs.find? run =
      some { remaining := call :: rest, index := index })
    (fresh : id ∉ state.calls.rows.map Prod.fst) :
    Turn { state with
      runs := state.runs.modify run (fun _ =>
        { remaining := rest
          index := index + 1 })
      calls := state.calls.push id
        { call := call
          phase := .waiting dueAt } fresh } first second := by
  let later : WaitlistState := { state with
    runs := state.runs.modify run (fun _ =>
      { remaining := rest
        index := index + 1 })
    calls := state.calls.push id
      { call := call
        phase := .waiting dueAt } fresh }
  have served : Offered state first → Offered later first := by
    rintro ⟨other, present, listed, invites⟩
    exact ⟨other, present, Table.find?_push_of_some fresh listed, invites⟩
  have now : call.Invites first → Offered later first := by
    intro invites
    exact ⟨id, _, Table.find?_push_self _ _ fresh, invites⟩
  exact
    { joined := turn.joined
      offered := by
        intro offered
        rcases offered_schedule_cases fresh offered with before | invites
        · exact served (turn.offered before)
        · rcases turn.ahead run _ found [] call rest rfl invites with
            offered | ⟨_, none, _⟩
          · exact served offered
          · cases none
      ahead := by
        intro other current present before late after split invites
        rcases Table.find?_modify_cases present with
          ⟨_, earlier, _, rfl⟩ | ⟨_, unmoved⟩
        · change rest = before ++ late :: after at split
          have whole : call :: rest = (call :: before) ++ late :: after := by
            rw [split, List.cons_append]
          rcases turn.ahead run _ found (call :: before) late after whole
            invites with offered | ⟨ahead, member, aheadInvites⟩
          · exact .inl (served offered)
          · rcases List.mem_cons.mp member with rfl | member
            · exact .inl (now aheadInvites)
            · exact .inr ⟨ahead, member, aheadInvites⟩
        · exact (turn.ahead other current unmoved before late after split
            invites).imp served (fun ahead => ahead) }

theorem WaitlistChange.turn (change : WaitlistChange builtins state state')
    (recorded : InvitesOffered state) (turn : Turn state first second) :
    Turn state' first second := by
  obtain ⟨row, row', firstListed, secondListed, earlier⟩ := turn.joined
  have joined : ∃ row row', state'.waitlist.find? first = some row ∧
      state'.waitlist.find? second = some row' ∧
      row.joinedAt < row'.joinedAt := by
    obtain ⟨kept, found, _, joinedAt, _⟩ :=
      change.keepsMembers first row firstListed
    obtain ⟨kept', found', _, joinedAt', _⟩ :=
      change.keepsMembers second row' secondListed
    rw [← joinedAt, ← joinedAt'] at earlier
    exact ⟨kept, kept', found, found', earlier⟩
  cases change with
  | still => exact turn
  | @joined id call now new member freshId freshCall =>
      have served : Offered state first → Offered
          { state with
            waitlist := state.waitlist.push id new freshId
            calls := state.calls.push call
              { call := .sendWelcome id new.email
                phase := .waiting now } freshCall } first := by
        rintro ⟨other, present, found, invites⟩
        exact ⟨other, present, Table.find?_push_of_some freshCall found,
          invites⟩
      refine turn.keep joined rfl served ?_
      intro offered
      rcases offered_schedule_cases freshCall offered with before | welcome
      · exact before
      · cases welcome.1
  | @began run batch drawn fresh =>
      exact
        { joined := joined
          offered := turn.offered
          ahead := by
            intro other current found before call after split invites
            rw [Table.find?_push] at found
            split at found
            · cases found
              change batch = before ++ call :: after at split
              cases waiting : row.inviteSentAt with
              | some sentAt =>
                  exact .inl (recorded first row firstListed (by
                    rw [waiting]
                    rfl))
              | none =>
                  right
                  rcases drawn with rfl | ⟨args, rfl⟩
                  · have among : call ∈ welcomeBatch state.waitlist := by
                      rw [split]
                      exact List.mem_append_right _ List.mem_cons_self
                    obtain ⟨_, _, _, _, rfl⟩ := mem_welcomeBatch.mp among
                    cases invites.1
                  · exact inviteBatch_in_turn firstListed secondListed
                      earlier waiting split invites
            · exact turn.ahead other current found before call after split
                invites }
  | scheduled found fresh => exact turn.schedule found fresh
  | @stopped run =>
      exact
        { joined := joined
          offered := turn.offered
          ahead := by
            intro other current found before call after split invites
            rcases Table.find?_modify_cases found with
              ⟨_, present, _, rfl⟩ | ⟨_, unmoved⟩
            · simp at split
            · exact turn.ahead other current unmoved before call after split
                invites }
  | sent found honest =>
      exact turn.keep joined rfl offered_setPhase.mpr offered_setPhase.mp
  | marked found wrote =>
      exact turn.keep joined rfl offered_setPhase.mpr offered_setPhase.mp
  | aborted =>
      exact turn.keep joined rfl offered_setPhase.mpr offered_setPhase.mp

/-- Invites go out in the order people joined: once an invite is scheduled for a
member, one was scheduled for everybody on the list who had joined earlier.
Whatever happens in between, nobody is overtaken after the two are on the list
and the later one is not drawn yet. -/
theorem invites_first_come_first_served
    (reached : (waitlistSystem builtins).Reachable state)
    {row row' : WaitlistRow}
    (firstListed : state.waitlist.find? first = some row)
    (secondListed : state.waitlist.find? second = some row')
    (earlier : row.joinedAt < row'.joinedAt)
    (unoffered : ¬Offered state second) (undrawn : ¬Drawn state second)
    {actions : List WaitlistAction}
    (ran : (waitlistSystem builtins).run state actions = some state')
    (offered : Offered state' second) : Offered state' first := by
  have turn : Turn state first second :=
    { joined := ⟨row, row', firstListed, secondListed, earlier⟩
      offered := fun offered => (unoffered offered).elim
      ahead := by
        intro run current found before call after split invites
        refine (undrawn ⟨run, current, found, call, ?_, invites⟩).elim
        rw [split]
        exact List.mem_append_right _ List.mem_cons_self }
  refine (System.run_preserves (I := fun state => Turn state first second)
    ?_ reached turn ran).offered offered
  intro middle action later before turn taken
  exact (waitlistChange_of_next taken).turn
    (invitesOffered_of_reachable before) turn

/-- A batch of one invite and a batch of the rest. -/
def launchRun : List WaitlistAction :=
  let token := ofString "token"
  let launch : LaunchArgs :=
    { adminToken := token
      productUrl := ofString "https://t.me/XpensegoBot"
      limit := none
      dryRun := none }
  [.sendLaunchInvites 1 (some token) { launch with limit := some 1 },
    .sendLaunchInvites 2 (some token) launch,
    .schedule 2 11 60,
    .schedule 2 12 61,
    .schedule 1 13 62]

theorem invites_first_come_first_served_two :
    ∃ state state', (waitlistSystem sampleText).Reachable state ∧
      ¬Offered state ⟨2⟩ ∧
      (waitlistSystem sampleText).run state launchRun = some state' ∧
      Offered state' ⟨2⟩ ∧ Offered state' ⟨1⟩ := by
  have replayed : ((waitlistSystem sampleText).run {} joinedRun).any
      (fun state =>
        state.calls.rows.all (fun entry => !entry.2.call.isInvite) &&
        state.runs.rows.isEmpty &&
        (state.waitlist.find? ⟨1⟩).any (fun row => row.joinedAt = 10) &&
        (state.waitlist.find? ⟨2⟩).any (fun row => row.joinedAt = 20) &&
        ((waitlistSystem sampleText).run state launchRun).any (fun state' =>
          (state'.calls.find? 12).any (fun current =>
            current.call.isInvite && current.call.id = ⟨2⟩))) = true := by
    decide +kernel
  obtain ⟨state, joined, tested⟩ := (Option.any_eq_true _ _).mp replayed
  simp only [Bool.and_eq_true, List.isEmpty_iff] at tested
  obtain ⟨⟨⟨⟨noInvite, noRun⟩, first⟩, second⟩, launched⟩ := tested
  have reached : (waitlistSystem sampleText).Reachable state :=
    System.reachable_of_run rfl joined
  have unoffered : ¬Offered state ⟨2⟩ := by
    rintro ⟨call, current, found, invite, _⟩
    have welcome := List.all_eq_true.mp noInvite _
      (Table.find?_eq_some_iff_mem.mp found)
    rw [invite] at welcome
    cases welcome
  have undrawn : ¬Drawn state ⟨2⟩ := by
    rintro ⟨run, current, found, _⟩
    have member := Table.find?_eq_some_iff_mem.mp found
    rw [noRun] at member
    cases member
  obtain ⟨row, found, joinedAt⟩ := (Option.any_eq_true _ _).mp first
  obtain ⟨row', found', joinedAt'⟩ := (Option.any_eq_true _ _).mp second
  have earlier : row.joinedAt < row'.joinedAt := by
    rw [of_decide_eq_true joinedAt, of_decide_eq_true joinedAt']
    decide
  obtain ⟨state', ran, sent⟩ := (Option.any_eq_true _ _).mp launched
  obtain ⟨current, scheduled, invites⟩ := (Option.any_eq_true _ _).mp sent
  simp only [Bool.and_eq_true, decide_eq_true_eq] at invites
  have offered : Offered state' ⟨2⟩ := ⟨12, current, scheduled, invites⟩
  exact ⟨state, state', reached, unoffered, ran, offered,
    invites_first_come_first_served reached found found' earlier unoffered
      undrawn ran offered⟩

end Turns

end Waitlist

end XpensGo
