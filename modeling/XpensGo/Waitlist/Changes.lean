import XpensGo.Relational.Aggregate
import XpensGo.Waitlist.Emails

/-!
# Steps of the waitlist

What a step of the deployment can change, and what that means for the list:
nobody leaves it, and batches are drawn from its members.
-/

namespace XpensGo

open EcmaScript JsString Relational Transition

namespace Waitlist

section Changes

/-- A row that `join` may add to a list. -/
structure NewMember (builtins : TextBuiltins) (waitlist : WaitlistTable)
    (row : WaitlistRow) : Prop where
  normalized : ∃ text, row.email = normalizedEmail builtins text
  valid : isEmail row.email = true
  unlisted : ∀ id other, waitlist.find? id = some other →
    other.email ≠ row.email
  pending : row.welcomeStatus = .pending
  uninvited : row.inviteSentAt = none

/-- The steps of the deployment, with all that they change. -/
inductive WaitlistChange (builtins : TextBuiltins) (state : WaitlistState) :
    WaitlistState → Prop where
  | still : WaitlistChange builtins state state
  | joined {id : WaitlistId} {call : CallId} {now : Int} {row : WaitlistRow}
      (member : NewMember builtins state.waitlist row)
      (freshId : id ∉ state.waitlist.rows.map Prod.fst)
      (freshCall : call ∉ state.calls.rows.map Prod.fst) :
      WaitlistChange builtins state
        { state with
          waitlist := state.waitlist.push id row freshId
          calls := state.calls.push call
            { call := .sendWelcome id row.email
              phase := .waiting now } freshCall }
  | began {run : RunId} {batch : List EmailCall}
      (drawn : batch = welcomeBatch state.waitlist ∨
        ∃ args, batch = inviteBatch args state.waitlist)
      (fresh : run ∉ state.runs.rows.map Prod.fst) :
      WaitlistChange builtins state
        { state with
          runs := state.runs.push run { remaining := batch } fresh }
  | scheduled {run : RunId} {call : EmailCall} {rest : List EmailCall}
      {index : Nat} {id : CallId} {dueAt : Int}
      (found : state.runs.find? run =
        some { remaining := call :: rest, index := index })
      (fresh : id ∉ state.calls.rows.map Prod.fst) :
      WaitlistChange builtins state
        { state with
          runs := state.runs.modify run (fun _ =>
            { remaining := rest
              index := index + 1 })
          calls := state.calls.push id
            { call := call
              phase := .waiting dueAt } fresh }
  | stopped {run : RunId} :
      WaitlistChange builtins state
        { state with
          runs := state.runs.modify run (fun current =>
            { current with remaining := [] }) }
  | sent {id : CallId} {call : EmailCall} {dueAt : Int} {accepted : Bool}
      {result : Option SendResult}
      (found : state.calls.find? id =
        some { call := call, phase := .waiting dueAt })
      (honest : result = some .ok → accepted = true) :
      WaitlistChange builtins state
        ({ state with
          delivered := if accepted then
            state.delivered ++ [call]
          else
            state.delivered }.setPhase id (call.afterSend result))
  | marked {id : CallId} {call : EmailCall} {result : SendResult} {now : Int}
      {waitlist : WaitlistTable}
      (found : state.calls.find? id =
        some { call := call, phase := .marking result })
      (wrote : call.mark result now state.waitlist = some waitlist) :
      WaitlistChange builtins state
        ({ state with waitlist := waitlist }.setPhase id .ended)
  | aborted {id : CallId} :
      WaitlistChange builtins state (state.setPhase id .ended)

variable {builtins : TextBuiltins}

theorem newMember_of_join {waitlist waitlist' : WaitlistTable}
    {id : WaitlistId} {now : Int} {args : JoinArgs} {outcome : JoinOutcome}
    {email : JsString}
    (joined : Waitlist.join builtins id now args waitlist =
      some (outcome, some email, waitlist')) :
    ∃ row fresh, NewMember builtins waitlist row ∧ row.email = email ∧
      waitlist' = waitlist.push id row fresh := by
  simp only [Waitlist.join] at joined
  split at joined
  · rename_i valid
    split at joined
    · rename_i none
      obtain ⟨inserted, wrote, same⟩ := Option.map_eq_some_iff.mp joined
      cases same
      obtain ⟨_, fresh, rfl⟩ := Table.insert?_eq_some_iff.mp wrote
      refine ⟨_, fresh, ?_, rfl, rfl⟩
      exact
        { normalized := ⟨args.email, rfl⟩
          valid := valid
          unlisted := by
            intro other row found same
            have selected : (other, row) ∈ waitlist.select (fun _ row =>
                row.email = normalizedEmail builtins args.email) :=
              Table.mem_select.mpr ⟨found, decide_eq_true same⟩
            rw [none] at selected
            cases selected
          pending := rfl
          uninvited := rfl }
    · cases joined
    · cases joined
  · cases joined

theorem join_unlisted {waitlist waitlist' : WaitlistTable}
    {id : WaitlistId} {now : Int} {args : JoinArgs} {outcome : JoinOutcome}
    (joined : Waitlist.join builtins id now args waitlist =
      some (outcome, none, waitlist')) : waitlist' = waitlist := by
  simp only [Waitlist.join] at joined
  split at joined
  · split at joined
    · obtain ⟨_, _, same⟩ := Option.map_eq_some_iff.mp joined
      cases same
    · cases joined
      rfl
    · cases joined
  · cases joined
    rfl

theorem runAfter_eq_some {state state' : WaitlistState} {id : CallId}
    {call : EmailCall} {dueAt : Int}
    (scheduled : state.runAfter id call dueAt = some state') :
    ∃ fresh, state' = { state with
      calls := state.calls.push id
        { call := call
          phase := .waiting dueAt } fresh } := by
  obtain ⟨calls, inserted, rfl⟩ := Option.map_eq_some_iff.mp scheduled
  obtain ⟨_, fresh, rfl⟩ := Table.insert?_eq_some_iff.mp inserted
  exact ⟨fresh, rfl⟩

theorem begin_eq_some {state state' : WaitlistState} {run : RunId}
    {batch : List EmailCall} (begun : state.begin run batch = some state') :
    ∃ fresh, state' = { state with
      runs := state.runs.push run { remaining := batch } fresh } := by
  obtain ⟨runs, inserted, rfl⟩ := Option.map_eq_some_iff.mp begun
  obtain ⟨_, fresh, rfl⟩ := Table.insert?_eq_some_iff.mp inserted
  exact ⟨fresh, rfl⟩

theorem accepted_of_sendEmail_ok {key : Option JsString}
    {answer : ResendAnswer} (ok : (sendEmail key answer).2 = some .ok) :
    (sendEmail key answer).1 = true := by
  unfold sendEmail at ok ⊢
  split at ok
  · cases ok
  · rename_i configured
    rw [if_neg configured]
    cases answer with
    | accepted => rfl
    | rejected status body => cases ok
    | unreachable wasAccepted => cases ok

theorem waitlistChange_of_join {state state' : WaitlistState}
    {id : WaitlistId} {call : CallId} {now : Int} {args : JoinArgs}
    (taken : state.join builtins id call now args = some state') :
    WaitlistChange builtins state state' := by
  unfold WaitlistState.join at taken
  split at taken
  · cases taken
  · rename_i waitlist joined
    cases taken
    rw [join_unlisted joined]
    exact .still
  · rename_i email waitlist joined
    obtain ⟨row, freshId, member, rfl, rfl⟩ := newMember_of_join joined
    obtain ⟨freshCall, rfl⟩ := runAfter_eq_some taken
    exact .joined member freshId freshCall

theorem waitlistChange_of_next {state state' : WaitlistState}
    {action : WaitlistAction}
    (taken : (waitlistSystem builtins).next state action = some state') :
    WaitlistChange builtins state state' := by
  cases action with
  | post body id call now =>
      simp only [waitlistSystem, WaitlistState.next] at taken
      split at taken
      · cases taken
        exact .still
      · cases taken
        exact .still
      · exact waitlistChange_of_join taken
  | flushPendingWelcomes run token adminToken =>
      simp only [waitlistSystem, WaitlistState.next] at taken
      split at taken
      · cases taken
        exact .still
      · obtain ⟨fresh, rfl⟩ := begin_eq_some taken
        exact .began (.inl rfl) fresh
  | sendLaunchInvites run token args =>
      simp only [waitlistSystem, WaitlistState.next] at taken
      split at taken
      · cases taken
        exact .still
      · obtain ⟨fresh, rfl⟩ := begin_eq_some taken
        exact .began (.inr ⟨args, rfl⟩) fresh
  | schedule run id now =>
      simp only [waitlistSystem, WaitlistState.next] at taken
      split at taken
      · rename_i call rest index found
        obtain ⟨fresh, rfl⟩ := runAfter_eq_some taken
        exact .scheduled found fresh
      · cases taken
  | stop run =>
      cases taken
      exact .stopped
  | send id key answer now =>
      simp only [waitlistSystem, WaitlistState.next] at taken
      split at taken
      · rename_i call dueAt found
        split at taken
        · cases taken
        · cases taken
          exact .sent found accepted_of_sendEmail_ok
      · cases taken
  | mark id now =>
      simp only [waitlistSystem, WaitlistState.next] at taken
      split at taken
      · rename_i call result found
        obtain ⟨waitlist, wrote, rfl⟩ := Option.map_eq_some_iff.mp taken
        exact .marked found wrote
      · cases taken
  | abort id =>
      cases taken
      exact .aborted

end Changes

section Members

variable {waitlist waitlist' : WaitlistTable}

/-- Every member is still on the list, under the same address and since the same
time. -/
def KeepsMembers (waitlist waitlist' : WaitlistTable) : Prop :=
  ∀ id row, waitlist.find? id = some row →
    ∃ row', waitlist'.find? id = some row' ∧ row'.email = row.email ∧
      row'.joinedAt = row.joinedAt ∧
      (row.inviteSentAt.isSome = true → row'.inviteSentAt.isSome = true)

theorem KeepsMembers.refl (waitlist : WaitlistTable) :
    KeepsMembers waitlist waitlist :=
  fun _ row found => ⟨row, found, rfl, rfl, id⟩

theorem KeepsMembers.trans {last : WaitlistTable}
    (first : KeepsMembers waitlist waitlist')
    (second : KeepsMembers waitlist' last) : KeepsMembers waitlist last := by
  intro id row found
  obtain ⟨middle, middleFound, email, joinedAt, invited⟩ := first id row found
  obtain ⟨row', found', email', joinedAt', invited'⟩ :=
    second id middle middleFound
  exact ⟨row', found', email'.trans email, joinedAt'.trans joinedAt,
    fun some => invited' (invited some)⟩

theorem KeepsMembers.push {id : WaitlistId} (row : WaitlistRow)
    (fresh : id ∉ waitlist.rows.map Prod.fst) :
    KeepsMembers waitlist (waitlist.push id row fresh) :=
  fun _ present found =>
    ⟨present, Table.find?_push_of_some fresh found, rfl, rfl, fun some => some⟩

/-- What the mutation at the end of a call does to the row of its member. -/
structure MarkEffect (call : EmailCall) (result : SendResult)
    (set : WaitlistRow → WaitlistRow) : Prop where
  email : ∀ row, (set row).email = row.email
  joinedAt : ∀ row, (set row).joinedAt = row.joinedAt
  invited : ∀ row, row.inviteSentAt.isSome = true →
    (set row).inviteSentAt.isSome = true
  welcome : ∀ row, (set row).welcomeStatus = .sent →
    row.welcomeStatus = .sent ∨ call.isInvite = false ∧ result = .ok
  invite : ∀ row, (set row).inviteSentAt.isSome = true →
    row.inviteSentAt.isSome = true ∨ call.isInvite = true

theorem markEffect_of_mark {call : EmailCall} {result : SendResult}
    {now : Int} (wrote : call.mark result now waitlist = some waitlist') :
    ∃ set, waitlist' = waitlist.modify call.id set ∧
      MarkEffect call result set := by
  cases call with
  | sendWelcome id email =>
      cases result with
      | ok =>
          obtain ⟨_, _, rfl⟩ := Option.map_eq_some_iff.mp wrote
          exact ⟨_, rfl, fun _ => rfl, fun _ => rfl, fun _ some => some,
            fun _ _ => .inr ⟨rfl, rfl⟩, fun _ some => .inl some⟩
      | failed error =>
          obtain ⟨_, _, rfl⟩ := Option.map_eq_some_iff.mp wrote
          exact ⟨_, rfl, fun _ => rfl, fun _ => rfl, fun _ some => some,
            fun _ sent => (nomatch sent), fun _ some => .inl some⟩
  | sendOneInvite id email productUrl =>
      obtain ⟨_, _, rfl⟩ := Option.map_eq_some_iff.mp wrote
      exact ⟨_, rfl, fun _ => rfl, fun _ => rfl, fun _ _ => rfl,
        fun _ sent => .inl sent, fun _ _ => .inr rfl⟩

theorem KeepsMembers.of_mark {call : EmailCall} {result : SendResult}
    {now : Int} (wrote : call.mark result now waitlist = some waitlist') :
    KeepsMembers waitlist waitlist' := by
  obtain ⟨set, rfl, effect⟩ := markEffect_of_mark wrote
  intro id row found
  by_cases same : id = call.id
  · subst same
    refine ⟨set row, ?_, effect.email row, effect.joinedAt row,
      effect.invited row⟩
    rw [Table.find?_modify_self, found]
    rfl
  · refine ⟨row, ?_, rfl, rfl, fun some => some⟩
    rw [Table.find?_modify_of_ne waitlist set same]
    exact found

theorem WaitlistChange.keepsMembers {builtins : TextBuiltins}
    {state state' : WaitlistState}
    (change : WaitlistChange builtins state state') :
    KeepsMembers state.waitlist state'.waitlist := by
  cases change with
  | still => exact .refl _
  | joined member freshId freshCall => exact .push _ freshId
  | began drawn fresh => exact .refl _
  | scheduled found fresh => exact .refl _
  | stopped => exact .refl _
  | sent found honest => exact .refl _
  | marked found wrote => exact .of_mark wrote
  | aborted => exact .refl _

/-- The call is addressed to the member that it names. -/
def Addressed (waitlist : WaitlistTable) (call : EmailCall) : Prop :=
  ∃ row, waitlist.find? call.id = some row ∧ row.email = call.email

theorem Addressed.keep {call : EmailCall}
    (addressed : Addressed waitlist call)
    (kept : KeepsMembers waitlist waitlist') : Addressed waitlist' call := by
  obtain ⟨row, found, same⟩ := addressed
  obtain ⟨row', found', email, _⟩ := kept call.id row found
  exact ⟨row', found', email.trans same⟩

theorem mem_welcomeBatch {call : EmailCall} :
    call ∈ welcomeBatch waitlist ↔
      ∃ id row, waitlist.find? id = some row ∧
        row.welcomeStatus = .pending ∧ call = .sendWelcome id row.email := by
  simp only [welcomeBatch, pendingWelcomes, List.map_map, List.mem_map,
    Prod.exists, Table.mem_select, decide_eq_true_eq]
  constructor
  · rintro ⟨id, row, ⟨found, pending⟩, rfl⟩
    exact ⟨id, row, found, pending, rfl⟩
  · rintro ⟨id, row, found, pending, rfl⟩
    exact ⟨id, row, ⟨found, pending⟩, rfl⟩

theorem mem_waitingRows {id : WaitlistId} {row : WaitlistRow} :
    (id, row) ∈ waitingRows waitlist ↔
      waitlist.find? id = some row ∧ row.inviteSentAt = none := by
  rw [waitingRows, List.mem_insertionSort, Table.mem_select,
    Option.isNone_iff_eq_none]

theorem exists_inviteBatch_eq (args : LaunchArgs) (waitlist : WaitlistTable) :
    ∃ count, inviteBatch args waitlist =
      ((waitingRows waitlist).take count).map (fun entry =>
        .sendOneInvite entry.1 entry.2.email args.productUrl) := by
  unfold inviteBatch sliceTo awaitingInvite
  split
  · refine ⟨(waitingRows waitlist).length - (args.limit.getD 90).natAbs, ?_⟩
    rw [List.length_map, ← List.map_take, List.map_map]
    rfl
  · refine ⟨(args.limit.getD 90).toNat, ?_⟩
    rw [← List.map_take, List.map_map]
    rfl

theorem Addressed.of_batch {call : EmailCall} {batch : List EmailCall}
    (drawn : batch = welcomeBatch waitlist ∨
      ∃ args, batch = inviteBatch args waitlist)
    (member : call ∈ batch) : Addressed waitlist call := by
  rcases drawn with rfl | ⟨args, rfl⟩
  · obtain ⟨id, row, found, _, rfl⟩ := mem_welcomeBatch.mp member
    exact ⟨row, found, rfl⟩
  · obtain ⟨count, same⟩ := exists_inviteBatch_eq args waitlist
    rw [same] at member
    obtain ⟨⟨id, row⟩, waiting, rfl⟩ := List.mem_map.mp member
    obtain ⟨found, _⟩ := mem_waitingRows.mp (List.mem_of_mem_take waiting)
    exact ⟨row, found, rfl⟩

end Members

end Waitlist

end XpensGo
