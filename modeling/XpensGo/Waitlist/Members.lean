import XpensGo.Waitlist.Changes

/-!
# Nobody is lost

Whoever joined stays on the list under one address.  A welcome or an invite that
has not gone out can still be found by the next batch, and mail goes to members
only.
-/

namespace XpensGo

open EcmaScript JsString Relational Transition

namespace Waitlist

section Everyone

/-- A welcome and an invite that Resend accepted for a member. -/
def Welcomed (state : WaitlistState) (id : WaitlistId) (row : WaitlistRow) :
    Prop :=
  .sendWelcome id row.email ∈ state.delivered

def Invited (state : WaitlistState) (id : WaitlistId) (row : WaitlistRow) :
    Prop :=
  ∃ productUrl, .sendOneInvite id row.email productUrl ∈ state.delivered

/-- Members have addresses of their own, calls and messages are addressed to
members, and what a row records was delivered. -/
structure WaitlistState.Sound (builtins : TextBuiltins)
    (state : WaitlistState) : Prop where
  distinct : ∀ id id' row row', state.waitlist.find? id = some row →
    state.waitlist.find? id' = some row' → row.email = row'.email → id = id'
  normalized : ∀ id row, state.waitlist.find? id = some row →
    isEmail row.email = true ∧ ∃ text, row.email =
      normalizedEmail builtins text
  calls : ∀ id current, state.calls.find? id = some current →
    Addressed state.waitlist current.call
  runs : ∀ run current, state.runs.find? run = some current →
    ∀ call ∈ current.remaining, Addressed state.waitlist call
  marking : ∀ id call result, state.calls.find? id =
      some { call := call, phase := .marking result } →
    (call.isInvite = true → result = .ok) ∧
      (result = .ok → call ∈ state.delivered)
  delivered : ∀ message ∈ state.delivered, Addressed state.waitlist message
  welcomed : ∀ id row, state.waitlist.find? id = some row →
    row.welcomeStatus = .sent → Welcomed state id row
  invited : ∀ id row, state.waitlist.find? id = some row →
    row.inviteSentAt.isSome = true → Invited state id row

variable {builtins : TextBuiltins} {state state' : WaitlistState}

theorem sound_initial : WaitlistState.Sound builtins {} :=
  { distinct := fun _ _ _ _ found => nomatch found
    normalized := fun _ _ found => nomatch found
    calls := fun _ _ found => nomatch found
    runs := fun _ _ found => nomatch found
    marking := fun _ _ _ found => nomatch found
    delivered := fun _ member => nomatch member
    welcomed := fun _ _ found => nomatch found
    invited := fun _ _ found => nomatch found }

theorem WaitlistState.Sound.ends (sound : state.Sound builtins)
    (id : CallId) : (state.setPhase id .ended).Sound builtins :=
  { sound with
    calls := by
      intro other current found
      rcases Table.find?_modify_cases found with
        ⟨_, before, present, rfl⟩ | ⟨_, unmoved⟩
      · exact sound.calls id before present
      · exact sound.calls other current unmoved
    marking := by
      intro other call result found
      rcases Table.find?_modify_cases found with
        ⟨_, before, _, same⟩ | ⟨_, unmoved⟩
      · cases same
      · exact sound.marking other call result unmoved }

theorem WaitlistState.Sound.join {id : WaitlistId} {call : CallId}
    {now : Int} {row : WaitlistRow} (sound : state.Sound builtins)
    (member : NewMember builtins state.waitlist row)
    (freshId : id ∉ state.waitlist.rows.map Prod.fst)
    (freshCall : call ∉ state.calls.rows.map Prod.fst) :
    WaitlistState.Sound builtins
      { state with
        waitlist := state.waitlist.push id row freshId
        calls := state.calls.push call
          { call := .sendWelcome id row.email
            phase := .waiting now } freshCall } := by
  have kept : KeepsMembers state.waitlist
      (state.waitlist.push id row freshId) := .push row freshId
  have cases_of : ∀ other found,
      (state.waitlist.push id row freshId).find? other = some found →
      (other = id ∧ found = row) ∨
        state.waitlist.find? other = some found := by
    intro other found read
    rw [Table.find?_push] at read
    split at read
    · rename_i same
      cases read
      exact .inl ⟨same, rfl⟩
    · exact .inr read
  exact
    { distinct := by
        intro first second firstRow secondRow firstFound secondFound same
        rcases cases_of _ _ firstFound with ⟨rfl, rfl⟩ | firstOld
        · rcases cases_of _ _ secondFound with ⟨rfl, rfl⟩ | secondOld
          · rfl
          · exact (member.unlisted _ _ secondOld same.symm).elim
        · rcases cases_of _ _ secondFound with ⟨rfl, rfl⟩ | secondOld
          · exact (member.unlisted _ _ firstOld same).elim
          · exact sound.distinct _ _ _ _ firstOld secondOld same
      normalized := by
        intro other found read
        rcases cases_of _ _ read with ⟨rfl, rfl⟩ | old
        · exact ⟨member.valid, member.normalized⟩
        · exact sound.normalized _ _ old
      calls := by
        intro other current found
        rw [Table.find?_push] at found
        split at found
        · cases found
          exact ⟨row, Table.find?_push_self _ row freshId, rfl⟩
        · exact (sound.calls _ _ found).keep kept
      runs := fun run current found call member =>
        (sound.runs run current found call member).keep kept
      marking := by
        intro other current result found
        rw [Table.find?_push] at found
        split at found
        · cases found
        · exact sound.marking _ _ _ found
      delivered := fun message member =>
        (sound.delivered message member).keep kept
      welcomed := by
        intro other found read sent
        rcases cases_of _ _ read with ⟨rfl, rfl⟩ | old
        · rw [member.pending] at sent
          cases sent
        · exact sound.welcomed _ _ old sent
      invited := by
        intro other found read invited
        rcases cases_of _ _ read with ⟨rfl, rfl⟩ | old
        · rw [member.uninvited] at invited
          cases invited
        · exact sound.invited _ _ old invited }

theorem WaitlistState.Sound.send {id : CallId} {call : EmailCall}
    {dueAt : Int} {accepted : Bool} {result : Option SendResult}
    (sound : state.Sound builtins)
    (found : state.calls.find? id =
      some { call := call, phase := .waiting dueAt })
    (honest : result = some .ok → accepted = true) :
    WaitlistState.Sound builtins
      ({ state with
        delivered := if accepted then
          state.delivered ++ [call]
        else
          state.delivered }.setPhase id (call.afterSend result)) := by
  have grows : ∀ message ∈ state.delivered,
      message ∈ (if accepted then state.delivered ++ [call]
        else state.delivered) := by
    intro message member
    split
    · exact List.mem_append_left _ member
    · exact member
  exact
    { distinct := sound.distinct
      normalized := sound.normalized
      calls := by
        intro other current present
        rcases Table.find?_modify_cases present with
          ⟨_, before, earlier, rfl⟩ | ⟨_, unmoved⟩
        · exact sound.calls id before earlier
        · exact sound.calls other current unmoved
      runs := sound.runs
      marking := by
        intro other sent marked present
        rcases Table.find?_modify_cases present with
          ⟨_, before, earlier, same⟩ | ⟨_, unmoved⟩
        · rw [found] at earlier
          cases earlier
          simp only [ScheduledCall.mk.injEq] at same
          obtain ⟨rfl, phase⟩ := same
          have outcome : result = some marked ∧
              (sent.isInvite = true → marked = .ok) := by
            cases sent with
            | sendWelcome _ _ =>
                cases result with
                | none => cases phase
                | some result =>
                    cases phase
                    exact ⟨rfl, fun invite => nomatch invite⟩
            | sendOneInvite _ _ _ =>
                cases result with
                | none => cases phase
                | some result =>
                    cases result with
                    | ok =>
                        cases phase
                        exact ⟨rfl, fun _ => rfl⟩
                    | failed error => cases phase
          refine ⟨outcome.2, ?_⟩
          rintro rfl
          change sent ∈ (if accepted then state.delivered ++ [sent]
            else state.delivered)
          rw [if_pos (honest outcome.1)]
          exact List.mem_append_right _ (List.mem_singleton_self sent)
        · obtain ⟨invite, ok⟩ := sound.marking other sent marked unmoved
          exact ⟨invite, fun same => grows sent (ok same)⟩
      delivered := by
        intro message member
        change message ∈ (if accepted then state.delivered ++ [call]
          else state.delivered) at member
        split at member
        · rcases List.mem_append.mp member with earlier | last
          · exact sound.delivered message earlier
          · cases List.mem_singleton.mp last
            exact sound.calls id _ found
        · exact sound.delivered message member
      welcomed := fun other row present sent =>
        grows _ (sound.welcomed other row present sent)
      invited := by
        intro other row present invited
        obtain ⟨productUrl, member⟩ := sound.invited other row present invited
        exact ⟨productUrl, grows _ member⟩ }

theorem WaitlistState.Sound.mark {id : CallId} {call : EmailCall}
    {result : SendResult} {now : Int} {waitlist : WaitlistTable}
    (sound : state.Sound builtins)
    (found : state.calls.find? id =
      some { call := call, phase := .marking result })
    (wrote : call.mark result now state.waitlist = some waitlist) :
    WaitlistState.Sound builtins
      ({ state with waitlist := waitlist }.setPhase id .ended) := by
  have kept := KeepsMembers.of_mark wrote
  obtain ⟨set, rfl, effect⟩ := markEffect_of_mark wrote
  obtain ⟨inviteOk, okDelivered⟩ := sound.marking id call result found
  obtain ⟨member, listed, addressed⟩ := sound.calls id _ found
  have origin : ∀ other row',
      (state.waitlist.modify call.id set).find? other = some row' →
      ∃ row, state.waitlist.find? other = some row ∧
        row'.email = row.email ∧
        (row' = row ∨ other = call.id ∧ row = member ∧ row' = set row) := by
    intro other row' present
    rcases Table.find?_modify_cases present with
      ⟨rfl, row, before, rfl⟩ | ⟨_, unmoved⟩
    · rw [listed] at before
      cases before
      exact ⟨member, listed, effect.email member, .inr ⟨rfl, rfl, rfl⟩⟩
    · exact ⟨row', unmoved, rfl, .inl rfl⟩
  have marked : WaitlistState.Sound builtins
      { state with waitlist := state.waitlist.modify call.id set } :=
    { distinct := by
        intro first second firstRow secondRow firstFound secondFound same
        obtain ⟨_, firstOld, firstEmail, _⟩ := origin _ _ firstFound
        obtain ⟨_, secondOld, secondEmail, _⟩ := origin _ _ secondFound
        exact sound.distinct _ _ _ _ firstOld secondOld
          (firstEmail.symm.trans (same.trans secondEmail))
      normalized := by
        intro other row' present
        obtain ⟨_, old, email, _⟩ := origin _ _ present
        rw [email]
        exact sound.normalized _ _ old
      calls := fun other current present =>
        (sound.calls other current present).keep kept
      runs := fun run current present message among =>
        (sound.runs run current present message among).keep kept
      marking := sound.marking
      delivered := fun message among =>
        (sound.delivered message among).keep kept
      welcomed := by
        intro other row' present sent
        obtain ⟨row, old, email, same | ⟨rfl, rfl, rfl⟩⟩ :=
          origin _ _ present
        · rw [same] at sent ⊢
          exact sound.welcomed _ _ old sent
        · unfold Welcomed
          rw [email]
          rcases effect.welcome row sent with before | ⟨welcome, ok⟩
          · exact sound.welcomed _ _ old before
          · cases call with
            | sendWelcome _ _ =>
                rw [addressed]
                exact okDelivered ok
            | sendOneInvite _ _ _ => cases welcome
      invited := by
        intro other row' present invited
        obtain ⟨row, old, email, same | ⟨rfl, rfl, rfl⟩⟩ :=
          origin _ _ present
        · rw [same] at invited ⊢
          exact sound.invited _ _ old invited
        · unfold Invited
          rw [email]
          rcases effect.invite row invited with before | invite
          · exact sound.invited _ _ old before
          · cases call with
            | sendWelcome _ _ => cases invite
            | sendOneInvite _ _ productUrl =>
                rw [addressed]
                exact ⟨productUrl, okDelivered (inviteOk invite)⟩ }
  exact marked.ends id

theorem WaitlistChange.sound (change : WaitlistChange builtins state state')
    (sound : state.Sound builtins) : state'.Sound builtins := by
  cases change with
  | still => exact sound
  | joined member freshId freshCall =>
      exact sound.join member freshId freshCall
  | began drawn fresh =>
      exact
        { sound with
          runs := by
            intro run current found call member
            rw [Table.find?_push] at found
            split at found
            · cases found
              exact .of_batch drawn member
            · exact sound.runs run current found call member }
  | scheduled found fresh =>
      have addressed := sound.runs _ _ found
      exact
        { sound with
          calls := by
            intro other current present
            rw [Table.find?_push] at present
            split at present
            · cases present
              exact addressed _ List.mem_cons_self
            · exact sound.calls other current present
          runs := by
            intro run current present call member
            rcases Table.find?_modify_cases present with
              ⟨_, before, earlier, rfl⟩ | ⟨_, unmoved⟩
            · exact addressed call (List.mem_cons_of_mem _ member)
            · exact sound.runs run current unmoved call member
          marking := by
            intro other call result present
            rw [Table.find?_push] at present
            split at present
            · cases present
            · exact sound.marking other call result present }
  | stopped =>
      exact
        { sound with
          runs := by
            intro run current present call member
            rcases Table.find?_modify_cases present with
              ⟨_, before, _, rfl⟩ | ⟨_, unmoved⟩
            · cases member
            · exact sound.runs run current unmoved call member }
  | sent found honest => exact sound.send found honest
  | marked found wrote => exact sound.mark found wrote
  | aborted => exact sound.ends _

theorem sound_of_reachable
    (reached : (waitlistSystem builtins).Reachable state) :
    state.Sound builtins := by
  refine System.Reachable.invariant (I := fun state =>
    state.Sound builtins) ?_ ?_ reached
  · rintro _ rfl
    exact sound_initial
  · intro state action state' _ sound taken
    exact (waitlistChange_of_next taken).sound sound

/-- `local@host.top`, without white space and without a further `@`. -/
structure WellFormedEmail (email : JsString) : Prop where
  bounded : email.length ≤ 254
  parts : ∃ mailbox host top, email =
      mailbox ++ ofString "@" ++ host ++ ofString "." ++ top ∧
    mailbox.all isEmailUnit = true ∧ host.all isEmailUnit = true ∧
    top.all isEmailUnit = true ∧
    1 ≤ mailbox.length ∧ 1 ≤ host.length ∧ 2 ≤ top.length

theorem wellFormedEmail_of_isEmail {email : JsString}
    (valid : isEmail email = true) : WellFormedEmail email := by
  simp only [isEmail, Bool.and_eq_true, decide_eq_true_eq,
    RegExp.test_iff] at valid
  obtain ⟨⟨captures, matched⟩, bounded⟩ := valid
  refine ⟨bounded, ?_⟩
  simp only [emailPattern, RegExp.matches_sequence, RegExp.matches_literal,
    RegExp.matches_repeated] at matched
  obtain ⟨mailbox, _, _, _, ⟨mailboxUnits, mailboxLength, _, _⟩,
    ⟨_, _, _, _, ⟨rfl, _⟩,
      ⟨host, _, _, _, ⟨hostUnits, hostLength, _, _⟩,
        ⟨_, top, _, _, ⟨rfl, _⟩, ⟨topUnits, topLength, _, _⟩, rfl, _⟩,
        rfl, _⟩, rfl, _⟩, rfl, _⟩ := matched
  refine ⟨mailbox, host, top, ?_, mailboxUnits, hostUnits, topUnits,
    mailboxLength, hostLength, topLength⟩
  simp only [List.append_assoc]

/-- `unique()` finds no second row, so `join` succeeds under a fresh
identifier. -/
theorem WaitlistState.Sound.join_succeeds (sound : state.Sound builtins)
    {id : WaitlistId} (fresh : state.waitlist.find? id = none) (now : Int)
    (args : JoinArgs) :
    (Waitlist.join builtins id now args state.waitlist).isSome = true := by
  simp only [Waitlist.join]
  split
  · split
    · have unused := Table.find?_eq_none_iff.mp fresh
      simp [Table.insert?, unused]
    · rfl
    · rename_i first second rest selected
      have listed : ∀ entry ∈ first :: second :: rest,
          state.waitlist.find? entry.1 = some entry.2 ∧
            entry.2.email = normalizedEmail builtins args.email := by
        intro entry member
        rw [← selected] at member
        obtain ⟨found, same⟩ := Table.mem_select.mp member
        exact ⟨found, of_decide_eq_true same⟩
      obtain ⟨firstFound, firstEmail⟩ := listed first (by simp)
      obtain ⟨secondFound, secondEmail⟩ := listed second (by simp)
      have keys := Table.select_keys_nodup state.waitlist (fun _ row =>
        row.email = normalizedEmail builtins args.email)
      rw [selected] at keys
      have same := sound.distinct _ _ _ _ firstFound secondFound
        (firstEmail.trans secondEmail.symm)
      simp [same] at keys
  · rfl

/-- Whom `join` reports as joined is on the list from then on. -/
theorem listed_of_join {waitlist waitlist' : WaitlistTable}
    {id : WaitlistId} {now : Int} {args : JoinArgs} {already : Bool}
    {email : Option JsString}
    (joined : Waitlist.join builtins id now args waitlist =
      some (.joined already, email, waitlist')) :
    ∃ id' row, waitlist'.find? id' = some row ∧
      row.email = normalizedEmail builtins args.email := by
  simp only [Waitlist.join] at joined
  split at joined
  · split at joined
    · obtain ⟨_, inserted, same⟩ := Option.map_eq_some_iff.mp joined
      cases same
      obtain ⟨_, fresh, rfl⟩ := Table.insert?_eq_some_iff.mp inserted
      exact ⟨id, _, Table.find?_push_self _ _ fresh, rfl⟩
    · rename_i entry selected
      cases joined
      have member : entry ∈ waitlist.select (fun _ row =>
          row.email = normalizedEmail builtins args.email) := by
        rw [selected]
        exact List.mem_singleton_self entry
      obtain ⟨found, same⟩ := Table.mem_select.mp member
      exact ⟨entry.1, entry.2, found, of_decide_eq_true same⟩
    · cases joined
  · cases joined

/-- In every reachable state members have addresses of their own, which are well
formed; who was not welcomed or invited is found by the next batch, and mail
went to members only.  `join` works for every form, whom it reports as joined is
on the list, and nobody leaves it. -/
theorem waitlist_keeps_everyone
    (reached : (waitlistSystem builtins).Reachable state) :
    (∀ id id' row row', state.waitlist.find? id = some row →
      state.waitlist.find? id' = some row' → row.email = row'.email →
      id = id') ∧
    (∀ id row, state.waitlist.find? id = some row →
      WellFormedEmail row.email ∧
      (∃ text, row.email = normalizedEmail builtins text) ∧
      ((id, row.email) ∈ pendingWelcomes state.waitlist ∨
        Welcomed state id row) ∧
      ((id, row.email) ∈ awaitingInvite state.waitlist ∨
        Invited state id row)) ∧
    (∀ message ∈ state.delivered, Addressed state.waitlist message) ∧
    (∀ id now args, state.waitlist.find? id = none →
      ∃ outcome email waitlist,
        join builtins id now args state.waitlist =
          some (outcome, email, waitlist) ∧
        (∀ already, outcome = .joined already →
          ∃ id' row, waitlist.find? id' = some row ∧
            row.email = normalizedEmail builtins args.email)) ∧
    ∀ actions state',
      (waitlistSystem builtins).run state actions = some state' →
      KeepsMembers state.waitlist state'.waitlist := by
  have sound := sound_of_reachable reached
  refine ⟨sound.distinct, ?_, sound.delivered, ?_, ?_⟩
  · intro id row found
    obtain ⟨valid, normalized⟩ := sound.normalized id row found
    refine ⟨wellFormedEmail_of_isEmail valid, normalized, ?_, ?_⟩
    · cases status : row.welcomeStatus with
      | pending =>
          left
          refine List.mem_map.mpr ⟨(id, row), ?_, rfl⟩
          exact Table.mem_select.mpr ⟨found, decide_eq_true status⟩
      | sent => exact .inr (sound.welcomed id row found status)
    · cases invite : row.inviteSentAt with
      | none =>
          left
          exact List.mem_map.mpr
            ⟨(id, row), mem_waitingRows.mpr ⟨found, invite⟩, rfl⟩
      | some sentAt =>
          exact .inr (sound.invited id row found (by rw [invite]; rfl))
  · intro id now args fresh
    obtain ⟨⟨outcome, email, waitlist⟩, joined⟩ :=
      Option.isSome_iff_exists.mp (sound.join_succeeds fresh now args)
    refine ⟨outcome, email, waitlist, joined, ?_⟩
    rintro already rfl
    exact listed_of_join joined
  · intro actions state' ran
    refine System.run_preserves (I := fun later =>
      KeepsMembers state.waitlist later.waitlist) ?_ reached (.refl _) ran
    intro middle action later _ kept taken
    exact kept.trans (waitlistChange_of_next taken).keepsMembers

def sampleText : TextBuiltins :=
  { toLowerCase := fun text => text.map (fun unit =>
      if 0x41 ≤ unit && unit ≤ 0x5a then unit + 0x20 else unit)
    string := fun value =>
      match value with
      | .string text => some text
      | _ => none }

def signup (email : String) : Option JsValue :=
  some (.object [(ofString "email", .string (ofString email))])

/-- Two visitors join, one of them twice, and the first is welcomed. -/
def joinedRun : List WaitlistAction :=
  [.post (signup "first@mail.test") ⟨1⟩ 1 10,
    .post (signup " Second@mail.test") ⟨2⟩ 2 20,
    .post (signup "FIRST@mail.test ") ⟨3⟩ 3 30,
    .send 1 (some (ofString "key")) .accepted 40,
    .mark 1 50]

theorem waitlist_keeps_everyone_two :
    ∃ state row row', (waitlistSystem sampleText).Reachable state ∧
      state.waitlist.find? ⟨1⟩ = some row ∧
      state.waitlist.find? ⟨2⟩ = some row' ∧
      state.waitlist.find? ⟨3⟩ = none ∧
      row.welcomeStatus = .sent ∧ Welcomed state ⟨1⟩ row ∧
      WellFormedEmail row.email ∧ row.email ≠ row'.email := by
  obtain ⟨state, reached, tested⟩ := System.exists_reachable_of_run joinedRun
    (fun state =>
      (state.waitlist.find? ⟨1⟩).any (fun row => row.welcomeStatus = .sent) &&
      (state.waitlist.find? ⟨2⟩).isSome &&
      (state.waitlist.find? ⟨3⟩).isNone)
    (show (waitlistSystem sampleText).Initial {} from rfl)
    (by decide +kernel)
  simp only [Bool.and_eq_true, Option.isNone_iff_eq_none] at tested
  obtain ⟨⟨first, second⟩, third⟩ := tested
  obtain ⟨row, found, sent⟩ := (Option.any_eq_true _ _).mp first
  obtain ⟨row', found'⟩ := Option.isSome_iff_exists.mp second
  have status := of_decide_eq_true sent
  obtain ⟨distinct, members, _⟩ := waitlist_keeps_everyone reached
  obtain ⟨wellFormed, _, pending | welcomed, _⟩ := members ⟨1⟩ row found
  · obtain ⟨⟨id, other⟩, selected, same⟩ := List.mem_map.mp pending
    obtain ⟨listed, unwelcomed⟩ := Table.mem_select.mp selected
    simp only [addressee, Prod.mk.injEq] at same
    rw [same.1, found] at listed
    cases listed
    rw [status] at unwelcomed
    cases unwelcomed
  · refine ⟨state, row, row', reached, found, found', third, status, welcomed,
      wellFormed, ?_⟩
    intro same
    have equal := distinct ⟨1⟩ ⟨2⟩ row row' found found' same
    cases equal

end Everyone

end Waitlist

end XpensGo
