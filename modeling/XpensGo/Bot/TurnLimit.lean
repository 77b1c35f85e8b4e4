import XpensGo.Bot.Isolation
import XpensGo.RateLimit.SlidingWindow

/-!
# Limited turns

However the agent answers, a user's conversation never holds more than thirty of
the user's messages of one hour, nor more than 150 of one day.
-/

namespace XpensGo

open RateLimit Relational Transition

namespace Bot

variable {α : Type} {userId : String} {now : Int}

/-- The times of the user's messages of a conversation. -/
def userTimes (rows : List ContextRow) : List Int :=
  (rows.filter (fun row => row.role = .user)).map ContextRow.createdAt

/-- The times of a user's stored messages. -/
def turnTimes (userId : String) (db : BotDatabase α) : List Int :=
  userTimes (rowsOf userId db).context

theorem turnsSince_eq_countSince (since : Int) (rows : List ContextRow) :
    turnsSince since rows = countSince (userTimes rows) since := by
  unfold turnsSince countSince userTimes
  rw [List.countP_map, List.countP_filter]
  apply List.countP_congr
  intro row _
  simp [and_comm]

theorem ToolKeeps.turnTimes_sublist {latest : Option Int}
    {before after : BotDatabase α}
    (keeps : ToolKeeps userId latest before after) :
    (turnTimes userId after).Sublist (turnTimes userId before) :=
  (keeps.context.filter _).map _

/-- At most one message of the user is added, at a time or after it. -/
def AddsTurn (userId : String) (now : Int) (before after : BotDatabase α) :
    Prop :=
  ∃ time, now ≤ time ∧
    (turnTimes userId after).Sublist (turnTimes userId before ++ [time])

section Turns

variable {builtins : Builtins α} {reader : SmsReader α} {agent : Agent α}

theorem AddsTurn.of_sublist {before after : BotDatabase α}
    (kept : (turnTimes userId after).Sublist (turnTimes userId before)) :
    AddsTurn userId now before after :=
  ⟨now, le_refl now, kept.trans (List.sublist_append_left _ _)⟩

/-- A tool before a turn adds nothing. -/
theorem AddsTurn.bind {β γ : Type} {first : BotHandler α β}
    {next : β → BotHandler α γ} {db final : BotDatabase α}
    {outcome : Except String γ} (confined : ConfinedTo userId none first)
    (holds : OwnLedgers db)
    (continues : ∀ value middle, first db = some (.ok value, middle) →
      OwnLedgers middle → next value middle = some (outcome, final) →
      AddsTurn userId now middle final)
    (ran : (first >>= next) db = some (outcome, final)) :
    AddsTurn userId now db final := by
  rcases Handler.bind_eq_some ran with
    ⟨error, failed, _⟩ | ⟨value, middle, answered, rest⟩
  · exact .of_sublist (confined.keeps holds failed).2.turnTimes_sublist
  · obtain ⟨kept, keeps⟩ := confined.keeps holds answered
    obtain ⟨time, later, added⟩ := continues value middle answered kept rest
    exact ⟨time, later,
      added.trans (keeps.turnTimes_sublist.append_right [time])⟩

theorem finishTurn_addsTurn {time : Int} {text reply : String}
    {db final : BotDatabase α} {outcome : Except String String}
    (later : now ≤ time)
    (ran : finishTurn userId time text reply db = some (outcome, final)) :
    AddsTurn userId now db final := by
  have shown : (rowsOf userId final).context.Sublist
      ((rowsOf userId db).context ++
        [{ userId := userId, role := .user, content := text,
           createdAt := time },
         { userId := userId, role := .assistant, content := reply,
           createdAt := time }]) := by
    cases ran
    simp only [rowsOf, AutoTable.select_deleteWhere, AutoTable.select_insert,
      decide_true, if_true]
    apply (List.filter_sublist.map Prod.snd).trans
    simp only [List.map_append, List.map_cons, List.map_nil, List.append_assoc]
    exact List.Sublist.refl _
  refine ⟨time, later, ?_⟩
  have times := (shown.filter (fun row => decide (row.role = .user))).map
    ContextRow.createdAt
  simpa [turnTimes, userTimes, List.filter_append] using times

/-- No response of the agent arrives before a time. -/
def AgentAfter (now : Int) (agent : Agent α) : Prop :=
  ∀ shown response, agent shown = some response → now ≤ response.now

theorem toolLoop_addsTurn (ordered : AgentAfter now agent) (text : String)
    (rounds : Nat) :
    ∀ {shown : List (Shown α)} {response : AgentResponse α}
      {db final : BotDatabase α} {outcome : Except String String},
      OwnLedgers db → now ≤ response.now →
      toolLoop builtins reader agent userId text rounds shown response db =
        some (outcome, final) →
      AddsTurn userId now db final := by
  induction rounds with
  | zero =>
      intro shown response db final outcome _ later ran
      exact finishTurn_addsTurn later ran
  | succ rounds induction =>
      intro shown response db final outcome holds later ran
      simp only [toolLoop] at ran
      split at ran
      · exact finishTurn_addsTurn later ran
      · refine AddsTurn.bind (confinedTo_calls builtins reader
          (fun _ _ => notAfter_none _)) holds ?_ ran
        intro outputs middle _ holds' rest
        refine AddsTurn.bind (confinedTo_createResponse builtins agent _) holds'
          ?_ rest
        intro response' last answered holds'' looped
        have responded := responded_of_createResponse builtins answered
        exact induction holds'' (ordered _ _ responded) looped

theorem processMessage_addsTurn (ordered : AgentAfter now agent)
    {text : String} {db final : BotDatabase α}
    {outcome : Except String String} (holds : OwnLedgers db)
    (ran : processMessage builtins reader agent userId now text db =
      some (outcome, final)) : AddsTurn userId now db final := by
  unfold processMessage at ran
  refine AddsTurn.bind confinedTo_knownPayees holds ?_ ran
  intro payees first _ holds rest
  refine AddsTurn.bind (confinedTo_loadContext now) holds ?_ rest
  intro context second _ holds rest
  refine AddsTurn.bind (confinedTo_createResponse builtins agent _) holds ?_
    rest
  intro response third answered holds looped
  have responded := responded_of_createResponse builtins answered
  exact toolLoop_addsTurn ordered _ _ holds (ordered _ _ responded) looped

/-- Nothing is added, or there was room for another turn. -/
def RoomOrKept (userId : String) (now : Int) (before after : BotDatabase α) :
    Prop :=
  (turnTimes userId after).Sublist (turnTimes userId before) ∨
    (countSince (turnTimes userId before) (now - 3600) < 30 ∧
      countSince (turnTimes userId before) (now - 86400) < 150 ∧
      AddsTurn userId now before after)

theorem textMessage_roomOrKept (ordered : AgentAfter now agent)
    {text : String} {db final : BotDatabase α}
    {outcome : Except String (List (BotReply α))} (holds : OwnLedgers db)
    (ran : textMessage builtins userId reader now text agent db =
      some (outcome, final)) : RoomOrKept userId now db final := by
  unfold textMessage at ran
  split at ran
  · cases ran
    exact .inl (List.Sublist.refl _)
  · rcases Handler.bind_eq_some ran with
      ⟨error, failed, _⟩ | ⟨allowed, middle, answered, rest⟩
    · cases failed
    · cases answered
      split at rest
      · rename_i room
        rw [Bool.and_eq_true, decide_eq_true_eq, decide_eq_true_eq,
          turnsSince_eq_countSince, turnsSince_eq_countSince] at room
        rcases Handler.bind_eq_some rest with
          ⟨error, failed, _⟩ | ⟨wasOnboarded, middle, answered, rest⟩
        · cases failed
        · cases answered
          rcases Handler.bind_eq_some rest with
            ⟨error, failed, _⟩ | ⟨turn, middle, answered, rest⟩
          · unfold Handler.transaction at failed
            split at failed <;> cases failed
          · unfold Handler.transaction at answered
            split at answered
            · rename_i reply committed processed
              cases answered
              have turn : TurnConfined userId none (processMessage builtins
                  reader agent userId now (truncated text)) :=
                turnConfined_processMessage builtins reader
                  (fun _ _ _ _ _ => notAfter_none _) _ _
              have replied (onboarded : Bool) : ConfinedTo userId none (do
                  let further ← onboardedReply (α := α) onboarded userId
                  pure (BotReply.agent reply :: further)) :=
                confinedTo_bind (confinedTo_onboardedReply onboarded)
                  (fun _ => confinedTo_pure _)
              have kept := (turn.keeps holds processed).1
              have keeps := ((replied _).keeps kept rest).2
              obtain ⟨time, later, added⟩ :=
                processMessage_addsTurn ordered holds processed
              exact .inr ⟨room.1, room.2, time, later,
                keeps.turnTimes_sublist.trans added⟩
            · cases answered
              cases rest
              exact .inl (List.Sublist.refl _)
      · cases rest
        exact .inl (List.Sublist.refl _)

/-- The responses to an update do not come before it. -/
def Update.InOrder (now : Int) : Update α → Prop
  | .start => True
  | .ping => True
  | .text _ agent => AgentAfter now agent
  | .csvDocument _ => True

theorem handleUpdate_roomOrKept {statements : StatementReader α}
    {displayName : Option String} {update : Update α}
    (ordered : update.InOrder now) {db final : BotDatabase α}
    {outcome : Except String (List (BotReply α))} (holds : OwnLedgers db)
    (ran : handleUpdate builtins userId reader statements displayName now
      update db = some (outcome, final)) :
    RoomOrKept userId now db final := by
  unfold handleUpdate at ran
  rcases Handler.bind_eq_some ran with
    ⟨error, failed, _⟩ | ⟨_, middle, answered, rest⟩
  · cases failed
  · have upserted : ConfinedTo userId none _ :=
      confinedTo_upsertUser (α := α) displayName
    have kept := (upserted.keeps holds answered).1
    cases answered
    cases update with
    | start =>
        cases rest
        exact .inl (List.Sublist.refl _)
    | ping =>
        cases rest
        exact .inl (List.Sublist.refl _)
    | text text agent =>
        have room := textMessage_roomOrKept ordered kept rest
        exact room
    | csvDocument file =>
        have stored : ConfinedTo userId none _ :=
          confinedTo_csvDocument builtins reader statements (notAfter_none now) file
        exact .inl (stored.keeps kept rest).2.turnTimes_sublist

end Turns

section System

variable {builtins : Builtins α} {reader : SmsReader α}
  {statements : StatementReader α}

/-- At most thirty of the user's messages are of one hour, and at most 150 of
one day. -/
structure TurnsLimited (userId : String) (db : BotDatabase α) : Prop where
  hourly : Limited 30 3600 (turnTimes userId db)
  daily : Limited 150 86400 (turnTimes userId db)

theorem TurnsLimited.sublist {before after : BotDatabase α}
    (limited : TurnsLimited userId before)
    (kept : (turnTimes userId after).Sublist (turnTimes userId before)) :
    TurnsLimited userId after :=
  ⟨limited.hourly.sublist kept, limited.daily.sublist kept⟩

theorem TurnsLimited.update {before after : BotDatabase α}
    (limited : TurnsLimited userId before)
    (room : RoomOrKept userId now before after) :
    TurnsLimited userId after := by
  rcases room with kept | ⟨hour, day, time, later, added⟩
  · exact limited.sublist kept
  · constructor
    · apply Limited.sublist _ added
      apply limited.hourly.append _ hour
      intro other _ recent
      omega
    · apply Limited.sublist _ added
      apply limited.daily.append _ day
      intro other _ recent
      omega

theorem KeepsRows.turnTimes_eq {latest : Option Int}
    {before after : BotDatabase α}
    (keeps : KeepsRows latest (rowsOf userId before) (rowsOf userId after)) :
    turnTimes userId after = turnTimes userId before := by
  have context := congrArg TenantRows.context keeps.rest
  exact congrArg userTimes context

/-- No response arrives before the message that it answers. -/
def BotLabel.InOrder : BotLabel α → Prop
  | .update _ _ now sent => sent.InOrder now
  | .markAlertSent _ => True

theorem TurnsLimited.next {db db' : BotDatabase α} {label : BotLabel α}
    (holds : OwnLedgers db) (ordered : label.InOrder)
    (taken : botNext builtins reader statements db label = some db')
    (limited : TurnsLimited userId db) : TurnsLimited userId db' := by
  cases label with
  | update caller displayName now sent =>
      obtain ⟨result, ran, rfl⟩ := Option.map_eq_some_iff.mp taken
      by_cases same : caller = userId
      · subst same
        exact limited.update (handleUpdate_roomOrKept ordered holds ran)
      · have confined : TurnConfined caller none _ :=
          turnConfined_handleUpdate builtins reader statements displayName
            (sent.before_none now)
        have keeps := (confined.keeps holds ran).2 userId (Ne.symm same)
        apply limited.sublist
        rw [keeps.turnTimes_eq]
  | markAlertSent key =>
      cases taken
      exact ⟨limited.hourly, limited.daily⟩

/-- Whatever the agent and the other users do, and also when turns fail, no hour
has more than thirty stored messages of a user, and no day more than 150. -/
theorem agent_turns_limited {db : BotDatabase α}
    (reached : (botSystem builtins reader statements).ReachableWhere
      (fun _ label => label.InOrder) db) (userId : String) :
    (∀ first, countWithin (turnTimes userId db) first (first + 3600) ≤ 30) ∧
      ∀ first, countWithin (turnTimes userId db) first (first + 86400) ≤
        150 := by
  have limited : TurnsLimited userId db := by
    apply System.ReachableWhere.invariant _ _ reached
    · intro db initial
      rw [initial]
      exact ⟨Limited.nil, Limited.nil⟩
    · intro db label db' reached limited ordered taken
      exact limited.next (ownLedgers_of_reachable reached.reachable) ordered
        taken
  exact ⟨limited.hourly, limited.daily⟩

theorem messageOf_inOrder (userId : String) (now : Int)
    (calls : List (ToolCall Int)) : (messageOf userId now calls).InOrder := by
  intro shown response responded
  cases responded
  exact le_refl now

/-- The last of 31 messages of one minute is refused. -/
theorem agent_turns_limited_full_hour :
    ∃ db : BotDatabase Int,
      sampleBot.run {} ((List.range 31).map (fun second =>
        messageOf "1" second [])) = some db ∧
      countWithin (turnTimes "1" db) 0 3600 = 30 ∧
      (∀ first, countWithin (turnTimes "1" db) first (first + 3600) ≤ 30) ∧
      ∀ first, countWithin (turnTimes "1" db) first (first + 86400) ≤
        150 := by
  obtain ⟨db, ran, full⟩ := (Option.any_eq_true _ _).mp
    (show (sampleBot.run {} ((List.range 31).map (fun second =>
      messageOf "1" second []))).any (fun db =>
        countWithin (turnTimes "1" db) 0 3600 = 30) = true by decide +kernel)
  have reached : sampleBot.ReachableWhere (fun _ label => label.InOrder) db := by
    apply System.ReachableWhere.run (.init rfl) _ ran
    intro label member state
    obtain ⟨second, _, rfl⟩ := List.mem_map.mp member
    exact messageOf_inOrder "1" second []
  exact ⟨db, ran, of_decide_eq_true full, agent_turns_limited reached "1"⟩

end System

end Bot

end XpensGo
