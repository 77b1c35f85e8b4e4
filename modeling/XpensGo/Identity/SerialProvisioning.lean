import XpensGo.Identity.Provisioning
import XpensGo.Postgres.Serializability

/-!
# Serial provisioning

However the statements of any calls interleave, the users and ledgers are those
of the calls made one after the other, and every answer is the one of its call
at its place, up to the timezone that it reports.  So every principal has one
user and one ledger, and all calls agree on them.
-/

namespace XpensGo

open Postgres Relational Transition

section Tables

namespace AccountDatabase

variable {db db' : AccountDatabase} {authUserId other : AuthUserId}
  {userId otherUser : UserId} {ledgerId : LedgerId}

theorem insertUser_eq_some
    (inserted : db.insertUser userId authUserId = some db') :
    ∃ fresh, db' =
      { db with
        users := db.users.push userId { authUserId := some authUserId }
          fresh } := by
  obtain ⟨users, pushed, rfl⟩ := Option.map_eq_some_iff.mp inserted
  obtain ⟨_, fresh, rfl⟩ := Table.insert?_eq_some_iff.mp pushed
  exact ⟨fresh, rfl⟩

/-- The row of a user has a key of its own and is of a known principal. -/
def AdmitsUser (db : AccountDatabase) (userId : UserId)
    (authUserId : AuthUserId) : Prop :=
  authUserId ∈ db.authUsers ∧ db.users.find? userId = none

theorem insertLedger_eq_some
    (inserted : db.insertLedger ledgerId userId = some db') :
    ∃ fresh, db' =
      { db with
        ledgers := db.ledgers.push ledgerId { ownerUserId := userId }
          fresh } := by
  obtain ⟨ledgers, pushed, rfl⟩ := Option.map_eq_some_iff.mp inserted
  obtain ⟨_, fresh, rfl⟩ := Table.insert?_eq_some_iff.mp pushed
  exact ⟨fresh, rfl⟩

theorem insertUser_isSome_iff :
    (db.insertUser userId authUserId).isSome = true ↔
      db.AdmitsUser userId authUserId := by
  rw [insertUser, Option.isSome_map, Option.isSome_iff_exists, AdmitsUser,
    Table.find?_eq_none_iff]
  constructor
  · rintro ⟨users, inserted⟩
    obtain ⟨known, fresh, _⟩ := Table.insert?_eq_some_iff.mp inserted
    exact ⟨of_decide_eq_true known, fresh⟩
  · rintro ⟨known, fresh⟩
    exact ⟨_, Table.insert?_eq_some_iff.mpr
      ⟨decide_eq_true known, fresh, rfl⟩⟩

theorem insertLedger_isSome_iff :
    (db.insertLedger ledgerId userId).isSome = true ↔
      db.ledgers.find? ledgerId = none := by
  rw [insertLedger, Option.isSome_map, Option.isSome_iff_exists,
    Table.find?_eq_none_iff]
  constructor
  · rintro ⟨ledgers, inserted⟩
    exact (Table.insert?_eq_some_iff.mp inserted).2.1
  · intro fresh
    exact ⟨_, Table.insert?_eq_some_iff.mpr ⟨rfl, fresh, rfl⟩⟩

theorem userOf_insertUser
    (inserted : db.insertUser userId authUserId = some db') :
    db'.userOf other = (db.userOf other).or
      (if other = authUserId then some userId else none) := by
  obtain ⟨fresh, rfl⟩ := insertUser_eq_some inserted
  unfold userOf usersOf
  by_cases same : authUserId = other
  · subst same
    rw [Table.select_push_of_true _ fresh (decide_eq_true rfl),
      List.head?_append, if_pos rfl]
    cases db.users.select _ <;> rfl
  · rw [Table.select_push_of_false _ fresh (decide_eq_false (by simpa)),
      if_neg (Ne.symm same), Option.or_none]

theorem ledgerOf_insertLedger
    (inserted : db.insertLedger ledgerId userId = some db') :
    db'.ledgerOf otherUser = (db.ledgerOf otherUser).or
      (if otherUser = userId then some ledgerId else none) := by
  obtain ⟨fresh, rfl⟩ := insertLedger_eq_some inserted
  unfold ledgerOf ledgersOf
  by_cases same : userId = otherUser
  · subst same
    rw [Table.select_push_of_true _ fresh (decide_eq_true rfl),
      List.head?_append, if_pos rfl]
    cases db.ledgers.select _ <;> rfl
  · rw [Table.select_push_of_false _ fresh (decide_eq_false same),
      if_neg (Ne.symm same), Option.or_none]

theorem insertUser_ledgers
    (inserted : db.insertUser userId authUserId = some db') :
    db'.ledgers = db.ledgers := by
  obtain ⟨_, rfl⟩ := insertUser_eq_some inserted
  rfl

theorem insertLedger_users
    (inserted : db.insertLedger ledgerId userId = some db') :
    db'.users = db.users := by
  obtain ⟨_, rfl⟩ := insertLedger_eq_some inserted
  rfl

theorem ledgerOf_congr (same : db'.ledgers = db.ledgers) :
    db'.ledgerOf userId = db.ledgerOf userId := by
  unfold ledgerOf ledgersOf
  rw [same]

theorem userOf_congr (same : db'.users = db.users) :
    db'.userOf authUserId = db.userOf authUserId := by
  unfold userOf usersOf
  rw [same]

theorem userOf_setTimezone {timezone : UserTimezone} :
    (db.setTimezone userId timezone).userOf authUserId =
      db.userOf authUserId := by
  have kept : ∀ key (row : WebUserRow),
      (if decide (key = userId) = true then
        { row with timezone := timezone } else row).authUserId =
          row.authUserId := by
    intro key row
    split <;> rfl
  simp only [userOf, usersOf, setTimezone, Table.modify, Table.updateWhere,
    Table.update, Table.select, List.filter_map, Function.comp_def, kept,
    List.head?_map, Option.map_map]

theorem find?_setTimezone_isSome {timezone : UserTimezone} :
    ((db.setTimezone userId timezone).users.find? otherUser).isSome =
      (db.users.find? otherUser).isSome := by
  rw [setTimezone, Table.find?_modify]
  split
  · exact Option.isSome_map
  · rfl

theorem head?_webActorRows (found : db.userOf authUserId = some userId)
    (owned : db.ledgerOf userId = some ledgerId) :
    ∃ row, (db.webActorRows authUserId).head? = some row ∧
      row.userId = userId ∧ row.ledgerId = ledgerId := by
  unfold userOf at found
  unfold ledgerOf at owned
  obtain ⟨user, first, rfl⟩ := Option.map_eq_some_iff.mp found
  obtain ⟨ledger, firstLedger, rfl⟩ := Option.map_eq_some_iff.mp owned
  obtain ⟨users, same⟩ := List.head?_eq_some_iff.mp first
  obtain ⟨ledgers, sameLedgers⟩ := List.head?_eq_some_iff.mp firstLedger
  exact ⟨⟨user.1, ledger.1, user.2.timezone⟩,
    by simp [webActorRows, same, sameLedgers], rfl, rfl⟩

end AccountDatabase

end Tables

/-- What a call may answer on some rows, and the rows that it leaves.  A
timezone may change between the last statement of `resolveWebActor` and its
commit, and the account that a refused change has not found may be entered
before its end. -/
def AccountAllows (call : AccountCall) (db : AccountDatabase)
    (answer : AccountAnswer) (db' : AccountDatabase) : Prop :=
  match call with
  | .resolve input =>
      match db.resolveWebActor input with
      | .error failure => answer = .error failure ∧ db' = db
      | .ok (actor, provided) =>
          (∃ timezone, answer = .ok { actor with timezone := timezone }) ∧
            db' = provided
  | .changeTimezone input =>
      match answer with
      | .ok actor => db.changeUserTimezone input = .ok (actor, db')
      | .error failure => failure = .identityAuthorityNotFound ∧ db' = db

/-- What the commit of another call leaves alone. -/
structure OtherAccount (locks : List AccountLock)
    (db db' : AccountDatabase) : Prop where
  authUsers : db'.authUsers = db.authUsers
  users : ∀ authUserId userId, db.userOf authUserId = some userId →
    db'.userOf authUserId = some userId
  noUser : ∀ authUserId, .authUser authUserId ∈ locks →
    db.userOf authUserId = none → db'.userOf authUserId = none
  userKeys : ∀ userId, (db.users.find? userId).isSome = true →
    (db'.users.find? userId).isSome = true
  noUserKey : ∀ userId, .user userId ∈ locks →
    db.users.find? userId = none → db'.users.find? userId = none
  owners : ∀ userId ledgerId, db.ledgerOf userId = some ledgerId →
    db'.ledgerOf userId = some ledgerId
  noOwner : ∀ userId, .owner userId ∈ locks →
    db.ledgerOf userId = none → db'.ledgerOf userId = none
  ledgers : ∀ ledgerId row, db.ledgers.find? ledgerId = some row →
    db'.ledgers.find? ledgerId = some row
  noLedger : ∀ ledgerId, .ledger ledgerId ∈ locks →
    db.ledgers.find? ledgerId = none → db'.ledgers.find? ledgerId = none

section Others

open AccountDatabase

variable {db db' later : AccountDatabase} {locks : List AccountLock}
  {authUserId : AuthUserId} {userId : UserId} {ledgerId : LedgerId}

theorem OtherAccount.refl : OtherAccount locks db db :=
  ⟨rfl, fun _ _ found => found, fun _ _ absent => absent,
    fun _ found => found, fun _ _ absent => absent, fun _ _ found => found,
    fun _ _ absent => absent, fun _ _ found => found,
    fun _ _ absent => absent⟩

theorem OtherAccount.trans (first : OtherAccount locks db db')
    (second : OtherAccount locks db' later) :
    OtherAccount locks db later where
  authUsers := second.authUsers.trans first.authUsers
  users := fun _ _ found => second.users _ _ (first.users _ _ found)
  noUser := fun _ held absent =>
    second.noUser _ held (first.noUser _ held absent)
  userKeys := fun _ found => second.userKeys _ (first.userKeys _ found)
  noUserKey := fun _ held absent =>
    second.noUserKey _ held (first.noUserKey _ held absent)
  owners := fun _ _ found => second.owners _ _ (first.owners _ _ found)
  noOwner := fun _ held absent =>
    second.noOwner _ held (first.noOwner _ held absent)
  ledgers := fun _ _ found => second.ledgers _ _ (first.ledgers _ _ found)
  noLedger := fun _ held absent =>
    second.noLedger _ held (first.noLedger _ held absent)

theorem otherAccount_insertUser
    (inserted : db.insertUser userId authUserId = some db')
    (absent : db.userOf authUserId = none)
    (unheldUser : .authUser authUserId ∉ locks)
    (unheldKey : .user userId ∉ locks) : OtherAccount locks db db' := by
  have ledgers := insertUser_ledgers inserted
  obtain ⟨fresh, pushed⟩ := insertUser_eq_some inserted
  refine ⟨by rw [pushed], ?_, ?_, ?_, ?_, ?_, ?_, ?_, ?_⟩
  · intro other user found
    rw [userOf_insertUser inserted, found, Option.some_or]
  · intro other held none
    have different : other ≠ authUserId := by
      rintro rfl
      exact unheldUser held
    rw [userOf_insertUser inserted, none, if_neg different, Option.or_none]
  · intro user found
    obtain ⟨row, present⟩ := Option.isSome_iff_exists.mp found
    subst pushed
    exact Option.isSome_iff_exists.mpr
      ⟨row, Table.find?_push_of_some fresh present⟩
  · intro user held none
    have different : user ≠ userId := by
      rintro rfl
      exact unheldKey held
    subst pushed
    simpa [Table.find?_push, different] using none
  · intro user ledger found
    rw [ledgerOf_congr ledgers, found]
  · intro user _ none
    rw [ledgerOf_congr ledgers, none]
  · intro ledger row found
    rw [ledgers, found]
  · intro ledger _ none
    rw [ledgers, none]

theorem otherAccount_insertLedger
    (inserted : db.insertLedger ledgerId userId = some db')
    (unheldOwner : .owner userId ∉ locks)
    (unheldKey : .ledger ledgerId ∉ locks) : OtherAccount locks db db' := by
  have users := insertLedger_users inserted
  obtain ⟨fresh, pushed⟩ := insertLedger_eq_some inserted
  refine ⟨by rw [pushed], ?_, ?_, ?_, ?_, ?_, ?_, ?_, ?_⟩
  · intro other user found
    rw [userOf_congr users, found]
  · intro other _ none
    rw [userOf_congr users, none]
  · intro user found
    rw [users]
    exact found
  · intro user _ none
    rw [users, none]
  · intro user ledger found
    rw [ledgerOf_insertLedger inserted, found, Option.some_or]
  · intro user held none
    have different : user ≠ userId := by
      rintro rfl
      exact unheldOwner held
    rw [ledgerOf_insertLedger inserted, none, if_neg different,
      Option.or_none]
  · intro ledger row found
    subst pushed
    exact Table.find?_push_of_some fresh found
  · intro ledger held none
    have different : ledger ≠ ledgerId := by
      rintro rfl
      exact unheldKey held
    subst pushed
    simpa [Table.find?_push, different] using none

theorem otherAccount_setTimezone {timezone : UserTimezone} :
    OtherAccount locks db (db.setTimezone userId timezone) := by
  refine ⟨rfl, ?_, ?_, ?_, ?_, ?_, ?_, ?_, ?_⟩
  · intro other user found
    rw [userOf_setTimezone, found]
  · intro other _ none
    rw [userOf_setTimezone, none]
  · intro user found
    rw [find?_setTimezone_isSome, found]
  · intro user _ none
    rw [← Option.isNone_iff_eq_none, ← Option.not_isSome,
      find?_setTimezone_isSome, none]
    rfl
  · exact fun _ _ found => found
  · exact fun _ _ none => none
  · exact fun _ _ found => found
  · exact fun _ _ none => none

end Others

section Calls

variable (db : AccountDatabase) (input : ResolveWebActorInput)
  (locks : List AccountLock)

/-- What the first statement has written for the user that it provides. -/
inductive UserProvided :
    (AccountDatabase → AccountDatabase) → UserId → Prop where
  | found {userId : UserId} :
      db.userOf input.authUserId = some userId →
      UserProvided id userId
  | entered :
      .authUser input.authUserId ∈ locks →
      .user input.generatedUserId ∈ locks →
      db.userOf input.authUserId = none →
      db.AdmitsUser input.generatedUserId input.authUserId →
      UserProvided
        (fun db =>
          (db.insertUser input.generatedUserId input.authUserId).getD db)
        input.generatedUserId

/-- What the second statement has written for the ledger that it provides. -/
inductive LedgerProvided (userId : UserId) :
    (AccountDatabase → AccountDatabase) → LedgerId → Prop where
  | found {ledgerId : LedgerId} :
      db.ledgerOf userId = some ledgerId →
      LedgerProvided userId id ledgerId
  | entered :
      .owner userId ∈ locks →
      .ledger input.generatedLedgerId ∈ locks →
      db.ledgerOf userId = none →
      db.ledgers.find? input.generatedLedgerId = none →
      LedgerProvided userId
        (fun db =>
          (db.insertLedger input.generatedLedgerId userId).getD db)
        input.generatedLedgerId

/-- Why a call of `resolveWebActor` fails: an identifier that the database has
generated is in use, or the principal is unknown. -/
inductive ResolveFails : Prop where
  | user :
      .authUser input.authUserId ∈ locks →
      db.userOf input.authUserId = none →
      (input.authUserId ∈ db.authUsers →
        (db.users.find? input.generatedUserId).isSome = true) →
      ResolveFails
  | ledger {writes : AccountDatabase → AccountDatabase} {userId : UserId}
      {row : LedgerRow} :
      UserProvided db input locks writes userId →
      .owner userId ∈ locks →
      db.ledgerOf userId = none →
      db.ledgers.find? input.generatedLedgerId = some row →
      ResolveFails

/-- What is known of a running `resolveWebActor` when these rows are
committed. -/
inductive ResolveMoves :
    AccountPhase → (AccountDatabase → AccountDatabase) → Prop where
  | starting : ResolveMoves .starting id
  | enteringUser :
      .authUser input.authUserId ∈ locks →
      db.userOf input.authUserId = none →
      ResolveMoves .enteringUser id
  | providingLedger {writes : AccountDatabase → AccountDatabase}
      {userId : UserId} :
      UserProvided db input locks writes userId →
      ResolveMoves .providingLedger writes
  | enteringLedger {writes : AccountDatabase → AccountDatabase}
      {userId : UserId} :
      UserProvided db input locks writes userId →
      .owner userId ∈ locks →
      db.ledgerOf userId = none →
      ResolveMoves (.enteringLedger userId) writes
  | selecting {user ledger : AccountDatabase → AccountDatabase}
      {userId : UserId} {ledgerId : LedgerId} :
      UserProvided db input locks user userId →
      LedgerProvided db input locks userId ledger ledgerId →
      ResolveMoves .selecting (fun db => ledger (user db))
  | committing {user ledger : AccountDatabase → AccountDatabase}
      {userId : UserId} {ledgerId : LedgerId} {timezone : UserTimezone} :
      UserProvided db input locks user userId →
      LedgerProvided db input locks userId ledger ledgerId →
      ResolveMoves
        (.committing (WebActorRow.actor ⟨userId, ledgerId, timezone⟩
          input.correlationId))
        (fun db => ledger (user db))
  | failing {writes : AccountDatabase → AccountDatabase} :
      ResolveFails db input locks →
      ResolveMoves (.failing .identityPersistenceUnavailable) writes

/-- What is known of a running `changeUserTimezone`. -/
inductive ChangeMoves (input : ChangeUserTimezoneInput) :
    AccountPhase → (AccountDatabase → AccountDatabase) → Prop where
  | starting : ChangeMoves input .starting id
  | committing :
      db.ownsLedger input.actor.userId input.actor.ledgerId = true →
      ChangeMoves input
        (.committing { input.actor with timezone := input.timezone })
        (fun db =>
          if db.ownsLedger input.actor.userId input.actor.ledgerId then
            db.setTimezone input.actor.userId input.timezone
          else
            db)
  | failing {writes : AccountDatabase → AccountDatabase} :
      ChangeMoves input (.failing .identityAuthorityNotFound) writes

end Calls

section Provided

open AccountDatabase

variable {db db' : AccountDatabase} {input : ResolveWebActorInput}
  {locks further : List AccountLock}
  {user ledger writes : AccountDatabase → AccountDatabase}
  {userId : UserId} {ledgerId : LedgerId}

theorem UserProvided.after (provided : UserProvided db input locks user userId)
    (other : OtherAccount locks db db') :
    UserProvided db' input locks user userId := by
  cases provided with
  | found present => exact .found (other.users _ _ present)
  | entered held heldKey absent admitted =>
      exact .entered held heldKey (other.noUser _ held absent)
        ⟨other.authUsers ▸ admitted.1, other.noUserKey _ heldKey admitted.2⟩

theorem UserProvided.mono (provided : UserProvided db input locks user userId)
    (more : locks ⊆ further) : UserProvided db input further user userId := by
  cases provided with
  | found present => exact .found present
  | entered held heldKey absent fresh =>
      exact .entered (more held) (more heldKey) absent fresh

/-- The user is provided as by the first statement alone. -/
theorem UserProvided.provideUser
    (provided : UserProvided db input locks user userId) :
    db.provideUser input = some (user db) ∧
      (user db).userOf input.authUserId = some userId ∧
      (user db).ledgers = db.ledgers := by
  cases provided with
  | found present =>
      refine ⟨?_, present, rfl⟩
      simp only [AccountDatabase.provideUser, present, id]
  | entered _ _ absent fresh =>
      have inserts : (db.insertUser input.generatedUserId
          input.authUserId).isSome = true :=
        insertUser_isSome_iff.mpr fresh
      obtain ⟨written, inserted⟩ := Option.isSome_iff_exists.mp inserts
      simp only [AccountDatabase.provideUser, absent, inserted,
        Option.getD_some, true_and]
      refine ⟨?_, insertUser_ledgers inserted⟩
      rw [userOf_insertUser inserted, absent, if_pos rfl, Option.none_or]

theorem LedgerProvided.after
    (provided : LedgerProvided db input locks userId ledger ledgerId)
    (other : OtherAccount locks db db') :
    LedgerProvided db' input locks userId ledger ledgerId := by
  cases provided with
  | found present => exact .found (other.owners _ _ present)
  | entered held heldKey absent fresh =>
      exact .entered held heldKey (other.noOwner _ held absent)
        (other.noLedger _ heldKey fresh)

theorem LedgerProvided.mono
    (provided : LedgerProvided db input locks userId ledger ledgerId)
    (more : locks ⊆ further) :
    LedgerProvided db input further userId ledger ledgerId := by
  cases provided with
  | found present => exact .found present
  | entered held heldKey absent fresh =>
      exact .entered (more held) (more heldKey) absent fresh

/-- The ledger is provided as by the second statement alone, whatever user the
first one has entered. -/
theorem LedgerProvided.provideLedger {view : AccountDatabase}
    (provided : LedgerProvided db input locks userId ledger ledgerId)
    (same : view.ledgers = db.ledgers)
    (present : view.userOf input.authUserId = some userId) :
    view.provideLedger input = some (ledger view) ∧
      (ledger view).userOf input.authUserId = some userId ∧
      (ledger view).ledgerOf userId = some ledgerId := by
  cases provided with
  | found owned =>
      rw [← ledgerOf_congr same] at owned
      refine ⟨?_, present, owned⟩
      simp only [AccountDatabase.provideLedger, present, owned, id]
  | entered _ _ absent fresh =>
      rw [← ledgerOf_congr same] at absent
      rw [← same] at fresh
      have inserts : (view.insertLedger input.generatedLedgerId
          userId).isSome = true :=
        insertLedger_isSome_iff.mpr fresh
      obtain ⟨written, inserted⟩ := Option.isSome_iff_exists.mp inserts
      simp only [AccountDatabase.provideLedger, present, absent, inserted,
        Option.getD_some, true_and]
      constructor
      · rw [userOf_congr (insertLedger_users inserted), present]
      · rw [ledgerOf_insertLedger inserted, absent, if_pos rfl,
          Option.none_or]

/-- A call that has provided its user and its ledger has done what the whole
transaction does. -/
theorem resolveWebActor_of_provided
    (provided : UserProvided db input locks user userId)
    (provides : LedgerProvided db input locks userId ledger ledgerId) :
    ∃ timezone, db.resolveWebActor input =
      .ok (WebActorRow.actor ⟨userId, ledgerId, timezone⟩
        input.correlationId, ledger (user db)) := by
  obtain ⟨first, present, same⟩ := provided.provideUser
  obtain ⟨second, kept, owned⟩ := provides.provideLedger same present
  obtain ⟨row, joined, rfl, rfl⟩ := head?_webActorRows kept owned
  refine ⟨row.timezone, ?_⟩
  simp only [AccountDatabase.resolveWebActor, first, second, joined]

theorem UserProvided.commit {held : List AccountLock}
    (provided : UserProvided db input locks user userId)
    (apart : ∀ lock ∈ held, lock ∉ locks) :
    OtherAccount held db (user db) := by
  cases provided with
  | found present => exact .refl
  | entered taken takenKey absent fresh =>
      have inserts : (db.insertUser input.generatedUserId
          input.authUserId).isSome = true :=
        insertUser_isSome_iff.mpr fresh
      obtain ⟨written, inserted⟩ := Option.isSome_iff_exists.mp inserts
      beta_reduce
      rw [inserted, Option.getD_some]
      exact otherAccount_insertUser inserted absent
        (fun holding => apart _ holding taken)
        (fun holding => apart _ holding takenKey)

theorem LedgerProvided.commit {held : List AccountLock}
    {view : AccountDatabase}
    (provided : LedgerProvided db input locks userId ledger ledgerId)
    (apart : ∀ lock ∈ held, lock ∉ locks) :
    OtherAccount held view (ledger view) := by
  cases provided with
  | found present => exact .refl
  | entered taken takenKey absent fresh =>
      beta_reduce
      cases inserted : view.insertLedger input.generatedLedgerId userId with
      | none => exact .refl
      | some written =>
          rw [Option.getD_some]
          exact otherAccount_insertLedger inserted
            (fun holding => apart _ holding taken)
            (fun holding => apart _ holding takenKey)

theorem ResolveFails.after (fails : ResolveFails db input locks)
    (other : OtherAccount locks db db') :
    ResolveFails db' input locks := by
  cases fails with
  | user held absent taken =>
      refine .user held (other.noUser _ held absent) ?_
      intro known
      exact other.userKeys _ (taken (other.authUsers ▸ known))
  | ledger provided held absent taken =>
      exact .ledger (provided.after other) held
        (other.noOwner _ held absent) (other.ledgers _ _ taken)

theorem ResolveFails.resolveWebActor (fails : ResolveFails db input locks) :
    db.resolveWebActor input = .error .identityPersistenceUnavailable := by
  cases fails with
  | user held absent taken =>
      have refused : db.insertUser input.generatedUserId input.authUserId =
          none := by
        rw [← Option.not_isSome_iff_eq_none, insertUser_isSome_iff]
        rintro ⟨known, fresh⟩
        have used := taken known
        rw [fresh] at used
        cases used
      simp only [AccountDatabase.resolveWebActor,
        AccountDatabase.provideUser, absent, refused]
  | @ledger writes userId row provided held absent taken =>
      obtain ⟨first, present, same⟩ := provided.provideUser
      rw [← ledgerOf_congr same] at absent
      rw [← same] at taken
      have refused : (writes db).insertLedger input.generatedLedgerId userId =
          none := by
        rw [← Option.not_isSome_iff_eq_none, insertLedger_isSome_iff]
        intro fresh
        rw [fresh] at taken
        cases taken
      simp only [AccountDatabase.resolveWebActor, first,
        AccountDatabase.provideLedger, present, absent, refused]

end Provided

section Steps

open AccountDatabase

variable {db db' : AccountDatabase} {input : ResolveWebActorInput}
  {change : ChangeUserTimezoneInput} {locks : List AccountLock}
  {phase : AccountPhase} {writes : AccountDatabase → AccountDatabase}
  {actor : WebActorContext}

theorem ResolveMoves.after (moves : ResolveMoves db input locks phase writes)
    (other : OtherAccount locks db db') :
    ResolveMoves db' input locks phase writes := by
  cases moves with
  | starting => exact .starting
  | enteringUser held absent =>
      exact .enteringUser held (other.noUser _ held absent)
  | providingLedger provided => exact .providingLedger (provided.after other)
  | enteringLedger provided held absent =>
      exact .enteringLedger (provided.after other) held
        (other.noOwner _ held absent)
  | selecting user ledger =>
      exact .selecting (user.after other) (ledger.after other)
  | committing user ledger =>
      exact .committing (user.after other) (ledger.after other)
  | failing fails => exact .failing (fails.after other)

theorem ownsLedger_of_other {userId : UserId} {ledgerId : LedgerId}
    (owned : db.ownsLedger userId ledgerId = true)
    (other : OtherAccount locks db db') :
    db'.ownsLedger userId ledgerId = true := by
  unfold ownsLedger at owned ⊢
  rw [Bool.and_eq_true] at owned ⊢
  obtain ⟨row, found, owner⟩ := (Option.any_eq_true _ _).mp owned.2
  refine ⟨other.userKeys _ owned.1, ?_⟩
  rw [other.ledgers _ _ found]
  exact owner

theorem ChangeMoves.after (moves : ChangeMoves db change phase writes)
    (other : OtherAccount locks db db') :
    ChangeMoves db' change phase writes := by
  cases moves with
  | starting => exact .starting
  | committing owned => exact .committing (ownsLedger_of_other owned other)
  | failing => exact .failing

/-- A statement of `resolveWebActor` keeps what is known of its call. -/
theorem ResolveMoves.execute
    {lock : AccountDatabase → Option AccountLock}
    {write : AccountDatabase → AccountDatabase}
    {next : AccountDatabase → AccountPhase}
    (moves : ResolveMoves db input locks phase writes)
    (instruction : resolveInstruction input phase =
      .statement lock write next) :
    ResolveMoves db input ((lock (writes db)).toList ++ locks)
      (next (writes db)) (fun rows => write (writes rows)) := by
  cases moves with
  | committing | failing => cases instruction
  | starting =>
      cases instruction
      dsimp only [id]
      cases found : db.userOf input.authUserId with
      | some userId => exact .providingLedger (.found found)
      | none =>
          exact .enteringUser (List.mem_append_left _ (by simp)) found
  | enteringUser held absent =>
      cases instruction
      dsimp only [id]
      have kept : .authUser input.authUserId ∈
          (some (AccountLock.user input.generatedUserId)).toList ++ locks :=
        List.mem_append_right _ held
      split
      · rename_i inserts
        exact .providingLedger (.entered kept
          (List.mem_append_left _ (by simp)) absent
          (insertUser_isSome_iff.mp inserts))
      · rename_i refused
        refine .failing (.user kept absent ?_)
        rw [insertUser_isSome_iff] at refused
        intro known
        exact Option.isSome_iff_ne_none.mpr (fun fresh =>
          refused ⟨known, fresh⟩)
  | @providingLedger _ userId provided =>
      cases instruction
      obtain ⟨_, present, same⟩ := provided.provideUser
      simp only [present, Option.bind_some]
      have owner : (writes db).ledgerOf userId = db.ledgerOf userId :=
        ledgerOf_congr same
      rw [owner]
      cases found : db.ledgerOf userId with
      | some ledgerId =>
          exact .selecting
            (provided.mono (List.subset_append_right _ _)) (.found found)
      | none =>
          exact .enteringLedger
            (provided.mono (List.subset_append_right _ _))
            (List.mem_append_left _ (by simp)) found
  | @enteringLedger _ userId provided held absent =>
      cases instruction
      obtain ⟨_, present, same⟩ := provided.provideUser
      have further := provided.mono (List.subset_append_right
        (some (AccountLock.ledger input.generatedLedgerId)).toList locks)
      beta_reduce
      split
      · rename_i inserts
        rw [insertLedger_isSome_iff, same] at inserts
        exact .selecting further
          (.entered (List.mem_append_right _ held)
            (List.mem_append_left _ (by simp)) absent inserts)
      · rename_i refused
        rw [insertLedger_isSome_iff, same] at refused
        obtain ⟨row, taken⟩ := Option.ne_none_iff_exists'.mp refused
        exact .failing (.ledger further (List.mem_append_right _ held)
          absent taken)
  | @selecting user ledger userId ledgerId provided provides =>
      cases instruction
      obtain ⟨_, present, same⟩ := provided.provideUser
      obtain ⟨_, kept, owned⟩ := provides.provideLedger same present
      obtain ⟨row, joined, rfl, rfl⟩ := head?_webActorRows kept owned
      dsimp only [id]
      simp only [AccountPhase.afterSelect, joined]
      exact .committing (provided.mono (List.subset_append_right _ _))
        (provides.mono (List.subset_append_right _ _))

theorem ChangeMoves.execute
    {lock : AccountDatabase → Option AccountLock}
    {write : AccountDatabase → AccountDatabase}
    {next : AccountDatabase → AccountPhase}
    (moves : ChangeMoves db change phase writes)
    (instruction : changeInstruction change phase =
      .statement lock write next) :
    ChangeMoves db change (next (writes db))
      (fun rows => write (writes rows)) := by
  cases moves with
  | committing | failing => cases instruction
  | starting =>
      cases instruction
      dsimp only [id]
      by_cases owned : db.ownsLedger change.actor.userId
          change.actor.ledgerId = true
      · rw [if_pos owned]
        exact .committing owned
      · rw [if_neg owned]
        exact .failing

/-- The commit of `resolveWebActor` leaves alone what the others hold. -/
theorem ResolveMoves.commit {held : List AccountLock}
    (moves : ResolveMoves db input locks (.committing actor) writes)
    (apart : ∀ lock ∈ held, lock ∉ locks) :
    OtherAccount held db (writes db) := by
  cases moves with
  | committing provided provides =>
      exact (provided.commit apart).trans (provides.commit apart)

theorem ChangeMoves.commit {held : List AccountLock}
    (moves : ChangeMoves db change (.committing actor) writes) :
    OtherAccount held db (writes db) := by
  cases moves with
  | committing owned =>
      beta_reduce
      rw [if_pos owned]
      exact otherAccount_setTimezone

theorem ResolveMoves.allows
    (moves : ResolveMoves db input locks (.committing actor) writes) :
    AccountAllows (.resolve input) db (.ok actor) (writes db) := by
  cases moves with
  | @committing _ _ _ _ timezone provided provides =>
      obtain ⟨_, whole⟩ := resolveWebActor_of_provided provided provides
      simp only [AccountAllows, whole]
      exact ⟨⟨timezone, rfl⟩, trivial⟩

theorem ChangeMoves.allows
    (moves : ChangeMoves db change (.committing actor) writes) :
    AccountAllows (.changeTimezone change) db (.ok actor) (writes db) := by
  cases moves with
  | committing owned =>
      simp only [AccountAllows, changeUserTimezone, owned, if_true]

end Steps

section Runs

open AccountDatabase

/-- What is known of a running call. -/
def AccountHolds (db : AccountDatabase)
    (call : Transaction AccountDatabase AccountLock AccountCall
      AccountPhase) : Prop :=
  match call.parameter with
  | .resolve input => ResolveMoves db input call.locks call.phase call.writes
  | .changeTimezone input => ChangeMoves db input call.phase call.writes

variable {db : AccountDatabase}
  {call other : Transaction AccountDatabase AccountLock AccountCall
    AccountPhase}
  {answer : AccountAnswer}

theorem AccountHolds.after {db' : AccountDatabase}
    (holds : AccountHolds db call)
    (others : OtherAccount call.locks db db') : AccountHolds db' call := by
  obtain ⟨parameter, phase, writes, locks⟩ := call
  cases parameter with
  | resolve input => exact ResolveMoves.after holds others
  | changeTimezone input => exact ChangeMoves.after holds others

theorem AccountHolds.commit (holds : AccountHolds db call)
    (instruction : accountProgram.instruction call.parameter call.phase =
      .commit answer) {held : List AccountLock}
    (apart : ∀ lock ∈ held, lock ∉ call.locks) :
    OtherAccount held db (call.view db) ∧
      AccountAllows call.parameter db answer (call.view db) := by
  obtain ⟨parameter, phase, writes, locks⟩ := call
  cases parameter with
  | resolve input =>
      have moves : ResolveMoves db input locks phase writes := holds
      cases phase with
      | committing actor =>
          cases instruction
          exact ⟨moves.commit apart, moves.allows⟩
      | _ => cases instruction
  | changeTimezone input =>
      have moves : ChangeMoves db input phase writes := holds
      cases phase with
      | committing actor =>
          cases instruction
          exact ⟨moves.commit, moves.allows⟩
      | _ => cases instruction

theorem accountProgram_maintains :
    accountProgram.Maintains AccountHolds where
  starts := by
    intro rows parameter
    cases parameter with
    | resolve input => exact ResolveMoves.starting
    | changeTimezone input => exact ChangeMoves.starting
  keeps := by
    intro rows transaction lock write next holds instruction
    obtain ⟨parameter, phase, writes, locks⟩ := transaction
    cases parameter with
    | resolve input => exact ResolveMoves.execute holds instruction
    | changeTimezone input => exact ChangeMoves.execute holds instruction
  survives := by
    intro rows ending transaction answer ended instruction holds apart
    exact holds.after (ended.commit instruction apart).1

theorem accountProgram_endsAllowed :
    EndsAllowed accountProgram AccountAllows AccountHolds where
  committed := by
    intro rows transaction answer holds instruction
    exact (@AccountHolds.commit rows transaction answer holds instruction []
      (by simp)).2
  rolledBack := by
    intro rows transaction answer holds instruction
    obtain ⟨parameter, phase, writes, locks⟩ := transaction
    cases parameter with
    | resolve input =>
        have moves : ResolveMoves rows input locks phase writes := holds
        cases moves with
        | failing fails =>
            cases instruction
            simp only [AccountAllows, fails.resolveWebActor]
            trivial
        | _ => cases instruction
    | changeTimezone input =>
        have moves : ChangeMoves rows input phase writes := holds
        cases moves with
        | failing =>
            cases instruction
            exact ⟨rfl, rfl⟩
        | _ => cases instruction

/-- In every interleaving of their statements, any calls leave the users and
ledgers of the calls one after the other in the order in which they end. -/
theorem accounts_serialized {rows : AccountDatabase}
    {actions : List (SessionAction AccountCall)} {state : AccountSessions}
    (ran : (accountProgram.system (fun _ => True)).run { committed := rows }
      actions = some state) :
    Serialized accountProgram AccountAllows rows actions state :=
  accountProgram_maintains.serialized accountProgram_endsAllowed trivial ran

def firstVisit (authUserId generated : Nat) : AccountCall :=
  .resolve
    { authUserId := ⟨authUserId⟩
      correlationId := ⟨0⟩
      generatedUserId := ⟨generated⟩
      generatedLedgerId := ⟨generated + 100⟩ }

/-- Two principals without accounts. -/
def knownPrincipals : AccountDatabase :=
  { authUsers := [⟨7⟩, ⟨8⟩] }

/-- Two first visits of one principal and one of another, all at the same time;
the second one waits for the user that the first one enters.  Then the first
principal changes its timezone. -/
def firstVisitsRun : List (SessionAction AccountCall) :=
  [.start 0 (firstVisit 7 10), .start 1 (firstVisit 7 11),
    .start 2 (firstVisit 8 12), .step 0, .step 2, .step 0, .step 2, .step 2,
    .step 0, .step 0, .step 0, .step 0, .step 1, .step 2, .step 1, .step 2,
    .step 1, .step 1, .step 2,
    .start 3 (.changeTimezone
      { actor :=
          { userId := ⟨10⟩
            ledgerId := ⟨110⟩
            timezone := "Asia/Kolkata"
            correlationId := ⟨0⟩ }
        timezone := "Europe/Berlin" }), .step 3, .step 3]

/-- The user and the ledger that a session has answered. -/
def answeredAccount (session : SessionId) (state : AccountSessions) :
    Option (UserId × LedgerId) :=
  match state.sessions.find? session with
  | some (.ended (.ok actor)) => some (actor.userId, actor.ledgerId)
  | _ => none

theorem accounts_serialized_first_visits :
    ∃ state, answeredAccount 1 state = some (⟨10⟩, ⟨110⟩) ∧
      Serialized accountProgram AccountAllows knownPrincipals firstVisitsRun
        state := by
  have ran : ((accountProgram.system (fun _ => True)).run
      { committed := knownPrincipals } firstVisitsRun).any (fun state =>
        answeredAccount 1 state = some (⟨10⟩, ⟨110⟩)) = true := by
    decide +kernel
  obtain ⟨state, ran, answered⟩ := (Option.any_eq_true _ _).mp ran
  exact ⟨state, by simpa using answered, accounts_serialized ran⟩

end Runs

section Principals

open AccountDatabase

/-- The unique indexes of users and ledgers. -/
structure OneAccount (db : AccountDatabase) : Prop where
  users : ∀ authUserId, (db.usersOf authUserId).length ≤ 1
  ledgers : ∀ userId, (db.ledgersOf userId).length ≤ 1

variable {db db' : AccountDatabase} {input : ResolveWebActorInput}
  {call : AccountCall} {answer : AccountAnswer}

theorem OneAccount.insertUser {userId : UserId} {authUserId : AuthUserId}
    (unique : OneAccount db) (absent : db.userOf authUserId = none)
    (inserted : db.insertUser userId authUserId = some db') :
    OneAccount db' := by
  have none : db.usersOf authUserId = [] := by
    simpa [userOf] using absent
  obtain ⟨fresh, rfl⟩ := insertUser_eq_some inserted
  refine ⟨?_, unique.ledgers⟩
  intro other
  by_cases same : authUserId = other
  · subst same
    unfold usersOf at none ⊢
    rw [Table.select_push_of_true _ fresh (decide_eq_true rfl), none]
    exact le_rfl
  · unfold usersOf
    rw [Table.select_push_of_false _ fresh (decide_eq_false (by simpa))]
    exact unique.users other

theorem OneAccount.insertLedger {userId : UserId} {ledgerId : LedgerId}
    (unique : OneAccount db) (absent : db.ledgerOf userId = none)
    (inserted : db.insertLedger ledgerId userId = some db') :
    OneAccount db' := by
  have none : db.ledgersOf userId = [] := by
    simpa [ledgerOf] using absent
  obtain ⟨fresh, rfl⟩ := insertLedger_eq_some inserted
  refine ⟨unique.users, ?_⟩
  intro other
  by_cases same : userId = other
  · subst same
    unfold ledgersOf at none ⊢
    rw [Table.select_push_of_true _ fresh (decide_eq_true rfl), none]
    exact le_rfl
  · unfold ledgersOf
    rw [Table.select_push_of_false _ fresh (decide_eq_false same)]
    exact unique.ledgers other

theorem OneAccount.setTimezone {userId : UserId} {timezone : UserTimezone}
    (unique : OneAccount db) : OneAccount (db.setTimezone userId timezone) where
  users := by
    intro authUserId
    have kept : ∀ key (row : WebUserRow),
        (if decide (key = userId) = true then
          { row with timezone := timezone } else row).authUserId =
            row.authUserId := by
      intro key row
      split <;> rfl
    have same : ((db.setTimezone userId timezone).usersOf authUserId).length =
        (db.usersOf authUserId).length := by
      simp only [usersOf, AccountDatabase.setTimezone, Table.modify,
        Table.updateWhere, Table.update, Table.select, List.filter_map,
        Function.comp_def, kept, List.length_map]
    rw [same]
    exact unique.users authUserId
  ledgers := unique.ledgers

/-- What every call keeps, whoever makes it. -/
structure KeepsAccounts (db db' : AccountDatabase) : Prop where
  others : OtherAccount [] db db'
  unique : OneAccount db → OneAccount db'

theorem keepsAccounts_provideUser
    (provided : db.provideUser input = some db') : KeepsAccounts db db' := by
  unfold provideUser at provided
  split at provided
  · cases provided
    exact ⟨.refl, fun unique => unique⟩
  · rename_i absent
    exact ⟨otherAccount_insertUser provided absent List.not_mem_nil
        List.not_mem_nil,
      fun unique => unique.insertUser absent provided⟩

theorem keepsAccounts_provideLedger
    (provided : db.provideLedger input = some db') :
    KeepsAccounts db db' := by
  unfold provideLedger at provided
  split at provided
  · cases provided
    exact ⟨.refl, fun unique => unique⟩
  · split at provided
    · cases provided
      exact ⟨.refl, fun unique => unique⟩
    · rename_i absent
      exact ⟨otherAccount_insertLedger provided List.not_mem_nil
          List.not_mem_nil,
        fun unique => unique.insertLedger absent provided⟩

/-- The row that a call reads under the unique indexes. -/
theorem OneAccount.webActorRow {authUserId : AuthUserId} {row : WebActorRow}
    (unique : OneAccount db)
    (joined : (db.webActorRows authUserId).head? = some row) :
    db.userOf authUserId = some row.userId ∧
      db.ledgerOf row.userId = some row.ledgerId := by
  have single := unique.users authUserId
  cases users : db.usersOf authUserId with
  | nil => simp [webActorRows, users] at joined
  | cons user rest =>
      have last : rest = [] := by
        rw [users, List.length_cons] at single
        exact List.eq_nil_of_length_eq_zero (by omega)
      subst last
      simp only [webActorRows, users, List.flatMap_cons, List.flatMap_nil,
        List.append_nil, List.head?_map] at joined
      obtain ⟨ledger, first, rfl⟩ := Option.map_eq_some_iff.mp joined
      refine ⟨?_, ?_⟩
      · simp [userOf, users]
      · simp [ledgerOf, first]

theorem resolveWebActor_eq_ok {actor : WebActorContext}
    (resolved : db.resolveWebActor input = .ok (actor, db')) :
    ∃ provided row, db.provideUser input = some provided ∧
      provided.provideLedger input = some db' ∧
      (db'.webActorRows input.authUserId).head? = some row ∧
      actor = row.actor input.correlationId := by
  unfold resolveWebActor at resolved
  split at resolved
  · cases resolved
  · rename_i first providedUser
    split at resolved
    · cases resolved
    · rename_i second providedLedger
      split at resolved
      · cases resolved
      · rename_i row joined
        cases resolved
        exact ⟨first, row, providedUser, providedLedger, joined, rfl⟩

theorem keepsAccounts_of_allows (allowed : AccountAllows call db answer db') :
    KeepsAccounts db db' := by
  cases call with
  | resolve input =>
      simp only [AccountAllows] at allowed
      split at allowed
      · rw [allowed.2]
        exact ⟨.refl, fun unique => unique⟩
      · rename_i actor provided resolved
        rw [allowed.2]
        obtain ⟨first, _, user, ledger, _⟩ := resolveWebActor_eq_ok resolved
        have one := keepsAccounts_provideUser user
        have two := keepsAccounts_provideLedger ledger
        exact ⟨one.others.trans two.others,
          fun unique => two.unique (one.unique unique)⟩
  | changeTimezone input =>
      cases answer with
      | error failure =>
          rw [allowed.2]
          exact ⟨.refl, fun unique => unique⟩
      | ok actor =>
          simp only [AccountAllows, changeUserTimezone] at allowed
          split at allowed
          · cases allowed
            exact ⟨otherAccount_setTimezone,
              fun unique => unique.setTimezone⟩
          · cases allowed

/-- The user and the ledger of a principal. -/
def OwnsLedger (authUserId : AuthUserId) (userId : UserId)
    (ledgerId : LedgerId) (db : AccountDatabase) : Prop :=
  db.userOf authUserId = some userId ∧ db.ledgerOf userId = some ledgerId

theorem hasAccount_of_allows {actor : WebActorContext}
    (unique : OneAccount db)
    (allowed : AccountAllows (.resolve input) db (.ok actor) db') :
    OwnsLedger input.authUserId actor.userId actor.ledgerId db' := by
  have kept := (keepsAccounts_of_allows allowed).unique unique
  simp only [AccountAllows] at allowed
  split at allowed
  · cases allowed.1
  · rename_i resolvedActor provided resolved
    obtain ⟨⟨timezone, same⟩, rfl⟩ := allowed
    obtain ⟨_, row, _, _, joined, rfl⟩ := resolveWebActor_eq_ok resolved
    cases same
    exact kept.webActorRow joined

theorem authUserId_unique {first second : AuthUserId} {userId : UserId}
    (found : db.userOf first = some userId)
    (other : db.userOf second = some userId) : first = second := by
  obtain ⟨⟨key, row⟩, head, rfl⟩ := Option.map_eq_some_iff.mp found
  obtain ⟨⟨same, otherRow⟩, otherHead, rfl⟩ :=
    Option.map_eq_some_iff.mp other
  obtain ⟨present, own⟩ := Table.mem_select.mp (List.mem_of_head? head)
  obtain ⟨again, foreign⟩ :=
    Table.mem_select.mp (List.mem_of_head? otherHead)
  rw [present] at again
  cases again
  have ownId : row.authUserId = some first := by simpa using own
  have foreignId : row.authUserId = some second := by simpa using foreign
  rw [ownId] at foreignId
  exact Option.some.inj foreignId

theorem owner_unique {first second : UserId} {ledgerId : LedgerId}
    (found : db.ledgerOf first = some ledgerId)
    (other : db.ledgerOf second = some ledgerId) : first = second := by
  obtain ⟨⟨key, row⟩, head, rfl⟩ := Option.map_eq_some_iff.mp found
  obtain ⟨⟨same, otherRow⟩, otherHead, rfl⟩ :=
    Option.map_eq_some_iff.mp other
  obtain ⟨present, own⟩ := Table.mem_select.mp (List.mem_of_head? head)
  obtain ⟨again, foreign⟩ :=
    Table.mem_select.mp (List.mem_of_head? otherHead)
  rw [present] at again
  cases again
  have ownId : row.ownerUserId = first := by simpa using own
  have foreignId : row.ownerUserId = second := by simpa using foreign
  rw [← ownId, foreignId]

/-- However the statements interleave, a principal has one user and one ledger,
all its calls answer them, and principals share neither. -/
theorem principals_have_one_account {rows : AccountDatabase}
    {actions : List (SessionAction AccountCall)} {state : AccountSessions}
    (unique : OneAccount rows)
    (ran : (accountProgram.system (fun _ => True)).run { committed := rows }
      actions = some state) :
    OneAccount state.committed ∧
      (∀ session input actor,
        ⟨session, .resolve input, .ok actor⟩ ∈
          accountProgram.history { committed := rows } actions →
        OwnsLedger input.authUserId actor.userId actor.ledgerId
          state.committed) ∧
      ∀ session input actor other otherInput otherActor,
        ⟨session, .resolve input, .ok actor⟩ ∈
          accountProgram.history { committed := rows } actions →
        ⟨other, .resolve otherInput, .ok otherActor⟩ ∈
          accountProgram.history { committed := rows } actions →
        (input.authUserId = otherInput.authUserId ↔
            actor.userId = otherActor.userId) ∧
          (actor.userId = otherActor.userId ↔
            actor.ledgerId = otherActor.ledgerId) := by
  obtain ⟨serial, _⟩ :=
    accountProgram_maintains.serialized accountProgram_endsAllowed trivial ran
  have kept := serial.invariant unique
    (fun _ _ _ _ unique allowed =>
      (keepsAccounts_of_allows allowed).unique unique)
  have has : ∀ session input actor,
      ⟨session, .resolve input, .ok actor⟩ ∈
        accountProgram.history { committed := rows } actions →
      OwnsLedger input.authUserId actor.userId actor.ledgerId
        state.committed := by
    intro session input actor member
    refine serial.persists unique
      (fun _ _ _ _ unique allowed =>
        (keepsAccounts_of_allows allowed).unique unique) member ?_ ?_
    · intro found left unique allowed
      exact hasAccount_of_allows unique allowed
    · intro _ _ _ _ account allowed
      have others := (keepsAccounts_of_allows allowed).others
      exact ⟨others.users _ _ account.1, others.owners _ _ account.2⟩
  refine ⟨kept, has, ?_⟩
  intro session input actor other otherInput otherActor member otherMember
  obtain ⟨user, ledger⟩ := has _ _ _ member
  obtain ⟨otherUser, otherLedger⟩ := has _ _ _ otherMember
  refine ⟨⟨?_, ?_⟩, ?_, ?_⟩
  · intro same
    rw [same, otherUser] at user
    exact (Option.some.inj user).symm
  · intro same
    rw [same] at user
    exact authUserId_unique user otherUser
  · intro same
    rw [same, otherLedger] at ledger
    exact (Option.some.inj ledger).symm
  · intro same
    rw [same] at ledger
    exact owner_unique ledger otherLedger

theorem oneAccount_empty (authUsers : List AuthUserId) :
    OneAccount { authUsers := authUsers } :=
  ⟨fun _ => Nat.zero_le 1, fun _ => Nat.zero_le 1⟩

theorem principals_have_one_account_first_visits :
    ∃ state : AccountSessions, OneAccount state.committed ∧
      answeredAccount 1 state = answeredAccount 0 state ∧
      answeredAccount 2 state = some (⟨12⟩, ⟨112⟩) := by
  have ran : ((accountProgram.system (fun _ => True)).run
      { committed := knownPrincipals } firstVisitsRun).any (fun state =>
        answeredAccount 1 state = answeredAccount 0 state &&
          answeredAccount 2 state = some (⟨12⟩, ⟨112⟩)) = true := by
    decide +kernel
  obtain ⟨state, ran, answered⟩ := (Option.any_eq_true _ _).mp ran
  have both : answeredAccount 1 state = answeredAccount 0 state ∧
      answeredAccount 2 state = some (⟨12⟩, ⟨112⟩) := by
    simpa using answered
  exact ⟨state, (principals_have_one_account (oneAccount_empty _) ran).1,
    both.1, both.2⟩

end Principals

end XpensGo
