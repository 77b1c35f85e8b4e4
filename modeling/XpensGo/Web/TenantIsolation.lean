import XpensGo.Web.IdentityApi

/-!
# Isolation of the tenants of the web API

Whatever the interleaving of requests and commands: every row was asked for by
an authorized request of the principal whose account it belongs to, and every
reply shows its session the account of that session only.
-/

namespace XpensGo

open EcmaScript JsString Postgres Relational Transition AccountDatabase

section Authorization

variable {config : IdentityApiConfig} {session : BetterAuthWebSession}

/-- The request comes from the site itself if it may change anything, and it
carries the session. -/
structure AuthorizedFor (config : IdentityApiConfig) (call : ApiCall)
    (session : BetterAuthWebSession) : Prop where
  sameSite : isMutation call.request.endpoint.method = true →
    call.request.origin = some config.trustedOrigin ∧
      ∀ site, call.request.fetchSite = some site →
        site = "same-origin" ∨ site = "none"
  found : call.found = some (some session)

theorem authorizeWebSession_eq_ok_iff {call : ApiCall} :
    authorizeWebSession config call.request call.found = .ok session ↔
      AuthorizedFor config call session := by
  unfold authorizeWebSession
  constructor
  · intro authorized
    split at authorized
    · cases authorized
    · rename_i near
      split at authorized
      · cases authorized
      · cases authorized
      · rename_i found
        cases authorized
        refine ⟨?_, found⟩
        intro mutation
        simp only [IdentityRequest.isCrossSite, mutation, Bool.true_and,
          Bool.or_eq_true, decide_eq_true_eq, not_or, not_not,
          Bool.not_eq_true] at near
        refine ⟨near.1, ?_⟩
        intro site named
        have permitted := near.2
        rw [named, Option.any_some] at permitted
        simp only [Bool.and_eq_false_iff, decide_eq_false_iff_not, not_not]
          at permitted
        exact permitted
  · rintro ⟨sameSite, found⟩
    have near : call.request.isCrossSite config = false := by
      unfold IdentityRequest.isCrossSite
      cases mutation : isMutation call.request.endpoint.method with
      | false => rfl
      | true =>
          obtain ⟨origin, site⟩ := sameSite mutation
          cases named : call.request.fetchSite with
          | none => simp [origin]
          | some name =>
              simpa [origin, or_iff_not_imp_left] using site name named
    rw [near, found]
    rfl

/-- An authorized request of the session had this endpoint. -/
def WebState.Asked (config : IdentityApiConfig) (state : WebState)
    (session : BetterAuthWebSession) (endpoint : IdentityEndpoint) : Prop :=
  ∃ call current, state.calls.find? call = some current ∧
    AuthorizedFor config current session ∧
    current.request.endpoint = endpoint

/-- The endpoint creates challenges with this purpose. -/
def IdentityEndpoint.Creates : IdentityEndpoint → ChallengePurpose → Prop
  | .createTelegramLinkChallenge, purpose => purpose = .link
  | .createTelegramUnlinkChallenge target, purpose => purpose = .unlink target
  | .overview, _ | .changeTimezone _, _ => False

end Authorization

section Tables

/-- Every row was asked for by an authorized request of its principal. -/
structure TablesSound (config : IdentityApiConfig)
    (asked : BetterAuthWebSession → IdentityEndpoint → Prop)
    (db : WebDatabase) : Prop where
  unique : OneAccount db.accounts
  users : ∀ userId row, db.accounts.users.find? userId = some row →
    ∃ session endpoint, asked session endpoint ∧
      row.authUserId = some session.user.id
  timezones : ∀ userId row, db.accounts.users.find? userId = some row →
    row.timezone = "Asia/Kolkata" ∨
      ∃ session text, asked session (.changeTimezone text) ∧
        row.authUserId = some session.user.id ∧
        decodeUserTimezone config text = some row.timezone
  challenges : ∀ tokenDigest row,
    db.challenges.find? tokenDigest = some row →
    ∃ session endpoint, asked session endpoint ∧
      endpoint.Creates row.purpose ∧
      OwnsLedger session.user.id row.userId row.ledgerId db.accounts
  identities : ∀ channelIdentityId row,
    db.identities.find? channelIdentityId = some row →
    ∃ session, asked session .createTelegramLinkChallenge ∧
      OwnsLedger session.user.id row.userId row.ledgerId db.accounts

variable {config : IdentityApiConfig}
  {asked later : BetterAuthWebSession → IdentityEndpoint → Prop}
  {db : WebDatabase} {accounts : AccountDatabase}
  {session : BetterAuthWebSession} {endpoint : IdentityEndpoint}

theorem TablesSound.mono (sound : TablesSound config asked db)
    (kept : ∀ session endpoint, asked session endpoint →
      later session endpoint) : TablesSound config later db where
  unique := sound.unique
  users := by
    intro userId row found
    obtain ⟨session, endpoint, request, own⟩ := sound.users userId row found
    exact ⟨session, endpoint, kept _ _ request, own⟩
  timezones := by
    intro userId row found
    rcases sound.timezones userId row found with
      default | ⟨session, text, request, own, decoded⟩
    · exact .inl default
    · exact .inr ⟨session, text, kept _ _ request, own, decoded⟩
  challenges := by
    intro tokenDigest row found
    obtain ⟨session, endpoint, request, own⟩ :=
      sound.challenges tokenDigest row found
    exact ⟨session, endpoint, kept _ _ request, own⟩
  identities := by
    intro channelIdentityId row found
    obtain ⟨session, request, own⟩ :=
      sound.identities channelIdentityId row found
    exact ⟨session, kept _ _ request, own⟩

theorem tablesSound_start (authUsers : List AuthUserId) :
    TablesSound config asked (WebState.start authUsers).database where
  unique := oneAccount_empty authUsers
  users := by
    intro userId row found
    cases (Table.find?_empty userId).symm.trans found
  timezones := by
    intro userId row found
    cases (Table.find?_empty userId).symm.trans found
  challenges := by
    intro tokenDigest row found
    cases (Table.find?_empty tokenDigest).symm.trans found
  identities := by
    intro channelIdentityId row found
    cases (Table.find?_empty channelIdentityId).symm.trans found

section Accounts

variable {accounts' : AccountDatabase} {authUserId : AuthUserId}
  {userId : UserId} {ledgerId : LedgerId}

theorem OwnsLedger.kept
    (owns : OwnsLedger authUserId userId ledgerId accounts)
    (keeps : KeepsAccounts accounts accounts') :
    OwnsLedger authUserId userId ledgerId accounts' :=
  ⟨keeps.others.users _ _ owns.1, keeps.others.owners _ _ owns.2⟩

theorem authUserId_of_userOf
    (found : accounts.userOf authUserId = some userId) :
    ∃ row, accounts.users.find? userId = some row ∧
      row.authUserId = some authUserId := by
  obtain ⟨⟨key, row⟩, head, rfl⟩ := Option.map_eq_some_iff.mp found
  obtain ⟨present, own⟩ := Table.mem_select.mp (List.mem_of_head? head)
  exact ⟨row, present, by simpa using own⟩

/-- The accounts after a call, with users that were asked for. -/
theorem TablesSound.of_accounts (sound : TablesSound config asked db)
    (keeps : KeepsAccounts db.accounts accounts)
    (users : ∀ userId row, accounts.users.find? userId = some row →
      ∃ session endpoint, asked session endpoint ∧
        row.authUserId = some session.user.id)
    (timezones : ∀ userId row, accounts.users.find? userId = some row →
      row.timezone = "Asia/Kolkata" ∨
        ∃ session text, asked session (.changeTimezone text) ∧
          row.authUserId = some session.user.id ∧
          decodeUserTimezone config text = some row.timezone) :
    TablesSound config asked { db with accounts := accounts } where
  unique := keeps.unique sound.unique
  users := users
  timezones := timezones
  challenges := by
    intro tokenDigest row found
    obtain ⟨session, endpoint, request, creates, own⟩ :=
      sound.challenges tokenDigest row found
    exact ⟨session, endpoint, request, creates, own.kept keeps⟩
  identities := by
    intro channelIdentityId row found
    obtain ⟨session, request, own⟩ :=
      sound.identities channelIdentityId row found
    exact ⟨session, request, own.kept keeps⟩

/-- `resolveWebActor` adds at most the user of its principal. -/
theorem users_of_resolve {input : ResolveWebActorInput}
    {actor : WebActorContext} {row : WebUserRow}
    (resolved : db.accounts.resolveWebActor input = .ok (actor, accounts))
    (found : accounts.users.find? userId = some row) :
    db.accounts.users.find? userId = some row ∨
      row = { authUserId := some input.authUserId } := by
  obtain ⟨provided, _, user, ledger, _⟩ := resolveWebActor_eq_ok resolved
  have same : accounts.users = provided.users := by
    unfold provideLedger at ledger
    split at ledger
    · cases ledger
      rfl
    · split at ledger
      · cases ledger
        rfl
      · exact insertLedger_users ledger
  rw [same] at found
  unfold provideUser at user
  split at user
  · cases user
    exact .inl found
  · obtain ⟨fresh, rfl⟩ := insertUser_eq_some user
    rw [Table.find?_push] at found
    split at found
    · exact .inr (Option.some.inj found).symm
    · exact .inl found

theorem keepsAccounts_of_resolve {input : ResolveWebActorInput}
    {actor : WebActorContext}
    (resolved : db.accounts.resolveWebActor input = .ok (actor, accounts)) :
    KeepsAccounts db.accounts accounts := by
  apply @keepsAccounts_of_allows _ _ (.resolve input) (.ok actor)
  simp only [AccountAllows, resolved]
  exact ⟨⟨actor.timezone, rfl⟩, trivial⟩

theorem ownsLedger_of_resolve {input : ResolveWebActorInput}
    {actor : WebActorContext} (unique : OneAccount db.accounts)
    (resolved : db.accounts.resolveWebActor input = .ok (actor, accounts)) :
    OwnsLedger input.authUserId actor.userId actor.ledgerId accounts := by
  apply @hasAccount_of_allows db.accounts _ _ _ unique
  simp only [AccountAllows, resolved]
  exact ⟨⟨actor.timezone, rfl⟩, trivial⟩

theorem TablesSound.resolve (sound : TablesSound config asked db)
    {input : ResolveWebActorInput} {actor : WebActorContext}
    (request : asked session endpoint)
    (own : input.authUserId = session.user.id)
    (resolved : db.accounts.resolveWebActor input = .ok (actor, accounts)) :
    TablesSound config asked { db with accounts := accounts } := by
  apply sound.of_accounts (keepsAccounts_of_resolve resolved)
  · intro userId row found
    rcases users_of_resolve resolved found with earlier | rfl
    · exact sound.users userId row earlier
    · exact ⟨session, endpoint, request, congrArg some own⟩
  · intro userId row found
    rcases users_of_resolve resolved found with earlier | rfl
    · exact sound.timezones userId row earlier
    · exact .inl rfl

theorem keepsAccounts_of_change {input : ChangeUserTimezoneInput}
    {changed : WebActorContext}
    (ran : accounts.changeUserTimezone input = .ok (changed, accounts')) :
    KeepsAccounts accounts accounts' := by
  apply @keepsAccounts_of_allows _ _ (.changeTimezone input) (.ok changed)
  exact ran

theorem TablesSound.change (sound : TablesSound config asked db)
    {actor changed : WebActorContext} {timezone : UserTimezone}
    {text : JsString} (request : asked session (.changeTimezone text))
    (decoded : decodeUserTimezone config text = some timezone)
    (owns : OwnsLedger session.user.id actor.userId actor.ledgerId
      db.accounts)
    (ran : db.accounts.changeUserTimezone
      { actor := actor
        timezone := timezone } = .ok (changed, accounts)) :
    TablesSound config asked { db with accounts := accounts } ∧
      OwnsLedger session.user.id changed.userId changed.ledgerId
        accounts := by
  have keeps := keepsAccounts_of_change ran
  unfold changeUserTimezone at ran
  split at ran
  · cases ran
    refine ⟨?_, owns.kept keeps⟩
    obtain ⟨own, present, principal⟩ := authUserId_of_userOf owns.1
    apply sound.of_accounts keeps
    · intro userId row found
      rcases Table.find?_modify_cases found with
        ⟨_, earlier, stored, rfl⟩ | ⟨_, unmoved⟩
      · exact sound.users _ earlier stored
      · exact sound.users userId row unmoved
    · intro userId row found
      rcases Table.find?_modify_cases found with
        ⟨rfl, earlier, stored, rfl⟩ | ⟨_, unmoved⟩
      · cases present.symm.trans stored
        exact .inr ⟨session, text, request, principal, decoded⟩
      · exact sound.timezones userId row unmoved
  · cases ran

end Accounts

section Links

/-- After a transaction on challenges every row was there with its owner, or
was asked for. -/
structure LinksSound (asked : BetterAuthWebSession → IdentityEndpoint → Prop)
    (db : WebDatabase) (identity : IdentityDatabase) : Prop where
  persist : LinksPersist db.identity identity
  challenges : ∀ tokenDigest row',
    identity.challenges.find? tokenDigest = some row' →
    (∃ row, db.challenges.find? tokenDigest = some row ∧
      row'.userId = row.userId ∧ row'.ledgerId = row.ledgerId ∧
        row'.purpose = row.purpose) ∨
    ∃ session endpoint, asked session endpoint ∧
      endpoint.Creates row'.purpose ∧
      OwnsLedger session.user.id row'.userId row'.ledgerId db.accounts
  identities : ∀ channelIdentityId row',
    identity.identities.find? channelIdentityId = some row' →
    (∃ row, db.identities.find? channelIdentityId = some row ∧
      row'.userId = row.userId ∧ row'.ledgerId = row.ledgerId) ∨
    ∃ tokenDigest challenge,
      db.challenges.find? tokenDigest = some challenge ∧
      challenge.purpose = .link ∧ row'.userId = challenge.userId ∧
        row'.ledgerId = challenge.ledgerId

variable {identity : IdentityDatabase}

theorem TablesSound.of_links (sound : TablesSound config asked db)
    (links : LinksSound asked db identity) :
    TablesSound config asked
      { db with
        identities := identity.identities
        challenges := identity.challenges } where
  unique := sound.unique
  users := sound.users
  timezones := sound.timezones
  challenges := by
    intro tokenDigest row' found
    rcases links.challenges tokenDigest row' found with
      ⟨row, earlier, user, ledger, purpose⟩ | created
    · rw [user, ledger, purpose]
      exact sound.challenges tokenDigest row earlier
    · exact created
  identities := by
    intro channelIdentityId row' found
    rcases links.identities channelIdentityId row' found with
      ⟨row, earlier, user, ledger⟩ |
      ⟨tokenDigest, challenge, stored, purpose, user, ledger⟩
    · rw [user, ledger]
      exact sound.identities channelIdentityId row earlier
    · obtain ⟨session, endpoint, request, creates, own⟩ :=
        sound.challenges tokenDigest challenge stored
      rw [user, ledger]
      rw [purpose] at creates
      cases endpoint with
      | createTelegramLinkChallenge => exact ⟨session, request, own⟩
      | createTelegramUnlinkChallenge => cases creates
      | overview | changeTimezone => exact creates.elim

theorem linksSound_refl : LinksSound asked db db.identity where
  persist := .refl
  challenges := fun _ row found => .inl ⟨row, found, rfl, rfl, rfl⟩
  identities := fun _ row found => .inl ⟨row, found, rfl, rfl⟩

theorem owner_of_consumeChallenge {input : ConsumeTelegramChallengeStoreInput}
    {tokenDigest : ChannelLinkChallengeDigest}
    {row' : ChannelLinkChallengeRow}
    (found : (identity.consumeChallenge input).challenges.find? tokenDigest =
      some row') :
    ∃ row, identity.challenges.find? tokenDigest = some row ∧
      row'.userId = row.userId ∧ row'.ledgerId = row.ledgerId ∧
        row'.purpose = row.purpose := by
  rcases Table.find?_modify_cases found with
    ⟨rfl, row, stored, rfl⟩ | ⟨_, unmoved⟩
  · exact ⟨row, stored, rfl, rfl, rfl⟩
  · exact ⟨row', unmoved, rfl, rfl, rfl⟩

theorem linksSound_of_create {input : PersistTelegramLinkChallengeInput}
    {purpose : ChallengePurpose}
    {outcome : PersistTelegramLinkChallengeOutcome}
    (request : asked session endpoint) (creates : endpoint.Creates purpose)
    (owns : OwnsLedger session.user.id input.actor.userId
      input.actor.ledgerId db.accounts)
    (created : IdentityDatabase.CreateEffect input purpose db.identity outcome
      identity) : LinksSound asked db identity := by
  cases created with
  | rateLimited => exact linksSound_refl
  | stored fresh =>
      refine
        { persist := ?_
          challenges := ?_
          identities := fun _ row found => .inl ⟨row, found, rfl, rfl⟩ }
      · exact
          { identities := LinksPersist.refl.identities
            challenges := fun _ row found =>
              ⟨row.consumedAt, Table.find?_push_of_some fresh found,
                fun _ => rfl⟩ }
      · intro tokenDigest row' found
        rw [Table.find?_push] at found
        split at found
        · cases found
          exact .inr ⟨session, endpoint, request, creates, owns⟩
        · exact .inl ⟨row', found, rfl, rfl, rfl⟩

theorem linksSound_of_link {generated : ChannelIdentityId}
    {input : ConsumeTelegramChallengeStoreInput}
    {outcome : ConsumeTelegramLinkChallengeStoreOutcome}
    (consumed : IdentityDatabase.LinkEffect generated input db.identity outcome
      identity) : LinksSound asked db identity := by
  have change : IdentityChange { database := db.identity } _ :=
    identityChange_of_link consumed
  have persist := change.linksPersist
  cases consumed with
  | notFound | alreadyConsumed => exact linksSound_refl
  | expired | alreadyLinked =>
      exact
        { persist := persist
          challenges := fun _ _ found =>
            .inl (owner_of_consumeChallenge found)
          identities := fun _ row found => .inl ⟨row, found, rfl, rfl⟩ }
  | @linked challenge _ fresh stored purpose =>
      refine
        { persist := persist
          challenges := fun _ _ found =>
            .inl (owner_of_consumeChallenge found)
          identities := ?_ }
      intro channelIdentityId row' found
      have pushed := found
      rw [IdentityDatabase.consumeChallenge_identities, Table.find?_push]
        at pushed
      split at pushed
      · cases pushed
        exact .inr ⟨input.tokenDigest, challenge, stored, purpose, rfl, rfl⟩
      · exact .inl ⟨row', pushed, rfl, rfl⟩

theorem linksSound_of_unlink {input : ConsumeTelegramChallengeStoreInput}
    {outcome : ConsumeTelegramUnlinkChallengeStoreOutcome}
    (consumed : IdentityDatabase.UnlinkEffect input db.identity outcome
      identity) : LinksSound asked db identity := by
  have change : IdentityChange { database := db.identity } _ :=
    identityChange_of_unlink consumed
  have persist := change.linksPersist
  cases consumed with
  | notFound | alreadyConsumed | mismatched => exact linksSound_refl
  | expired | gone =>
      exact
        { persist := persist
          challenges := fun _ _ found =>
            .inl (owner_of_consumeChallenge found)
          identities := fun _ row found => .inl ⟨row, found, rfl, rfl⟩ }
  | unlinked =>
      refine
        { persist := persist
          challenges := fun _ _ found =>
            .inl (owner_of_consumeChallenge found)
          identities := ?_ }
      intro channelIdentityId row' found
      rw [IdentityDatabase.consumeChallenge_identities] at found
      rcases Table.find?_modify_cases found with
        ⟨rfl, row, stored, rfl⟩ | ⟨_, unmoved⟩
      · exact .inl ⟨row, stored, rfl, rfl⟩
      · exact .inl ⟨row', unmoved, rfl, rfl⟩

end Links

end Tables

section Replies

variable {config : IdentityApiConfig} {db db' : WebDatabase}
  {session : BetterAuthWebSession} {endpoint : IdentityEndpoint}

/-- A reply shows its session the account of its principal, and challenges that
were created for this account. -/
def ReplySound (config : IdentityApiConfig) (db : WebDatabase)
    (session : BetterAuthWebSession) (endpoint : IdentityEndpoint) :
    IdentityReply → Prop
  | .overview reply =>
      OwnsLedger session.user.id reply.userId reply.ledgerId db.accounts ∧
        reply.email = session.user.email ∧ reply.name = session.user.name ∧
        ∀ summary ∈ reply.telegramIdentities, ∃ row,
          db.identities.find? summary.channelIdentityId = some row ∧
          row.userId = reply.userId ∧ row.ledgerId = reply.ledgerId
  | .challenge reply =>
      ∃ tokenDigest row,
        webCryptoDigestToken config.crypto reply.token = .ok tokenDigest ∧
        db.challenges.find? tokenDigest = some row ∧
        endpoint.Creates row.purpose ∧
        OwnsLedger session.user.id row.userId row.ledgerId db.accounts
  | .failed _ => True

/-- A request goes on with the account of its principal. -/
def PhaseSound (config : IdentityApiConfig) (db : WebDatabase)
    (session : BetterAuthWebSession) (endpoint : IdentityEndpoint) :
    ApiPhase → Prop
  | .resolving => True
  | .changingTimezone actor timezone =>
      OwnsLedger session.user.id actor.userId actor.ledgerId db.accounts ∧
        ∃ text, endpoint = .changeTimezone text ∧
          decodeUserTimezone config text = some timezone
  | .listing actor =>
      OwnsLedger session.user.id actor.userId actor.ledgerId db.accounts
  | .creatingLink actor =>
      OwnsLedger session.user.id actor.userId actor.ledgerId db.accounts ∧
        endpoint = .createTelegramLinkChallenge
  | .creatingUnlink actor channelIdentityId =>
      OwnsLedger session.user.id actor.userId actor.ledgerId db.accounts ∧
        endpoint = .createTelegramUnlinkChallenge channelIdentityId
  | .answered reply => ReplySound config db session endpoint reply

/-- What every transaction keeps. -/
structure WebGrows (db db' : WebDatabase) : Prop where
  accounts : KeepsAccounts db.accounts db'.accounts
  links : LinksPersist db.identity db'.identity

theorem WebGrows.refl : WebGrows db db where
  accounts := ⟨.refl, fun unique => unique⟩
  links := .refl

theorem webGrows_of_accounts {accounts : AccountDatabase}
    (keeps : KeepsAccounts db.accounts accounts) :
    WebGrows db { db with accounts := accounts } where
  accounts := keeps
  links := ⟨LinksPersist.refl.identities, LinksPersist.refl.challenges⟩

theorem webGrows_of_links {identity : IdentityDatabase}
    (persist : LinksPersist db.identity identity) :
    WebGrows db
      { db with
        identities := identity.identities
        challenges := identity.challenges } where
  accounts := ⟨.refl, fun unique => unique⟩
  links := ⟨persist.identities, persist.challenges⟩

theorem ReplySound.kept {reply : IdentityReply}
    (sound : ReplySound config db session endpoint reply)
    (grows : WebGrows db db') :
    ReplySound config db' session endpoint reply := by
  cases reply with
  | overview reply =>
      obtain ⟨owns, email, name, listed⟩ := sound
      refine ⟨owns.kept grows.accounts, email, name, ?_⟩
      intro summary member
      obtain ⟨row, found, user, ledger⟩ := listed summary member
      obtain ⟨_, kept, _⟩ := grows.links.identities _ row found
      exact ⟨_, kept, user, ledger⟩
  | challenge reply =>
      obtain ⟨tokenDigest, row, digested, found, creates, owns⟩ := sound
      obtain ⟨_, kept, _⟩ := grows.links.challenges tokenDigest row found
      exact ⟨tokenDigest, _, digested, kept, creates,
        owns.kept grows.accounts⟩
  | failed error => trivial

theorem PhaseSound.kept {phase : ApiPhase}
    (sound : PhaseSound config db session endpoint phase)
    (grows : WebGrows db db') :
    PhaseSound config db' session endpoint phase := by
  cases phase with
  | resolving => trivial
  | changingTimezone | creatingLink | creatingUnlink =>
      exact ⟨sound.1.kept grows.accounts, sound.2⟩
  | listing => exact OwnsLedger.kept sound grows.accounts
  | answered => exact ReplySound.kept sound grows

/-- A request that is not authorized is refused; the others are sound. -/
def CallSound (config : IdentityApiConfig) (db : WebDatabase)
    (call : ApiCall) : Prop :=
  (∃ session, AuthorizedFor config call session ∧
    PhaseSound config db session call.request.endpoint call.phase) ∨
  ∃ error, authorizeWebSession config call.request call.found =
    .error error ∧ call.phase = .answered (.failed error)

theorem CallSound.kept {call : ApiCall} (sound : CallSound config db call)
    (grows : WebGrows db db') : CallSound config db' call := by
  rcases sound with ⟨session, authorized, phase⟩ | refused
  · exact .inl ⟨session, authorized, phase.kept grows⟩
  · exact .inr refused

end Replies

section Steps

variable {config : IdentityApiConfig} {state state' : WebState}

structure WebSound (config : IdentityApiConfig) (state : WebState) :
    Prop where
  tables : TablesSound config (state.Asked config) state.database
  calls : ∀ call current, state.calls.find? call = some current →
    CallSound config state.database current

theorem WebSound.request (sound : WebSound config state) {call : ApiCallId}
    {request : IdentityRequest} {found : Option (Option BetterAuthWebSession)}
    (unused : state.calls.find? call = none) :
    WebSound config
      { state with
        calls := state.calls.insertMissing call
          (.receive config request found) } where
  tables := by
    apply sound.tables.mono
    rintro session endpoint ⟨other, current, ran, authorized, same⟩
    refine ⟨other, current, ?_, authorized, same⟩
    have different : other ≠ call := by
      rintro rfl
      cases unused.symm.trans ran
    rw [Table.find?_insertMissing, if_neg different]
    exact ran
  calls := by
    intro other current ran
    rcases Table.find?_insertMissing_cases ran with
      earlier | ⟨_, _, rfl⟩
    · exact sound.calls other current earlier
    · cases authorized : authorizeWebSession config request found with
      | error error =>
          refine .inr ⟨error, authorized, ?_⟩
          simp [ApiCall.receive, authorized]
      | ok session =>
          refine .inl ⟨session, authorizeWebSession_eq_ok_iff.mp authorized,
            ?_⟩
          simp only [ApiCall.receive, authorized]
          trivial

/-- A request that makes one of its calls. -/
theorem WebSound.move (sound : WebSound config state) {call : ApiCallId}
    {current : ApiCall} {session : BetterAuthWebSession}
    (ran : state.calls.find? call = some current)
    (authorized : AuthorizedFor config current session)
    {db' : WebDatabase} {phase : ApiPhase}
    (tables : TablesSound config (state.Asked config) db')
    (grows : WebGrows state.database db')
    (next : PhaseSound config db' session current.request.endpoint phase) :
    WebSound config
      ({ state with database := db' }.setPhase call phase) where
  tables := by
    apply tables.mono
    rintro other endpoint ⟨asking, request, found, asked, same⟩
    by_cases self : asking = call
    · subst self
      refine ⟨asking, { request with phase := phase }, ?_, ⟨asked.1, asked.2⟩,
        same⟩
      change (state.calls.modify asking _).find? asking = _
      rw [Table.find?_modify_self, found]
      rfl
    · refine ⟨asking, request, ?_, asked, same⟩
      exact (Table.find?_modify_of_ne _ _ self).trans found
  calls := by
    intro other moved found
    rcases Table.find?_modify_cases found with
      ⟨rfl, earlier, present, rfl⟩ | ⟨_, unmoved⟩
    · cases ran.symm.trans present
      exact .inl ⟨session, ⟨authorized.1, authorized.2⟩, next⟩
    · exact (sound.calls other moved unmoved).kept grows

/-- A request whose call fails is answered with the failure. -/
theorem WebSound.run {ε α : Type} (sound : WebSound config state)
    {call : ApiCallId} {current : ApiCall} {session : BetterAuthWebSession}
    (ran : state.calls.find? call = some current)
    (authorized : AuthorizedFor config current session)
    {fate : CallFate} {unavailable : ε}
    {transaction : WebDatabase → Except ε (α × WebDatabase)}
    {next : Except ε α → ApiPhase}
    (failed : ∀ failure, ∃ error, next (.error failure) =
      .answered (.failed error))
    (committed : ∀ outcome db', transaction state.database =
      .ok (outcome, db') →
      TablesSound config (state.Asked config) db' ∧
        WebGrows state.database db' ∧
        PhaseSound config db' session current.request.endpoint
          (next (.ok outcome))) :
    WebSound config (state.run call fate unavailable transaction next) := by
  unfold WebState.run
  have refused : ∀ failure db, PhaseSound config db session
      current.request.endpoint (next (.error failure)) := by
    intro failure db
    obtain ⟨error, answered⟩ := failed failure
    rw [answered]
    trivial
  rcases WebDatabase.call_cases fate unavailable transaction
    state.database with
    ⟨failure, idle⟩ | ⟨outcome, db', result, done, called, seen⟩
  · rw [idle]
    exact sound.move ran authorized sound.tables .refl (refused _ _)
  · rw [called]
    obtain ⟨tables, grows, moves⟩ := committed outcome db' done
    rcases seen with rfl | rfl
    · exact sound.move ran authorized tables grows moves
    · exact sound.move ran authorized tables grows (refused _ _)

theorem ReplySound.created {db : WebDatabase}
    {session : BetterAuthWebSession} {endpoint : IdentityEndpoint}
    {input : PersistTelegramLinkChallengeInput} {purpose : ChallengePurpose}
    {outcome : PersistTelegramLinkChallengeOutcome}
    {identity : IdentityDatabase} {command : ChallengeCommand}
    {token : ChannelLinkChallengeToken} {now : EpochMillis}
    {toError : IdentityStoreFailure → IdentityApiError}
    (digested : webCryptoDigestToken config.crypto token =
      .ok input.tokenDigest)
    (creates : endpoint.Creates purpose)
    (owns : OwnsLedger session.user.id input.actor.userId
      input.actor.ledgerId db.accounts)
    (created : IdentityDatabase.CreateEffect input purpose db.identity outcome
      identity) :
    ReplySound config
      { db with
        identities := identity.identities
        challenges := identity.challenges } session endpoint
      (challengeReply config command token now toError (.ok outcome)) := by
  cases created with
  | rateLimited => trivial
  | stored fresh =>
      exact ⟨input.tokenDigest, _, digested,
        Table.find?_push_self _ _ fresh, creates, owns⟩

/-- The creation of a challenge for the account of a request. -/
theorem WebSound.created (sound : WebSound config state) {call : ApiCallId}
    {current : ApiCall} {session : BetterAuthWebSession}
    (ran : state.calls.find? call = some current)
    (authorized : AuthorizedFor config current session)
    {input : PersistTelegramLinkChallengeInput} {purpose : ChallengePurpose}
    {fate : CallFate} {unavailable : IdentityStoreFailure}
    {transaction : IdentityDatabase → Except IdentityStoreFailure
      (PersistTelegramLinkChallengeOutcome × IdentityDatabase)}
    {command : ChallengeCommand} {token : ChannelLinkChallengeToken}
    {now : EpochMillis} {toError : IdentityStoreFailure → IdentityApiError}
    (digested : webCryptoDigestToken config.crypto token =
      .ok input.tokenDigest)
    (creates : current.request.endpoint.Creates purpose)
    (owns : OwnsLedger session.user.id input.actor.userId
      input.actor.ledgerId state.database.accounts)
    (effect : ∀ outcome identity, transaction state.database.identity =
      .ok (outcome, identity) →
      IdentityDatabase.CreateEffect input purpose state.database.identity
        outcome identity) :
    WebSound config (state.run call fate unavailable
      (WebDatabase.onIdentity transaction) (fun created =>
        .answered (challengeReply config command token now toError
          created))) := by
  apply sound.run ran authorized
  · intro failure
    exact ⟨toError failure, rfl⟩
  · intro outcome db' done
    obtain ⟨identity, committed, rfl⟩ := WebDatabase.onIdentity_eq_ok done
    have created := effect outcome identity committed
    have asked : state.Asked config session current.request.endpoint :=
      ⟨call, current, ran, authorized, rfl⟩
    have links := linksSound_of_create asked creates owns created
    exact ⟨sound.tables.of_links links, webGrows_of_links links.persist,
      ReplySound.created digested creates owns created⟩

theorem challengeMaterial_eq_ok {random : Option (Vector UInt8 32)}
    {token : ChannelLinkChallengeToken}
    {tokenDigest : ChannelLinkChallengeDigest}
    (generated : challengeMaterial config random = .ok (token, tokenDigest)) :
    webCryptoDigestToken config.crypto token = .ok tokenDigest := by
  obtain ⟨_, _, rest⟩ := bind_eq_ok.mp generated
  obtain ⟨_, digested, rest⟩ := bind_eq_ok.mp rest
  cases rest
  exact digested

theorem WebSound.refuse (sound : WebSound config state) {call : ApiCallId}
    {current : ApiCall} {session : BetterAuthWebSession}
    (ran : state.calls.find? call = some current)
    (authorized : AuthorizedFor config current session)
    (error : IdentityApiError) :
    WebSound config (state.setPhase call (.answered (.failed error))) :=
  sound.move ran authorized sound.tables .refl trivial

theorem WebSound.create (sound : WebSound config state) {call : ApiCallId}
    {current : ApiCall} {session : BetterAuthWebSession} {fate : CallFate}
    {random : Option (Vector UInt8 32)} {now : EpochMillis}
    (ran : state.calls.find? call = some current)
    (authorized : AuthorizedFor config current session)
    (phase : PhaseSound config state.database session
      current.request.endpoint current.phase)
    (taken : state.create config call fate random now current.phase =
      some state') : WebSound config state' := by
  unfold WebState.create at taken
  split at taken
  · rename_i actor creating
    rw [creating] at phase
    split at taken
    · cases taken
      exact sound.refuse ran authorized _
    · rename_i token tokenDigest generated
      cases taken
      have digested : webCryptoDigestToken config.crypto token =
          .ok (challengeInput actor tokenDigest now).tokenDigest :=
        challengeMaterial_eq_ok generated
      have creates : current.request.endpoint.Creates .link := by
        rw [phase.2]
        rfl
      apply sound.created ran authorized digested creates phase.1
      intro outcome identity committed
      exact (IdentityDatabase.createTelegramLinkChallenge_eq_ok committed).2
  · rename_i actor channelIdentityId creating
    rw [creating] at phase
    split at taken
    · cases taken
      exact sound.refuse ran authorized _
    · rename_i token tokenDigest generated
      cases taken
      have digested : webCryptoDigestToken config.crypto token =
          .ok (challengeInput actor tokenDigest now).tokenDigest :=
        challengeMaterial_eq_ok generated
      have creates : current.request.endpoint.Creates
          (.unlink channelIdentityId) := by
        rw [phase.2]
        rfl
      apply sound.created ran authorized digested creates phase.1
      intro outcome identity committed
      exact (IdentityDatabase.createTelegramUnlinkChallenge_eq_ok
        committed).2.2
  · cases taken

/-- The phase after an account was resolved. -/
theorem phaseSound_afterResolve {db : WebDatabase}
    {session : BetterAuthWebSession} {actor : WebActorContext}
    (endpoint : IdentityEndpoint)
    (owns : OwnsLedger session.user.id actor.userId actor.ledgerId
      db.accounts) :
    PhaseSound config db session endpoint
      (endpoint.afterResolve config (.ok actor)) := by
  cases endpoint with
  | overview => exact owns
  | changeTimezone text =>
      cases decoded : decodeUserTimezone config text with
      | none =>
          simp only [IdentityEndpoint.afterResolve, decoded]
          trivial
      | some timezone =>
          simp only [IdentityEndpoint.afterResolve, decoded]
          exact ⟨owns, text, rfl, decoded⟩
  | createTelegramLinkChallenge => exact ⟨owns, rfl⟩
  | createTelegramUnlinkChallenge channelIdentityId => exact ⟨owns, rfl⟩

theorem WebSound.nextCall (sound : WebSound config state) {call : ApiCallId}
    {current : ApiCall} {session : BetterAuthWebSession} {action : ApiAction}
    (ran : state.calls.find? call = some current)
    (authorized : AuthorizedFor config current session)
    (phase : PhaseSound config state.database session
      current.request.endpoint current.phase)
    (taken : state.nextCall config call current session action =
      some state') : WebSound config state' := by
  have asked : state.Asked config session current.request.endpoint :=
    ⟨call, current, ran, authorized, rfl⟩
  cases action with
  | resolve fate generatedUserId generatedLedgerId =>
      simp only [WebState.nextCall] at taken
      split at taken
      · cases taken
        apply sound.run ran authorized
        · intro failure
          exact ⟨_, rfl⟩
        · intro actor db' done
          obtain ⟨accounts, resolved, rfl⟩ := WebDatabase.onAccounts_eq_ok done
          have owns := ownsLedger_of_resolve sound.tables.unique resolved
          exact ⟨sound.tables.resolve asked rfl resolved,
            webGrows_of_accounts (keepsAccounts_of_resolve resolved),
            phaseSound_afterResolve _ owns⟩
      · cases taken
  | change fate =>
      simp only [WebState.nextCall] at taken
      split at taken
      · rename_i actor timezone changing
        cases taken
        rw [changing] at phase
        obtain ⟨owns, text, same, decoded⟩ := phase
        rw [same] at asked
        apply sound.run ran authorized
        · intro failure
          exact ⟨_, rfl⟩
        · intro changed db' done
          obtain ⟨accounts, committed, rfl⟩ :=
            WebDatabase.onAccounts_eq_ok done
          obtain ⟨tables, kept⟩ :=
            sound.tables.change asked decoded owns committed
          exact ⟨tables,
            webGrows_of_accounts (keepsAccounts_of_change committed), kept⟩
      · cases taken
  | list available =>
      simp only [WebState.nextCall] at taken
      split at taken
      · rename_i actor listing
        cases taken
        rw [listing] at phase
        apply sound.move ran authorized sound.tables .refl
        cases available with
        | false => trivial
        | true =>
            exact ⟨phase, rfl, rfl, fun summary member =>
              WebDatabase.listTelegramIdentities_owned member⟩
      · cases taken
  | create fate random now => exact sound.create ran authorized phase taken

theorem WebSound.execute (sound : WebSound config state) {α : Type}
    {transaction : IdentityDatabase →
      Except IdentityStoreFailure (α × IdentityDatabase)}
    (links : ∀ outcome identity, transaction state.database.identity =
      .ok (outcome, identity) →
      LinksSound (state.Asked config) state.database identity) :
    WebSound config (state.execute (WebDatabase.onIdentity transaction)) := by
  unfold WebState.execute
  rcases withTransaction_cases (WebDatabase.onIdentity transaction)
    state.database with ⟨_, _, idle⟩ | ⟨outcome, db', done, committed⟩
  · rw [idle]
    exact sound
  · rw [committed]
    obtain ⟨identity, ran, rfl⟩ := WebDatabase.onIdentity_eq_ok done
    have kept := links outcome identity ran
    exact
      { tables := sound.tables.of_links kept
        calls := fun call current found =>
          (sound.calls call current found).kept
            (webGrows_of_links kept.persist) }

theorem webSound_of_next {action : WebAction}
    (sound : WebSound config state)
    (taken : (webSystem config).next state action = some state') :
    WebSound config state' := by
  change state.next config action = some state' at taken
  cases action with
  | request call request found =>
      simp only [WebState.next] at taken
      split at taken
      · cases taken
      · rename_i unused
        cases taken
        exact sound.request (by simpa using unused)
  | step call action =>
      simp only [WebState.next] at taken
      split at taken
      · cases taken
      · rename_i current ran
        split at taken
        · cases taken
        · rename_i session authorized
          have allowed := authorizeWebSession_eq_ok_iff.mp authorized
          rcases sound.calls call current ran with
            ⟨other, again, phase⟩ | ⟨error, refused, _⟩
          · cases allowed.found.symm.trans again.found
            exact sound.nextCall ran allowed phase taken
          · cases refused.symm.trans authorized
  | consumeLink generated input =>
      cases taken
      apply sound.execute
      intro outcome identity ran
      exact linksSound_of_link
        (IdentityDatabase.consumeTelegramLinkChallenge_eq_ok ran)
  | consumeUnlink input =>
      cases taken
      apply sound.execute
      intro outcome identity ran
      exact linksSound_of_unlink
        (IdentityDatabase.consumeTelegramUnlinkChallenge_eq_ok ran)

theorem reachable_webSound (reached : (webSystem config).Reachable state) :
    WebSound config state := by
  refine System.Reachable.invariant ?_ ?_ reached
  · rintro state ⟨authUsers, rfl⟩
    refine
      { tables := tablesSound_start authUsers
        calls := ?_ }
    intro call current found
    cases (Table.find?_empty call).symm.trans found
  · intro state action state' _ sound taken
    exact webSound_of_next sound taken

end Steps

section Isolation

variable {config : IdentityApiConfig} {state : WebState}

/-- Every user, every changed timezone, every challenge and every link was asked
for by an authorized request of the principal that it belongs to, and a reply
shows its session the account of its own principal only.  Two principals share
neither a user nor a ledger. -/
theorem web_tenants_isolated (reached : (webSystem config).Reachable state) :
    TablesSound config (state.Asked config) state.database ∧
    (∀ call current reply, state.calls.find? call = some current →
      current.phase = .answered reply →
      (∃ error, reply = .failed error) ∨
        ∃ session, AuthorizedFor config current session ∧
          ReplySound config state.database session current.request.endpoint
            reply) ∧
    ∀ call other current otherCurrent session otherSession reply otherReply,
      state.calls.find? call = some current →
      state.calls.find? other = some otherCurrent →
      AuthorizedFor config current session →
      AuthorizedFor config otherCurrent otherSession →
      current.phase = .answered (.overview reply) →
      otherCurrent.phase = .answered (.overview otherReply) →
      (session.user.id = otherSession.user.id ↔
          reply.userId = otherReply.userId) ∧
        (reply.userId = otherReply.userId ↔
          reply.ledgerId = otherReply.ledgerId) := by
  have sound := reachable_webSound reached
  have owned : ∀ call current session reply,
      state.calls.find? call = some current →
      AuthorizedFor config current session →
      current.phase = .answered (.overview reply) →
      OwnsLedger session.user.id reply.userId reply.ledgerId
        state.database.accounts := by
    intro call current session reply ran authorized answered
    rcases sound.calls call current ran with
      ⟨other, again, phase⟩ | ⟨error, _, refused⟩
    · cases authorized.found.symm.trans again.found
      rw [answered] at phase
      exact phase.1
    · cases answered.symm.trans refused
  refine ⟨sound.tables, ?_, ?_⟩
  · intro call current reply ran answered
    rcases sound.calls call current ran with
      ⟨session, authorized, phase⟩ | ⟨error, _, refused⟩
    · rw [answered] at phase
      exact .inr ⟨session, authorized, phase⟩
    · cases answered.symm.trans refused
      exact .inl ⟨error, rfl⟩
  · intro call other current otherCurrent session otherSession reply otherReply
      ran otherRan authorized otherAuthorized answered otherAnswered
    obtain ⟨user, ledger⟩ := owned _ _ _ _ ran authorized answered
    obtain ⟨otherUser, otherLedger⟩ :=
      owned _ _ _ _ otherRan otherAuthorized otherAnswered
    refine ⟨⟨?_, ?_⟩, ?_, ?_⟩
    · intro same
      rw [same, otherUser] at user
      exact (Option.some.inj user).symm
    · intro same
      rw [same] at user
      exact authUserId_unique user otherUser
    · intro same
      rw [same, otherLedger] at ledger
      exact (Option.some.inj ledger).symm
    · intro same
      rw [same] at ledger
      exact owner_unique ledger otherLedger

/-- An interface whose runtime supports one timezone and computes no digest. -/
def sampleApiConfig : IdentityApiConfig :=
  { trustedOrigin := "https://xpensego.test"
    botUsername := none
    crypto :=
      { encodeText := Utf8.encode
        digest := fun _ => none }
    isSupportedIanaTimezone := fun text => text = ofString "Europe/Berlin" }

def sampleSession (number : Nat) : BetterAuthWebSession :=
  { user :=
      { id := ⟨number⟩
        email := "owner@xpensego.test"
        name := "User" } }

def sampleApiRequest (endpoint : IdentityEndpoint) (origin : String) :
    IdentityRequest :=
  { endpoint := endpoint
    origin := some origin
    fetchSite := some "same-origin"
    correlationId := ⟨9⟩ }

/-- One principal reads its overview while another changes its timezone; a
request from another site is refused. -/
def tenantsRun : List WebAction :=
  let change := IdentityEndpoint.changeTimezone (ofString " Europe/Berlin ")
  [.request 1 (sampleApiRequest .overview "https://xpensego.test")
      (some (some (sampleSession 1))),
    .request 2 (sampleApiRequest change "https://xpensego.test")
      (some (some (sampleSession 2))),
    .request 3 (sampleApiRequest change "https://attacker.example")
      (some (some (sampleSession 1))),
    .step 2 (.resolve .answered ⟨12⟩ ⟨112⟩),
    .step 1 (.resolve .answered ⟨11⟩ ⟨111⟩),
    .step 2 (.change .answered),
    .step 1 (.list true),
    .step 2 (.list true)]

def answeredStatus (state : WebState) (call : ApiCallId) : Option Nat :=
  (state.calls.find? call).bind (fun current =>
    match current.phase with
    | .answered reply => some reply.status
    | _ => none)

theorem web_tenants_isolated_two :
    ∃ state, answeredStatus state 1 = some 200 ∧
      answeredStatus state 2 = some 200 ∧ answeredStatus state 3 = some 403 ∧
      (state.database.accounts.users.find? ⟨12⟩).map (·.timezone) =
        some "Europe/Berlin" ∧
      TablesSound sampleApiConfig (state.Asked sampleApiConfig)
        state.database := by
  have initial : (webSystem sampleApiConfig).Initial
      (.start [⟨1⟩, ⟨2⟩]) := ⟨_, rfl⟩
  obtain ⟨state, reached, tested⟩ := System.exists_reachable_of_run tenantsRun
    (fun state => answeredStatus state 1 = some 200 &&
      answeredStatus state 2 = some 200 &&
      answeredStatus state 3 = some 403 &&
      (state.database.accounts.users.find? ⟨12⟩).map (·.timezone) =
        some "Europe/Berlin") initial (by decide +kernel)
  simp only [Bool.and_eq_true, decide_eq_true_eq] at tested
  exact ⟨state, tested.1.1.1, tested.1.1.2, tested.1.2, tested.2,
    (web_tenants_isolated reached).1⟩

end Isolation

end XpensGo
