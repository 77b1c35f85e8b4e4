import XpensGo.Bot.Parsing
import XpensGo.Bot.Queries

/-!
# Updates and agent turns

How the bot answers an update.  The agent is any function from what it was shown
to the tool calls it makes next; the caller's identity comes from the update.
-/

namespace XpensGo

open EcmaScript Relational Transition

namespace Bot

variable {α : Type}

/-- The tools that the model may call, with their arguments. -/
inductive ToolCall (α : Type) where
  | logEntries (payload : LogEntriesPayload α)
  | parseTransactions (rawText : String)
  | resolvePending (pendingIds : List Int) (action : String)
  | queryLedger (slots : QuerySlots)
  | manageBudget (payload : BudgetPayload α)
  | deleteLastEntry
  | recategorizeEntry (entryId : Int) (category : String)
  | purgeMyData (userConfirmed : Bool)
  | unknown (name : String)
  /-- Arguments that are no JSON. -/
  | malformed (error : String)

/-- What a tool answers when it succeeds. -/
inductive ToolAnswer (α : Type) where
  | inserted (entries : List (Nat × ParsedEntry α))
  | parsed (result : ParseResult α)
  | resolved (count : Nat)
  | query (answer : QueryAnswer α)
  | budget (answer : BudgetAnswer α)
  | deleted (entry : Nat × EntryRow α)
  | recategorized (entry : Nat × EntryRow α)
  | purged

/-- What `dispatch_tool` returns: an error is its text. -/
abbrev ToolOutput (α : Type) := Except String (ToolAnswer α)

/-- What the agent is shown: the known payees, the day, the recent conversation
and the message, then the outputs of each round of calls. -/
inductive Shown (α : Type) where
  | prompt (payees : List (String × String)) (today : Calendar.Date)
      (context : List (ContextRole × String)) (text : String)
  | outputs (outputs : List (ToolOutput α))

/-- A response of the model, the time it arrives, and its calls with the time
at which each is dispatched. -/
structure AgentResponse (α : Type) where
  now : Int
  calls : List (Int × ToolCall α)
  outputText : String
  inputTokens : Nat
  outputTokens : Nat

/-- A model; a request that fails has no response. -/
abbrev Agent (α : Type) := List (Shown α) → Option (AgentResponse α)

variable (builtins : Builtins α)

section Turn

variable (reader : SmsReader α) (agent : Agent α) (userId : String)

/-- The branches of `dispatch_tool`. -/
def callTool (now : Int) : ToolCall α → BotHandler α (ToolAnswer α)
  | .logEntries payload => do
      let inserted ← logEntries builtins userId now payload
      pure (.inserted inserted)
  | .parseTransactions rawText => do
      let result ← parseTransactions builtins reader userId now rawText
      pure (.parsed result)
  | .resolvePending pendingIds action => do
      let count ← resolvePending builtins userId pendingIds action
      pure (.resolved count)
  | .queryLedger slots => do
      let answer ← queryLedger builtins userId slots
      pure (.query answer)
  | .manageBudget payload => do
      let answer ← manageBudget builtins userId now payload
      pure (.budget answer)
  | .deleteLastEntry => do
      let entry ← deleteLastEntry userId now
      pure (.deleted entry)
  | .recategorizeEntry entryId category => do
      let entry ← recategorizeEntry builtins userId entryId category
      pure (.recategorized entry)
  | .purgeMyData userConfirmed =>
      if userConfirmed then do
        purgeMyData userId
        pure .purged
      else
        throw "explicit confirmation is required"
  | .unknown name => throw ("unknown tool: " ++ name)
  | .malformed error => throw error

/-- An error of a tool is an output for the model; what it has written
stays. -/
def dispatchTool (now : Int) (call : ToolCall α) :
    BotHandler α (ToolOutput α) :=
  Handler.caught (callTool builtins reader userId now call)

/-- `create_response`: a response is recorded in the cost log; the record of a
request that fails is rolled back with the turn. -/
def createResponse (shown : List (Shown α)) :
    BotHandler α (AgentResponse α) :=
  Handler.attempt (fun db => (agent shown).map (fun response =>
    let row : CostRow α :=
      { userId := some userId
        operation := "agent_turn"
        model := "gpt-5.4-nano"
        inputTokens := response.inputTokens
        outputTokens := response.outputTokens
        costUsd := builtins.zero }
    (response, { db with costLog := (db.costLog.insert row).2 })))

/-- The payees of the system prompt. -/
def knownPayees : BotHandler α (List (String × String)) :=
  Handler.read (fun db =>
    (((db.payeeMemory.select (fun key _ => key.1 = userId)).insertionSort
      (fun first second => first.1.2 ≤ second.1.2)).take 20).map (fun entry =>
        (entry.1.2, entry.2)))

/-- The last ten messages of a week. -/
def loadContext (now : Int) : BotHandler α (List (ContextRole × String)) :=
  Handler.read (fun db =>
    (((db.context.select (fun _ row => row.userId = userId &&
      now - 604800 ≤ row.createdAt)).reverse.take 10).reverse).map (fun entry =>
        (entry.2.role, entry.2.content)))

/-- `INSERT INTO conversation_context`. -/
def insertContext (now : Int) (role : ContextRole) (content : String) :
    BotHandler α Unit :=
  Handler.statement (fun db =>
    let row : ContextRow :=
      { userId := userId, role := role, content := content, createdAt := now }
    ((), { db with context := (db.context.insert row).2 }))

/-- Messages of the user older than a week are deleted. -/
def expireContext (now : Int) : BotHandler α Unit :=
  Handler.statement (fun db =>
    ((), { db with
      context := db.context.deleteWhere (fun _ row =>
        row.userId = userId && row.createdAt < now - 604800) }))

/-- `append_context`: the message and its reply, at one time. -/
def appendContext (now : Int) (userContent assistantContent : String) :
    BotHandler α Unit := do
  insertContext userId now .user userContent
  insertContext userId now .assistant assistantContent
  expireContext userId now

/-- The turn ends with a reply, which becomes part of the conversation. -/
def finishTurn (now : Int) (text reply : String) : BotHandler α String := do
  appendContext userId now text reply
  pure reply

/-- The loop of `process_message`. -/
def toolLoop (text : String) :
    Nat → List (Shown α) → AgentResponse α → BotHandler α String
  | 0, _, response =>
      finishTurn userId response.now text
        "Please simplify that request and try again."
  | rounds + 1, shown, response =>
      if response.calls.isEmpty then
        let reply := Python.strip response.outputText
        finishTurn userId response.now text (if reply.isEmpty then
          "I couldn't complete that. Please try again." else reply)
      else do
        let outputs ← response.calls.mapM (fun call =>
          dispatchTool builtins reader userId call.1 call.2)
        let shown := shown ++ [.outputs outputs]
        let response ← createResponse builtins agent userId shown
        toolLoop text rounds shown response

/-- `MAX_TOOL_ITERATIONS`. -/
def maxToolIterations : Nat := 8

/-- `text[:4000]`. -/
def truncated (text : String) : String :=
  String.ofList (text.toList.take 4000)

/-- `process_message`. -/
def processMessage (now : Int) (text : String) : BotHandler α String := do
  let text := truncated text
  let payees ← knownPayees userId
  let context ← loadContext userId now
  let shown := [.prompt payees (istDate now) context text]
  let response ← createResponse builtins agent userId shown
  toolLoop builtins reader agent userId text maxToolIterations shown response

end Turn

section Updates

variable (userId : String)

/-- `upsert_user`. -/
def upsertUser (displayName : Option String) : BotHandler α Unit :=
  Handler.statement (fun db =>
    ((), { db with
      users := db.users.upsert userId { displayName := displayName }
        (fun row => { row with
          displayName := displayName.or row.displayName }) }))

/-- The user's messages that are answered count, not those that failed. -/
def turnsSince (since : Int) (rows : List ContextRow) : Nat :=
  rows.countP (fun row => row.role = .user && since ≤ row.createdAt)

/-- `allowed_agent_turn`. -/
def allowedAgentTurn (now : Int) : BotHandler α Bool :=
  Handler.read (fun db =>
    let rows := (db.context.select (fun _ row => row.userId = userId)).map
      Prod.snd
    decide (turnsSince (now - 3600) rows < 30) &&
      decide (turnsSince (now - 86400) rows < 150))

/-- `_is_onboarded`. -/
def isOnboarded : BotHandler α Bool :=
  Handler.read (fun db =>
    (db.users.find? userId).any (fun row => row.onboardedAt.isSome))

/-- What users send. -/
inductive Update (α : Type) where
  | start
  | ping
  | text (text : String) (agent : Agent α)
  | csvDocument (file : List UInt8)

/-- What the bot sends back. -/
inductive BotReply (α : Type) where
  | greeting
  | pong
  | limited
  | tooLarge
  | agent (reply : String)
  | onboarded
  | clarification (reason : Clarification)
  | parsed (inserted : List (ParsedEntry α))

/-- The hint that follows a user's first entries. -/
def onboardedReply (wasOnboarded : Bool) (userId : String) :
    BotHandler α (List (BotReply α)) :=
  if wasOnboarded then
    pure []
  else do
    let onboarded ← isOnboarded userId
    pure (if onboarded then [.onboarded] else [])

/-- The transaction, if it was entered. -/
def ChunkOutcome.inserted? : ChunkOutcome α → Option (ParsedEntry α)
  | .stored (.inserted _) entry => some entry
  | _ => none

/-- The reply to a statement: what was entered, or what is unclear. -/
def csvReply : Except Clarification (List (ChunkOutcome α)) → BotReply α
  | .error reason => .clarification reason
  | .ok outcomes => .parsed (outcomes.filterMap ChunkOutcome.inserted?)

def csvOnboarded (wasOnboarded : Bool) (userId : String) :
    Except Clarification (List (ChunkOutcome α)) →
      BotHandler α (List (BotReply α))
  | .error _ => pure []
  | .ok _ => onboardedReply wasOnboarded userId

variable (reader : SmsReader α) (statements : StatementReader α)

/-- `text_message` after `_upsert_sender`. -/
def textMessage (now : Int) (text : String) (agent : Agent α) :
    BotHandler α (List (BotReply α)) :=
  if reader.lower (Python.strip (truncated text)) = "ping" then
    pure [.pong]
  else do
    let allowed ← allowedAgentTurn userId now
    if allowed then do
      let wasOnboarded ← isOnboarded userId
      let turn ← Handler.transaction
        (processMessage builtins reader agent userId now (truncated text))
      match turn with
      | none => pure []
      | some reply => do
          let further ← onboardedReply wasOnboarded userId
          pure (.agent reply :: further)
    else
      pure [.limited]

/-- `csv_document` after `_upsert_sender`. -/
def csvDocument (now : Int) (file : List UInt8) :
    BotHandler α (List (BotReply α)) :=
  if maxCsvBytes < file.length then
    pure [.tooLarge]
  else do
    let wasOnboarded ← isOnboarded userId
    let stored ← Handler.transaction
      (parseCsvStatement builtins reader statements userId now file)
    match stored with
    | none => pure []
    | some result => do
        let further ← csvOnboarded wasOnboarded userId result
        pure (csvReply result :: further)

/-- An update of a user at a time. -/
def handleUpdate (displayName : Option String) (now : Int)
    (update : Update α) : BotHandler α (List (BotReply α)) := do
  upsertUser userId displayName
  match update with
  | .start => pure [.greeting]
  | .ping => pure [.pong]
  | .text text agent => textMessage builtins userId reader now text agent
  | .csvDocument file => csvDocument builtins userId reader statements now file

end Updates

end Bot

end XpensGo
