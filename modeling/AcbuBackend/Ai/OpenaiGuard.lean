import AcbuBackend.Effects.Outcome
import Mathlib.Algebra.BigOperators.Group.List.Basic
import Mathlib.Algebra.Order.Field.Rat
import Mathlib.Tactic.Linarith

/-! The guard of the OpenAI calls, with the spend of an organisation in a month.
Amounts are exact rationals. The patterns for prompts are parameters, and the pauses between
attempts are left out: others may act between any two calls. An attempt that is abandoned may still
be answered, which costs as much.
-/

namespace AcbuBackend.Ai

open Effects Effects.Prog Effects.Protocol

-- Completions and their costs

/-- A calendar month in UTC, for its `monthKey`. -/
structure Month where
  year : ℤ
  month : Nat
deriving DecidableEq

structure Usage where
  prompt_tokens : Nat
  completion_tokens : Nat
  total_tokens : Nat

/-- An answer of the API, with the month it is created in. -/
structure Completion where
  content : Option String
  usage : Option Usage
  created : Month

/-- `response.usage`, or zeros. -/
def Completion.usageOrZero (completion : Completion) : Usage :=
  completion.usage.getD { prompt_tokens := 0, completion_tokens := 0, total_tokens := 0 }

/-- The prices per million tokens, of the input and of the output. -/
def pricing : List (String × ℚ × ℚ) :=
  [("gpt-4o", 5 / 2, 10), ("gpt-4o-mini", 15 / 100, 6 / 10), ("gpt-4-turbo", 10, 30),
    ("gpt-3.5-turbo", 5 / 10, 15 / 10)]

def estimateCostUsd (promptTokens completionTokens : Nat) (model : String) : ℚ :=
  let modelKey := (pricing.map Prod.fst).find? (fun key => key.toList.isPrefixOf model.toList)
  let (input, output) := (pricing.lookup (modelKey.getD "gpt-4o-mini")).getD (0, 0)
  (promptTokens * input + completionTokens * output) / 1000000

def Completion.cost (completion : Completion) (model : String) : ℚ :=
  let usage := completion.usageOrZero
  estimateCostUsd usage.prompt_tokens usage.completion_tokens model

-- Calls

/-- A thrown error: its `status`, `statusCode` or `code` if that is a number, and its text. -/
structure GuardError where
  status : Option Nat
  message : String
deriving DecidableEq

/-- A message; `content` is `none` where it is not a text. -/
structure ChatMessage where
  role : String
  content : Option String
deriving DecidableEq

/-- A request for a completion, and the organisation it is made for. -/
structure ChatRequest where
  orgId : String
  model : String
  messages : List ChatMessage
  max_tokens : Nat
deriving DecidableEq

inductive GuardOp
  | getMongoDB
  | now
  | findSpend (orgId : String) (monthKey : Month)
  | complete (request : ChatRequest)
  | updateSpend (orgId : String) (monthKey : Month) (costUsd : ℚ)
deriving DecidableEq

abbrev guardInterface : Interface where
  Op := GuardOp
  Ret
    | .getMongoDB => Unit
    | .now => Month
    | .findSpend _ _ => Option ℚ
    | .complete _ => Completion
    | .updateSpend _ _ _ => Unit
  Err := GuardError

def ask (op : GuardOp) : Prog guardInterface (guardInterface.Ret op) :=
  Prog.await (I := guardInterface) op

-- The guard

/-- The configuration, and what the guard takes from the language. -/
structure Deployment where
  apiKey : String
  orgMonthlyBudgetUsd : ℚ
  maxTokensPerRequest : Nat
  failOpenMaxRetries : Option Nat
  failOpenEnabled : Bool
  DISALLOWED_PROMPT_PATTERNS : List (String → Bool)
  toLowerCase : String → String
  numberText : ℚ → String

structure GuardedChatParams where
  orgId : String
  messages : List ChatMessage
  model : Option String := none
  maxTokens : Option Nat := none

structure GuardedUsage where
  promptTokens : Nat
  completionTokens : Nat
  totalTokens : Nat
  estimatedCostUsd : ℚ

structure GuardedChatResult where
  content : String
  usage : GuardedUsage

def GuardedChatParams.modelOf (params : GuardedChatParams) : String :=
  params.model.getD "gpt-4o-mini"

def GuardedChatParams.request (dep : Deployment) (params : GuardedChatParams) : ChatRequest where
  orgId := params.orgId
  model := params.modelOf
  messages := params.messages
  max_tokens := params.maxTokens.getD dep.maxTokensPerRequest

/-- `assertPromptSafe`: no message of a user matches a pattern. -/
def promptSafe (dep : Deployment) (messages : List ChatMessage) : Bool :=
  messages.all (fun msg =>
    msg.role ≠ "user"
    || dep.DISALLOWED_PROMPT_PATTERNS.all (fun test => !test (msg.content.getD "")))

/-- A database that is not connected has no spend. -/
def getMonthlySpend (orgId : String) : Prog guardInterface ℚ := do
  let connected ←
    (do ask .getMongoDB; return true : Prog guardInterface Bool).catchWith (fun _ => return false)
  if connected then
    let monthKey : Month ← ask .now
    let totalUsd : Option ℚ ← ask (.findSpend orgId monthKey)
    return totalUsd.getD 0
  else return 0

/-- Nothing is recorded where the database is not connected. -/
def recordSpend (orgId : String) (costUsd : ℚ) : Prog guardInterface Unit := do
  let connected ←
    (do ask .getMongoDB; return true : Prog guardInterface Bool).catchWith (fun _ => return false)
  if connected then
    let monthKey : Month ← ask .now
    ask (.updateSpend orgId monthKey costUsd)
  else return ()

def isRetryableError (dep : Deployment) (err : GuardError) : Bool :=
  let msg := dep.toLowerCase err.message
  err.status.any (fun status => status = 429 || (500 ≤ status && status < 600))
  || ["timeout", "network", "econnrefused"].any (fun word =>
    msg.toList.tails.any (word.toList.isPrefixOf ·))

/-- The attempts that are left, after the first of them. -/
def callWithRetries (dep : Deployment) (request : ChatRequest)
    : Nat → Prog guardInterface Completion
  | 0 => ask (.complete request)
  | retries + 1 =>
      Prog.catchWith (ask (.complete request)) (fun err =>
        if isRetryableError dep err then callWithRetries dep request retries else .fail err)

/-- The result that stands in for an answer. -/
def emptyResult : GuardedChatResult where
  content := ""
  usage := { promptTokens := 0, completionTokens := 0, totalTokens := 0, estimatedCostUsd := 0 }

def budgetExceeded (dep : Deployment) : GuardError where
  status := some 429
  message :=
    "OpenAI monthly budget of $" ++ dep.numberText dep.orgMonthlyBudgetUsd
    ++ " exceeded for this organisation."

def guardedChat (dep : Deployment) (params : GuardedChatParams)
    : Prog guardInterface GuardedChatResult := do
  ensure (params.orgId ≠ "")
    { status := some 401, message := "orgId is required for OpenAI calls." }
  ensure (promptSafe dep params.messages)
    { status := some 400, message := "Prompt rejected: contains disallowed content." }
  let currentSpend ← getMonthlySpend params.orgId
  ensure (currentSpend < dep.orgMonthlyBudgetUsd) (budgetExceeded dep)
  ensure (dep.apiKey ≠ "")
    { status := none
      message := "OpenAI is not configured. Set OPENAI_API_KEY in your environment." }
  let response ←
    Prog.catchWith
      (do
        let response ←
          callWithRetries dep (params.request dep) (dep.failOpenMaxRetries.getD 2)
        return some response)
      (fun err =>
        if dep.failOpenEnabled && isRetryableError dep err then return none else .fail err)
  match response with
  | none => return emptyResult
  | some response =>
      let usage := response.usageOrZero
      let estimatedCostUsd :=
        estimateCostUsd usage.prompt_tokens usage.completion_tokens params.modelOf
      recordSpend params.orgId estimatedCostUsd
      return {
        content := response.content.getD ""
        usage := {
          promptTokens := usage.prompt_tokens
          completionTokens := usage.completion_tokens
          totalTokens := usage.total_tokens
          estimatedCostUsd } }

-- What an organisation has obtained

/-- A completion that the API has answered with. -/
structure Obtained where
  orgId : String
  month : Month
  cost : ℚ

/-- The completions, and the spend that is recorded of an organisation in a month. -/
structure World where
  completions : List Obtained := []
  totalUsd : String → Month → Option ℚ := fun _ _ => none

/-- What the completions of the organisation in the month cost. -/
def World.obtained (w : World) (orgId : String) (month : Month) : ℚ :=
  ((w.completions.filter (fun entry => entry.orgId = orgId && entry.month = month)).map
    Obtained.cost).sum

/-- The spend that is read. -/
def World.recorded (w : World) (orgId : String) (month : Month) : ℚ :=
  (w.totalUsd orgId month).getD 0

def World.obtain (w : World) (entry : Obtained) : World :=
  { w with completions := entry :: w.completions }

/-- `$inc` of the spend, with upsert. -/
def World.record (w : World) (orgId : String) (month : Month) (costUsd : ℚ) : World :=
  { w with
    totalUsd := fun org key =>
      if org = orgId ∧ key = month then some (w.recorded orgId month + costUsd)
      else w.totalUsd org key }

structure Choice where
  outcome : Outcome GuardError
  month : Month
  completion : Completion

/-- Calls of the API and the store may fail or time out; the clock does not. -/
def guardEnvironment : Environment guardInterface World Choice where
  outcome := Choice.outcome
  admissible op x _ := op ≠ .now || x.outcome = .done
  effect x w
    | .getMongoDB => (.ok (), w)
    | .now => (.ok x.month, w)
    | .findSpend orgId monthKey => (.ok (w.totalUsd orgId monthKey), w)
    | .complete request =>
        (.ok x.completion,
          w.obtain ⟨request.orgId, x.completion.created, x.completion.cost request.model⟩)
    | .updateSpend orgId monthKey costUsd => (.ok (), w.record orgId monthKey costUsd)

abbrev guardSemantics : Semantics guardInterface World Choice :=
  guardEnvironment.semantics

abbrev GuardConfig := Config guardInterface GuardedChatResult World

/-- No organisation has obtained more in a month than the budget. -/
def WithinBudget (dep : Deployment) (w : World) : Prop :=
  ∀ orgId month, w.obtained orgId month ≤ dep.orgMonthlyBudgetUsd

/-- All that was obtained is recorded. -/
def Settled (w : World) : Prop :=
  ∀ orgId month, w.recorded orgId month = w.obtained orgId month

@[simp] theorem World.obtained_obtain (w : World) (entry : Obtained) (orgId : String)
    (month : Month)
    : (w.obtain entry).obtained orgId month
      = w.obtained orgId month
        + if entry.orgId = orgId ∧ entry.month = month then entry.cost else 0 := by
  by_cases mine : entry.orgId = orgId ∧ entry.month = month
  · simp [World.obtained, World.obtain, mine, add_comm]
  · simp only [World.obtained, World.obtain]
    rw [List.filter_cons_of_neg (by simpa using mine), if_neg mine, add_zero]

@[simp] theorem World.recorded_obtain (w : World) (entry : Obtained) (orgId : String)
    (month : Month)
    : (w.obtain entry).recorded orgId month = w.recorded orgId month :=
  rfl

@[simp] theorem World.obtained_record (w : World) (orgId org : String) (month key : Month)
    (costUsd : ℚ)
    : (w.record orgId month costUsd).obtained org key = w.obtained org key :=
  rfl

@[simp] theorem World.recorded_record (w : World) (orgId org : String) (month key : Month)
    (costUsd : ℚ)
    : (w.record orgId month costUsd).recorded org key
      = w.recorded org key + if org = orgId ∧ key = month then costUsd else 0 := by
  simp only [World.recorded, World.record]
  split
  · rename_i mine
    rw [mine.1, mine.2]
    rfl
  · rw [add_zero]

-- What a call has seen, and what it has still to record

/-- The spend that a call has read, and its month. -/
structure SpendSeen where
  month : Month
  spend : ℚ

/-- The cost of a completion, and the month it was created in. -/
structure Owed where
  month : Month
  cost : ℚ

/-- The organisation of a call, the spend it goes by, and what it has still to record. -/
structure GuardStage where
  orgId : String
  seen : Option SpendSeen
  owed : Option Owed

/-- A completion is asked for only where the spend that was read is below the budget. A call that
cannot reach the database or the clock gives up recording.
-/
def GuardStage.next (dep : Deployment) (stage : GuardStage)
    : (op : GuardOp) → guardInterface.Reply op → Option GuardStage
  | .getMongoDB, reply => some (if Except.isOk reply then stage else { stage with owed := none })
  | .now, reply => some (if Except.isOk reply then stage else { stage with owed := none })
  | .findSpend orgId month, reply =>
      if orgId = stage.orgId ∧ stage.seen = none ∧ stage.owed = none then
        some (reply.toOption.elim stage (fun totalUsd =>
          { stage with seen := some ⟨month, totalUsd.getD 0⟩ }))
      else none
  | .complete request, reply =>
      if request.orgId = stage.orgId ∧ stage.owed = none
          ∧ stage.seen.all (fun seen => seen.spend < dep.orgMonthlyBudgetUsd) then
        some (reply.toOption.elim stage (fun completion =>
          { stage with owed := some ⟨completion.created, completion.cost request.model⟩ }))
      else none
  | .updateSpend orgId _ costUsd, _ =>
      if orgId = stage.orgId ∧ stage.owed.map Owed.cost = some costUsd then
        some { stage with seen := none, owed := none }
      else none

abbrev guardProtocol (dep : Deployment) : Protocol guardInterface GuardStage where
  next := GuardStage.next dep

def guardStart (requests : List GuardedChatParams) (i : Nat) : GuardStage where
  orgId := (requests[i]?).elim "" GuardedChatParams.orgId
  seen := none
  owed := none

abbrev guardPhase (dep : Deployment) (requests : List GuardedChatParams) (c : GuardConfig) (i : Nat)
    : GuardStage :=
  (guardProtocol dep).phase (guardStart requests) c i

/-- A call that has ended goes by nothing any more. -/
def guardStage (dep : Deployment) (requests : List GuardedChatParams) (c : GuardConfig) (i : Nat)
    : GuardStage :=
  if c.live i then guardPhase dep requests c i
  else { guardPhase dep requests c i with seen := none }

/-- The call has read the spend of the organisation, and goes by it. -/
def GuardStage.inside (stage : GuardStage) (orgId : String) : Bool :=
  stage.orgId = orgId && stage.seen.isSome

/-- What the call has still to record in a month. -/
def GuardStage.debt (stage : GuardStage) (month : Month) : ℚ :=
  stage.owed.elim 0 (fun owed => if owed.month = month then owed.cost else 0)

/-- The calls of an organisation go by the spend one after the other. A completion is answered in
time, in the month whose spend was read, and costs no more than that spend leaves of the budget,
if it leaves anything; it is then recorded, and in its month.
-/
def Careful (dep : Deployment) (requests : List GuardedChatParams) (c : GuardConfig) (i : Nat)
    (x : Choice)
    : Prop :=
  match c.pending? i with
  | some (.findSpend orgId _) =>
      ∀ j < c.threads.length, j ≠ i → (guardStage dep requests c j).inside orgId = false
  | some (.complete request) =>
      x.outcome.isFailed = true
      ∨ x.outcome = .done
        ∧ (guardStage dep requests c i).seen.any (fun seen =>
          x.completion.created = seen.month
          ∧ (seen.spend < dep.orgMonthlyBudgetUsd →
            seen.spend + x.completion.cost request.model ≤ dep.orgMonthlyBudgetUsd)) = true
  | some .getMongoDB => (guardStage dep requests c i).owed = none ∨ x.outcome = .done
  | some (.updateSpend _ monthKey _) =>
      x.outcome.isFailed = false
      ∧ (guardStage dep requests c i).owed.map Owed.month = some monthKey
  | _ => True

instance (dep : Deployment) (requests : List GuardedChatParams) (c : GuardConfig) (i : Nat)
    (x : Choice)
    : Decidable (Careful dep requests c i x) := by
  unfold Careful
  rcases c.pending? i with _ | op
  · exact .isTrue trivial
  · cases op with
    | now => exact .isTrue trivial
    | _ => exact inferInstance

-- Calls keep to the protocol

variable {dep : Deployment} {requests : List GuardedChatParams}

theorem wp_getMonthlySpend {orgId : String}
    : (guardProtocol dep).wp (getMonthlySpend orgId) ⟨orgId, none, none⟩
        (fun spend stage => ∃ seen, stage = ⟨orgId, seen, none⟩ ∧ ∀ s ∈ seen, s.spend = spend)
        (fun _ stage => stage.owed = none) := by
  simp [getMonthlySpend, ask, GuardStage.next, Except.isOk, Except.toBool, Except.toOption]

theorem wp_recordSpend {orgId : String} {seen : Option SpendSeen} {owed : Owed}
    : (guardProtocol dep).wp (recordSpend orgId owed.cost) ⟨orgId, seen, some owed⟩
        (fun _ stage => stage.owed = none) (fun _ stage => stage.owed = none) := by
  simp [recordSpend, ask, GuardStage.next, Except.isOk, Except.toBool]

theorem wp_callWithRetries {request : ChatRequest} {seen : Option SpendSeen} (retries : Nat)
    (below : ∀ s ∈ seen, s.spend < dep.orgMonthlyBudgetUsd)
    : (guardProtocol dep).wp (callWithRetries dep request retries) ⟨request.orgId, seen, none⟩
        (fun completion stage => stage
          = ⟨request.orgId, seen, some ⟨completion.created, completion.cost request.model⟩⟩)
        (fun _ stage => stage = ⟨request.orgId, seen, none⟩) := by
  have allowed : seen.all (fun s => s.spend < dep.orgMonthlyBudgetUsd) = true := by
    rw [Option.all_eq_true]
    exact fun s there => decide_eq_true (below s there)
  induction retries with
  | zero => simp [callWithRetries, ask, GuardStage.next, Except.toOption, allowed]
  | succ retries ih => simp [callWithRetries, ask, GuardStage.next, Except.toOption, allowed, ih]

theorem wp_guardedChat {params : GuardedChatParams}
    : (guardProtocol dep).wp (guardedChat dep params) ⟨params.orgId, none, none⟩
        (fun _ stage => stage.owed = none) (fun _ stage => stage.owed = none) := by
  simp only [guardedChat, wp_bind, wp_ensure]
  refine ⟨fun _ => ⟨fun _ => ?_, fun _ => trivial⟩, fun _ => trivial⟩
  refine wp_mono wp_getMonthlySpend ?_ (fun _ _ nothing => nothing)
  rintro currentSpend _ ⟨seen, rfl, read⟩
  simp only [wp_catchWith, wp_bind]
  -- the spend that was read has passed the comparison with the budget
  refine ⟨fun below => ⟨fun _ => ?_, fun _ => trivial⟩, fun _ => trivial⟩
  have below : ∀ s ∈ seen, s.spend < dep.orgMonthlyBudgetUsd :=
    fun s there => (read s there).symm ▸ of_decide_eq_true below
  refine wp_mono (wp_callWithRetries _ below) ?_ ?_
  · rintro response _ rfl
    simp only [wp_pure, wp_bind]
    exact wp_recordSpend
  · rintro error _ rfl
    simp only [wp_ite]
    exact ⟨fun _ => rfl, fun _ => rfl⟩

-- Runs

/-- The calls of the organisations, on a store. -/
def guardConfig (dep : Deployment) (requests : List GuardedChatParams) (world : World)
    : GuardConfig :=
  .initial world (requests.map (guardedChat dep))

/-- Every call keeps to the protocol, and one that has ended has nothing left to record. -/
abbrev Governed (dep : Deployment) (requests : List GuardedChatParams) (c : GuardConfig) : Prop :=
  (guardProtocol dep).Governs (guardStart requests) (fun _ _ stage => stage.owed = none)
    (fun _ _ stage => stage.owed = none) c

theorem governed_guardConfig {world : World}
    : Governed dep requests (guardConfig dep requests world) := by
  refine governs_initial ?_
  intro i prog found
  simp only [List.getElem?_map, Option.map_eq_some_iff] at found
  obtain ⟨params, member, rfl⟩ := found
  rw [guardStart, member]
  exact wp_guardedChat

/-- What a careful step does to the store, and to the stage of its call. -/
inductive Moves (dep : Deployment) (w w' : World) (stages : Nat → GuardStage) (i : Nat)
    (stage' : GuardStage)
    : Prop
  | quiet (world : w' = w) (same : stage' = stages i)
  | enters (seen : SpendSeen) (alone : ∀ j, (stages j).inside (stages i).orgId = false)
      (nothing : (stages i).owed = none)
      (read : seen.spend = w.recorded (stages i).orgId seen.month) (world : w' = w)
      (updated : stage' = { stages i with seen := some seen })
  | obtains (seen : SpendSeen) (cost : ℚ) (goesBy : (stages i).seen = some seen)
      (nothing : (stages i).owed = none) (affordable : seen.spend + cost ≤ dep.orgMonthlyBudgetUsd)
      (world : w' = w.obtain ⟨(stages i).orgId, seen.month, cost⟩)
      (updated : stage' = { stages i with owed := some ⟨seen.month, cost⟩ })
  | records (owed : Owed) (owing : (stages i).owed = some owed)
      (world : w' = w.record (stages i).orgId owed.month owed.cost)
      (updated : stage' = { stages i with seen := none, owed := none })

variable {c c' : GuardConfig} {i : Nat}

theorem guardStage_of_live (live : c.live i = true)
    : guardStage dep requests c i = guardPhase dep requests c i :=
  if_pos live

/-- The calls that are not there are outside. -/
theorem outside_of_threads {orgId : String}
    (outside : ∀ j < c.threads.length, j ≠ i → (guardStage dep requests c j).inside orgId = false)
    (mine : (guardStage dep requests c i).seen = none) (j : Nat)
    : (guardStage dep requests c j).inside orgId = false := by
  by_cases same : j = i
  · subst same
    simp [GuardStage.inside, mine]
  · by_cases inside : j < c.threads.length
    · exact outside j inside same
    · have absent : c.threads[j]? = none := List.getElem?_eq_none (Nat.le_of_not_lt inside)
      have ended : c.live j = false := by simp [Config.live, absent]
      simp [guardStage, ended, GuardStage.inside]

theorem eq_of_nothing {stage stage' : GuardStage} {answered : Bool}
    (moved : some (if answered then stage else { stage with owed := none }) = some stage')
    (kept : stage.owed = none ∨ answered = true)
    : stage' = stage := by
  obtain rfl := Option.some.inj moved
  rcases kept with nothing | rfl
  · rw [← nothing]
    exact ite_self stage
  · rfl

theorem moves_of_step {x : Choice} (governed : Governed dep requests c)
    (careful : Careful dep requests c i x) (stepped : c.step guardSemantics i x = some c')
    : Moves dep c.world c'.world (guardStage dep requests c) i (guardPhase dep requests c' i) := by
  obtain ⟨op, reply, live, pending, answered, moved, -, -, -⟩ := governed.step_cases stepped
  obtain ⟨possible, answer⟩ := Environment.act_eq_some answered
  rw [Careful, pending] at careful
  change GuardStage.next dep (guardPhase dep requests c i) op reply
    = some (guardPhase dep requests c' i) at moved
  rw [← guardStage_of_live live] at moved
  cases op with
  | getMongoDB =>
      refine .quiet ((Outcome.answer_world answer).elim id id)
        (eq_of_nothing moved (careful.imp_right fun done => ?_))
      rw [show guardEnvironment.outcome x = .done from done] at answer
      exact congrArg (Except.isOk ·.1) answer.symm
  | now =>
      have done : x.outcome = .done := by simpa [guardEnvironment] using possible
      refine .quiet ((Outcome.answer_world answer).elim id id) (eq_of_nothing moved (.inr ?_))
      rw [show guardEnvironment.outcome x = .done from done] at answer
      exact congrArg (Except.isOk ·.1) answer.symm
  | findSpend orgId month =>
      have world : c'.world = c.world := (Outcome.answer_world answer).elim id id
      obtain ⟨⟨rfl, unseen, nothing⟩, next⟩ := Option.ite_none_right_eq_some.mp moved
      replace next := (Option.some.inj next).symm
      rcases reply with error | totalUsd
      · exact .quiet world next
      · have read := congrArg Prod.fst (Outcome.answer_ok answer).2
        refine .enters ⟨month, totalUsd.getD 0⟩ (outside_of_threads careful unseen) nothing ?_ world
          next
        rw [← Except.ok.inj read]
        rfl
  | complete request =>
      obtain ⟨⟨org, nothing, below⟩, next⟩ := Option.ite_none_right_eq_some.mp moved
      replace next := (Option.some.inj next).symm
      rcases careful with failed | ⟨done, affordable⟩
      · obtain ⟨error, failed⟩ : ∃ error, x.outcome = .failed error := by
          cases outcome : x.outcome with
          | failed error => exact ⟨error, rfl⟩
          | done | lost _ =>
              rw [outcome] at failed
              cases failed
        rw [show guardEnvironment.outcome x = .failed error from failed] at answer
        obtain ⟨rfl, world⟩ := Prod.mk.inj answer
        exact .quiet world.symm next
      · rw [show guardEnvironment.outcome x = .done from done] at answer
        obtain ⟨rfl, world⟩ := Prod.mk.inj answer
        obtain ⟨seen, goesBy, affordable⟩ := (Option.any_eq_true ..).mp affordable
        obtain ⟨created, affordable⟩ := of_decide_eq_true affordable
        have below : seen.spend < dep.orgMonthlyBudgetUsd :=
          of_decide_eq_true ((Option.all_eq_true ..).mp below seen goesBy)
        have next : guardPhase dep requests c' i = { guardStage dep requests c i with
            owed := some ⟨x.completion.created, x.completion.cost request.model⟩ } := next
        rw [org, created] at world
        rw [created] at next
        exact .obtains seen _ goesBy nothing (affordable below) world.symm next
  | updateSpend orgId monthKey costUsd =>
      obtain ⟨⟨org, cost⟩, next⟩ := Option.ite_none_right_eq_some.mp moved
      replace next := (Option.some.inj next).symm
      obtain ⟨effective, created⟩ := careful
      obtain ⟨owed, owing, rfl⟩ := Option.map_eq_some_iff.mp cost
      obtain rfl : owed.month = monthKey := by simpa [owing] using created
      obtain ⟨failed, -⟩ | ⟨-, world⟩ := Outcome.answer_cases answer
      · exact absurd (failed.symm.trans effective) Bool.noConfusion
      · exact .records owed owing (by rw [world, org]; rfl) next

-- The budget

/-- A call goes by the spend that is recorded. Until it records a completion, that is what is
missing in the records of its organisation.
-/
structure GuardStage.Consistent (stage : GuardStage) (w : World) : Prop where
  unseen : stage.seen = none → stage.owed = none
  balanced : stage.seen.isSome = true → ∀ month,
    w.obtained stage.orgId month = w.recorded stage.orgId month + stage.debt month
  current : ∀ seen, stage.seen = some seen → stage.owed = none →
    w.recorded stage.orgId seen.month = seen.spend

/-- One call at a time goes by the spend of an organisation. Where none does, all that was obtained
is recorded.
-/
structure Accounted (dep : Deployment) (w : World) (stages : Nat → GuardStage) : Prop where
  single : ∀ i j orgId, (stages i).inside orgId = true → (stages j).inside orgId = true → i = j
  settled : ∀ orgId, (∀ i, (stages i).inside orgId = false) →
    ∀ month, w.obtained orgId month = w.recorded orgId month
  consistent : ∀ i, (stages i).Consistent w
  within : WithinBudget dep w

section

variable {w w' : World} {stages : Nat → GuardStage} {stage stage' : GuardStage} {orgId : String}

@[simp] theorem GuardStage.inside_iff
    : stage.inside orgId = true ↔ stage.orgId = orgId ∧ ∃ seen, stage.seen = some seen := by
  simp [GuardStage.inside, Option.isSome_iff_exists]

theorem inside_update {j : Nat} (inside : (Function.update stages i stage j).inside orgId = true)
    : j = i ∧ stage.inside orgId = true ∨ j ≠ i ∧ (stages j).inside orgId = true := by
  by_cases mine : j = i
  · subst mine
    rw [Function.update_self] at inside
    exact .inl ⟨rfl, inside⟩
  · rw [Function.update_of_ne mine] at inside
    exact .inr ⟨mine, inside⟩

theorem outside_before (other : (stages i).orgId ≠ orgId)
    (outside : ∀ j, (Function.update stages i stage j).inside orgId = false) (j : Nat)
    : (stages j).inside orgId = false := by
  by_cases mine : j = i
  · subst mine
    simp [GuardStage.inside, other]
  · have after := outside j
    rwa [Function.update_of_ne mine] at after

/-- A stage is consistent with what is obtained and recorded of its own organisation. -/
theorem GuardStage.Consistent.of_same (h : stage.Consistent w)
    (obtained : stage.seen.isSome = true → ∀ month,
      w'.obtained stage.orgId month = w.obtained stage.orgId month)
    (recorded : stage.seen.isSome = true → ∀ month,
      w'.recorded stage.orgId month = w.recorded stage.orgId month)
    : stage.Consistent w' := by
  refine ⟨h.unseen, fun seen month => ?_, fun seen goesBy nothing => ?_⟩
  · rw [obtained seen, recorded seen]
    exact h.balanced seen month
  · rw [recorded (by rw [goesBy]; rfl)]
    exact h.current seen goesBy nothing

/-- A call that goes by the spend is alone in its organisation. -/
theorem Accounted.other (h : Accounted dep w stages) {j : Nat} (different : j ≠ i)
    (mine : (stages i).seen.isSome = true) (theirs : (stages j).seen.isSome = true)
    : (stages j).orgId ≠ (stages i).orgId := by
  intro same
  refine different (h.single j i (stages i).orgId ?_ ?_)
  · simp [GuardStage.inside, same, theirs]
  · simp [GuardStage.inside, mine]

theorem Accounted.enter (h : Accounted dep w stages) {seen : SpendSeen}
    (alone : ∀ j, (stages j).inside (stages i).orgId = false) (nothing : (stages i).owed = none)
    (read : seen.spend = w.recorded (stages i).orgId seen.month)
    : Accounted dep w (Function.update stages i { stages i with seen := some seen }) := by
  have others : ∀ j orgId, (stages j).inside orgId = true → (stages i).orgId ≠ orgId := by
    rintro j _ inside rfl
    rw [alone j] at inside
    cases inside
  constructor
  · intro j k orgId first second
    rcases inside_update first with ⟨rfl, mine⟩ | ⟨-, theirs⟩
    · rcases inside_update second with ⟨rfl, -⟩ | ⟨-, theirs⟩
      · rfl
      · exact absurd (GuardStage.inside_iff.mp mine).1 (others k orgId theirs)
    · rcases inside_update second with ⟨rfl, mine⟩ | ⟨-, theirs'⟩
      · exact absurd (GuardStage.inside_iff.mp mine).1 (others j orgId theirs)
      · exact h.single j k orgId theirs theirs'
  · intro orgId outside month
    have other : (stages i).orgId ≠ orgId := by
      rintro rfl
      have mine := outside i
      simp [GuardStage.inside] at mine
    exact h.settled orgId (outside_before other outside) month
  · intro j
    by_cases mine : j = i
    · subst mine
      rw [Function.update_self]
      refine ⟨fun unseen => (by cases unseen), fun _ month => ?_, ?_⟩
      · rw [h.settled _ alone month]
        simp [GuardStage.debt, nothing]
      · rintro _ goesBy -
        obtain rfl := Option.some.inj goesBy
        exact read.symm
    · rw [Function.update_of_ne mine]
      exact h.consistent j
  · exact h.within

theorem Accounted.obtain (h : Accounted dep w stages) {seen : SpendSeen} {cost : ℚ}
    (goesBy : (stages i).seen = some seen) (nothing : (stages i).owed = none)
    (affordable : seen.spend + cost ≤ dep.orgMonthlyBudgetUsd)
    : Accounted dep (w.obtain ⟨(stages i).orgId, seen.month, cost⟩)
        (Function.update stages i { stages i with owed := some ⟨seen.month, cost⟩ }) := by
  have mine : (stages i).seen.isSome = true := by rw [goesBy]; rfl
  have balanced := (h.consistent i).balanced mine
  have inside : ∀ j, (Function.update stages i
      { stages i with owed := some ⟨seen.month, cost⟩ } j).inside = (stages j).inside := by
    intro j
    by_cases same : j = i
    · subst same
      rw [Function.update_self]
      rfl
    · rw [Function.update_of_ne same]
  constructor
  · intro j k orgId first second
    rw [inside] at first second
    exact h.single j k orgId first second
  · intro orgId outside month
    have outside : ∀ j, (stages j).inside orgId = false := fun j => inside j ▸ outside j
    have other : (stages i).orgId ≠ orgId := by
      rintro rfl
      have there := outside i
      simp [GuardStage.inside, mine] at there
    rw [World.obtained_obtain, if_neg (fun this => other this.1), add_zero]
    exact h.settled orgId outside month
  · intro j
    by_cases same : j = i
    · subst same
      rw [Function.update_self]
      refine ⟨fun unseen => ?_, fun _ month => ?_, fun _ _ owing => (by cases owing)⟩
      · rw [goesBy] at unseen
        cases unseen
      · rw [World.obtained_obtain, balanced month]
        simp [GuardStage.debt, nothing]
    · rw [Function.update_of_ne same]
      refine (h.consistent j).of_same (fun theirs month => ?_) (fun _ _ => rfl)
      have other := h.other same mine theirs
      rw [World.obtained_obtain, if_neg (fun this => other this.1.symm), add_zero]
  · intro orgId month
    rw [World.obtained_obtain]
    split
    · rename_i this
      obtain ⟨rfl, rfl⟩ := this
      rw [balanced, (h.consistent i).current seen goesBy nothing]
      simpa [GuardStage.debt, nothing] using affordable
    · rw [add_zero]
      exact h.within orgId month

/-- A call leaves when what was obtained of its organisation is recorded. -/
theorem Accounted.leave (h : Accounted dep w stages)
    (obtained : ∀ orgId month, w'.obtained orgId month = w.obtained orgId month)
    (recorded : ∀ orgId month, (stages i).orgId ≠ orgId →
      w'.recorded orgId month = w.recorded orgId month)
    (mine : (stages i).seen.isSome = true)
    (paid : ∀ month, w'.obtained (stages i).orgId month = w'.recorded (stages i).orgId month)
    : Accounted dep w' (Function.update stages i { stages i with seen := none, owed := none }) := by
  have theirs : ∀ j orgId,
      (Function.update stages i { stages i with seen := none, owed := none } j).inside orgId
        = true →
      (stages j).inside orgId = true := by
    intro j orgId inside
    rcases inside_update inside with ⟨-, nothing⟩ | ⟨-, theirs⟩
    · simp at nothing
    · exact theirs
  constructor
  · exact fun j k orgId first second =>
      h.single j k orgId (theirs j orgId first) (theirs k orgId second)
  · intro orgId outside month
    by_cases same : (stages i).orgId = orgId
    · subst same
      exact paid month
    · rw [obtained, recorded orgId month same]
      exact h.settled orgId (outside_before same outside) month
  · intro j
    by_cases same : j = i
    · subst same
      rw [Function.update_self]
      exact ⟨fun _ => rfl, fun inside => (by cases inside), fun _ goesBy => (by cases goesBy)⟩
    · rw [Function.update_of_ne same]
      exact (h.consistent j).of_same (fun _ => obtained _)
        (fun there month => recorded _ month (h.other same mine there).symm)
  · intro orgId month
    rw [obtained]
    exact h.within orgId month

theorem Accounted.record (h : Accounted dep w stages) {owed : Owed}
    (owing : (stages i).owed = some owed)
    : Accounted dep (w.record (stages i).orgId owed.month owed.cost)
        (Function.update stages i { stages i with seen := none, owed := none }) := by
  have mine : (stages i).seen.isSome = true := by
    rw [Option.isSome_iff_ne_none]
    intro unseen
    rw [(h.consistent i).unseen unseen] at owing
    cases owing
  refine h.leave (fun _ _ => rfl) (fun orgId month other => ?_) mine fun month => ?_
  · rw [World.recorded_record, if_neg (fun this => other this.1.symm), add_zero]
  · rw [World.obtained_record, World.recorded_record, (h.consistent i).balanced mine month]
    simp [GuardStage.debt, owing, eq_comm]

/-- A call that ends with nothing left to record leaves. -/
theorem Accounted.ended (h : Accounted dep w stages) (nothing : (stages i).owed = none)
    : Accounted dep w (Function.update stages i { stages i with seen := none }) := by
  have same : { stages i with seen := none }
      = { stages i with seen := none, owed := (none : Option Owed) } := by
    rw [← nothing]
  cases seen : (stages i).seen with
  | none =>
      rw [← seen]
      exact (Function.update_eq_self i stages).symm ▸ h
  | some spend =>
      have mine : (stages i).seen.isSome = true := by rw [seen]; rfl
      rw [same]
      refine h.leave (fun _ _ => rfl) (fun _ _ _ => rfl) mine fun month => ?_
      rw [(h.consistent i).balanced mine month]
      simp [GuardStage.debt, nothing]

theorem Accounted.moved (h : Accounted dep w stages) (moves : Moves dep w w' stages i stage')
    : Accounted dep w' (Function.update stages i stage') := by
  cases moves with
  | quiet world same =>
      rw [world, same, Function.update_eq_self]
      exact h
  | enters seen alone nothing read world updated =>
      exact world ▸ updated ▸ h.enter alone nothing read
  | obtains seen cost goesBy nothing affordable world updated =>
      exact world ▸ updated ▸ h.obtain goesBy nothing affordable
  | records owed owing world updated => exact world ▸ updated ▸ h.record owing

end

theorem Accounted.step {x : Choice} (governed : Governed dep requests c)
    (h : Accounted dep c.world (guardStage dep requests c))
    (careful : Careful dep requests c i x) (stepped : c.step guardSemantics i x = some c')
    : Accounted dep c'.world (guardStage dep requests c') := by
  have moved := h.moved (moves_of_step governed careful stepped)
  obtain ⟨op, reply, live, -, -, -, -, others, governed'⟩ := governed.step_cases stepped
  have same : ∀ j, j ≠ i → guardStage dep requests c' j = guardStage dep requests c j := by
    intro j different
    obtain ⟨phase, alive, -⟩ := others j different
    rw [guardStage, guardStage, guardPhase, phase, alive]
  have updated : guardStage dep requests c' = Function.update (guardStage dep requests c) i
      (guardStage dep requests c' i) :=
    Function.eq_update_iff.mpr ⟨rfl, same⟩
  rw [updated]
  cases alive : c'.live i with
  | true => rwa [guardStage_of_live alive]
  | false =>
      have once : Config.Reaches guardSemantics Config.anyStep c c' :=
        .single ⟨i, x, trivial, stepped⟩
      have bound : i < c'.threads.length :=
        (Config.length_threads_of_reaches once).symm ▸ Config.lt_of_live live
      have nothing : (guardPhase dep requests c' i).owed = none := by
        rcases Config.ended_cases bound alive with ⟨value, finished⟩ | ⟨error, failed⟩
        · exact governed'.value finished
        · exact governed'.error failed
      have left := moved.ended (i := i) (by rw [Function.update_self]; exact nothing)
      rw [Function.update_idem, Function.update_self] at left
      rw [guardStage, alive]
      exact left

/-- In a run of careful steps, from a store that is settled and within the budget, no organisation
obtains more in a month than the budget. Witness: the invariant `Accounted`, by induction on the
run.
-/
theorem withinBudget (dep : Deployment) (requests : List GuardedChatParams) (world : World)
    (c : GuardConfig) (settled : Settled world) (within : WithinBudget dep world)
    (reached : Config.Reaches guardSemantics (Careful dep requests)
      (guardConfig dep requests world) c)
    : WithinBudget dep c.world := by
  have unseen : ∀ i, (guardStage dep requests (guardConfig dep requests world) i).seen = none
      ∧ (guardStage dep requests (guardConfig dep requests world) i).owed = none := by
    intro i
    have start : guardPhase dep requests (guardConfig dep requests world) i
        = guardStart requests i := phase_initial _
    rw [guardStage, start]
    split <;> exact ⟨rfl, rfl⟩
  have base : Accounted dep world (guardStage dep requests (guardConfig dep requests world)) := by
    constructor
    · intro i j orgId inside
      simp [GuardStage.inside, (unseen i).1] at inside
    · exact fun orgId _ month => (settled orgId month).symm
    · intro i
      refine ⟨fun _ => (unseen i).2, fun seen => ?_, fun seen goesBy => ?_⟩
      · rw [(unseen i).1] at seen
        cases seen
      · rw [(unseen i).1] at goesBy
        cases goesBy
    · exact within
  exact (governed_guardConfig.invariant
    (J := fun c => Accounted dep c.world (guardStage dep requests c)) base
    (fun _ _ _ _ governed h careful stepped => h.step governed careful stepped) reached).2.within

-- Two calls of one dollar each

def sampleDeployment : Deployment where
  apiKey := "key"
  orgMonthlyBudgetUsd := 1
  maxTokensPerRequest := 2000
  failOpenMaxRetries := none
  failOpenEnabled := false
  DISALLOWED_PROMPT_PATTERNS := []
  toLowerCase := id
  numberText _ := "1"

def sampleParams : GuardedChatParams where
  orgId := "org"
  messages := [⟨"user", some "Summarise the document."⟩]
  model := some "gpt-4-turbo"

def sampleMonth : Month where
  year := 2026
  month := 4

def sampleChoice : Choice where
  outcome := .done
  month := sampleMonth
  completion :=
    { content := some "A summary."
      usage := some { prompt_tokens := 100000, completion_tokens := 0, total_tokens := 100000 }
      created := sampleMonth }

/-- The second call finds the budget spent. -/
theorem withinBudget_oneByOne
    : ∃ c, Config.Reaches guardSemantics (Careful sampleDeployment [sampleParams, sampleParams])
          (guardConfig sampleDeployment [sampleParams, sampleParams] {}) c
        ∧ (c.world.obtained "org" sampleMonth, c.error? 1)
          = (1, some (budgetExceeded sampleDeployment))
        ∧ WithinBudget sampleDeployment c.world := by
  have executed :
      ((guardConfig sampleDeployment [sampleParams, sampleParams] {}).run guardSemantics
          (Careful sampleDeployment [sampleParams, sampleParams])
          (List.replicate 7 (0, sampleChoice) ++ List.replicate 3 (1, sampleChoice))).map
        (fun c => (c.world.obtained "org" sampleMonth, c.error? 1))
          = some (1, some (budgetExceeded sampleDeployment)) := by
    decide +kernel
  obtain ⟨c, reached, ended⟩ := Config.reaches_of_run executed
  exact ⟨c, reached, ended, withinBudget sampleDeployment _ {} c (fun _ _ => rfl)
    (fun _ _ => by norm_num [World.obtained, sampleDeployment]) reached⟩

/-- Two calls at the same time read that nothing is spent. -/
theorem not_withinBudget_overlapping
    : ∃ c, Config.Reaches guardSemantics Config.anyStep
          (guardConfig sampleDeployment [sampleParams, sampleParams] {}) c
        ∧ ¬ WithinBudget sampleDeployment c.world := by
  have executed :
      ((guardConfig sampleDeployment [sampleParams, sampleParams] {}).run guardSemantics
          Config.anyStep
          (List.replicate 3 (0, sampleChoice) ++ List.replicate 7 (1, sampleChoice)
            ++ List.replicate 4 (0, sampleChoice))).map
        (fun c => c.world.obtained "org" sampleMonth) = some 2 := by
    decide +kernel
  obtain ⟨c, reached, obtained⟩ := Config.reaches_of_run executed
  refine ⟨c, reached, fun within => ?_⟩
  have bound := within "org" sampleMonth
  rw [obtained] at bound
  norm_num [sampleDeployment] at bound

end AcbuBackend.Ai
