import AcbuBackend.Conversion.UsdcConversionJob

/-! Conversions of a transaction and their rows in the reserve history.
The rows are written without the transaction they belong to. A transaction is reconciled with
its rows at the end of a run exactly where nothing was converted for it.
-/

namespace AcbuBackend.Conversion

open Effects AcbuBackend.Runtime Fintech
open Mint (TxId TransactionStatus)

variable {dep : Deployment}

/-- No delivery is under way. -/
def Idle (c : ConversionConfig) : Prop :=
  ∀ i < c.threads.length, c.live i = false

instance (c : ConversionConfig) : Decidable (Idle c) :=
  inferInstanceAs (Decidable (∀ i < c.threads.length, _))

/-- A transaction is converted into a currency at most once, and once the deliveries are over
each conversion has exactly one linked row.
-/
structure ExactlyOnce (c : ConversionConfig) (id : TxId) : Prop where
  once : ∀ currency, c.world.conversionsOf id currency ≤ 1
  recorded : Idle c →
    ∀ currency, c.world.rowsOf id currency = c.world.conversionsOf id currency

-- Rows without a transaction

/-- The calls of the job: a history row it writes names no transaction. -/
def ConversionOp.unlinked : ConversionOp → Bool
  | .createReserveHistory data => data.transactionId.isNone
  | _ => true

def unlinkedProtocol : Protocol conversionInterface Unit where
  next _ op _ := if op.unlinked then some () else none

/-- A program whose rows all name no transaction. -/
abbrev Unlinked {α : Type} (prog : Prog conversionInterface α) : Prop :=
  unlinkedProtocol.wp prog () (fun _ _ => True) (fun _ _ => True)

theorem unlinked_issue {op : ConversionOp} (h : op.unlinked = true) : Unlinked (issue op) := by
  have moved : ∀ reply, unlinkedProtocol.next () op reply = some () := fun _ => if_pos h
  exact Protocol.wp_await.mpr ⟨fun _ => ⟨(), moved _, trivial⟩, fun _ => ⟨(), moved _, trivial⟩⟩

theorem unlinked_bind {α β : Type} {prog : Prog conversionInterface α}
    {f : α → Prog conversionInterface β} (first : Unlinked prog)
    (rest : ∀ value, Unlinked (f value))
    : Unlinked (prog >>= f) := by
  rw [Unlinked, Protocol.wp_bind]
  exact Protocol.wp_mono first (fun value _ _ => rest value) (fun _ _ _ => trivial)

theorem unlinked_catchWith {α : Type} {body : Prog conversionInterface α}
    {handler : JsError → Prog conversionInterface α} (first : Unlinked body)
    (rest : ∀ error, Unlinked (handler error))
    : Unlinked (body.catchWith handler) := by
  rw [Unlinked, Protocol.wp_catchWith]
  exact Protocol.wp_mono first (fun _ _ _ => trivial) (fun error _ _ => rest error)

theorem unlinked_done {α : Type} {value : α} : Unlinked (.done value) := trivial

theorem unlinked_processUsdcConversion {payload : Message}
    : Unlinked (processUsdcConversion dep payload) := by
  have calls := @only_processUsdcConversion dep (fun op => op.unlinked = true) payload (by
    intro op processes
    cases op <;> first | exact processes | rfl)
  have similar := @Protocol.wp_of_simulation _ _ _ _ _ _ _ _ unlinkedProtocol (fun _ _ => True)
    (fun _ _ _ _ _ _ moved => ⟨(), if_pos (Protocol.only_next.mp moved), trivial⟩) _
    () calls trivial
  exact Protocol.wp_mono similar (fun _ _ _ => trivial) (fun _ _ _ => trivial)

theorem unlinked_handleFailure {msg : Message} {claimed : Option TxId}
    : Unlinked (handleFailure msg claimed) := by
  have given : Unlinked
      (if MAX_RETRIES ≤ msg.retries then issue (.nack msg)
      else do
        issue (.sendToQueue { msg with retries := msg.retries + 1 })
        issue (.ack msg)) := by
    split
    · exact unlinked_issue rfl
    · exact unlinked_bind (unlinked_issue rfl) (fun _ => unlinked_issue rfl)
  cases claimed with
  | none => exact given
  | some id =>
      refine unlinked_bind (unlinked_catchWith ?_ (fun _ => unlinked_done)) (fun _ => given)
      exact unlinked_bind (unlinked_issue rfl) (fun _ => unlinked_done)

theorem unlinked_convertMessage {msg : Message} {claimed : Option TxId}
    : Unlinked (convertMessage dep msg claimed) :=
  unlinked_catchWith (unlinked_bind unlinked_processUsdcConversion fun _ => unlinked_issue rfl)
    (fun _ => unlinked_handleFailure)

theorem unlinked_usdcConversionConsumer : Unlinked (usdcConversionConsumer dep) := by
  refine unlinked_bind (unlinked_issue rfl) fun msg => ?_
  split
  · exact unlinked_convertMessage
  · rename_i id _
    have claim : Unlinked (Prog.catchWith
        (do
          let count ← issue (.claimTransaction id)
          return some (count = 1 : Bool))
        (fun _ => do
          handleFailure msg none
          return none)) := by
      refine unlinked_catchWith (unlinked_bind (unlinked_issue rfl) fun _ => unlinked_done) ?_
      exact fun _ => unlinked_bind unlinked_handleFailure (fun _ => unlinked_done)
    refine unlinked_bind claim fun claimed => ?_
    match claimed with
    | none => trivial
    | some true => exact unlinked_convertMessage
    | some false => exact unlinked_catchWith (unlinked_issue rfl) (fun _ => unlinked_handleFailure)

-- What a call does to the conversions and the history

/-- The provider and the conversion a call asks for, for a transaction. -/
def ConversionOp.conversion? : ConversionOp → Option (Option TxId × String)
  | .fintech id (.convertCurrency _ _ _ toCurrency) => some (id, toCurrency)
  | _ => none

theorem converted_of_act {i : Nat} {op : ConversionOp} {x : Choice} {w w' : World}
    {reply : conversionInterface.Reply op}
    (h : conversionSemantics.act i op x w = some (reply, w'))
    : w'.converted
      = (if x.outcome.isFailed then [] else op.conversion?.toList) ++ w.converted := by
  obtain ⟨-, answered⟩ := Environment.act_eq_some h
  have effective : (effect x w op).2.converted = op.conversion?.toList ++ w.converted := by
    cases op with
    | fintech id call => cases call <;> rfl
    | claimTransaction id | releaseClaim id =>
        simp only [effect, World.moveStatus]
        split
        · rfl
        · split <;> rfl
    | completeTransaction id _ =>
        simp only [effect, World.complete]
        split <;> rfl
    | _ => rfl
  change x.outcome.answer _ _ = _ at answered
  cases outcome : x.outcome with
  | failed _ =>
      rw [outcome] at answered
      exact (congrArg World.converted (congrArg Prod.snd answered)).symm
  | done | lost _ =>
      rw [outcome] at answered
      exact (congrArg World.converted (congrArg Prod.snd answered)).symm.trans effective

theorem history_of_act {i : Nat} {op : ConversionOp} {x : Choice} {w w' : World}
    {reply : conversionInterface.Reply op}
    (h : conversionSemantics.act i op x w = some (reply, w'))
    : w'.history = w.history
      ∨ ∃ data, op = .createReserveHistory data ∧ w' = w.createHistory data := by
  obtain ⟨-, answered⟩ := Environment.act_eq_some h
  rcases Outcome.answer_world answered with rfl | rfl
  · exact .inl rfl
  · cases op with
    | createReserveHistory data => exact .inr ⟨data, rfl, rfl⟩
    | fintech id call =>
        refine .inl ?_
        cases call <;> rfl
    | claimTransaction id | releaseClaim id =>
        refine .inl ?_
        simp only [conversionEnvironment, effect, World.moveStatus]
        split
        · rfl
        · split <;> rfl
    | completeTransaction id _ =>
        refine .inl ?_
        simp only [conversionEnvironment, effect, World.complete]
        split <;> rfl
    | _ => exact .inl rfl

-- Runs

/-- No conversion takes effect for the transaction. -/
def Unconverted (id : TxId) (c : ConversionConfig) (i : Nat) (x : Choice) : Prop :=
  ∀ conversion, (c.pending? i).bind ConversionOp.conversion? = some conversion →
    conversion.1 = some id → x.outcome.isFailed = true

instance (id : TxId) (c : ConversionConfig) (i : Nat) (x : Choice)
    : Decidable (Unconverted id c i x) :=
  match h : (c.pending? i).bind ConversionOp.conversion? with
  | none => .isTrue (fun _ asked => nomatch h.symm.trans asked)
  | some conversion =>
      decidable_of_iff (conversion.1 = some id → x.outcome.isFailed = true)
        ⟨fun allowed _ asked => Option.some.inj (h.symm.trans asked) ▸ allowed,
          fun allowed => allowed conversion h⟩

theorem rowsOf_eq_zero {ok : ConversionConfig → Nat → Choice → Prop} {deliveries : Nat}
    {transactions : AList (fun _ : TxId => Transaction)} {queue : List Message}
    {c : ConversionConfig}
    (reached : Config.Reaches conversionSemantics ok
      (initialConfig dep deliveries transactions queue) c)
    (id : TxId) (currency : String)
    : c.world.rowsOf id currency = 0 := by
  have start : unlinkedProtocol.Governs (fun _ => ()) (fun _ _ _ => True) (fun _ _ _ => True)
      (initialConfig dep deliveries transactions queue) := by
    apply Protocol.governs_initial
    intro i prog found
    obtain rfl := List.eq_of_mem_replicate (List.mem_of_getElem? found)
    exact unlinked_usdcConversionConsumer
  have unlinked : ∀ row ∈ c.world.history, row.transactionId = none := by
    refine (start.invariant
      (J := fun c => ∀ row ∈ c.world.history, row.transactionId = none) ?_ ?_ reached).2
    · intro row absent
      cases absent
    · intro c c' i x governed kept _ stepped
      obtain ⟨op, reply, -, -, answered, moved, -⟩ := governed.step_cases stepped
      rcases history_of_act answered with same | ⟨data, rfl, written⟩
      · rw [same]
        exact kept
      · have unnamed : data.transactionId = none := by
          simp only [unlinkedProtocol] at moved
          split at moved
          · rename_i none
            exact Option.isNone_iff_eq_none.mp none
          · cases moved
        rw [written]
        intro row member
        rcases List.mem_cons.mp member with rfl | older
        · exact unnamed
        · exact kept row older
  apply List.countP_eq_zero.mpr
  intro row member
  simp [unlinked row member]

theorem conversionsOf_of_step {c c' : ConversionConfig} {i : Nat} {x : Choice}
    (stepped : c.step conversionSemantics i x = some c') (id : TxId)
    : Unconverted id c i x
        ∧ (∀ currency, c'.world.conversionsOf id currency = c.world.conversionsOf id currency)
      ∨ ¬ Unconverted id c i x
        ∧ ∃ currency,
            c'.world.conversionsOf id currency = c.world.conversionsOf id currency + 1 := by
  obtain ⟨op, next, past, reply, world, found, answered, rfl⟩ := Config.step_cases stepped
  have pending : c.pending? i = some op := by simp [Config.pending?, found]
  have converted := converted_of_act answered
  by_cases unconverted : Unconverted id c i x
  · refine .inl ⟨unconverted, fun currency => ?_⟩
    simp only [World.conversionsOf, converted, List.count_append]
    split
    · simp
    · rename_i took
      rcases asked : op.conversion? with _ | conversion
      · simp
      · have other : conversion.1 ≠ some id := by
          intro mine
          refine took (unconverted conversion ?_ mine)
          rw [pending]
          exact asked
        have different : conversion ≠ (some id, currency) := fun same =>
          other (congrArg Prod.fst same)
        simp [different]
  · refine .inr ⟨unconverted, ?_⟩
    simp only [Unconverted, pending, not_forall] at unconverted
    obtain ⟨⟨owner, currency⟩, asked, mine, took⟩ := unconverted
    obtain rfl : owner = some id := mine
    have asked : op.conversion? = some (some id, currency) := asked
    exact ⟨currency, by simp [World.conversionsOf, converted, took, asked, Nat.add_comm]⟩

theorem conversionsOf_eq_zero_iff {deliveries : Nat}
    {transactions : AList (fun _ : TxId => Transaction)} {queue : List Message}
    {c : ConversionConfig} {id : TxId}
    (reached : Config.Reaches conversionSemantics Config.anyStep
      (initialConfig dep deliveries transactions queue) c)
    : (∀ currency, c.world.conversionsOf id currency = 0)
      ↔ Config.Reaches conversionSemantics (Unconverted id)
          (initialConfig dep deliveries transactions queue) c := by
  constructor
  · intro none
    induction reached with
    | refl => exact .refl
    | tail _ last ih =>
        obtain ⟨i, x, -, stepped⟩ := last
        rcases conversionsOf_of_step stepped id with ⟨unconverted, same⟩ | ⟨-, currency, added⟩
        · exact (ih fun currency => (same currency).symm.trans (none currency)).tail
            ⟨i, x, unconverted, stepped⟩
        · rw [none currency] at added
          cases added
  · clear reached
    intro unconverted currency
    induction unconverted with
    | refl => rfl
    | tail _ last ih =>
        obtain ⟨i, x, allowed, stepped⟩ := last
        rcases conversionsOf_of_step stepped id with ⟨-, same⟩ | ⟨refused, -⟩
        · exact (same currency).trans ih
        · exact absurd allowed refused

/-- A transaction is reconciled with its rows in every run that converts nothing for it, and
at the end of no other.
-/
theorem exactlyOnce_iff (dep : Deployment) (deliveries : Nat)
    (transactions : AList (fun _ : TxId => Transaction)) (queue : List Message)
    (c : ConversionConfig) (id : TxId)
    (reached : Config.Reaches conversionSemantics Config.anyStep
      (initialConfig dep deliveries transactions queue) c)
    : (Config.Reaches conversionSemantics (Unconverted id)
          (initialConfig dep deliveries transactions queue) c →
        ExactlyOnce c id)
      ∧ (Idle c → ExactlyOnce c id →
        Config.Reaches conversionSemantics (Unconverted id)
          (initialConfig dep deliveries transactions queue) c) := by
  constructor
  · intro unconverted
    have none := (conversionsOf_eq_zero_iff reached).mpr unconverted
    constructor
    · intro currency
      rw [none]
      exact Nat.zero_le 1
    · intro _ currency
      rw [none, rowsOf_eq_zero reached]
  · intro idle recorded
    refine (conversionsOf_eq_zero_iff reached).mp fun currency => ?_
    rw [← recorded.recorded idle, rowsOf_eq_zero reached]

-- A conversion of 10 USDC into a basket of one currency

def sampleDeployment : Deployment where
  router := fintechRouter
  parseDecimal := fun s => if s = "10" then some (.finite 10) else none

def sampleMessage (retries : Nat) : Message where
  usdcAmount := "10"
  recipient := "GRECIPIENT"
  txHash := "hash"
  transactionId := some "t1"
  retries := retries

def sampleChoice (retries : Nat) (outcome : Outcome JsError := .done) : Choice where
  outcome := outcome
  message := sampleMessage retries
  basket := [{ currency := "NGN", weight := 100 }]

def connectionLost : JsError := .error "connection lost"

def sampleConfig (deliveries : Nat) : ConversionConfig :=
  initialConfig sampleDeployment deliveries (AList.singleton "t1" { status := .pending })
    [sampleMessage 0]

/-- How often the transaction was converted into naira, its linked rows, and whether the
deliveries are over.
-/
def nairaRead (c : ConversionConfig) : Nat × Nat × Bool :=
  (c.world.conversionsOf "t1" "NGN", c.world.rowsOf "t1" "NGN", decide (Idle c))

/-- A transaction whose conversion fails without an effect is completed without a row. -/
theorem exactlyOnce_iff_failed
    : ∃ c, Config.Reaches conversionSemantics Config.anyStep (sampleConfig 1) c
        ∧ (c.world.transactions.lookup "t1").map (·.status) = some .completed
        ∧ ExactlyOnce c "t1" := by
  have executed :
      ((sampleConfig 1).run conversionSemantics (Unconverted "t1")
        (List.replicate 4 (0, sampleChoice 0) ++ [(0, sampleChoice 0 (.failed connectionLost))]
          ++ List.replicate 2 (0, sampleChoice 0))).map
        (fun c => (c.world.transactions.lookup "t1").map (·.status)) = some (some .completed) := by
    decide +kernel
  obtain ⟨c, unconverted, completed⟩ := Config.reaches_of_run executed
  have reached : Config.Reaches conversionSemantics Config.anyStep (sampleConfig 1) c :=
    unconverted.mono (fun _ _ _ _ => trivial)
  exact ⟨c, reached, completed,
    (exactlyOnce_iff _ _ _ _ c "t1" reached).1 unconverted⟩

/-- A delivery in which every call succeeds leaves its conversion without a linked row. -/
theorem not_exactlyOnce_healthy
    : ∃ c, Config.Reaches conversionSemantics Config.anyStep (sampleConfig 1) c
        ∧ ¬ ExactlyOnce c "t1" := by
  have executed :
      ((sampleConfig 1).run conversionSemantics Config.anyStep
        (List.replicate 8 (0, sampleChoice 0))).map nairaRead = some (1, 0, true) := by
    decide +kernel
  obtain ⟨c, reached, read⟩ := Config.reaches_of_run executed
  obtain ⟨converted, rest⟩ := Prod.mk.inj read
  obtain ⟨rows, idle⟩ := Prod.mk.inj rest
  refine ⟨c, reached, fun exactlyOnce => ?_⟩
  have balanced := exactlyOnce.recorded (of_decide_eq_true idle) "NGN"
  rw [rows, converted] at balanced
  cases balanced

end AcbuBackend.Conversion
