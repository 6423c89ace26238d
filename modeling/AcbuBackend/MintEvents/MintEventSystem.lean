import AcbuBackend.Conversion.UsdcConversionJob
import AcbuBackend.Json.Text
import AcbuBackend.Mint.MintSteps
import AcbuBackend.Runtime.NumberText

/-! The listener for mint effects of the minting contract, and the mint handlers, the listener and
the conversion consumer over one table of transactions and one queue.
An effect is forwarded to the conversion queue when its transaction hash is known on chain and
to a row that is still open.
-/

namespace AcbuBackend.MintEvents

open Effects Effects.Prog AcbuBackend.Runtime
open Conversion (Message ConversionOp conversionInterface)
open Json (Value)
open Mint (TxId TransactionStatus MintOp mintInterface MintRequest)

-- What an effect carries

/-- A property that `??` does not pass over. -/
def present? (data : Value) (key : String) : Option Value :=
  match data.field? key with
  | some .null | none => none
  | some value => some value

def parseAmountFromEffect (numberText : ℚ → String) (data : Value) : Option String :=
  match (present? data "amount").or (data.field? "value") with
  | some (.string amount) => some amount
  | some (.number amount) => some (numberText amount)
  | _ => none

def parseRecipientFromEffect (data : Value) : Option String :=
  match ((present? data "account").or (present? data "recipient")).or (data.field? "to") with
  | some (.string account) => if jsLength account = 56 then some account else none
  | _ => none

/-- `!Number.isFinite(amountNum) || amountNum <= 0` does not hold. -/
def isPositiveAmount (amount : String) : Bool :=
  match parseFloat amount with
  | .finite value => 0 < value
  | _ => false

-- Its transaction hash

/-- `[a-f0-9]` without regard to case. -/
def isHexChar (c : Char) : Bool :=
  (radixDigit? 16 c).isSome

def isValidStellarTxHash (hash : String) : Bool :=
  hash.length = 64 && hash.toList.all isHexChar

/-- `data._links?.[link]?.href`, where it is a string. -/
def linkHref? (data : Value) (link : String) : Option String :=
  match ((data.field? "_links").bind (·.field? link)).bind (·.field? "href") with
  | some (.string href) => some href
  | _ => none

/-- The hash behind the last slash of a link, if it ends in one. -/
def hashAtEnd? (href : String) : Option String :=
  let hash := String.ofList (href.toList.drop (href.length - 64))
  if isValidStellarTxHash hash ∧ href.toList[href.length - 65]? = some '/' ∧ 65 ≤ href.length
  then some hash
  else none

def extractTxHashFromEffect (data : Value) : Option String :=
  let raw :=
    ((present? data "transaction_hash").or (present? data "transaction_id")).or
      (data.field? "tx_hash")
  let direct : Option String :=
    match raw with
    | some (.string hash) => if isValidStellarTxHash hash then some hash else none
    | _ => none
  direct.or ((linkHref? data "transaction").bind hashAtEnd?)

/-- `getOperationIdFromEffectData`: the last part of the link, if it is a number. -/
def getOperationIdFromEffectData (data : Value) : Option String :=
  let id := (linkHref? data "operation").bind (fun href =>
    ((href.toList.splitOn '/').filter (fun part => part ≠ [])).getLast?)
  (id.filter (fun part => part.all isDigit)).map String.ofList

-- The handler

/-- The calls of the handler: to Horizon, to the table and to the broker. -/
inductive ListenerOp
  | operation (operationId : String)
  | getTransaction (txHash : String)
  | findTransaction (txHash : String)
  | connectRabbitMQ
  | assertQueueWithDLQ
  | sendToQueue (message : Message)

abbrev ListenerOp.Ret : ListenerOp → Type
  | .operation _ => Value
  | .findTransaction _ => Option TxId
  | .getTransaction _ | .connectRabbitMQ | .assertQueueWithDLQ | .sendToQueue _ => Unit

abbrev listenerInterface : Interface where
  Op := ListenerOp
  Ret := ListenerOp.Ret
  Err := JsError

/-- Issues a call of the handler. -/
abbrev request (op : ListenerOp) : Prog listenerInterface op.Ret :=
  Prog.await (I := listenerInterface) op

def resolveTxHashFromOperation (operationId : String) : Prog listenerInterface (Option String) :=
  catchWith
    (do
      let op ← request (.operation operationId)
      match op.field? "transaction_hash" with
      | some (.string hash) => return (if isValidStellarTxHash hash then some hash else none)
      | _ => return none)
    (fun _ => return none)

/-- `resolveTxHash`, with the hash of a verified result only. -/
def resolveTxHash (data : Value) : Prog listenerInterface (Option String) :=
  match extractTxHashFromEffect data with
  | some direct => return some direct
  | none =>
      match getOperationIdFromEffectData data with
      | some operationId => resolveTxHashFromOperation operationId
      | none => return none

def verifyTxHashOnChain (txHash : String) : Prog listenerInterface Bool :=
  if isValidStellarTxHash txHash then
    catchWith
      (do
        request (.getTransaction txHash)
        return true)
      (fun _ => return false)
  else return false

def enqueueUsdcConversion (payload : Message) : Prog listenerInterface Unit := do
  request .connectRabbitMQ
  request .assertQueueWithDLQ
  request (.sendToQueue payload)

/-- The part of the handler behind the checks of the hash. -/
def forwardMint (usdcAmount recipient txHash : String) : Prog listenerInterface Unit := do
  let transactionId ← request (.findTransaction txHash)
  match transactionId.filter (fun id => id ≠ "") with
  | none => return ()
  | some transactionId =>
      enqueueUsdcConversion { usdcAmount, recipient, txHash, transactionId := some transactionId }

/-- The handler `startMintEventListener` registers. -/
def mintEventHandler (numberText : ℚ → String) (data : Value) : Prog listenerInterface Unit :=
  match (parseAmountFromEffect numberText data).filter (fun amount => amount ≠ ""),
      parseRecipientFromEffect data with
  | some usdcAmount, some recipient =>
      if isPositiveAmount usdcAmount then do
        let resolved ← resolveTxHash data
        match resolved with
        | none => return ()
        | some txHash =>
            let onChainValid ← verifyTxHashOnChain txHash
            if onChainValid then forwardMint usdcAmount recipient txHash else return ()
      else return ()
  | _, _ => return ()

-- Tasks

/-- The calls of the three parts. -/
inductive SystemOp
  | mint (op : MintOp)
  | listener (op : ListenerOp)
  | conversion (op : ConversionOp)

abbrev SystemOp.Ret : SystemOp → Type
  | .mint op => op.Ret
  | .listener op => op.Ret
  | .conversion op => op.Ret

abbrev systemInterface : Interface where
  Op := SystemOp
  Ret := SystemOp.Ret
  Err := JsError

def mintCalls : Inclusion mintInterface systemInterface where
  op := .mint
  value := fun _ value => value
  error := id
  throws := id

def listenerCalls : Inclusion listenerInterface systemInterface where
  op := .listener
  value := fun _ value => value
  error := id
  throws := id

def conversionCalls : Inclusion conversionInterface systemInterface where
  op := .conversion
  value := fun _ value => value
  error := id
  throws := id

/-- What the parts take from their configurations. -/
structure Deployment where
  mint : Mint.Deployment
  conversion : Conversion.Deployment
  /-- `String(n)`. -/
  numberText : ℚ → String

/-- A request to mint, an effect the listener is handed, or a delivery to the consumer. -/
inductive Task
  | mint (request : MintRequest)
  | effect (data : Value)
  | delivery

def Task.program (dep : Deployment) : Task → Prog systemInterface Unit
  | .mint request => do
      let _ ← (request.program dep.mint).within mintCalls
      return ()
  | .effect data => (mintEventHandler dep.numberText data).within listenerCalls
  | .delivery => (Conversion.usdcConversionConsumer dep.conversion).within conversionCalls

-- What the calls do

/-- The world of the mint handlers and the queue, with the messages ever sent and the
transactions ever claimed.
-/
structure World where
  mint : Mint.World
  queue : List Message
  sent : List Message
  claimed : List TxId

/-- What the environment answers a call with. -/
structure Choice where
  outcome : Outcome JsError := .done
  mint : Mint.Choice := {}
  operation : Value := .null
  transactionId : Option TxId := none
  conversion : Conversion.Choice := {}

/-- `updateMany` of a status, in the table of the mint handlers. -/
def moveStatus (mint : Mint.World) (id : TxId) (current next : TransactionStatus)
    : Nat × Mint.World :=
  match mint.transactions.lookup id with
  | none => (0, mint)
  | some row =>
      if row.status = current then (1, mint.put id { row with status := next }) else (0, mint)

def World.claim (w : World) (id : TxId) : Nat × World :=
  let (count, mint) := moveStatus w.mint id .pending .processing
  (count, { w with mint, claimed := if count = 1 then id :: w.claimed else w.claimed })

def World.send (w : World) (message : Message) : World :=
  { w with queue := message :: w.queue, sent := message :: w.sent }

/-- The `where` of `findTransactionByBlockchainHash`. -/
def isOpenMint (txHash : String) (row : Mint.Transaction) : Bool :=
  row.blockchainTxHash = some txHash && (row.status = .pending || row.status = .processing)

def listenerEffect (x : Choice) (w : World) : (op : ListenerOp) → Except JsError op.Ret × World
  | .operation _ => (.ok x.operation, w)
  | .findTransaction _ => (.ok x.transactionId, w)
  | .sendToQueue message => (.ok (), w.send message)
  | .getTransaction _ | .connectRabbitMQ | .assertQueueWithDLQ => (.ok (), w)

/-- The calls of the consumer. Its reserve history is left out. -/
def conversionEffect (x : Choice) (w : World)
    : (op : ConversionOp) → Except JsError op.Ret × World
  | .receive => (.ok x.conversion.message, w)
  | .claimTransaction id => (.ok (w.claim id).1, (w.claim id).2)
  | .releaseClaim id =>
      (.ok (moveStatus w.mint id .processing .pending).1,
        { w with mint := (moveStatus w.mint id .processing .pending).2 })
  | .getCurrentBasket => (.ok x.conversion.basket, w)
  | .fintech _ (.getBalance ..) => (.ok x.conversion.balance, w)
  | .fintech _ (.convertCurrency ..) => (.ok x.conversion.conversion, w)
  | .fintech _ (.disburseFunds ..) => (.ok x.conversion.disbursement, w)
  | .createReserveHistory _ => (.ok (), w)
  | .completeTransaction id txHash =>
      let (reply, mint) :=
        w.mint.update id { status := .completed, blockchainTxHash := some txHash }
      (reply, { w with mint })
  | .sendToQueue message => (.ok (), w.send message)
  | .ack message | .nack message => (.ok (), { w with queue := w.queue.erase message })

def effect (x : Choice) (w : World) : (op : SystemOp) → Except JsError op.Ret × World
  | .mint op =>
      let (reply, mint) := Mint.effect x.mint w.mint op
      (reply, { w with mint })
  | .listener op => listenerEffect x w op
  | .conversion op => conversionEffect x w op

/-- A lookup finds a row that is asked for, and none only where there is none. A message is
delivered only while the broker holds it.
-/
def admissible (op : SystemOp) (x : Choice) (w : World) : Bool :=
  match op with
  | .mint op => Mint.admissible op { x.mint with outcome := x.outcome } w.mint
  | .listener (.findTransaction txHash) =>
      match x.transactionId with
      | some id => (w.mint.transactions.lookup id).any (isOpenMint txHash)
      | none => w.mint.transactions.entries.all (fun entry => !isOpenMint txHash entry.2)
  | .conversion .receive => x.outcome = .done ∧ x.conversion.message ∈ w.queue
  | _ => true

def systemEnvironment : Environment systemInterface World Choice where
  outcome := Choice.outcome
  effect := effect
  admissible := admissible

def systemSemantics : Semantics systemInterface World Choice :=
  systemEnvironment.semantics

abbrev SystemConfig := Config systemInterface Unit World

def initialConfig (dep : Deployment) (tasks : List Task)
    (transactions : AList (fun _ : TxId => Mint.Transaction)) (queue : List Message)
    : SystemConfig :=
  .initial { mint := .start transactions, queue, sent := [], claimed := [] }
    (tasks.map (Task.program dep))

end AcbuBackend.MintEvents
