import AcbuBackend.Effects.Outcome
import AcbuBackend.Runtime.Text

/-! The listener of contract effects.
A poll reads the effects after the cursor of a contract, runs the handlers of each, and moves the
cursor past it. What fails is captured in a queue of failures. The maps of the listener are part of
the world.
-/

namespace AcbuBackend.Stellar

open Effects AcbuBackend.Runtime

-- Effects and events

/-- A number field as Horizon writes it. -/
inductive LedgerField
  | absent
  | number (value : JsNumber)
  | text (value : String)
  | other
deriving DecidableEq

/-- What calling a `pagingToken` function does. -/
inductive PagingToken
  | absent
  | returns (token : String)
  | throws (message : String)
deriving DecidableEq

/-- The fields of an effect that are read, where they are of the kind that is expected, and the text
of the whole.
-/
structure EffectFields where
  json : String
  contract : Option String := none
  type : Option String := none
  ledger : LedgerField := .absent
  created_at : Option String := none
  paging_token : Option String := none
  pagingToken : PagingToken := .absent
deriving DecidableEq

/-- A record of a page: an object, or none, of which reading a field throws where it is nullish. -/
inductive RawContractEffect
  | notAnObject (nullish : Bool)
  | object (fields : EffectFields)
deriving DecidableEq

def CONTRACT_EVENT_PAYLOAD_VERSION : Nat := 1

/-- An event; its time where it was not the time of its dispatch. -/
structure ContractEvent where
  contractId : String
  type : String
  version : Nat
  data : RawContractEffect
  ledger : ℚ
  timestamp : Option ℚ
deriving DecidableEq

def nonBlank (text : Option String) : Option String :=
  text.filter (fun text => jsLength (jsTrim text) ≠ 0)

/-- `ledger`, an integer where it is written as a text, 0 where it is not finite. -/
def ledgerOf : LedgerField → ℚ
  | .number (.finite value) => value
  | .text value => ((jsParseInt value).getD 0 : Int)
  | _ => 0

/-- `new Date(created_at).getTime()`, where that is finite. -/
def timestampOf (dateParse : String → JsNumber) (created_at : Option String) : Option ℚ :=
  match created_at.map dateParse with
  | some (.finite time) => some time
  | _ => none

def parseEffect (dateParse : String → JsNumber) (registeredContractId : String)
    : RawContractEffect → Except String ContractEvent
  | .notAnObject _ => .error "Effect payload must be an object"
  | .object fields =>
      match nonBlank fields.type with
      | none => .error "Effect payload missing type"
      | some type =>
          let contractId := (nonBlank fields.contract).getD registeredContractId
          if contractId = "" then .error "Effect payload missing contract id"
          else .ok {
            contractId
            type
            version := CONTRACT_EVENT_PAYLOAD_VERSION
            data := .object fields
            ledger := ledgerOf fields.ledger
            timestamp := timestampOf dateParse fields.created_at }

/-- The token after which the next page starts, unless reading it throws. -/
def cursorOf : RawContractEffect → Except String (Option String)
  | .notAnObject nullish =>
      if nullish then .error "Cannot read properties of null (reading 'paging_token')" else .ok none
  | .object fields =>
      match fields.paging_token, fields.pagingToken with
      | some token, _ => .ok (some token)
      | none, .returns token => .ok (some token)
      | none, .throws message => .error message
      | none, .absent => .ok none

-- Handlers and failures

/-- A registered handler: its function, and the contract and event types that it is wrapped for. -/
structure Handler where
  function : String
  scope : Option (String × List String) := none
deriving DecidableEq

def Handler.applies (handler : Handler) (event : ContractEvent) : Bool :=
  handler.scope.all (fun (contractId, eventTypes) =>
    event.contractId = contractId && eventTypes.contains event.type)

/-- What is captured: an effect of a contract that is no event, or the failure of a handler of one.
-/
inductive Failure
  | parse (registeredContractId : String) (effect : RawContractEffect) (error : String)
  | handler (handler : Handler) (event : ContractEvent) (error : String)

/-- The calls of the listener, those of its own maps among them. -/
inductive ListenerOp
  | getCursor (contractId : String)
  | setCursor (contractId cursor : String)
  | fetchEffects (contractId : String) (cursor : Option String) (limit : Nat)
  | handle (handler : Handler) (event : ContractEvent)
  | connectRabbitMQ
  | assertQueue
  | sendToQueue (failure : Failure)
  | logError (failure : Failure)

abbrev ListenerOp.Ret : ListenerOp → Type
  | .getCursor _ => Option String
  | .fetchEffects .. => List RawContractEffect
  | _ => Unit

/-- Errors are their messages. -/
abbrev listenerInterface : Interface where
  Op := ListenerOp
  Ret := ListenerOp.Ret
  Err := String

abbrev issue (op : ListenerOp) : Prog listenerInterface op.Ret :=
  Prog.await (I := listenerInterface) op

-- The listener

def FETCH_ATTEMPTS : Nat := 3

def HANDLER_ATTEMPTS : Nat := 3

def RECONNECT_MAX_ATTEMPTS : Nat := 5

/-- The event handlers of a listener, by event type, and the standard function it calls. -/
structure Listener where
  eventHandlers : String → List Handler
  dateParse : String → JsNumber

/-- `withRetries`, with one attempt and `retries` more. -/
def withRetries {α : Type} (body : Prog listenerInterface α) : Nat → Prog listenerInterface α
  | 0 => body
  | retries + 1 => body.catchWith (fun _ => withRetries body retries)

/-- `captureFailure`. Logging does not throw. -/
def captureFailure (failure : Failure) : Prog listenerInterface Unit :=
  Prog.catchWith (do
    issue .connectRabbitMQ
    issue .assertQueue
    issue (.sendToQueue failure))
    (fun _ => (issue (.logError failure)).swallow)

def runHandler (handler : Handler) (event : ContractEvent) : Prog listenerInterface Unit :=
  if handler.applies event then issue (.handle handler event) else return ()

def invokeHandlerWithRetry (handler : Handler) (event : ContractEvent)
    : Prog listenerInterface Unit :=
  (withRetries (runHandler handler event) (HANDLER_ATTEMPTS - 1)).catchWith (fun error =>
    captureFailure (.handler handler event error))

def invokeHandlers (event : ContractEvent) : List Handler → Prog listenerInterface Unit
  | [] => return ()
  | handler :: rest => do
      invokeHandlerWithRetry handler event
      invokeHandlers event rest

section

variable (listener : Listener)

/-- The handlers of an event: those of its type, and those of all types. -/
def handlersOf (event : ContractEvent) : List Handler :=
  listener.eventHandlers event.type ++ listener.eventHandlers "*"

def dispatchEvent (event : ContractEvent) : Prog listenerInterface Unit :=
  invokeHandlers event (handlersOf listener event)

def dispatchRawEffect (registeredContractId : String) (effect : RawContractEffect)
    : Prog listenerInterface Unit :=
  Prog.catchWith (do
    let event ← Prog.fromExcept (I := listenerInterface)
      (parseEffect listener.dateParse registeredContractId effect)
    dispatchEvent listener event)
    (fun error => captureFailure (.parse registeredContractId effect error))

def updateCursor (contractId : String) (effect : RawContractEffect)
    : Prog listenerInterface Unit := do
  let cursor ← Prog.fromExcept (I := listenerInterface) (cursorOf effect)
  match cursor.filter (fun cursor => cursor ≠ "") with
  | none => return ()
  | some cursor => issue (.setCursor contractId cursor)

def fetchPage (contractId : String) (limit : Nat)
    : Prog listenerInterface (List RawContractEffect) := do
  let cursor ← issue (.getCursor contractId)
  issue (.fetchEffects contractId (cursor.filter (fun cursor => cursor ≠ "")) limit)

def processRecords (contractId : String) : List RawContractEffect → Prog listenerInterface Unit
  | [] => return ()
  | effect :: rest => do
      dispatchRawEffect listener contractId effect
      updateCursor contractId effect
      processRecords contractId rest

/-- `reconnectServer`, with so many attempts. -/
def reconnectServer (contractId : String) : Nat → Prog listenerInterface Unit
  | 0 => return ()
  | attempts + 1 =>
      Prog.catchWith (do
        let _ ← fetchPage contractId 1
        return ())
        (fun _ => reconnectServer contractId attempts)

def pollContractOnce (contractId : String) : Prog listenerInterface Bool :=
  Prog.catchWith (do
    let records ← withRetries (fetchPage contractId 200) (FETCH_ATTEMPTS - 1)
    processRecords listener contractId records
    return records.length ≠ 0)
    (fun _ => do
      reconnectServer contractId RECONNECT_MAX_ATTEMPTS
      return false)

def pollOnce : List String → Prog listenerInterface Bool
  | [] => return false
  | contractId :: rest => do
      let processed ← pollContractOnce listener contractId
      let processedRest ← pollOnce rest
      return processed || processedRest

/-- So many rounds of `listen`, over the registered contracts. -/
def listen (contractIds : List String) : Nat → Prog listenerInterface Unit
  | 0 => return ()
  | rounds + 1 => do
      let _ ← pollOnce listener contractIds
      listen contractIds rounds

end

end AcbuBackend.Stellar
