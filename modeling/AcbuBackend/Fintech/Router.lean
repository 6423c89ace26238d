import AcbuBackend.Effects.Protocol
import AcbuBackend.Runtime.Errors
import Mathlib.Data.Rat.Defs

/-! The fintech providers and the router that picks one for a currency. -/

namespace AcbuBackend.Fintech

open Effects Effects.Prog AcbuBackend.Runtime

inductive FintechProviderId
  | flutterwave
  | paystack
  | mtn_momo
  | simulated
deriving DecidableEq

structure DisburseRecipient where
  accountNumber : String
  bankCode : String
  accountName : String

structure DisburseResult where
  transactionId : String
  status : String

structure ConvertCurrencyResult where
  amount : ℚ
  rate : ℚ

/-- The methods of `FintechProvider`, called on one of the providers. -/
inductive FintechOp
  | getBalance (provider : FintechProviderId) (currency : String)
  | convertCurrency (provider : FintechProviderId) (amount : ℚ)
      (fromCurrency toCurrency : String)
  | disburseFunds (provider : FintechProviderId) (amount : ℚ) (currency : String)
      (recipient : DisburseRecipient)

abbrev FintechOp.Ret : FintechOp → Type
  | .getBalance .. => ℚ
  | .convertCurrency .. => ConvertCurrencyResult
  | .disburseFunds .. => DisburseResult

abbrev fintechInterface : Interface where
  Op := FintechOp
  Ret := FintechOp.Ret
  Err := JsError

/-- Calls a provider. -/
abbrev request (op : FintechOp) : Prog fintechInterface op.Ret :=
  Prog.await (I := fintechInterface) op

/-- `FintechProviderRouter`: the configured providers of a currency, the registered ones, and
the class name of each.
-/
structure FintechProviderRouter where
  currencyProviders : String → Option (List FintechProviderId)
  registered : FintechProviderId → Bool
  className : FintechProviderId → String

namespace FintechProviderRouter

variable (router : FintechProviderRouter)

def providerIds (currency : String) : List FintechProviderId :=
  (router.currencyProviders currency).getD [.flutterwave]

/-- The end of `getProvider`, when no configured provider was healthy. -/
def noHealthyProvider (currency : String) (lastError : Option JsError)
    : Except JsError FintechProviderId :=
  if .flutterwave ∉ router.providerIds currency ∧ router.registered .flutterwave then
    .ok .flutterwave
  else
    .error (.error
      (s!"No healthy fintech provider for currency {currency}"
        ++ (lastError.map (fun e => ": " ++ e.message)).getD ""))

def checkHealth (id : FintechProviderId) (currency : String)
    : Prog fintechInterface (Option JsError) :=
  catchWith
    (do
      let _ ← request (.getBalance id currency)
      return none)
    (fun err => return some err)

/-- The loop of `getProvider` over the remaining provider ids. -/
def tryProviders (currency : String) (simulateOutageFor : Option FintechProviderId)
    : List FintechProviderId → Option JsError → Prog fintechInterface FintechProviderId
  | [], lastError => fromExcept (router.noHealthyProvider currency lastError)
  | id :: rest, lastError =>
      if simulateOutageFor = some id ∨ ¬ router.registered id then
        tryProviders currency simulateOutageFor rest lastError
      else do
        let failure ← checkHealth id currency
        match failure with
        | none => return id
        | some err => tryProviders currency simulateOutageFor rest (some err)

def getProvider (currency : String) (simulateOutageFor : Option FintechProviderId := none)
    : Prog fintechInterface FintechProviderId :=
  router.tryProviders currency simulateOutageFor (router.providerIds currency) none

def getPreferredProviderId (currency : String) : FintechProviderId :=
  ((router.currencyProviders currency).bind List.head?).getD .flutterwave

end FintechProviderRouter

/-- The router as `services/fintech/index.ts` wires it: no currency is configured, and every
id is registered.
-/
def fintechRouter : FintechProviderRouter where
  currencyProviders := fun _ => none
  registered := fun _ => true
  className := fun _ => "SimulatedFintechProvider"

-- Picking a provider inside a job

theorem wp_getProvider {J : Interface} {T : Type} {R : Protocol J T}
    {ι : Inclusion fintechInterface J} {phase : T}
    (ignored : ∀ id currency reply,
      R.next phase (ι.op (.getBalance id currency)) reply = some phase)
    (router : FintechProviderRouter) (currency : String)
    (simulateOutageFor : Option FintechProviderId)
    : R.wp ((router.getProvider currency simulateOutageFor).within ι) phase
        (fun _ phase' => phase' = phase) (fun _ phase' => phase' = phase) := by
  have tried : ∀ ids lastError,
      R.wp ((router.tryProviders currency simulateOutageFor ids lastError).within ι) phase
        (fun _ phase' => phase' = phase) (fun _ phase' => phase' = phase) := by
    intro ids
    induction ids with
    | nil =>
        intro lastError
        unfold FintechProviderRouter.tryProviders
        cases router.noHealthyProvider currency lastError <;> rfl
    | cons id rest ih =>
        intro lastError
        unfold FintechProviderRouter.tryProviders
        split
        · exact ih lastError
        · intro reply
          refine ⟨phase, ignored id currency reply, ?_⟩
          cases reply with
          | ok _ => rfl
          | error err => exact ih _
  exact tried _ none

end AcbuBackend.Fintech
