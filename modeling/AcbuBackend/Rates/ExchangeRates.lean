import AcbuBackend.Runtime.Text
import Mathlib.Data.List.Basic
import Mathlib.Logic.Relation
import Mathlib.Tactic.Common

/-! The cache of external exchange rates, and the loads that fill it.
A call that misses starts a load, and the calls that miss while it is under way share it. A load
goes on when its request is answered, and its `finally` is a later step of its own. The maps of the
module are functions, as their order is not read.
-/

namespace AcbuBackend.Rates

open AcbuBackend.Runtime

-- The answers of the API

def MIN_REASONABLE_EXCHANGE_RATE : ℚ := 1 / 10 ^ 8

def MAX_REASONABLE_EXCHANGE_RATE : ℚ := 1000000

def isReasonableExchangeRate : JsNumber → Bool
  | .finite rate =>
      0 < rate && MIN_REASONABLE_EXCHANGE_RATE ≤ rate && rate ≤ MAX_REASONABLE_EXCHANGE_RATE
  | _ => false

/-- What is read of an error: whether axios made it, the status of its response, and its code. -/
structure RateApiError where
  isAxiosError : Bool
  status : Option Nat
  code : Option String

def isRetryableRateApiError (error : RateApiError) : Bool :=
  !error.isAxiosError || error.status.any (500 ≤ ·)
    || error.status = some 408 || error.status = some 429
    || error.code = some "ECONNABORTED" || error.code = some "ETIMEDOUT"
    || error.status.isNone

/-- The body of a response; a rate that is no number is absent. -/
structure ExchangeRateApiPairResponse where
  result : Option String
  conversion_rate : Option JsNumber

abbrev RateAnswer := Except RateApiError ExchangeRateApiPairResponse

/-- The configuration, and `toUpperCase`. -/
structure RateSettings where
  apiKey : Option String
  POSITIVE_TTL_MS : ℤ
  NEGATIVE_TTL_MS : ℤ
  toUpperCase : String → String

variable (settings : RateSettings)

def resolveExchangeRateCacheTtlMs (success : Bool) : ℤ :=
  if success then settings.POSITIVE_TTL_MS else settings.NEGATIVE_TTL_MS

/-- A rate in a response that is taken for one. -/
def ExchangeRateApiPairResponse.rate? (data : ExchangeRateApiPairResponse) : Option ℚ :=
  match data.conversion_rate with
  | some (.finite rate) =>
      if data.result = some "success" ∧ isReasonableExchangeRate (.finite rate) then some rate
      else none
  | _ => none

/-- What is made of the answer. Without a key no request is sent. -/
def fetchFromExternalApi (answer : RateAnswer) : Except RateApiError (Option ℚ) :=
  if settings.apiKey.all (· = "") then .ok none
  else answer.map ExchangeRateApiPairResponse.rate?

-- The module

structure CacheEntry where
  rate : Option ℚ
  expiresAt : ℤ
deriving DecidableEq

/-- The answer a load went on with, and when. -/
structure Settlement where
  answer : RateAnswer
  time : ℤ

/-- A load of a currency; it is finished when its `finally` has run. -/
structure Load where
  key : String
  startedAt : ℤ
  settlement : Option Settlement := none
  finished : Bool := false

/-- What a call yields: a cached rate, or the rate of a load. -/
inductive Found
  | cached (rate : Option ℚ)
  | load (index : Nat)
deriving DecidableEq

structure Call where
  currency : String
  madeAt : ℤ
  found : Found
deriving DecidableEq

/-- The variables of the module, its loads and calls so far, and the latest time that was read. -/
structure RateModule where
  cache : String → Option CacheEntry := fun _ => none
  inflight : String → Option Nat := fun _ => none
  loads : List Load := []
  calls : List Call := []
  clock : ℤ := 0

/-- A map with another value under a key. -/
def assign {α : Type} (map : String → Option α) (key : String) (value : Option α)
    : String → Option α :=
  fun other => if other = key then value else map other

namespace RateModule

/-- An entry that has expired is deleted. -/
def getCachedExchangeRate (m : RateModule) (key : String) (now : ℤ)
    : Option (Option ℚ) × RateModule :=
  match m.cache key with
  | none => (none, m)
  | some entry =>
      if entry.expiresAt ≤ now then (none, { m with cache := assign m.cache key none })
      else (some entry.rate, m)

def setCachedExchangeRate (m : RateModule) (key : String) (rate : Option ℚ) (success : Bool)
    (now : ℤ) : RateModule :=
  { m with
    cache := assign m.cache key
      (some { rate, expiresAt := now + resolveExchangeRateCacheTtlMs settings success }) }

def invalidateExchangeRateCache (m : RateModule) (currency : Option String) : RateModule :=
  match currency.filter (· ≠ "") with
  | some currency => { m with cache := assign m.cache (settings.toUpperCase currency) none }
  | none => { m with cache := fun _ => none }

def record (m : RateModule) (call : Call) : RateModule :=
  { m with calls := m.calls ++ [call] }

/-- A call of `fetchExchangeRateUsd`, up to where it waits. -/
def fetchExchangeRateUsd (m : RateModule) (currency : String) (now : ℤ) : RateModule :=
  let key := settings.toUpperCase currency
  match m.getCachedExchangeRate key now with
  | (some rate, m) => m.record ⟨currency, now, .cached rate⟩
  | (none, m) =>
      match m.inflight key with
      | some pending => m.record ⟨currency, now, .load pending⟩
      | none =>
          { m with
            inflight := assign m.inflight key (some m.loads.length)
            loads := m.loads ++ [{ key, startedAt := now }]
            calls := m.calls ++ [⟨currency, now, .load m.loads.length⟩] }

/-- What a load writes when its request is answered. -/
def settle (m : RateModule) (key : String) (answer : RateAnswer) (now : ℤ) : RateModule :=
  match fetchFromExternalApi settings answer with
  | .ok rate =>
      let success := rate.any (0 < ·)
      m.setCachedExchangeRate settings key (if success then rate else none) success now
  | .error error =>
      if isRetryableRateApiError error then m.setCachedExchangeRate settings key none false now
      else m

end RateModule

/-- What a load returns for an answer. -/
def rateOf (answer : RateAnswer) : Option ℚ :=
  match fetchFromExternalApi settings answer with
  | .ok rate => rate.filter (0 < ·)
  | .error _ => none

/-- For how long an answer is cached, if it is. -/
def ttlOf (answer : RateAnswer) : Option ℤ :=
  match fetchFromExternalApi settings answer with
  | .ok rate => some (resolveExchangeRateCacheTtlMs settings (rate.any (0 < ·)))
  | .error error =>
      if isRetryableRateApiError error then some (resolveExchangeRateCacheTtlMs settings false)
      else none

inductive RateEvent
  | fetch (currency : String) (now : ℤ)
  | answered (load : Nat) (answer : RateAnswer) (now : ℤ)
  | finish (load : Nat)
  | invalidate (currency : Option String)

/-- The time that is read at an event. -/
def RateEvent.now? : RateEvent → Option ℤ
  | .fetch _ now | .answered _ _ now => some now
  | .finish _ | .invalidate _ => none

namespace RateModule

/-- The next state, where the event can come. -/
def step (m : RateModule) : RateEvent → Option RateModule
  | .fetch currency now => some { m.fetchExchangeRateUsd settings currency now with clock := now }
  | .answered index answer now =>
      match m.loads[index]? with
      | some load =>
          if load.settlement.isSome then none
          else some { m.settle settings load.key answer now with
            loads := m.loads.set index { load with settlement := some ⟨answer, now⟩ }
            clock := now }
      | none => none
  | .finish index =>
      match m.loads[index]? with
      | some load =>
          if load.settlement.isNone || load.finished then none
          else some { m with
            inflight := assign m.inflight load.key none
            loads := m.loads.set index { load with finished := true } }
      | none => none
  | .invalidate currency => some (m.invalidateExchangeRateCache settings currency)

end RateModule

-- What a step does

/-- The cache after a load has gone on with an answer. -/
def cacheAfter (cache : String → Option CacheEntry) (key : String) (answer : RateAnswer) (now : ℤ)
    : String → Option CacheEntry :=
  match ttlOf settings answer with
  | some ttl => assign cache key (some ⟨rateOf settings answer, now + ttl⟩)
  | none => cache

variable {settings} {m m' : RateModule}

theorem settle_eq {key : String} {answer : RateAnswer} {now : ℤ}
    : m.settle settings key answer now
      = { m with cache := cacheAfter settings m.cache key answer now } := by
  unfold RateModule.settle cacheAfter ttlOf rateOf
  cases fetchFromExternalApi settings answer with
  | ok rate =>
      cases rate with
      | none => rfl
      | some rate =>
          by_cases positive : 0 < rate <;>
            simp [RateModule.setCachedExchangeRate, Option.filter_some, positive]
  | error error =>
      dsimp only
      split <;> rfl

theorem assign_eq_some {α : Type} {map : String → Option α} {key other : String}
    {value : Option α} {x : α}
    : assign map key value other = some x ↔ other = key ∧ value = some x
      ∨ other ≠ key ∧ map other = some x := by
  unfold assign
  split <;> simp_all

theorem assign_none_of_eq_none {α : Type} {map : String → Option α} {key : String}
    (absent : map key = none)
    : assign map key none = map := by
  funext other
  unfold assign
  split <;> simp_all

/-- The ways in which a step ends. -/
inductive Stepped (settings : RateSettings) (m : RateModule) : RateEvent → RateModule → Prop
  | hit (currency : String) (now : ℤ) (entry : CacheEntry)
      (found : m.cache (settings.toUpperCase currency) = some entry) (fresh : now < entry.expiresAt)
      : Stepped settings m (.fetch currency now)
          { m with calls := m.calls ++ [⟨currency, now, .cached entry.rate⟩], clock := now }
  | joined (currency : String) (now : ℤ) (pending : Nat)
      (missed : ∀ entry, m.cache (settings.toUpperCase currency) = some entry →
        entry.expiresAt ≤ now)
      (shared : m.inflight (settings.toUpperCase currency) = some pending)
      : Stepped settings m (.fetch currency now)
          { m with
            cache := assign m.cache (settings.toUpperCase currency) none
            calls := m.calls ++ [⟨currency, now, .load pending⟩]
            clock := now }
  | started (currency : String) (now : ℤ)
      (missed : ∀ entry, m.cache (settings.toUpperCase currency) = some entry →
        entry.expiresAt ≤ now)
      (idle : m.inflight (settings.toUpperCase currency) = none)
      : Stepped settings m (.fetch currency now)
          { cache := assign m.cache (settings.toUpperCase currency) none
            inflight :=
              assign m.inflight (settings.toUpperCase currency) (some m.loads.length)
            loads := m.loads ++ [{ key := settings.toUpperCase currency, startedAt := now }]
            calls := m.calls ++ [⟨currency, now, .load m.loads.length⟩]
            clock := now }
  | answered (index : Nat) (answer : RateAnswer) (now : ℤ) (load : Load)
      (found : m.loads[index]? = some load) (waiting : load.settlement = none)
      : Stepped settings m (.answered index answer now)
          { m with
            cache := cacheAfter settings m.cache load.key answer now
            loads := m.loads.set index { load with settlement := some ⟨answer, now⟩ }
            clock := now }
  | finish (index : Nat) (load : Load) (found : m.loads[index]? = some load)
      (settled : load.settlement.isSome) (running : load.finished = false)
      : Stepped settings m (.finish index)
          { m with
            inflight := assign m.inflight load.key none
            loads := m.loads.set index { load with finished := true } }
  | invalidate (currency : Option String) (cache : String → Option CacheEntry)
      (kept : ∀ key entry, cache key = some entry → m.cache key = some entry)
      : Stepped settings m (.invalidate currency) { m with cache }

theorem stepped_of_step {event : RateEvent} (stepped : m.step settings event = some m')
    : Stepped settings m event m' := by
  cases event with
  | fetch currency now =>
      obtain rfl := Option.some.inj stepped
      simp only [RateModule.fetchExchangeRateUsd, RateModule.getCachedExchangeRate]
      cases found : m.cache (settings.toUpperCase currency) with
      | none =>
          have same := assign_none_of_eq_none found
          have missed : ∀ entry, m.cache (settings.toUpperCase currency) = some entry →
              entry.expiresAt ≤ now := by
            simp [found]
          cases shared : m.inflight (settings.toUpperCase currency) with
          | none =>
              have started := Stepped.started currency now missed shared
              rw [same] at started
              simpa only [shared] using started
          | some pending =>
              have joined := Stepped.joined currency now pending missed shared
              rw [same] at joined
              simpa only [shared, RateModule.record] using joined
      | some entry =>
          by_cases expired : entry.expiresAt ≤ now
          · have missed : ∀ other, m.cache (settings.toUpperCase currency) = some other →
                other.expiresAt ≤ now := by
              intro other same
              rwa [← Option.some.inj (found.symm.trans same)]
            simp only [expired, if_true]
            cases shared : m.inflight (settings.toUpperCase currency) with
            | none => exact .started currency now missed shared
            | some pending => exact .joined currency now pending missed shared
          · simp only [expired, if_false]
            exact .hit currency now entry found (not_le.mp expired)
  | answered index answer now =>
      unfold RateModule.step at stepped
      cases found : m.loads[index]? with
      | none => simp [found] at stepped
      | some load =>
          cases waiting : load.settlement with
          | some _ => simp [found, waiting] at stepped
          | none =>
              simp only [found, waiting, Option.isSome_none, Bool.false_eq_true, if_false,
                settle_eq, Option.some.injEq] at stepped
              exact stepped ▸ .answered index answer now load found waiting
  | finish index =>
      unfold RateModule.step at stepped
      cases found : m.loads[index]? with
      | none => simp [found] at stepped
      | some load =>
          simp only [found] at stepped
          split at stepped
          · cases stepped
          · rename_i ready
            rw [Bool.or_eq_true, not_or] at ready
            obtain rfl := Option.some.inj stepped
            refine .finish index load found ?_ (Bool.not_eq_true _ ▸ ready.2)
            cases settled : load.settlement with
            | none => simp [settled] at ready
            | some _ => rfl
  | invalidate currency =>
      obtain rfl := Option.some.inj stepped
      unfold RateModule.invalidateExchangeRateCache
      split
      · refine .invalidate currency _ fun key entry there => ?_
        rcases assign_eq_some.mp there with ⟨-, none⟩ | ⟨-, there⟩
        · cases none
        · exact there
      · exact .invalidate currency _ fun _ _ there => by cases there

-- Runs

/-- A run whose steps all meet a condition on the event and the state before it. -/
abbrev Reaches (settings : RateSettings) (condition : RateModule → RateEvent → Prop)
    (m m' : RateModule) : Prop :=
  Relation.ReflTransGen
    (fun m m' => ∃ event, condition m event ∧ m.step settings event = some m') m m'

def anyEvent : RateModule → RateEvent → Prop :=
  fun _ _ => True

/-- The clock does not step back, and nothing is invalidated. -/
def Steady (m : RateModule) (event : RateEvent) : Prop :=
  (∀ now, event.now? = some now → m.clock ≤ now) ∧ ∀ currency, event ≠ .invalidate currency

theorem Reaches.invariant {condition : RateModule → RateEvent → Prop} {Holds : RateModule → Prop}
    (reached : Reaches settings condition m m') (first : Holds m)
    (kept : ∀ m event m', Holds m → condition m event → Stepped settings m event m' → Holds m')
    : Holds m' := by
  induction reached with
  | refl => exact first
  | tail _ last ih =>
      obtain ⟨event, met, stepped⟩ := last
      exact kept _ event _ ih met (stepped_of_step stepped)

-- The loads under way

/-- The loads that are not finished are those that can be shared. -/
def Tracked (m : RateModule) : Prop :=
  ∀ key index, m.inflight key = some index
    ↔ ∃ load, m.loads[index]? = some load ∧ load.key = key ∧ load.finished = false

theorem getElem?_loads_set {loads : List Load} {index : Nat} {before after load : Load} {i : Nat}
    (found : loads[index]? = some before)
    : (loads.set index after)[i]? = some load
      ↔ i = index ∧ load = after ∨ i ≠ index ∧ loads[i]? = some load := by
  have inside : index < loads.length := (List.getElem?_eq_some_iff.mp found).1
  rw [List.getElem?_set]
  by_cases same : index = i
  · subst same
    simp [inside, eq_comm]
  · simp [same, Ne.symm same]

theorem getElem?_loads_append {loads : List Load} {new load : Load} {i : Nat}
    : (loads ++ [new])[i]? = some load
      ↔ i = loads.length ∧ load = new ∨ i ≠ loads.length ∧ loads[i]? = some load := by
  by_cases last : i = loads.length
  · subst last
    simp [eq_comm]
  · by_cases inside : i < loads.length
    · simp [last, List.getElem?_append_left inside]
    · have beyond : (loads ++ [new]).length ≤ i := by
        rw [List.length_append, List.length_singleton]
        omega
      rw [List.getElem?_eq_none beyond, List.getElem?_eq_none (not_lt.mp inside)]
      simp [last]

theorem Tracked.step {event : RateEvent} (tracked : Tracked m)
    (stepped : Stepped settings m event m')
    : Tracked m' := by
  cases stepped with
  | hit | joined | invalidate => exact tracked
  | started currency now missed idle =>
      intro key index
      rw [assign_eq_some]
      simp only [getElem?_loads_append]
      constructor
      · rintro (⟨rfl, same⟩ | ⟨other, there⟩)
        · exact ⟨_, .inl ⟨(Option.some.inj same).symm, rfl⟩, rfl, rfl⟩
        · obtain ⟨load, found, named, running⟩ := (tracked key index).mp there
          refine ⟨load, .inr ⟨?_, found⟩, named, running⟩
          exact (List.getElem?_eq_some_iff.mp found).1.ne
      · rintro ⟨load, ⟨rfl, rfl⟩ | ⟨_, found⟩, rfl, running⟩
        · exact .inl ⟨rfl, rfl⟩
        · have there := (tracked load.key index).mpr ⟨load, found, rfl, running⟩
          refine .inr ⟨fun same => ?_, there⟩
          rw [same, idle] at there
          cases there
  | answered index answer now load found waiting =>
      intro key i
      rw [tracked key i]
      simp only [getElem?_loads_set found]
      constructor
      · rintro ⟨other, there, named, running⟩
        by_cases same : i = index
        · obtain rfl := Option.some.inj (found.symm.trans (same ▸ there))
          exact ⟨_, .inl ⟨same, rfl⟩, named, running⟩
        · exact ⟨other, .inr ⟨same, there⟩, named, running⟩
      · rintro ⟨other, ⟨rfl, rfl⟩ | ⟨_, there⟩, named, running⟩
        · exact ⟨load, found, named, running⟩
        · exact ⟨other, there, named, running⟩
  | finish index load found settled running =>
      intro key i
      have own := (tracked load.key index).mpr ⟨load, found, rfl, running⟩
      rw [assign_eq_some, tracked key i]
      simp only [getElem?_loads_set found]
      constructor
      · rintro (⟨_, none⟩ | ⟨apart, other, there, named, unfinished⟩)
        · cases none
        · refine ⟨other, .inr ⟨?_, there⟩, named, unfinished⟩
          rintro rfl
          obtain rfl := Option.some.inj (found.symm.trans there)
          exact apart named.symm
      · rintro ⟨other, ⟨_, rfl⟩ | ⟨apart, there⟩, named, unfinished⟩
        · cases unfinished
        · refine .inr ⟨?_, other, there, named, unfinished⟩
          rintro rfl
          have shared := (tracked load.key i).mpr ⟨other, there, named, unfinished⟩
          exact apart (Option.some.inj (shared.symm.trans own))

theorem tracked_initial : Tracked {} := by
  intro key index
  simp

/-- A key, and rates that are cached for a minute, failures for half of it. -/
def sampleSettings : RateSettings where
  apiKey := some "key"
  POSITIVE_TTL_MS := 60000
  NEGATIVE_TTL_MS := 30000
  toUpperCase := id

/-- The module after some events, the initial one where they cannot come. -/
def moduleAfter (events : List RateEvent) : RateModule :=
  (events.foldlM (RateModule.step sampleSettings) {}).getD {}

/-- Two loads of a currency are never under way at once. -/
theorem exchange_rate_loads_single (reached : Reaches settings anyEvent {} m) {i j : Nat}
    {first second : Load} (found : m.loads[i]? = some first) (found' : m.loads[j]? = some second)
    (same : first.key = second.key) (running : first.finished = false)
    (running' : second.finished = false)
    : i = j := by
  have tracked : Tracked m :=
    reached.invariant tracked_initial fun _ _ _ tracked _ stepped => tracked.step stepped
  have shared := (tracked first.key i).mpr ⟨first, found, rfl, running⟩
  rw [(tracked first.key j).mpr ⟨second, found', same.symm, running'⟩] at shared
  exact (Option.some.inj shared).symm

def sharedEvents : List RateEvent := [.fetch "EUR" 0, .fetch "EUR" 5]

/-- The second call shares the load of the first, which is the only one under way. -/
theorem exchange_rate_loads_single_shared
    : (moduleAfter sharedEvents).calls.map Call.found = [.load 0, .load 0]
      ∧ ∀ i load, (moduleAfter sharedEvents).loads[i]? = some load → load.key = "EUR" →
        load.finished = false → i = 0 := by
  have reached : Reaches sampleSettings anyEvent {} (moduleAfter sharedEvents) :=
    .head ⟨.fetch "EUR" 0, trivial, rfl⟩ (.head ⟨.fetch "EUR" 5, trivial, rfl⟩ .refl)
  have found : (moduleAfter sharedEvents).loads[0]? = some ⟨"EUR", 0, none, false⟩ := rfl
  exact ⟨by decide, fun i load there own running =>
    exchange_rate_loads_single reached there found own running rfl⟩

-- Where the rates come from

/-- A load keeps its currency and its start, and what it has gone on with. -/
structure Onward (load load' : Load) : Prop where
  key : load'.key = load.key
  startedAt : load'.startedAt = load.startedAt
  settlement : ∀ settlement, load.settlement = some settlement → load'.settlement = some settlement
  finished : load'.finished = false → load.finished = false

theorem Onward.refl (load : Load) : Onward load load :=
  ⟨rfl, rfl, fun _ same => same, id⟩

theorem onward_of_set {loads : List Load} {index i : Nat} {own own' load' : Load}
    (found : loads[index]? = some own) (there : (loads.set index own')[i]? = some load')
    (onward : Onward own own')
    : ∃ load, loads[i]? = some load ∧ Onward load load' := by
  rcases (getElem?_loads_set found).mp there with ⟨rfl, rfl⟩ | ⟨-, there⟩
  · exact ⟨own, found, onward⟩
  · exact ⟨load', there, .refl load'⟩

theorem Stepped.onward {event : RateEvent} (stepped : Stepped settings m event m') {i : Nat}
    {load' : Load} (there : m'.loads[i]? = some load')
    : (∃ load, m.loads[i]? = some load ∧ Onward load load')
      ∨ i = m.loads.length ∧ ∃ now, event.now? = some now ∧ load'.startedAt = now
        ∧ m.inflight load'.key = none
        ∧ ∀ entry, m.cache load'.key = some entry → entry.expiresAt ≤ now := by
  cases stepped with
  | hit | joined | invalidate => exact .inl ⟨load', there, .refl load'⟩
  | started currency now missed idle =>
      rcases getElem?_loads_append.mp there with ⟨last, rfl⟩ | ⟨-, there⟩
      · exact .inr ⟨last, now, rfl, rfl, idle, missed⟩
      · exact .inl ⟨load', there, .refl load'⟩
  | answered index answer now own found waiting =>
      refine .inl (onward_of_set found there ⟨rfl, rfl, fun settlement settled => ?_, id⟩)
      rw [waiting] at settled
      cases settled
  | finish index own found settled running =>
      exact .inl (onward_of_set found there ⟨rfl, rfl, fun _ same => same, fun _ => running⟩)

theorem Stepped.kept {event : RateEvent} (stepped : Stepped settings m event m') {i : Nat}
    {load : Load} (found : m.loads[i]? = some load)
    : ∃ load', m'.loads[i]? = some load' ∧ Onward load load' := by
  have inside := (List.getElem?_eq_some_iff.mp found).1
  have grown : m.loads.length ≤ m'.loads.length := by
    cases stepped <;> simp
  have there := List.getElem?_eq_getElem (inside.trans_le grown)
  rcases stepped.onward there with ⟨before, found', onward⟩ | ⟨last, -⟩
  · obtain rfl := Option.some.inj (found.symm.trans found')
    exact ⟨_, there, onward⟩
  · exact absurd last inside.ne

/-- A rate is that of an answer to a load of the currency, and is cached until the given time. -/
def FromAnswer (settings : RateSettings) (m : RateModule) (key : String) (rate : Option ℚ)
    (expiresAt : ℤ) : Prop :=
  ∃ (i : Nat) (load : Load) (settlement : Settlement) (ttl : ℤ),
    m.loads[i]? = some load ∧ load.key = key
    ∧ load.settlement = some settlement ∧ rate = rateOf settings settlement.answer
    ∧ ttlOf settings settlement.answer = some ttl ∧ expiresAt = settlement.time + ttl

theorem FromAnswer.step {event : RateEvent} {key : String} {rate : Option ℚ} {expiresAt : ℤ}
    (origin : FromAnswer settings m key rate expiresAt) (stepped : Stepped settings m event m')
    : FromAnswer settings m' key rate expiresAt := by
  obtain ⟨i, load, settlement, ttl, found, named, settled, rest⟩ := origin
  obtain ⟨load', found', onward⟩ := stepped.kept found
  exact ⟨i, load', settlement, ttl, found', onward.key.trans named, onward.settlement _ settled,
    rest⟩

/-- What a call has found: a rate that has not expired, or a load of its currency. -/
def Call.Sourced (settings : RateSettings) (m : RateModule) (call : Call) : Prop :=
  match call.found with
  | .cached rate => ∃ expiresAt, call.madeAt < expiresAt
      ∧ FromAnswer settings m (settings.toUpperCase call.currency) rate expiresAt
  | .load i => ∃ load, m.loads[i]? = some load ∧ load.key = settings.toUpperCase call.currency

theorem Call.Sourced.step {event : RateEvent} {call : Call} (sourced : call.Sourced settings m)
    (stepped : Stepped settings m event m')
    : call.Sourced settings m' := by
  unfold Call.Sourced at *
  split at sourced
  · obtain ⟨expiresAt, fresh, origin⟩ := sourced
    exact ⟨expiresAt, fresh, origin.step stepped⟩
  · obtain ⟨load, found, named⟩ := sourced
    obtain ⟨load', found', onward⟩ := stepped.kept found
    exact ⟨load', found', onward.key.trans named⟩

structure Sourced (settings : RateSettings) (m : RateModule) : Prop where
  tracked : Tracked m
  cache : ∀ key entry, m.cache key = some entry →
    FromAnswer settings m key entry.rate entry.expiresAt
  calls : ∀ call ∈ m.calls, call.Sourced settings m

theorem sourced_initial : Sourced settings {} where
  tracked := tracked_initial
  cache _ _ there := by cases there
  calls _ member := by cases member

theorem Sourced.step {event : RateEvent} (sourced : Sourced settings m)
    (stepped : Stepped settings m event m')
    : Sourced settings m' := by
  have earlier : ∀ call ∈ m.calls, call.Sourced settings m' :=
    fun call member => (sourced.calls call member).step stepped
  refine ⟨sourced.tracked.step stepped, fun key entry there => ?_, fun call member => ?_⟩
  · by_cases old : m.cache key = some entry
    · exact (sourced.cache key entry old).step stepped
    · cases stepped with
      | hit => exact absurd there old
      | joined | started =>
          rcases assign_eq_some.mp there with ⟨-, none⟩ | ⟨-, same⟩
          · cases none
          · exact absurd same old
      | answered index answer now load found waiting =>
          unfold cacheAfter at there
          cases caches : ttlOf settings answer with
          | none => exact absurd (by simpa only [caches] using there) old
          | some ttl =>
              simp only [caches, assign_eq_some] at there
              rcases there with ⟨rfl, same⟩ | ⟨-, same⟩
              · obtain rfl := Option.some.inj same
                exact ⟨index, _, ⟨answer, now⟩, ttl,
                  (getElem?_loads_set found).mpr (.inl ⟨rfl, rfl⟩), rfl, rfl, rfl, caches, rfl⟩
              · exact absurd same old
      | finish => exact absurd there old
      | invalidate currency cache kept => exact absurd (kept key entry there) old
  · cases stepped with
    | hit currency now entry found fresh =>
        rcases List.mem_append.mp member with member | member
        · exact earlier call member
        · obtain rfl := List.mem_singleton.mp member
          exact ⟨entry.expiresAt, fresh, sourced.cache _ entry found⟩
    | joined currency now pending missed shared =>
        rcases List.mem_append.mp member with member | member
        · exact earlier call member
        · obtain rfl := List.mem_singleton.mp member
          obtain ⟨load, found, named, -⟩ := (sourced.tracked _ pending).mp shared
          exact ⟨load, found, named⟩
    | started currency now missed idle =>
        rcases List.mem_append.mp member with member | member
        · exact earlier call member
        · obtain rfl := List.mem_singleton.mp member
          exact ⟨_, getElem?_loads_append.mpr (.inl ⟨rfl, rfl⟩), rfl⟩
    | answered | finish | invalidate => exact earlier call member

/-- What a call yields, once it is known. -/
def RateModule.yields? (settings : RateSettings) (m : RateModule) (call : Call)
    : Option (Option ℚ) :=
  match call.found with
  | .cached rate => some rate
  | .load i => (m.loads[i]?.bind Load.settlement).map (fun s => rateOf settings s.answer)

theorem rateOf_eq_some {answer : RateAnswer} {rate : ℚ}
    (returned : rateOf settings answer = some rate)
    : ∃ data, answer = .ok data ∧ data.result = some "success"
      ∧ data.conversion_rate = some (.finite rate)
      ∧ MIN_REASONABLE_EXCHANGE_RATE ≤ rate ∧ rate ≤ MAX_REASONABLE_EXCHANGE_RATE := by
  unfold rateOf fetchFromExternalApi at returned
  by_cases keyless : settings.apiKey.all (· = "")
  · simp [keyless] at returned
  · cases answer with
    | error error => simp [keyless, Except.map] at returned
    | ok data =>
        simp only [keyless, Except.map, Bool.false_eq_true, if_false] at returned
        obtain ⟨same, -⟩ := Option.filter_eq_some_iff.mp returned
        unfold ExchangeRateApiPairResponse.rate? at same
        split at same
        · rename_i number
          split at same
          · rename_i accepted
            obtain rfl := Option.some.inj same
            simp only [isReasonableExchangeRate, Bool.and_eq_true, decide_eq_true_eq] at accepted
            exact ⟨data, rfl, accepted.1, number, accepted.2.1.2, accepted.2.2⟩
          · cases same
        · cases same

theorem ttlOf_of_rateOf {answer : RateAnswer} {rate : ℚ}
    (returned : rateOf settings answer = some rate)
    : ttlOf settings answer = some settings.POSITIVE_TTL_MS := by
  unfold rateOf at returned
  unfold ttlOf
  cases fetched : fetchFromExternalApi settings answer with
  | error error => simp [fetched] at returned
  | ok found =>
      simp only [fetched] at returned
      obtain ⟨rfl, positive⟩ := Option.filter_eq_some_iff.mp returned
      simp only [Option.any_some, positive]
      rfl

/-- A rate that a call yields was answered as such to a load of its own currency, is within the
bounds, and has not outlived its time where the call found it in the cache.
-/
theorem exchange_rates_sourced (reached : Reaches settings anyEvent {} m) {call : Call}
    (made : call ∈ m.calls) {rate : ℚ} (yielded : m.yields? settings call = some (some rate))
    : MIN_REASONABLE_EXCHANGE_RATE ≤ rate ∧ rate ≤ MAX_REASONABLE_EXCHANGE_RATE
      ∧ ∃ load ∈ m.loads, load.key = settings.toUpperCase call.currency
        ∧ ∃ data time, load.settlement = some ⟨.ok data, time⟩ ∧ data.result = some "success"
          ∧ data.conversion_rate = some (.finite rate)
          ∧ (call.found = .cached (some rate) → call.madeAt < time + settings.POSITIVE_TTL_MS) := by
  have sourced : Sourced settings m :=
    reached.invariant sourced_initial fun _ _ _ sourced _ stepped => sourced.step stepped
  have own := sourced.calls call made
  unfold RateModule.yields? at yielded
  unfold Call.Sourced at own
  cases found : call.found with
  | cached cached =>
      simp only [found, Option.some.injEq] at yielded own
      obtain ⟨expiresAt, fresh, i, load, ⟨answer, time⟩, ttl, there, named, settled, same, caches,
        rfl⟩ := own
      subst yielded
      obtain ⟨data, rfl, success, number, low, high⟩ := rateOf_eq_some same.symm
      obtain rfl := Option.some.inj (caches.symm.trans (ttlOf_of_rateOf same.symm))
      exact ⟨low, high, load, List.mem_of_getElem? there, named, data, time, settled, success,
        number, fun _ => fresh⟩
  | load i =>
      simp only [found] at yielded own
      obtain ⟨load, there, named⟩ := own
      rw [there, Option.bind_some] at yielded
      obtain ⟨⟨answer, time⟩, settled, same⟩ := Option.map_eq_some_iff.mp yielded
      obtain ⟨data, rfl, success, number, low, high⟩ := rateOf_eq_some same
      exact ⟨low, high, load, List.mem_of_getElem? there, named, data, time, settled, success,
        number, fun cached => by cases cached⟩

def quotedEvents : List RateEvent :=
  [.fetch "EUR" 0, .answered 0 (.ok ⟨some "success", some (.finite (1 / 2))⟩) 10,
    .fetch "EUR" 1000]

theorem exchange_rates_sourced_quoted
    : MIN_REASONABLE_EXCHANGE_RATE ≤ 1 / 2 ∧ 1 / 2 ≤ MAX_REASONABLE_EXCHANGE_RATE
      ∧ ∃ load ∈ (moduleAfter quotedEvents).loads, load.key = "EUR"
        ∧ ∃ data time, load.settlement = some ⟨.ok data, time⟩ ∧ data.result = some "success"
          ∧ data.conversion_rate = some (.finite (1 / 2))
          ∧ (Found.cached (some (1 / 2)) = .cached (some (1 / 2)) → 1000 < time + 60000) := by
  have reached : Reaches sampleSettings anyEvent {} (moduleAfter quotedEvents) :=
    .head ⟨.fetch "EUR" 0, trivial, rfl⟩ (.head
      ⟨.answered 0 (.ok ⟨some "success", some (.finite (1 / 2))⟩) 10, trivial, rfl⟩
      (.head ⟨.fetch "EUR" 1000, trivial, rfl⟩ .refl))
  have made : ⟨"EUR", 1000, .cached (some (1 / 2))⟩ ∈ (moduleAfter quotedEvents).calls := by
    refine List.mem_of_getElem? (i := 1) ?_
    decide +kernel
  exact exchange_rates_sourced reached made rfl

-- The pauses between loads

/-- When an answer is no longer cached, if it was. -/
def Settlement.cachedUntil (settings : RateSettings) (settlement : Settlement) : Option ℤ :=
  (ttlOf settings settlement.answer).map (settlement.time + ·)

/-- The answer of a load is over, or is in the cache, and no other load of the currency is under
way.
-/
def Held (m : RateModule) (i : Nat) (key : String) (expiresAt : ℤ) : Prop :=
  expiresAt ≤ m.clock
    ∨ (∃ entry, m.cache key = some entry ∧ expiresAt ≤ entry.expiresAt)
      ∧ ∀ j other, m.loads[j]? = some other → other.key = key → other.finished = false → j = i

structure Spaced (settings : RateSettings) (m : RateModule) : Prop where
  tracked : Tracked m
  settled (i : Nat) (load : Load) : m.loads[i]? = some load → load.finished = true →
    load.settlement.isSome
  held (i : Nat) (load : Load) (settlement : Settlement) (expiresAt : ℤ) :
    m.loads[i]? = some load → load.settlement = some settlement →
    settlement.cachedUntil settings = some expiresAt → Held m i load.key expiresAt
  apart (i j : Nat) (first second : Load) : i < j → m.loads[i]? = some first →
    m.loads[j]? = some second → first.key = second.key →
    ∃ settlement, first.settlement = some settlement
      ∧ ∀ expiresAt, settlement.cachedUntil settings = some expiresAt → expiresAt ≤ second.startedAt

theorem spaced_initial : Spaced settings {} where
  tracked := tracked_initial
  settled i load there := by simp at there
  held i load settlement expiresAt there := by simp at there
  apart i j first second _ there := by simp at there

/-- A miss of the currency says that the answer is over. -/
theorem Held.over_of_missed {i : Nat} {key : String} {expiresAt now : ℤ}
    (held : Held m i key expiresAt) (later : m.clock ≤ now)
    (missed : ∀ entry, m.cache key = some entry → entry.expiresAt ≤ now)
    : expiresAt ≤ now := by
  rcases held with past | ⟨⟨entry, there, within⟩, -⟩
  · exact past.trans later
  · exact within.trans (missed entry there)

theorem Spaced.open_of_waiting {i : Nat} {load : Load} (spaced : Spaced settings m)
    (found : m.loads[i]? = some load) (waiting : load.settlement = none)
    : load.finished = false := by
  by_contra past
  rw [Bool.not_eq_false] at past
  simpa [waiting] using spaced.settled i load found past

theorem Stepped.clock_le {event : RateEvent} (stepped : Stepped settings m event m')
    (steady : Steady m event)
    : m.clock ≤ m'.clock := by
  cases stepped with
  | hit | joined | started | answered => exact steady.1 _ rfl
  | finish | invalidate => exact le_rfl

theorem Held.step {event : RateEvent} {i : Nat} {load : Load} {settlement : Settlement}
    {expiresAt : ℤ} (held : Held m i load.key expiresAt) (spaced : Spaced settings m)
    (steady : Steady m event) (found : m.loads[i]? = some load)
    (settled : load.settlement = some settlement) (stepped : Stepped settings m event m')
    : Held m' i load.key expiresAt := by
  rcases held with past | ⟨⟨entry, cached, within⟩, others⟩
  · exact .inl (past.trans (stepped.clock_le steady))
  cases stepped with
  | hit => exact .inr ⟨⟨entry, cached, within⟩, others⟩
  | joined currency now pending missed shared =>
      by_cases own : load.key = settings.toUpperCase currency
      · exact .inl (within.trans (missed entry (own ▸ cached)))
      · exact .inr ⟨⟨entry, assign_eq_some.mpr (.inr ⟨own, cached⟩), within⟩, others⟩
  | started currency now missed idle =>
      by_cases own : load.key = settings.toUpperCase currency
      · exact .inl (within.trans (missed entry (own ▸ cached)))
      · refine .inr ⟨⟨entry, assign_eq_some.mpr (.inr ⟨own, cached⟩), within⟩, ?_⟩
        intro j other there named running
        rcases getElem?_loads_append.mp there with ⟨-, rfl⟩ | ⟨-, there⟩
        · exact absurd named.symm own
        · exact others j other there named running
  | answered index answer now own there waiting =>
      -- the load that is answered is of another currency
      have apart : load.key ≠ own.key := by
        intro same
        obtain rfl := others index own there same.symm (spaced.open_of_waiting there waiting)
        obtain rfl := Option.some.inj (found.symm.trans there)
        rw [waiting] at settled
        cases settled
      refine .inr ⟨⟨entry, ?_, within⟩, fun j other there' named running => ?_⟩
      · unfold cacheAfter
        split
        · exact assign_eq_some.mpr (.inr ⟨apart, cached⟩)
        · exact cached
      · rcases (getElem?_loads_set there).mp there' with ⟨-, rfl⟩ | ⟨-, there'⟩
        · exact absurd named.symm apart
        · exact others j other there' named running
  | finish index own there settled running =>
      refine .inr ⟨⟨entry, cached, within⟩, fun j other there' named unfinished => ?_⟩
      rcases (getElem?_loads_set there).mp there' with ⟨-, rfl⟩ | ⟨-, there'⟩
      · cases unfinished
      · exact others j other there' named unfinished
  | invalidate currency => exact absurd rfl (steady.2 currency)

/-- What a load has gone on with was there before, or has just been cached. -/
theorem Stepped.settlement {event : RateEvent} (stepped : Stepped settings m event m') {i : Nat}
    {load' : Load} {settlement : Settlement} (there : m'.loads[i]? = some load')
    (settled : load'.settlement = some settlement)
    : ∃ load, m.loads[i]? = some load ∧ load'.key = load.key
      ∧ (load.settlement = some settlement
        ∨ load.settlement = none ∧ load'.finished = load.finished
          ∧ m'.cache
            = cacheAfter settings m.cache load'.key settlement.answer settlement.time) := by
  cases stepped with
  | hit | joined | invalidate => exact ⟨load', there, rfl, .inl settled⟩
  | started =>
      rcases getElem?_loads_append.mp there with ⟨-, rfl⟩ | ⟨-, there⟩
      · cases settled
      · exact ⟨load', there, rfl, .inl settled⟩
  | answered index answer now own found waiting =>
      rcases (getElem?_loads_set found).mp there with ⟨rfl, rfl⟩ | ⟨-, there⟩
      · obtain rfl := Option.some.inj settled
        exact ⟨own, found, rfl, .inr ⟨waiting, rfl, rfl⟩⟩
      · exact ⟨load', there, rfl, .inl settled⟩
  | finish index own found =>
      rcases (getElem?_loads_set found).mp there with ⟨rfl, rfl⟩ | ⟨-, there⟩
      · exact ⟨own, found, rfl, .inl settled⟩
      · exact ⟨load', there, rfl, .inl settled⟩

theorem Spaced.settled_step {event : RateEvent} (spaced : Spaced settings m)
    (stepped : Stepped settings m event m') {i : Nat} {load : Load}
    (there : m'.loads[i]? = some load) (past : load.finished = true)
    : load.settlement.isSome := by
  cases stepped with
  | hit | joined | invalidate => exact spaced.settled i load there past
  | started =>
      rcases getElem?_loads_append.mp there with ⟨-, rfl⟩ | ⟨-, there⟩
      · cases past
      · exact spaced.settled i load there past
  | answered index answer now own found waiting =>
      rcases (getElem?_loads_set found).mp there with ⟨-, rfl⟩ | ⟨-, there⟩
      · rfl
      · exact spaced.settled i load there past
  | finish index own found settled =>
      rcases (getElem?_loads_set found).mp there with ⟨-, rfl⟩ | ⟨-, there⟩
      · exact settled
      · exact spaced.settled i load there past

theorem Spaced.step {event : RateEvent} (spaced : Spaced settings m) (steady : Steady m event)
    (stepped : Stepped settings m event m')
    : Spaced settings m' := by
  have tracked := spaced.tracked.step stepped
  refine ⟨tracked, fun i load there past => spaced.settled_step stepped there past,
    fun i load settlement expiresAt there settled caches => ?_,
    fun i j first second before there there' same => ?_⟩
  · obtain ⟨own, found, named, earlier | ⟨waiting, still, cache⟩⟩ :=
      stepped.settlement there settled
    · have held := spaced.held i own settlement expiresAt found earlier caches
      exact named ▸ held.step spaced steady found earlier stepped
    · obtain ⟨ttl, cached, rfl⟩ := Option.map_eq_some_iff.mp caches
      refine .inr ⟨⟨⟨rateOf settings settlement.answer, settlement.time + ttl⟩, ?_, le_rfl⟩, ?_⟩
      · rw [cache]
        simp [cacheAfter, cached, assign]
      · intro j other there' named' running
        have shared := (tracked load.key j).mpr ⟨other, there', named', running⟩
        have own := (tracked load.key i).mpr
          ⟨load, there, rfl, still.trans (spaced.open_of_waiting found waiting)⟩
        exact Option.some.inj (shared.symm.trans own)
  · rcases stepped.onward there with ⟨own, found, onward⟩ | ⟨rfl, -⟩
    · rcases stepped.onward there' with
        ⟨own', found', onward'⟩ | ⟨-, now, read, started, idle, missed⟩
      · obtain ⟨settlement, settled, past⟩ := spaced.apart i j own own' before found found'
          (onward.key.symm.trans (same.trans onward'.key))
        exact ⟨settlement, onward.settlement _ settled, onward'.startedAt ▸ past⟩
      · -- the earlier load is finished, as no load is shared
        have named : own.key = second.key := onward.key.symm.trans same
        have past : own.finished = true := by
          by_contra running
          rw [Bool.not_eq_true] at running
          have shared := (spaced.tracked second.key i).mpr ⟨own, found, named, running⟩
          rw [idle] at shared
          cases shared
        obtain ⟨settlement, settled⟩ := Option.isSome_iff_exists.mp
          (spaced.settled i own found past)
        refine ⟨settlement, onward.settlement _ settled, fun expiresAt caches => ?_⟩
        have held := spaced.held i own settlement expiresAt found settled caches
        exact started ▸ (named ▸ held).over_of_missed (steady.1 now read) missed
    · -- nothing comes behind a load that has just been started
      rcases stepped.onward there' with ⟨own', found', -⟩ | ⟨rfl, -⟩
      · have := (List.getElem?_eq_some_iff.mp found').1
        omega
      · exact absurd before (lt_irrefl _)

/-- While the clock does not step back and nothing is invalidated, a load of a currency starts only
after the earlier ones have been answered, and once their answers are no longer cached. Only a
failure that is not worth a retry is not cached.
-/
theorem exchange_rate_loads_apart (reached : Reaches settings Steady {} m) {i j : Nat}
    {first second : Load} (before : i < j) (found : m.loads[i]? = some first)
    (found' : m.loads[j]? = some second) (same : first.key = second.key)
    : ∃ settlement, first.settlement = some settlement
      ∧ ∀ ttl, ttlOf settings settlement.answer = some ttl →
        settlement.time + ttl ≤ second.startedAt := by
  have spaced : Spaced settings m :=
    reached.invariant spaced_initial fun _ _ _ spaced steady stepped => spaced.step steady stepped
  obtain ⟨settlement, settled, past⟩ := spaced.apart i j first second before found found' same
  exact ⟨settlement, settled, fun ttl cached => past _ (by simp [Settlement.cachedUntil, cached])⟩

def retriedEvents : List RateEvent :=
  [.fetch "EUR" 0, .answered 0 (.error ⟨false, none, none⟩) 10, .finish 0, .fetch "EUR" 30010]

theorem exchange_rate_loads_apart_retried
    : ∃ settlement : Settlement, some ⟨.error ⟨false, none, none⟩, 10⟩ = some settlement
      ∧ ∀ ttl, ttlOf sampleSettings settlement.answer = some ttl →
        settlement.time + ttl ≤ 30010 := by
  have reached : Reaches sampleSettings Steady {} (moduleAfter retriedEvents) :=
    .head ⟨.fetch "EUR" 0, ⟨by decide, by simp⟩, rfl⟩ (.head
      ⟨.answered 0 (.error ⟨false, none, none⟩) 10, ⟨by decide, by simp⟩, rfl⟩ (.head
      ⟨.finish 0, ⟨by decide, by simp⟩, rfl⟩ (.head
      ⟨.fetch "EUR" 30010, ⟨by decide, by simp⟩, rfl⟩ .refl)))
  exact exchange_rate_loads_apart reached (i := 0) (j := 1) Nat.zero_lt_one rfl rfl rfl

end AcbuBackend.Rates
