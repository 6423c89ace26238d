import AcbuBackend.Effects.Outcome
import AcbuBackend.Runtime.Errors

/-! The shared store of the rate limiter.
A call increments a counter of Redis and lets it expire after the window. On any error it goes on
with the Mongo store, and that one, on any error, increments the same counter of Redis again.
-/

namespace AcbuBackend.RateLimit

open Effects AcbuBackend.Runtime

-- Calls

/-- A document of `cache` that the Mongo store writes. -/
structure RateLimitDocument where
  count : Nat
  expiresAt : Nat

/-- The paths that the operators of an update write, and the expiry that is set. -/
structure RateLimitUpdate where
  inc : String
  set : List String
  setOnInsert : List String
  expiresAt : Nat

/-- The calls of Redis and of MongoDB, and of the clock. -/
inductive LimiterOp
  | now
  | incr (key : String)
  | expire (key : String) (seconds : Nat)
  | pttl (key : String)
  | findOneAndUpdate (key : String) (update : RateLimitUpdate)

abbrev LimiterOp.Ret : LimiterOp → Type
  | .now | .incr _ => Nat
  | .expire .. => Bool
  | .pttl _ => Int
  | .findOneAndUpdate .. => Option RateLimitDocument

abbrev limiterInterface : Interface where
  Op := LimiterOp
  Ret := LimiterOp.Ret
  Err := JsError

abbrev issue (op : LimiterOp) : Prog limiterInterface op.Ret :=
  Prog.await (I := limiterInterface) op

-- The stores

/-- What a store reports of a hit. -/
structure ClientRateLimitInfo where
  totalHits : Nat
  resetTime : Nat
deriving DecidableEq

/-- A store, of one namespace and window. -/
structure RateLimitStore where
  namespaceName : String
  windowMs : Nat

namespace RateLimitStore

def keyPrefix (store : RateLimitStore) : String :=
  "rate_limit:" ++ store.namespaceName

/-- `buildKey`, which is also the key of the fallback. -/
def buildKey (store : RateLimitStore) (key : String) : String :=
  store.keyPrefix ++ ":" ++ key

/-- `Math.ceil(windowMs / 1000)`. -/
def windowSeconds (store : RateLimitStore) : Nat :=
  (store.windowMs + 999) / 1000

/-- Lets a key that was just made expire after the window. -/
def expireFirst (store : RateLimitStore) (redisKey : String) (count : Nat)
    : Prog limiterInterface Unit :=
  if count = 1 then do
    let _ ← issue (.expire redisKey store.windowSeconds)
    return ()
  else return ()

def incrementFallback (store : RateLimitStore) (redisKey : String) : Prog limiterInterface Nat := do
  let count ← issue (.incr redisKey)
  store.expireFirst redisKey count
  return count

/-- The update of the Mongo store. -/
def hitUpdate (expiresAt : Nat) : RateLimitUpdate where
  inc := "value.count"
  set := ["updatedAt", "expiresAt", "namespace"]
  setOnInsert := ["key", "namespace", "value"]
  expiresAt

/-- The increment in MongoDB. The driver answers with the document, whose `value` has no
`value` of its own, so what is read from it is always the default.
-/
def incrementDocument (store : RateLimitStore) (key : String)
    : Prog limiterInterface ClientRateLimitInfo := do
  let time ← issue .now
  let expiresAt := time + store.windowMs
  let _ ← issue (.findOneAndUpdate (store.buildKey key) (hitUpdate expiresAt))
  return { totalHits := 1, resetTime := expiresAt }

def bothFailed : JsError :=
  .error "Both MongoDB and Redis rate limiting failed"

/-- What the Mongo store does after an error. -/
def fallback (store : RateLimitStore) (key : String)
    : Prog limiterInterface ClientRateLimitInfo := do
  let count ← store.incrementFallback (store.buildKey key)
  let time ← issue .now
  return { totalHits := count, resetTime := time + store.windowMs }

/-- `MongoRateLimitStore.increment`. -/
def mongoIncrement (store : RateLimitStore) (key : String)
    : Prog limiterInterface ClientRateLimitInfo :=
  (store.incrementDocument key).catchWith (fun _ =>
    (store.fallback key).catchWith (fun _ => .fail bothFailed))

def redisIncrement (store : RateLimitStore) (key : String)
    : Prog limiterInterface ClientRateLimitInfo := do
  let count ← issue (.incr (store.buildKey key))
  store.expireFirst (store.buildKey key) count
  let ttlMs ← issue (.pttl (store.buildKey key))
  let time ← issue .now
  return { totalHits := count, resetTime := time + (if 0 < ttlMs then ttlMs.toNat else store.windowMs) }

/-- `SharedRateLimitStore.increment`. -/
def increment (store : RateLimitStore) (key : String) : Prog limiterInterface ClientRateLimitInfo :=
  (store.redisIncrement key).catchWith (fun _ => store.mongoIncrement key)

end RateLimitStore

-- Redis and MongoDB

structure Counter where
  count : Nat
  expiresAt : Option Nat := none

def Counter.alive (counter : Counter) (time : Nat) : Bool :=
  counter.expiresAt.all (fun expiresAt => time ≤ expiresAt)

/-- The counters, the documents, and of every counter the number of increments that took effect.
-/
structure World where
  clock : Nat
  redis : String → Option Counter
  documents : String → Option RateLimitDocument
  increments : String → Nat

/-- When a call takes place, and whether it does. -/
structure Choice where
  time : Nat
  outcome : Outcome JsError := .done

/-- The stores at a later time. -/
def World.atTime (w : World) (time : Nat) : World :=
  { w with
    clock := time
    redis := fun key => (w.redis key).filter (fun counter => counter.alive time) }

def World.setCounter (w : World) (key : String) (counter : Option Counter) : World :=
  { w with redis := fun other => if other = key then counter else w.redis other }

/-- One path is the other or leads to it. -/
def pathsOverlap (path other : String) : Bool :=
  path = other || (path ++ ".").toList.isPrefixOf other.toList
    || (other ++ ".").toList.isPrefixOf path.toList

def overlapping : List String → Bool
  | [] => false
  | path :: rest => rest.any (pathsOverlap path) || overlapping rest

def RateLimitUpdate.paths (update : RateLimitUpdate) : List String :=
  update.inc :: update.set ++ update.setOnInsert

theorem overlapping_hitUpdate {expiresAt : Nat}
    : overlapping (RateLimitStore.hitUpdate expiresAt).paths = true := by
  change overlapping ["value.count", "updatedAt", "expiresAt", "namespace", "key", "namespace",
    "value"]
    = true
  decide +kernel

/-- What a call answers, and the stores it leaves. An update that writes overlapping paths is
rejected; a key that is to expire at once is deleted.
-/
def effect (w : World) : (op : LimiterOp) → Except JsError op.Ret × World
  | .now => (.ok w.clock, w)
  | .incr key =>
      let counter : Counter := (w.redis key).getD { count := 0 }
      (.ok (counter.count + 1),
        { w.setCounter key (some { counter with count := counter.count + 1 }) with
          increments := fun other => if other = key then w.increments other
            + 1 else w.increments other })
  | .expire key seconds =>
      match w.redis key with
      | none => (.ok false, w)
      | some counter =>
          (.ok true, w.setCounter key (if seconds = 0 then none
            else some { counter with expiresAt := some (w.clock + seconds * 1000) }))
  | .pttl key =>
      match w.redis key with
      | none => (.ok (-2), w)
      | some counter =>
          (.ok (counter.expiresAt.elim (-1) (fun expiresAt => expiresAt - w.clock)), w)
  | .findOneAndUpdate key update =>
      if overlapping update.paths then
        (.error (.error "Updating the path would create a conflict"), w)
      else
        let document : RateLimitDocument :=
          { count := ((w.documents key).map RateLimitDocument.count).getD 0 + 1
            expiresAt := update.expiresAt }
        (.ok (some document),
          { w with documents := fun other => if other = key then some document else w.documents other })

/-- Time does not go back, and reading it does not fail. -/
def admissible (op : LimiterOp) (x : Choice) (w : World) : Bool :=
  w.clock ≤ x.time
  && match op with
    | .now => !x.outcome.isLost && !x.outcome.isFailed
    | _ => true

def limiterEnvironment : Environment limiterInterface World Choice where
  outcome := Choice.outcome
  effect := fun x w op => effect (w.atTime x.time) op
  admissible := admissible

def limiterSemantics : Semantics limiterInterface World Choice :=
  limiterEnvironment.semantics

end AcbuBackend.RateLimit
