import AcbuBackend.Effects.Evaluation
import AcbuBackend.RateLimit.RateLimiter
import Mathlib.Order.Interval.Finset.Nat

/-! Windows of the shared store when calls fail.
The hits that are reported within a window are the numbers of the increments that took effect in it,
so the bound holds however calls fail. A counter that was made without its expiry never ends, and a
call that fails after it has incremented increments again; else the first hit after a pause is 1.
-/

namespace AcbuBackend.RateLimit

open Effects AcbuBackend.Runtime

-- Rules for a hit

/-- The calls that write no counter. -/
def LimiterOp.reads : LimiterOp → Bool
  | .now | .pttl _ | .findOneAndUpdate .. => true
  | .incr _ | .expire .. => false

/-- `P` holds while a hit is not counted and `R` once it is: what the calls of a hit keep. -/
structure HitRule (redisKey : String) (seconds : Nat) (P : World → Prop) (R : Nat → World → Prop)
    : Prop where
  counted : ∀ {i x count w w'}, P w →
    limiterSemantics.act i (.incr redisKey) x w = some (.ok count, w') → R count w'
  failed : ∀ {i x error w w'}, P w →
    limiterSemantics.act i (.incr redisKey) x w = some (.error error, w') → P w'
  expires : ∀ {i x reply w w'}, R 1 w →
    limiterSemantics.act i (.expire redisKey seconds) x w = some (reply, w') → R 1 w'
  reads : ∀ {i op x reply count w w'}, op.reads = true → R count w →
    limiterSemantics.act i op x w = some (reply, w') → R count w'
  readsBefore : ∀ {i op x reply w w'}, op.reads = true → P w →
    limiterSemantics.act i op x w = some (reply, w') → P w'
  before : ∀ {count w}, R count w → P w

section

variable {store : RateLimitStore} {key : String} {P : World → Prop} {R : Nat → World → Prop}
    {i : Nat}
  {x : Choice} {w w' : World}

theorem limiter_act_cases {op : LimiterOp} {reply : limiterInterface.Reply op}
    (h : limiterSemantics.act i op x w = some (reply, w'))
    : w.clock ≤ x.time
      ∧ (w' = w ∧ Except.isOk reply = false
        ∨ w' = (effect (w.atTime x.time) op).2
          ∧ (Except.isOk reply = true → reply = (effect (w.atTime x.time) op).1)) := by
  obtain ⟨possible, answered⟩ := Environment.act_cases h
  exact ⟨of_decide_eq_true ((Bool.and_eq_true _ _).mp possible).1, answered⟩

theorem findOneAndUpdate_act {redisKey : String} {expiresAt : Nat}
    {document : Option RateLimitDocument}
    : limiterSemantics.act i (.findOneAndUpdate redisKey (RateLimitStore.hitUpdate expiresAt)) x w
      ≠ some (.ok document, w') := by
  intro answered
  obtain ⟨-, ⟨-, failed⟩ | ⟨-, ok⟩⟩ := limiter_act_cases answered
  · cases failed
  · have rejected := ok rfl
    rw [effect, if_pos overlapping_hitUpdate] at rejected
    cases rejected

variable (rule : HitRule (store.buildKey key) store.windowSeconds P R)

include rule

theorem HitRule.wlp_expireFirst {count : Nat} (h : R count w)
    : limiterSemantics.wlp i (store.expireFirst (store.buildKey key) count) w
        (fun _ w' => R count w') (fun _ w' => P w') := by
  unfold RateLimitStore.expireFirst
  split
  · rename_i first
    subst first
    rw [Semantics.wlp_bind]
    exact Semantics.wlp_await.mpr ⟨fun _ _ _ answered => rule.expires h answered,
      fun _ _ _ answered => rule.before (rule.expires h answered)⟩
  · exact h

theorem HitRule.wlp_redisIncrement (h : P w)
    : limiterSemantics.wlp i (store.redisIncrement key) w (fun info w' => R info.totalHits w')
        (fun _ w' => P w') := by
  unfold RateLimitStore.redisIncrement
  simp only [Semantics.wlp_bind]
  refine Semantics.wlp_await.mpr ⟨fun x count w₁ counted => ?_,
    fun _ _ _ failed => rule.failed h failed⟩
  refine Semantics.wlp_mono (rule.wlp_expireFirst (rule.counted h counted)) ?_
    fun _ _ tried => tried
  intro _ w₂ reported
  refine Semantics.wlp_await.mpr ⟨fun x ttlMs w₃ read => ?_,
    fun _ _ _ failed => rule.before (rule.reads rfl reported failed)⟩
  have reported := rule.reads rfl reported read
  exact Semantics.wlp_await.mpr ⟨fun _ _ _ read => rule.reads rfl reported read,
    fun _ _ _ failed => rule.before (rule.reads rfl reported failed)⟩

theorem HitRule.wlp_fallback (h : P w)
    : limiterSemantics.wlp i (store.fallback key) w (fun info w' => R info.totalHits w')
        (fun _ w' => P w') := by
  unfold RateLimitStore.fallback RateLimitStore.incrementFallback
  simp only [Semantics.wlp_bind]
  refine Semantics.wlp_await.mpr ⟨fun x count w₁ counted => ?_,
    fun _ _ _ failed => rule.failed h failed⟩
  refine Semantics.wlp_mono (rule.wlp_expireFirst (rule.counted h counted)) ?_
    fun _ _ tried => tried
  intro _ w₂ reported
  exact Semantics.wlp_await.mpr ⟨fun _ _ _ read => rule.reads rfl reported read,
    fun _ _ _ failed => rule.before (rule.reads rfl reported failed)⟩

theorem HitRule.wlp_mongoIncrement (h : P w)
    : limiterSemantics.wlp i (store.mongoIncrement key) w (fun info w' => R info.totalHits w')
        (fun _ w' => P w') := by
  unfold RateLimitStore.mongoIncrement RateLimitStore.incrementDocument
  simp only [Semantics.wlp_catchWith, Semantics.wlp_bind]
  have again : ∀ w, P w → limiterSemantics.wlp i (store.fallback key) w
      (fun info w' => R info.totalHits w')
      (fun error w' => limiterSemantics.wlp i (.fail RateLimitStore.bothFailed) w'
        (fun (info : ClientRateLimitInfo) w' => R info.totalHits w') (fun _ w' => P w')) :=
    fun w h => rule.wlp_fallback h
  refine Semantics.wlp_await.mpr ⟨fun x time w₁ read => ?_,
    fun _ _ _ failed => again _ (rule.readsBefore rfl h failed)⟩
  have h := rule.readsBefore rfl h read
  exact Semantics.wlp_await.mpr ⟨fun _ _ _ answered => absurd answered findOneAndUpdate_act,
    fun _ _ _ failed => again _ (rule.readsBefore rfl h failed)⟩

theorem HitRule.wlp_increment (h : P w)
    : limiterSemantics.wlp i (store.increment key) w (fun info w' => R info.totalHits w')
        (fun _ w' => P w') := by
  unfold RateLimitStore.increment
  rw [Semantics.wlp_catchWith]
  exact Semantics.wlp_mono (rule.wlp_redisIncrement h) (fun _ _ reported => reported)
    fun _ _ tried => rule.wlp_mongoIncrement tried

end

-- Increments since a time

def hits (counter : Option Counter) : Nat :=
  (counter.map Counter.count).getD 0

/-- The counter since a time at which it was not there: it is there once an increment took effect,
and for the length of the window it shows their number.
-/
structure Since (redisKey : String) (seconds start base : Nat) (w : World) : Prop where
  started : start ≤ w.clock
  base_le : base ≤ w.increments redisKey
  absent : w.increments redisKey = base → w.redis redisKey = none
  shows : w.clock ≤ start + seconds * 1000 → hits (w.redis redisKey) + base = w.increments redisKey
  kept : w.clock ≤ start + seconds * 1000 → ∀ counter expiresAt, w.redis redisKey = some counter →
    counter.expiresAt = some expiresAt → start + seconds * 1000 ≤ expiresAt

/-- A number that was reported: 1 if a single increment took effect, and for the length of the
window the number of increments.
-/
structure Reported (redisKey : String) (seconds start base earlier count : Nat) (w : World)
    : Prop where
  since : Since redisKey seconds start base w
  grown : earlier < w.increments redisKey
  first : w.increments redisKey = base + 1 → count = 1
  counts : w.clock ≤ start + seconds * 1000 → count + base = w.increments redisKey

section

variable {redisKey : String} {seconds start base earlier count time : Nat} {w w' : World}

theorem Since.redis_atTime (h : Since redisKey seconds start base w) (later : w.clock ≤ time)
    (within : time ≤ start + seconds * 1000)
    : (w.atTime time).redis redisKey = w.redis redisKey := by
  simp only [World.atTime]
  cases there : w.redis redisKey with
  | none => rfl
  | some counter =>
      refine Option.filter_eq_some_iff.mpr ⟨rfl, ?_⟩
      rw [Counter.alive, Option.all_eq_true]
      intro expiresAt expires
      have bound := h.kept (later.trans within) counter expiresAt there expires
      exact decide_eq_true (within.trans bound)

theorem Since.atTime (h : Since redisKey seconds start base w) (later : w.clock ≤ time)
    : Since redisKey seconds start base (w.atTime time) where
  started := h.started.trans later
  base_le := h.base_le
  absent := fun none => by simp [World.atTime, h.absent none]
  shows := fun within => by
    rw [h.redis_atTime later within]
    exact h.shows (later.trans within)
  kept := fun within => by
    rw [h.redis_atTime later within]
    exact h.kept (later.trans within)

theorem Since.incr (h : Since redisKey seconds start base w)
    : Reported redisKey seconds start base (w.increments redisKey) (hits (w.redis redisKey) + 1)
        (effect w (.incr redisKey)).2 := by
  have increments : (effect w (.incr redisKey)).2.increments redisKey = w.increments redisKey + 1 :=
    if_pos rfl
  have counter : (effect w (.incr redisKey)).2.redis redisKey
      = some { (w.redis redisKey).getD { count := 0 } with
          count := ((w.redis redisKey).getD { count := 0 }).count + 1 } := if_pos rfl
  have count : ((w.redis redisKey).getD { count := 0 }).count = hits (w.redis redisKey) := by
    unfold hits
    cases w.redis redisKey <;> rfl
  have base_le := h.base_le
  refine ⟨⟨h.started, ?_, ?_, ?_, ?_⟩, ?_, ?_, ?_⟩
  · omega
  · intro same
    omega
  · intro within
    have shows := h.shows within
    rw [counter, increments]
    change ((w.redis redisKey).getD { count := 0 }).count + 1 + base = w.increments redisKey + 1
    omega
  · intro within counter' expiresAt there expires
    rw [counter] at there
    obtain rfl := Option.some.inj there
    cases before : w.redis redisKey with
    | none =>
        rw [before] at expires
        cases expires
    | some old =>
        rw [before] at expires
        exact h.kept within old expiresAt before expires
  · omega
  · intro one
    have none := h.absent (by omega)
    rw [none]
    rfl
  · intro within
    have shows := h.shows within
    omega

theorem Since.expire (h : Since redisKey seconds start base w) (positive : 0 < seconds)
    : Since redisKey seconds start base (effect w (.expire redisKey seconds)).2 := by
  simp only [effect]
  cases there : w.redis redisKey with
  | none => exact h
  | some counter =>
      have written : (w.setCounter redisKey (if seconds = 0 then none
          else some { counter with expiresAt := some (w.clock + seconds * 1000) })).redis redisKey
          = some { counter with expiresAt := some (w.clock + seconds * 1000) } := by
        rw [if_neg (by omega)]
        exact if_pos rfl
      refine ⟨h.started, h.base_le, fun none => ?_, fun within => ?_, ?_⟩
      · rw [h.absent none] at there
        cases there
      · have shows := h.shows within
        rw [there] at shows
        rw [written]
        exact shows
      · intro _ counter' expiresAt there' expires
        rw [written] at there'
        obtain rfl := Option.some.inj there'
        obtain rfl := Option.some.inj expires
        have started := h.started
        omega

theorem Reported.of_since (h : Reported redisKey seconds start base earlier count w)
    (since : Since redisKey seconds start base w') (later : w.clock ≤ w'.clock)
    (same : w'.increments redisKey = w.increments redisKey)
    : Reported redisKey seconds start base earlier count w' where
  since
  grown := same ▸ h.grown
  first := fun one => h.first (same ▸ one)
  counts := fun within => same ▸ h.counts (later.trans within)

theorem effect_reads {op : LimiterOp} (reads : op.reads = true)
    : (effect w op).2.clock = w.clock ∧ (effect w op).2.redis = w.redis
      ∧ (effect w op).2.increments = w.increments := by
  cases op with
  | now => exact ⟨rfl, rfl, rfl⟩
  | incr _ | expire _ _ => cases reads
  | pttl _ =>
      simp only [effect]
      split <;> exact ⟨rfl, rfl, rfl⟩
  | findOneAndUpdate _ _ =>
      simp only [effect]
      split <;> exact ⟨rfl, rfl, rfl⟩

variable {i : Nat} {x : Choice}

theorem Since.reads {op : LimiterOp} {reply : limiterInterface.Reply op}
    (h : Since redisKey seconds start base w) (reads : op.reads = true)
    (answered : limiterSemantics.act i op x w = some (reply, w'))
    : Since redisKey seconds start base w' ∧ w.clock ≤ w'.clock
      ∧ w'.increments redisKey = w.increments redisKey := by
  obtain ⟨onTime, ⟨rfl, -⟩ | ⟨rfl, -⟩⟩ := limiter_act_cases answered
  · exact ⟨h, le_refl _, rfl⟩
  · obtain ⟨clock, redis, increments⟩ := effect_reads (w := w.atTime x.time) reads
    have later := h.atTime onTime
    refine ⟨⟨?_, ?_, ?_, ?_, ?_⟩, ?_, ?_⟩
    · rw [clock]
      exact later.started
    · rw [increments]
      exact later.base_le
    · rw [increments, redis]
      exact later.absent
    · rw [clock, increments, redis]
      exact later.shows
    · rw [clock, redis]
      exact later.kept
    · rw [clock]
      exact onTime
    · rw [increments]
      rfl

theorem Since.counted (h : Since redisKey seconds start base w)
    (more : earlier ≤ w.increments redisKey)
    (answered : limiterSemantics.act i (.incr redisKey) x w = some (.ok count, w'))
    : Reported redisKey seconds start base earlier count w' := by
  obtain ⟨onTime, ⟨-, failed⟩ | ⟨rfl, ok⟩⟩ := limiter_act_cases answered
  · cases failed
  · have counted := (h.atTime onTime).incr
    obtain rfl : count = hits ((w.atTime x.time).redis redisKey) + 1 := by
      have same := Except.ok.inj (ok rfl)
      rw [same, hits]
      cases (w.atTime x.time).redis redisKey <;> rfl
    exact ⟨counted.since, Nat.lt_of_le_of_lt more counted.grown, counted.first, counted.counts⟩

theorem sinceRule (positive : 0 < seconds)
    : HitRule redisKey seconds
        (fun w => Since redisKey seconds start base w ∧ earlier ≤ w.increments redisKey)
        (fun count w => Reported redisKey seconds start base earlier count w) where
  counted := fun h answered => h.1.counted h.2 answered
  failed := by
    rintro i x error w w' ⟨h, more⟩ answered
    obtain ⟨onTime, ⟨rfl, -⟩ | ⟨rfl, -⟩⟩ := limiter_act_cases answered
    · exact ⟨h, more⟩
    · have counted := (h.atTime onTime).incr
      exact ⟨counted.since, more.trans counted.grown.le⟩
  expires := by
    intro i x reply w w' h answered
    obtain ⟨onTime, ⟨rfl, -⟩ | ⟨rfl, -⟩⟩ := limiter_act_cases answered
    · exact h
    · have clock : (effect (w.atTime x.time) (.expire redisKey seconds)).2.clock = x.time := by
        simp only [effect]
        split <;> rfl
      refine h.of_since ((h.since.atTime onTime).expire positive) (by rw [clock]; exact onTime) ?_
      simp only [effect]
      split <;> rfl
  reads := by
    intro i op x reply count w w' reads h answered
    obtain ⟨since, later, same⟩ := h.since.reads reads answered
    exact h.of_since since later same
  readsBefore := by
    rintro i op x reply w w' reads ⟨h, more⟩ answered
    obtain ⟨since, -, same⟩ := h.reads reads answered
    exact ⟨since, same ▸ more⟩
  before := fun h => ⟨h.since, h.grown.le⟩

-- Counters that expire, and counters that do not

/-- A counter has a hit, and expires within a window if it expires at all. -/
def Bounded (redisKey : String) (seconds : Nat) (w : World) : Prop :=
  ∀ counter, w.redis redisKey = some counter →
    1 ≤ counter.count ∧ ∀ expiresAt, counter.expiresAt = some expiresAt →
      expiresAt ≤ w.clock + seconds * 1000

/-- The counter does not expire. -/
def Stuck (redisKey : String) (w : World) : Prop :=
  ∃ counter, w.redis redisKey = some counter ∧ counter.expiresAt = none ∧ 1 ≤ counter.count

theorem Bounded.atTime (h : Bounded redisKey seconds w) (later : w.clock ≤ time)
    : Bounded redisKey seconds (w.atTime time) := by
  intro counter there
  obtain ⟨there, -⟩ := Option.filter_eq_some_iff.mp there
  obtain ⟨hit, bound⟩ := h counter there
  refine ⟨hit, fun expiresAt expires => (bound expiresAt expires).trans ?_⟩
  exact Nat.add_le_add_right later _

theorem Stuck.atTime (h : Stuck redisKey w) (time : Nat) : Stuck redisKey (w.atTime time) := by
  obtain ⟨counter, there, forever, hit⟩ := h
  refine ⟨counter, ?_, forever, hit⟩
  exact Option.filter_eq_some_iff.mpr ⟨there, by simp [Counter.alive, forever]⟩

theorem Bounded.reads {op : LimiterOp} {reply : limiterInterface.Reply op}
    (h : Bounded redisKey seconds w) (reads : op.reads = true)
    (answered : limiterSemantics.act i op x w = some (reply, w'))
    : Bounded redisKey seconds w' := by
  obtain ⟨onTime, ⟨rfl, -⟩ | ⟨rfl, -⟩⟩ := limiter_act_cases answered
  · exact h
  · obtain ⟨clock, redis, -⟩ := effect_reads (w := w.atTime x.time) reads
    unfold Bounded
    rw [clock, redis]
    exact h.atTime onTime

theorem Stuck.reads {op : LimiterOp} {reply : limiterInterface.Reply op} (h : Stuck redisKey w)
    (reads : op.reads = true) (answered : limiterSemantics.act i op x w = some (reply, w'))
    : Stuck redisKey w' := by
  obtain ⟨-, ⟨rfl, -⟩ | ⟨rfl, -⟩⟩ := limiter_act_cases answered
  · exact h
  · obtain ⟨-, redis, -⟩ := effect_reads (w := w.atTime x.time) reads
    unfold Stuck
    rw [redis]
    exact h.atTime x.time

theorem Bounded.incr {reply : limiterInterface.Reply (.incr redisKey)}
    (h : Bounded redisKey seconds w)
    (answered : limiterSemantics.act i (.incr redisKey) x w = some (reply, w'))
    : Bounded redisKey seconds w' := by
  obtain ⟨onTime, ⟨rfl, -⟩ | ⟨rfl, -⟩⟩ := limiter_act_cases answered
  · exact h
  · intro counter there
    have written : (effect (w.atTime x.time) (.incr redisKey)).2.redis redisKey = some _ :=
      if_pos rfl
    obtain rfl := Option.some.inj (written.symm.trans there)
    refine ⟨Nat.le_add_left _ _, fun expiresAt expires => ?_⟩
    cases before : (w.atTime x.time).redis redisKey with
    | none =>
        rw [before] at expires
        cases expires
    | some old =>
        rw [before] at expires
        exact (h.atTime onTime old before).2 expiresAt expires

theorem Bounded.expire {reply : limiterInterface.Reply (.expire redisKey seconds)}
    (h : Bounded redisKey seconds w)
    (answered : limiterSemantics.act i (.expire redisKey seconds) x w = some (reply, w'))
    : Bounded redisKey seconds w' := by
  obtain ⟨onTime, ⟨rfl, -⟩ | ⟨rfl, -⟩⟩ := limiter_act_cases answered
  · exact h
  · simp only [effect]
    split
    · exact h.atTime onTime
    · rename_i old before
      intro counter there
      have written : (if seconds = 0 then none
          else some { old with expiresAt := some (x.time + seconds * 1000) }) = some counter :=
        (if_pos rfl).symm.trans there
      split at written
      · cases written
      · obtain rfl := Option.some.inj written
        refine ⟨(h.atTime onTime old before).1, fun expiresAt expires => ?_⟩
        obtain rfl := Option.some.inj expires
        exact le_refl _

theorem boundedRule
    : HitRule redisKey seconds (Bounded redisKey seconds) (fun _ => Bounded redisKey seconds) where
  counted := fun h answered => h.incr answered
  failed := fun h answered => h.incr answered
  expires := fun h answered => h.expire answered
  reads := fun reads h answered => h.reads reads answered
  readsBefore := fun reads h answered => h.reads reads answered
  before := id

theorem Stuck.incr {reply : limiterInterface.Reply (.incr redisKey)} (h : Stuck redisKey w)
    (answered : limiterSemantics.act i (.incr redisKey) x w = some (reply, w'))
    : Stuck redisKey w' ∧ ∀ count, reply = .ok count → 2 ≤ count := by
  obtain ⟨-, ⟨rfl, failed⟩ | ⟨rfl, ok⟩⟩ := limiter_act_cases answered
  · refine ⟨h, ?_⟩
    rintro count rfl
    cases failed
  · obtain ⟨counter, there, forever, hit⟩ := h.atTime x.time
    refine ⟨⟨{ counter with count := counter.count + 1 }, ?_, forever, Nat.le_add_left _ _⟩, ?_⟩
    · simp [effect, World.setCounter, there]
    · rintro count rfl
      have same := Except.ok.inj (ok rfl)
      rw [there] at same
      rw [same]
      exact Nat.succ_le_succ hit

theorem stuckRule
    : HitRule redisKey seconds (Stuck redisKey) (fun count w => Stuck redisKey w ∧ 2 ≤ count) where
  counted := fun h answered => ⟨(h.incr answered).1, (h.incr answered).2 _ rfl⟩
  failed := fun h answered => (h.incr answered).1
  expires := fun h => absurd h.2 (by decide)
  reads := fun reads h answered => ⟨h.1.reads reads answered, h.2⟩
  readsBefore := fun reads h answered => h.reads reads answered
  before := And.left

end

-- Sequences of hits

/-- A hit: when it began and ended, and what was reported of it. -/
structure Hit where
  start : Nat
  finish : Nat
  totalHits : Option Nat

def totalOf : Except JsError ClientRateLimitInfo → Option Nat
  | .ok info => some info.totalHits
  | .error _ => none

/-- The hits of a key one after the other, the newest first, and the state they lead to. -/
inductive Performed (store : RateLimitStore) (key : String) (w₀ : World) : List Hit → World → Prop
  | start : Performed store key w₀ [] w₀
  | hit {hits : List Hit} {w w' : World} {start : Nat} {result : Except JsError ClientRateLimitInfo}
      (earlier : Performed store key w₀ hits w) (arrives : w.clock ≤ start)
      (evaluates : (store.increment key).Evaluates limiterSemantics 0 (w.atTime start) result w')
      : Performed store key w₀ (⟨start, w'.clock, totalOf result⟩ :: hits) w'

def reportedBy (deadline : Nat) (hits : List Hit) : List Nat :=
  hits.filterMap (fun hit => if hit.finish ≤ deadline then hit.totalHits else none)

/-- A hit that ended in time reported a number up to the maximum. -/
def Hit.admitted (deadline m : Nat) (hit : Hit) : Bool :=
  hit.finish ≤ deadline && hit.totalHits.any (fun totalHits => totalHits ≤ m)

/-- The counter of a key is not left without an expiry. -/
def Expires (redisKey : String) (w : World) : Prop :=
  ∀ counter, w.redis redisKey = some counter → counter.expiresAt.isSome = true

section

variable {store : RateLimitStore} {key : String} {w₀ w w' : World} {hits : List Hit}

theorem reportedBy_cons {deadline : Nat} {hit : Hit}
    : reportedBy deadline (hit :: hits)
      = (if hit.finish ≤ deadline then hit.totalHits.toList else [])
        ++ reportedBy deadline hits := by
  unfold reportedBy
  split
  · cases reported : hit.totalHits <;> simp [*]
  · simp [*]

theorem countP_admitted {deadline m : Nat}
    : hits.countP (Hit.admitted deadline m)
      = ((reportedBy deadline hits).filter (fun totalHits => totalHits ≤ m)).length := by
  induction hits with
  | nil => rfl
  | cons hit rest ih =>
      rw [List.countP_cons, ih, reportedBy_cons, List.filter_append, List.length_append,
        Nat.add_comm]
      congr 1
      unfold Hit.admitted
      by_cases within : hit.finish ≤ deadline
      · cases reported : hit.totalHits with
        | none => simp [within]
        | some totalHits => by_cases small : totalHits ≤ m <;> simp [within, small]
      · simp [within]

theorem length_le_of_different {totals : List Nat} {m : Nat} (different : totals.Nodup)
    (range : ∀ total ∈ totals, 1 ≤ total ∧ total ≤ m)
    : totals.length ≤ m := by
  have subset : totals.toFinset ⊆ Finset.Icc 1 m := fun total member =>
    Finset.mem_Icc.mpr (range total (List.mem_toFinset.mp member))
  have bound := Finset.card_le_card subset
  rwa [List.toFinset_card_of_nodup different, Nat.card_Icc, Nat.add_sub_cancel] at bound

/-- The reports of a window are different numbers of increments. -/
structure Counting (store : RateLimitStore) (key : String) (start base : Nat) (hits : List Hit)
    (w : World)
    : Prop where
  since : Since (store.buildKey key) store.windowSeconds start base w
  ordered : (reportedBy (start + store.windowSeconds * 1000) hits).Pairwise (· > ·)
  range : ∀ total ∈ reportedBy (start + store.windowSeconds * 1000) hits,
    1 ≤ total ∧ total + base ≤ w.increments (store.buildKey key)

theorem Counting.atTime {start base time : Nat} (h : Counting store key start base hits w)
    (later : w.clock ≤ time)
    : Counting store key start base hits (w.atTime time) :=
  ⟨h.since.atTime later, h.ordered, h.range⟩

theorem Counting.hit {start base begun : Nat} {result : Except JsError ClientRateLimitInfo}
    (positive : 0 < store.windowSeconds) (h : Counting store key start base hits w)
    (evaluates : (store.increment key).Evaluates limiterSemantics 0 w result w')
    : Counting store key start base (⟨begun, w'.clock, totalOf result⟩ :: hits) w' := by
  have rule : HitRule (store.buildKey key) store.windowSeconds
      (fun w' => Since (store.buildKey key) store.windowSeconds start base w'
        ∧ w.increments (store.buildKey key) ≤ w'.increments (store.buildKey key))
      (fun count w' => Reported (store.buildKey key) store.windowSeconds start base
        (w.increments (store.buildKey key)) count w') :=
    sinceRule positive
  have judged := rule.wlp_increment (i := 0) ⟨h.since, le_refl _⟩
  have older : ∀ total ∈ reportedBy (start + store.windowSeconds * 1000) hits,
      w.increments (store.buildKey key) ≤ w'.increments (store.buildKey key) →
      1 ≤ total ∧ total + base ≤ w'.increments (store.buildKey key) :=
    fun total member grown => ⟨(h.range total member).1, (h.range total member).2.trans grown⟩
  cases result with
  | error error =>
      have known := Semantics.wlp_error judged evaluates
      have same : reportedBy (start + store.windowSeconds * 1000)
          (⟨begun, w'.clock, totalOf (.error error)⟩ :: hits)
          = reportedBy (start + store.windowSeconds * 1000) hits := by
        rw [reportedBy_cons]
        simp [totalOf]
      refine ⟨known.1, by rw [same]; exact h.ordered, ?_⟩
      rw [same]
      exact fun total member => older total member known.2
  | ok info =>
      have known := Semantics.wlp_value judged evaluates
      by_cases within : w'.clock ≤ start + store.windowSeconds * 1000
      · have counts := known.counts within
        have grown := known.grown
        have base_le := h.since.base_le
        have more : reportedBy (start + store.windowSeconds * 1000)
            (⟨begun, w'.clock, totalOf (.ok info)⟩ :: hits)
            = info.totalHits :: reportedBy (start + store.windowSeconds * 1000) hits := by
          rw [reportedBy_cons, if_pos within]
          rfl
        refine ⟨known.since, ?_, ?_⟩
        · rw [more]
          refine List.pairwise_cons.mpr ⟨fun total member => ?_, h.ordered⟩
          have bound := (h.range total member).2
          omega
        · rw [more]
          exact List.forall_mem_cons.mpr ⟨by omega, fun total member => older total member grown.le⟩
      · have same : reportedBy (start + store.windowSeconds * 1000)
            (⟨begun, w'.clock, totalOf (.ok info)⟩ :: hits)
            = reportedBy (start + store.windowSeconds * 1000) hits := by
          rw [reportedBy_cons, if_neg within]
          rfl
        refine ⟨known.since, by rw [same]; exact h.ordered, ?_⟩
        rw [same]
        exact fun total member => older total member known.grown.le

theorem Counting.none {begun : Nat} (gone : w.redis (store.buildKey key) = none)
    (begins : w.clock = begun)
    : Counting store key begun (w.increments (store.buildKey key)) [] w := by
  refine ⟨⟨begins.ge, le_refl _, fun _ => gone, fun _ => ?_, fun _ counter _ there => ?_⟩,
    List.Pairwise.nil, fun _ absurd => by cases absurd⟩
  · rw [gone]
    exact Nat.zero_add _
  · rw [gone] at there
    cases there

theorem counting_of_performed (positive : 0 < store.windowSeconds)
    (absent : w₀.redis (store.buildKey key) = none) (performed : Performed store key w₀ hits w)
    : ∀ first, hits.getLast? = some first →
        Counting store key first.start (w₀.increments (store.buildKey key)) hits w := by
  induction performed with
  | start => exact fun _ absurd => by cases absurd
  | @hit hits w w' begun result earlier arrives evaluates ih =>
      intro first last
      cases hits with
      | nil =>
          obtain rfl := Option.some.inj last
          cases earlier
          have gone : (w₀.atTime begun).redis (store.buildKey key) = none := by
            simp [World.atTime, absent]
          exact (Counting.none gone rfl).hit positive evaluates
      | cons other rest => exact ((ih first last).atTime arrives).hit positive evaluates

theorem totalHits_after_pause {begun : Nat} {info : ClientRateLimitInfo}
    (positive : 0 < store.windowSeconds) (bounded
      : Bounded (store.buildKey key) store.windowSeconds w)
    (pause : w.clock + store.windowSeconds * 1000 < begun)
    (evaluates : (store.increment key).Evaluates limiterSemantics 0 (w.atTime begun) (.ok info) w')
    : (Expires (store.buildKey key) w →
        w'.increments (store.buildKey key) = w.increments (store.buildKey key) + 1
          → info.totalHits = 1)
      ∧ (w'.clock ≤ begun + store.windowSeconds * 1000 → info.totalHits = 1 →
        Expires (store.buildKey key) w
        ∧ w'.increments (store.buildKey key) = w.increments (store.buildKey key) + 1) := by
  by_cases expires : Expires (store.buildKey key) w
  · have gone : (w.atTime begun).redis (store.buildKey key) = none := by
      simp only [World.atTime, Option.filter_eq_none_iff]
      intro counter there alive
      obtain ⟨expiresAt, ends⟩ := Option.isSome_iff_exists.mp (expires counter there)
      have bound := (bounded counter there).2 expiresAt ends
      rw [Counter.alive, ends, Option.all_some, decide_eq_true_eq] at alive
      omega
    have rule : HitRule (store.buildKey key) store.windowSeconds
        (fun w' => Since (store.buildKey key) store.windowSeconds begun
            (w.increments (store.buildKey key)) w'
          ∧ w.increments (store.buildKey key) ≤ w'.increments (store.buildKey key))
        (fun count w' => Reported (store.buildKey key) store.windowSeconds begun
          (w.increments (store.buildKey key)) (w.increments (store.buildKey key)) count w') :=
      sinceRule positive
    have known := Semantics.wlp_value
      (rule.wlp_increment (i := 0) ⟨(Counting.none gone rfl).since, le_refl _⟩) evaluates
    refine ⟨fun _ single => known.first single, fun prompt one => ⟨expires, ?_⟩⟩
    have counts := known.counts prompt
    omega
  · have stuck : Stuck (store.buildKey key) (w.atTime begun) := by
      unfold Expires at expires
      simp only [not_forall] at expires
      obtain ⟨counter, there, forever⟩ := expires
      have stuck : Stuck (store.buildKey key) w :=
        ⟨counter, there, by simpa using forever, (bounded counter there).1⟩
      exact stuck.atTime begun
    have rule : HitRule (store.buildKey key) store.windowSeconds (Stuck (store.buildKey key))
        (fun count w => Stuck (store.buildKey key) w ∧ 2 ≤ count) := stuckRule
    have known := Semantics.wlp_value (rule.wlp_increment (i := 0) stuck) evaluates
    exact ⟨fun expires' => absurd expires' expires, fun _ one => by omega⟩

theorem bounded_of_performed (absent : w₀.redis (store.buildKey key) = none)
    (performed : Performed store key w₀ hits w)
    : Bounded (store.buildKey key) store.windowSeconds w := by
  induction performed with
  | start =>
      intro counter there
      rw [absent] at there
      cases there
  | hit earlier arrives evaluates ih =>
      have rule : HitRule (store.buildKey key) store.windowSeconds
          (Bounded (store.buildKey key) store.windowSeconds)
          (fun _ => Bounded (store.buildKey key) store.windowSeconds) := boundedRule
      exact Semantics.wlp_world (rule.wlp_increment (i := 0) (ih.atTime arrives)) evaluates

end

/-- However calls fail, at most `m` of the hits within a window after the first one report a number
up to `m`. A hit after a pause reports 1 if its counter was not left without an expiry and a single
increment of the hit took effect; and for a hit that takes no longer than the window, only then.
-/
theorem windows_recover_iff (store : RateLimitStore) (positive : 0 < store.windowMs) (key : String)
    (m : Nat) (w₀ : World) (absent : w₀.redis (store.buildKey key) = none) (hits : List Hit)
    (w : World)
    (performed : Performed store key w₀ hits w) (begun : Nat) (info : ClientRateLimitInfo)
    (w' : World)
    (pause : w.clock + store.windowSeconds * 1000 < begun)
    (evaluates : (store.increment key).Evaluates limiterSemantics 0 (w.atTime begun) (.ok info) w')
    : (∀ first, hits.getLast? = some first →
        hits.countP (Hit.admitted (first.start + store.windowMs) m) ≤ m)
      ∧ (Expires (store.buildKey key) w
          ∧ w'.increments (store.buildKey key) = w.increments (store.buildKey key) + 1 →
        info.totalHits = 1)
      ∧ (w'.clock ≤ begun + store.windowSeconds * 1000 →
        (info.totalHits = 1
          ↔ Expires (store.buildKey key) w
            ∧ w'.increments (store.buildKey key) = w.increments (store.buildKey key) + 1)) := by
  have rounded : store.windowMs ≤ store.windowSeconds * 1000 := by
    unfold RateLimitStore.windowSeconds
    omega
  have seconds : 0 < store.windowSeconds := by omega
  obtain ⟨sufficient, necessary⟩ := totalHits_after_pause seconds
    (bounded_of_performed absent performed) pause evaluates
  refine ⟨fun first last => ?_, fun known => sufficient known.1 known.2,
    fun prompt => ⟨necessary prompt, fun known => sufficient known.1 known.2⟩⟩
  have counting := counting_of_performed seconds absent performed first last
  have more : hits.countP (Hit.admitted (first.start + store.windowMs) m)
      ≤ hits.countP (Hit.admitted (first.start + store.windowSeconds * 1000) m) := by
    refine List.countP_mono_left fun hit _ admitted => ?_
    unfold Hit.admitted at admitted ⊢
    rw [Bool.and_eq_true, decide_eq_true_eq] at admitted ⊢
    exact ⟨by omega, admitted.2⟩
  refine more.trans ?_
  rw [countP_admitted]
  refine length_le_of_different ?_ fun total member => ?_
  · exact (counting.ordered.imp fun greater => greater.ne').filter _
  · obtain ⟨member, small⟩ := List.mem_filter.mp member
    exact ⟨(counting.range total member).1, of_decide_eq_true small⟩

-- A window of a minute

def minuteStore : RateLimitStore where
  namespaceName := "2fa"
  windowMs := 60000

def noHits : World where
  clock := 0
  redis := fun _ => none
  documents := fun _ => none
  increments := fun _ => 0

def afterHit (begun : Nat) (choices : List Choice) (w : World) : World :=
  (minuteStore.increment "user").after limiterSemantics 0 choices (w.atTime begun)

theorem afterHit_evaluates {begun : Nat} {choices : List Choice} {w : World}
    {result : Except JsError ClientRateLimitInfo}
    (h : ((minuteStore.increment "user").evaluate limiterSemantics 0 choices (w.atTime begun)).map
      Prod.fst
      = some result)
    : (minuteStore.increment "user").Evaluates limiterSemantics 0 (w.atTime begun) result
        (afterHit begun choices w) :=
  Prog.evaluates_after h

/-- A first hit of which every call succeeds. -/
def counted : World :=
  afterHit 1000 (List.replicate 4 { time := 1000 }) noHits

/-- A first hit of which the expiry fails, so that it is counted again. -/
def unexpiring : World :=
  afterHit 1000 ({ time := 1000 } :: { time := 1000, outcome := .failed (.error "connection lost") }
    :: List.replicate 4 { time := 1000 }) noHits

theorem counted_performed : Performed minuteStore "user" noHits [⟨1000, 1000, some 1⟩] counted := by
  have evaluates : (minuteStore.increment "user").Evaluates limiterSemantics 0 (noHits.atTime 1000)
      (.ok { totalHits := 1, resetTime := 61000 }) counted :=
    afterHit_evaluates (by decide +kernel)
  exact .hit .start (by decide) evaluates

theorem unexpiring_performed
    : Performed minuteStore "user" noHits [⟨1000, 1000, some 2⟩] unexpiring := by
  have evaluates : (minuteStore.increment "user").Evaluates limiterSemantics 0 (noHits.atTime 1000)
      (.ok { totalHits := 2, resetTime := 61000 }) unexpiring :=
    afterHit_evaluates (by decide +kernel)
  exact .hit .start (by decide) evaluates

/-- A hit a day after another one whose calls all succeeded is the first one of its window. -/
theorem windows_recover_day
    : ∃ w', (minuteStore.increment "user").Evaluates limiterSemantics 0 (counted.atTime 86401000)
        (.ok { totalHits := 1, resetTime := 86461000 }) w'
      ∧ Expires "rate_limit:2fa:user" counted
      ∧ w'.increments "rate_limit:2fa:user" = counted.increments "rate_limit:2fa:user" + 1 := by
  have evaluates : (minuteStore.increment "user").Evaluates limiterSemantics 0
    (counted.atTime 86401000)
      (.ok { totalHits := 1, resetTime := 86461000 })
      (afterHit 86401000 (List.replicate 4 { time := 86401000 }) counted) :=
    afterHit_evaluates (by decide +kernel)
  have recovered := windows_recover_iff minuteStore (by decide) "user" 1 noHits rfl _ counted
    counted_performed 86401000 _ _ (by decide +kernel) evaluates
  exact ⟨_, evaluates, (recovered.2.2 (by decide +kernel)).mp rfl⟩

/-- A hit a day after another one whose expiry failed is the third one. -/
theorem windows_stuck
    : Performed minuteStore "user" noHits [⟨1000, 1000, some 2⟩] unexpiring
      ∧ unexpiring.clock + minuteStore.windowSeconds * 1000 < 86401000
      ∧ ∃ w', (minuteStore.increment "user").Evaluates limiterSemantics 0
        (unexpiring.atTime 86401000)
          (.ok { totalHits := 3, resetTime := 86461000 }) w' := by
  refine ⟨unexpiring_performed, by decide +kernel,
    afterHit 86401000 (List.replicate 3 { time := 86401000 }) unexpiring, ?_⟩
  exact afterHit_evaluates (by decide +kernel)

end AcbuBackend.RateLimit
