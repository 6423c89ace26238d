import AcbuBackend.Cache.CacheService
import Mathlib.Algebra.Order.BigOperators.Group.List
import Mathlib.Algebra.Order.Ring.Int
import Mathlib.Data.Finset.Card
import Mathlib.Data.Finset.Range

/-! How many increments of a key return a value under a cap.
At the cap no document matches, and the document that is then inserted is refused only by an index
that is unique. So a cap is kept where the key has a unique index, and with the indexes that are
there only until one increment more is executed than the cap allows.
-/

namespace AcbuBackend.Cache

open Effects

-- Increments of a key

/-- What two increments of a key may differ in. -/
structure IncrementCall where
  ttl : Nat
  setOnInsert : List (String × CacheField) := []

def IncrementCall.prog (key field : String) (max : Int) (call : IncrementCall)
    : Prog cacheInterface (Option CacheValue) :=
  increment key field 1 { ttl := call.ttl, max := some max, setOnInsert := call.setOnInsert }

abbrev CacheConfig := Config cacheInterface (Option CacheValue) World

def incrementCalls (key field : String) (max : Int) (calls : List IncrementCall) (w : World)
    : CacheConfig :=
  .initial w (calls.map (IncrementCall.prog key field max))

def counters (key : String) (documents : List CacheDocument) : List CacheDocument :=
  documents.filter (fun doc => doc.key = key)

/-- The step takes place before a document of the key expires. -/
def WithinTtl (key : String) (c : CacheConfig) (_ : Nat) (x : Choice) : Prop :=
  ∀ doc ∈ counters key c.world.documents, x.time < doc.expiresAt

instance (key : String) (c : CacheConfig) (i : Nat) (x : Choice)
    : Decidable (WithinTtl key c i x) :=
  inferInstanceAs (Decidable (∀ doc ∈ counters key c.world.documents, x.time < doc.expiresAt))

/-- Of the calls, at most `max` have returned a value, and the others return `null` unless the
collection fails; the key has one document at most.
-/
structure Capped (key : String) (max : Int) (calls : List IncrementCall) (c : CacheConfig)
    : Prop where
  values : (((Finset.range calls.length).filter (fun i => (c.value? i).any Option.isSome)).card
    : Int) ≤ max
  others : ∀ i error, c.error? i = some error → isDuplicateKeyError error = false
  single : (counters key c.world.documents).length ≤ 1

-- The calls of an increment

def isIncrement (key field : String) (max : Int) (filter : CacheFilter) (update : CacheUpdate)
    : Bool :=
  filter = { key, below := some (field, max) } && update.field = field && update.amount = 1

/-- A call makes one update; the phase says, once it is made, whether it was answered with a
document.
-/
def counterProtocol (key field : String) (max : Int) : Protocol cacheInterface (Option Bool) where
  next
    | phase, .now, _ => some phase
    | phase, .findOneAndUpdate filter update, reply =>
        if phase = none ∧ isIncrement key field max filter update then
          some (some (Except.isOk reply))
        else none

section

variable {key field : String} {max : Int}

theorem wp_prog (call : IncrementCall)
    : (counterProtocol key field max).wp (call.prog key field max) none
        (fun value phase => value.isSome = true → phase = some true)
        (fun error _ => isDuplicateKeyError error = false) := by
  have thrown : ∀ (error : MongoError) (phase : Option Bool),
      (counterProtocol key field max).wp
        (if isDuplicateKeyError error then return none else .fail error) phase
        (fun (value : Option CacheValue) phase => value.isSome = true → phase = some true)
        (fun error _ => isDuplicateKeyError error = false) := by
    intro error phase
    split
    · exact fun absurd => by cases absurd
    · rename_i other
      rw [Bool.not_eq_true] at other
      exact other
  unfold IncrementCall.prog increment incrementDocument
  rw [Protocol.wp_catchWith]
  simp only [Protocol.wp_bind]
  refine Protocol.wp_await.mpr ⟨fun time => ⟨_, rfl, ?_⟩, fun _ => ⟨_, rfl, thrown _ _⟩⟩
  refine Protocol.wp_await.mpr ⟨fun updatedAt => ⟨_, rfl, ?_⟩, fun _ => ⟨_, rfl, thrown _ _⟩⟩
  have asks : isIncrement key field max { key, below := (some max).map (fun max => (field, max)) }
      { field, amount := 1, updatedAt,
        expiresAt := time + IncrementOptions.timeToLive
          { ttl := call.ttl, max := some max, setOnInsert := call.setOnInsert } * 1000
        setOnInsert := call.setOnInsert } = true := by
    simp [isIncrement]
  refine Protocol.wp_await.mpr ⟨fun result => ⟨some true, if_pos ⟨rfl, asks⟩, fun _ => rfl⟩,
    fun _ => ⟨some false, if_pos ⟨rfl, asks⟩, thrown _ _⟩⟩

end

-- The documents of a key

def fieldNumber (field : String) (doc : CacheDocument) : Int :=
  match doc.value.lookup field with
  | some (.number n) => n
  | _ => 0

/-- The documents of a key count the updates that took effect, each up to the cap, and a second
document is there only beyond the cap.
-/
structure Counted (key field : String) (max : Int) (documents : List CacheDocument) (updates : Nat)
    : Prop where
  bounded : ∀ doc ∈ counters key documents,
    ∃ n, doc.value.lookup field = some (.number n) ∧ 1 ≤ n ∧ n ≤ max
  total : ((counters key documents).map (fieldNumber field)).sum = updates
  few : (counters key documents).length ≤ 1 ∨ max < updates

section

variable {key field : String} {max : Int} {documents : List CacheDocument} {updates : Nat}

theorem counters_append {before after : List CacheDocument}
    : counters key (before ++ after) = counters key before ++ counters key after :=
  List.filter_append ..

theorem counters_cons_of_eq {doc : CacheDocument} {rest : List CacheDocument} (same : doc.key = key)
    : counters key (doc :: rest) = doc :: counters key rest :=
  List.filter_cons_of_pos (decide_eq_true same)

theorem fieldNumber_of_lookup {doc : CacheDocument} {n : Int}
    (there : doc.value.lookup field = some (.number n))
    : fieldNumber field doc = n := by
  simp [fieldNumber, there]

theorem Counted.le_total (h : Counted key field max documents updates) {doc : CacheDocument}
    (member : doc ∈ counters key documents)
    : fieldNumber field doc ≤ updates := by
  rw [← h.total]
  refine List.single_le_sum (fun n counted => ?_) _ (List.mem_map_of_mem member)
  obtain ⟨other, member, rfl⟩ := List.mem_map.mp counted
  obtain ⟨n, there, positive, -⟩ := h.bounded other member
  rw [fieldNumber_of_lookup there]
  omega

theorem Counted.total_le (h : Counted key field max documents updates) (nonneg : 0 ≤ max)
    (single : (counters key documents).length ≤ 1)
    : (updates : Int) ≤ max := by
  rw [← h.total]
  match counts : counters key documents, single with
  | [], _ => simpa using nonneg
  | [doc], _ =>
      obtain ⟨n, there, -, bound⟩ := h.bounded doc (counts ▸ List.mem_singleton_self doc)
      simpa [fieldNumber_of_lookup there] using bound
  | _ :: _ :: _, single => simp at single

theorem Counted.single_iff (h : Counted key field max documents updates) (nonneg : 0 ≤ max)
    : (counters key documents).length ≤ 1 ↔ (updates : Int) ≤ max := by
  constructor
  · exact h.total_le nonneg
  · intro within
    rcases h.few with single | beyond
    · exact single
    · omega

theorem Counted.increment {before after : List CacheDocument} {doc doc' : CacheDocument} {n : Int}
    (h : Counted key field max (before ++ doc :: after) updates) (mine : doc.key = key)
    (there : doc.value.lookup field = some (.number n)) (below : n < max) (mine' : doc'.key = key)
    (there' : doc'.value.lookup field = some (.number (n + 1)))
    : Counted key field max (before ++ doc' :: after) (updates + 1) := by
  have split : counters key (before ++ doc :: after)
      = counters key before ++ doc :: counters key after := by
    rw [counters_append, counters_cons_of_eq mine]
  have split' : counters key (before ++ doc' :: after)
      = counters key before ++ doc' :: counters key after := by
    rw [counters_append, counters_cons_of_eq mine']
  constructor
  · intro other member
    rw [split'] at member
    rcases List.mem_append.mp member with first | last
    · exact h.bounded other (split ▸ List.mem_append_left _ first)
    · rcases List.mem_cons.mp last with rfl | last
      · obtain ⟨n', same, positive, -⟩ := h.bounded doc
          (split ▸ List.mem_append_right _ List.mem_cons_self)
        obtain rfl : n = n' := by simpa using there.symm.trans same
        exact ⟨n + 1, there', by omega, by omega⟩
      · exact h.bounded other (split ▸ List.mem_append_right _ (List.mem_cons_of_mem _ last))
  · have total := h.total
    rw [split, List.map_append, List.map_cons, List.sum_append, List.sum_cons,
      fieldNumber_of_lookup there] at total
    rw [split', List.map_append, List.map_cons, List.sum_append, List.sum_cons,
      fieldNumber_of_lookup there']
    omega
  · have same : (counters key (before ++ doc' :: after)).length
        = (counters key (before ++ doc :: after)).length := by
      rw [split, split']
      simp only [List.length_append, List.length_cons]
    rw [same]
    exact h.few.imp_right fun beyond => by omega

theorem Counted.insert {doc : CacheDocument} (h : Counted key field max documents updates)
    (positive : 1 ≤ max) (full : ∀ doc ∈ counters key documents, max ≤ fieldNumber field doc)
    (mine : doc.key = key) (there : doc.value.lookup field = some (.number 1))
    : Counted key field max (documents ++ [doc]) (updates + 1) := by
  have split : counters key (documents ++ [doc]) = counters key documents ++ [doc] := by
    rw [counters_append, counters_cons_of_eq mine]
    rfl
  constructor
  · intro other member
    rw [split] at member
    rcases List.mem_append.mp member with old | new
    · exact h.bounded other old
    · obtain rfl := List.mem_singleton.mp new
      exact ⟨1, there, le_refl _, positive⟩
  · rw [split, List.map_append, List.sum_append, h.total, List.map_singleton, List.sum_singleton,
      fieldNumber_of_lookup there]
    rfl
  · rw [split, List.length_append, List.length_singleton]
    -- a document that is there is full, so the updates have reached the cap
    match counts : counters key documents with
    | [] => exact .inl (le_refl _)
    | first :: _ =>
        have member : first ∈ counters key documents := counts ▸ List.mem_cons_self
        have reached := h.le_total member
        have least := full first member
        exact .inr (by omega)

end

-- One update

section

variable {key field : String} {max : Int} {indexes : List Index} {w w' : World}
  {filter : CacheFilter} {update : CacheUpdate} {i : Nat} {x : Choice}

theorem isIncrement_iff
    : isIncrement key field max filter update = true
      ↔ filter = { key, below := some (field, max) } ∧ update.field = field
        ∧ update.amount = 1 := by
  simp [isIncrement, and_assoc]

theorem below_of_matches {doc : CacheDocument}
    (matched : CacheFilter.matches { key, below := some (field, max) } doc = true)
    : doc.key = key ∧ ∃ n, doc.value.lookup field = some (.number n) ∧ n < max := by
  obtain ⟨mine, below⟩ := (Bool.and_eq_true _ _).mp matched
  refine ⟨of_decide_eq_true mine, ?_⟩
  have below : fieldBelow doc.value field max = true := below
  unfold fieldBelow at below
  split at below
  · rename_i n there
    exact ⟨n, there, of_decide_eq_true below⟩
  · cases below

theorem full_of_not_matches {doc : CacheDocument} {n : Int}
    (unmatched : CacheFilter.matches { key, below := some (field, max) } doc = false)
    (mine : doc.key = key) (there : doc.value.lookup field = some (.number n))
    : max ≤ fieldNumber field doc := by
  rw [fieldNumber_of_lookup there]
  simpa [CacheFilter.matches, mine, fieldBelow, there] using unmatched

/-- Some index is unique. -/
def HasUnique (indexes : List Index) : Prop :=
  ∃ index ∈ indexes, index.unique = true

theorem hasUnique_of_duplicates {doc : CacheDocument} {others : List CacheDocument}
    (forbidden : duplicates indexes doc others = true)
    : HasUnique indexes := by
  obtain ⟨index, member, clash⟩ := List.any_eq_true.mp forbidden
  exact ⟨index, member, ((Bool.and_eq_true _ _).mp clash).1⟩

/-- What an increment of the key does to the documents: nothing, or the updates are counted; a
document is added only if no unique index forbids it.
-/
theorem Counted.findOneAndUpdate (indexes : List Index)
    (h : Counted key field max w.documents (w.updates key))
    (positive : 1 ≤ max) (asks : isIncrement key field max filter update = true)
    : (∃ error, findOneAndUpdate indexes w filter update = (.error error, w)
        ∧ (update.conflicts = true ∨ HasUnique indexes))
      ∨ ∃ doc documents, findOneAndUpdate indexes w filter update
        = (.ok (some doc), w.write key documents)
        ∧ update.conflicts = false
        ∧ Counted key field max documents (w.updates key + 1)
        ∧ ((counters key documents).length = (counters key w.documents).length
          ∨ duplicates indexes doc w.documents = false ∧ doc.key = key
            ∧ documents = w.documents ++ [doc]) := by
  obtain ⟨rfl, named, one⟩ := isIncrement_iff.mp asks
  unfold Cache.findOneAndUpdate
  split
  · rename_i conflict
    exact .inl ⟨_, rfl, .inl conflict⟩
  · rename_i clear
    rw [Bool.not_eq_true] at clear
    split
    · rename_i before doc after found
      obtain ⟨split, matched⟩ := splitFirst_eq_some found
      obtain ⟨mine, n, there, below⟩ := below_of_matches matched
      have applied : update.apply doc = some { doc with
          value := doc.value.insert field (.number (n + 1))
          updatedAt := update.updatedAt
          expiresAt := update.expiresAt } := by
        unfold CacheUpdate.apply
        rw [named, there, one]
      simp only [applied]
      split
      · rename_i forbidden
        exact .inl ⟨_, rfl, .inr (hasUnique_of_duplicates forbidden)⟩
      · refine .inr ⟨_, _, rfl, clear, ?_, .inl ?_⟩
        · rw [split] at h
          exact h.increment mine there below mine (AList.lookup_insert _)
        · rw [split, counters_append, counters_append, counters_cons_of_eq mine,
            counters_cons_of_eq (by exact mine)]
          simp only [List.length_append, List.length_cons]
    · rename_i unmatched
      have none := splitFirst_eq_none unmatched
      split
      · rename_i forbidden
        exact .inl ⟨_, rfl, .inr (hasUnique_of_duplicates forbidden)⟩
      · rename_i unique
        refine .inr ⟨_, _, rfl, clear, h.insert positive ?_ rfl ?_,
          .inr ⟨by simpa using unique, rfl, rfl⟩⟩
        · intro doc member
          obtain ⟨there, mine⟩ := List.mem_filter.mp member
          obtain ⟨n, known, -⟩ := h.bounded doc member
          exact full_of_not_matches (none doc there) (of_decide_eq_true mine) known
        · simp [CacheUpdate.inserted, named, one]

end

-- Runs

/-- What a call may have returned in the phase it ended in. -/
abbrev Keeps (key field : String) (max : Int) (c : CacheConfig) : Prop :=
  (counterProtocol key field max).Governs (fun _ => none)
    (fun _ value phase => value.isSome = true → phase = some true)
    (fun _ error _ => isDuplicateKeyError error = false) c

/-- Whether call `i` has made its update, and been answered with a document. -/
def counterPhase (key field : String) (max : Int) (c : CacheConfig) (i : Nat) : Option Bool :=
  (counterProtocol key field max).phase (fun _ => none) c i

/-- The calls, of the first `n`, in such a phase. -/
def callsIn (p : Option Bool → Bool) (key field : String) (max : Int) (n : Nat) (c : CacheConfig)
    : Finset Nat :=
  (Finset.range n).filter (fun i => p (counterPhase key field max c i))

/-- The updates that took effect are counted by the documents of the key, and no more calls were
answered with one. No more updates were executed than calls have made one, and where no index is
unique all that were executed took effect.
-/
structure CountedRun (indexes : List Index) (key field : String) (max : Int) (n : Nat)
    (c : CacheConfig)
    : Prop where
  length : c.threads.length = n
  counted : Counted key field max c.world.documents (c.world.updates key)
  answered : (callsIn (· == some true) key field max n c).card ≤ c.world.updates key
  executed : c.world.executed key ≤ (callsIn Option.isSome key field max n c).card
  effective : ¬ HasUnique indexes → c.world.executed key = c.world.updates key

section

variable {key field : String} {max : Int} {indexes : List Index} {calls : List IncrementCall}
  {w w' : World} {c c' : CacheConfig} {i n : Nat} {x : Choice} {p : Option Bool → Bool}

theorem counters_at (indexes : List Index) (within
    : ∀ doc ∈ counters key w.documents, x.time < doc.expiresAt)
    : counters key (w.at indexes x).documents = counters key w.documents := by
  unfold counters World.at
  rw [List.filter_filter]
  refine List.filter_congr fun doc member => ?_
  by_cases mine : doc.key = key
  · have current := within doc (List.mem_filter.mpr ⟨member, decide_eq_true mine⟩)
    have kept : expired indexes x.time doc = false := by
      rw [expired, List.any_eq_false]
      intro index _
      rw [Bool.not_eq_true, Option.any_eq_false]
      intro seconds _
      simp only [decide_eq_false_iff_not]
      omega
    simp [mine, kept]
  · simp [mine]

theorem Counted.of_counters {documents documents' : List CacheDocument} {updates : Nat}
    (same : counters key documents' = counters key documents)
    (h : Counted key field max documents updates)
    : Counted key field max documents' updates :=
  ⟨by rw [same]; exact h.bounded, by rw [same]; exact h.total, by rw [same]; exact h.few⟩

theorem Keeps.initial : Keeps key field max (incrementCalls key field max calls w) := by
  refine Protocol.governs_initial fun i prog found => ?_
  obtain ⟨call, -, rfl⟩ := Option.map_eq_some_iff.mp (List.getElem?_map ▸ found)
  exact wp_prog call

theorem cache_act_cases {op : CacheOp} {reply : cacheInterface.Reply op}
    (h : (cacheSemantics indexes).act i op x w = some (reply, w'))
    : w' = w ∧ Except.isOk reply = false
      ∨ w' = (effect indexes (w.at indexes x) op).2
        ∧ (Except.isOk reply = true → reply = (effect indexes (w.at indexes x) op).1) :=
  (Environment.act_cases h).2

/-- How an increment of the key moves the counts: it is not executed, or it is, and then takes
effect unless a unique index forbids it.
-/
def Moves (indexes : List Index) (key : String) (w w' : World) (ok : Bool) : Prop :=
  w'.executed key = w.executed key ∧ w'.updates key = w.updates key ∧ ok = false
  ∨ w'.executed key = w.executed key + 1
    ∧ (w'.updates key = w.updates key + 1
      ∨ w'.updates key = w.updates key ∧ ok = false ∧ HasUnique indexes)

/-- An answered increment, within the time to live: the documents still count the updates, and a
document that is added is one no unique index forbids.
-/
theorem Counted.act {filter : CacheFilter} {update : CacheUpdate}
    {reply : cacheInterface.Reply (.findOneAndUpdate filter update)}
    (h : Counted key field max w.documents (w.updates key)) (positive : 1 ≤ max)
    (asks : isIncrement key field max filter update = true)
    (within : ∀ doc ∈ counters key w.documents, x.time < doc.expiresAt)
    (answered : (cacheSemantics indexes).act i (.findOneAndUpdate filter update) x w
      = some (reply, w'))
    : Counted key field max w'.documents (w'.updates key)
      ∧ Moves indexes key w w' (Except.isOk reply)
      ∧ ((counters key w'.documents).length = (counters key w.documents).length
        ∨ ∃ doc documents, counters key documents = counters key w.documents
          ∧ duplicates indexes doc documents = false ∧ doc.key = key
          ∧ w'.documents = documents ++ [doc]) := by
  have same := counters_at indexes within
  have target : filter.key = key := by
    obtain ⟨rfl, -, -⟩ := isIncrement_iff.mp asks
    rfl
  rcases cache_act_cases answered with ⟨rfl, failed⟩ | ⟨rfl, ok⟩
  · exact ⟨h, .inl ⟨rfl, rfl, failed⟩, .inl rfl⟩
  · -- the collection as the update finds it
    have found : ∃ w₁, (if update.conflicts then w.at indexes x
          else (w.at indexes x).execute filter.key) = w₁
        ∧ w₁.documents = (w.at indexes x).documents ∧ w₁.updates = w.updates
        ∧ w₁.executed key = w.executed key + (if update.conflicts then 0 else 1) := by
      refine ⟨_, rfl, ?_⟩
      split
      · exact ⟨rfl, rfl, rfl⟩
      · exact ⟨rfl, rfl, if_pos target.symm⟩
    obtain ⟨w₁, entered, documents₁, updates₁, executed₁⟩ := found
    have counted : Counted key field max w₁.documents (w₁.updates key) := by
      rw [documents₁, updates₁]
      exact h.of_counters same
    have same : counters key w₁.documents = counters key w.documents := by
      rw [documents₁, same]
    have left : effect indexes (w.at indexes x) (.findOneAndUpdate filter update)
        = Cache.findOneAndUpdate indexes w₁ filter update :=
      congrArg (fun w => Cache.findOneAndUpdate indexes w filter update) entered
    rw [left] at ok ⊢
    rcases counted.findOneAndUpdate indexes positive asks with
      ⟨error, refused, cause⟩ | ⟨doc, documents, performed, clear, counted', added⟩
    · rw [refused] at ok ⊢
      have failed : Except.isOk reply = false := by
        cases answer : Except.isOk reply with
        | false => rfl
        | true =>
            rw [ok answer] at answer
            cases answer
      refine ⟨counted, ?_, .inl (congrArg List.length same)⟩
      rcases cause with conflict | unique
      · exact .inl ⟨by simpa [conflict] using executed₁, congrFun updates₁ key, failed⟩
      · cases conflict : update.conflicts with
        | true => exact .inl ⟨by simpa [conflict] using executed₁, congrFun updates₁ key, failed⟩
        | false =>
            exact .inr ⟨by simpa [conflict] using executed₁,
              .inr ⟨congrFun updates₁ key, failed, unique⟩⟩
    · rw [performed]
      have count : (w₁.write key documents).updates key = w₁.updates key + 1 := if_pos rfl
      have run : (w₁.write key documents).executed key = w₁.executed key := rfl
      refine ⟨by rw [count]; exact counted', .inr ⟨?_, .inl ?_⟩, ?_⟩
      · rw [run, executed₁, clear]
        rfl
      · rw [count, updates₁]
      · rcases added with length | ⟨unique, mine, rfl⟩
        · exact .inl (length.trans (congrArg List.length same))
        · exact .inr ⟨doc, _, same, unique, mine, rfl⟩

theorem callsIn_step
    (others : ∀ j, j ≠ i → counterPhase key field max c' j = counterPhase key field max c j)
    : callsIn p key field max n c' ⊆ insert i (callsIn p key field max n c) := by
  intro j member
  by_cases mine : j = i
  · exact Finset.mem_insert.mpr (.inl mine)
  · obtain ⟨bound, there⟩ := Finset.mem_filter.mp member
    rw [others j mine] at there
    exact Finset.mem_insert_of_mem (Finset.mem_filter.mpr ⟨bound, there⟩)

theorem card_callsIn_le
    (others : ∀ j, j ≠ i → counterPhase key field max c' j = counterPhase key field max c j)
    (mine : p (counterPhase key field max c' i) = true → p (counterPhase key field max c i) = true)
    : (callsIn p key field max n c').card ≤ (callsIn p key field max n c).card := by
  refine Finset.card_le_card fun j member => ?_
  rcases Finset.mem_insert.mp (callsIn_step others member) with rfl | old
  · obtain ⟨bound, there⟩ := Finset.mem_filter.mp member
    exact Finset.mem_filter.mpr ⟨bound, mine there⟩
  · exact old

theorem card_callsIn_le_succ
    (others : ∀ j, j ≠ i → counterPhase key field max c' j = counterPhase key field max c j)
    : (callsIn p key field max n c').card ≤ (callsIn p key field max n c).card + 1 :=
  (Finset.card_le_card (callsIn_step others)).trans (Finset.card_insert_le i _)

theorem succ_card_callsIn_le
    (others : ∀ j, j ≠ i → counterPhase key field max c' j = counterPhase key field max c j)
    (bound : i < n) (before : p (counterPhase key field max c i) = false)
    (after : p (counterPhase key field max c' i) = true)
    : (callsIn p key field max n c).card + 1 ≤ (callsIn p key field max n c').card := by
  have outside : i ∉ callsIn p key field max n c := fun member => by
    have there := (Finset.mem_filter.mp member).2
    rw [before] at there
    cases there
  rw [← Finset.card_insert_of_notMem outside]
  refine Finset.card_le_card fun j member => Finset.mem_filter.mpr ?_
  rcases Finset.mem_insert.mp member with rfl | old
  · exact ⟨Finset.mem_range.mpr bound, after⟩
  · obtain ⟨inside, there⟩ := Finset.mem_filter.mp old
    have other : j ≠ i := fun same => outside (same ▸ old)
    exact ⟨inside, by rwa [others j other]⟩

/-- A step within the time to live keeps the count; it leaves the number of documents of the key,
or adds one that no unique index forbids.
-/
theorem CountedRun.step (governed : Keeps key field max c)
    (h : CountedRun indexes key field max n c)
    (positive : 1 ≤ max) (within : WithinTtl key c i x)
    (stepped : c.step (cacheSemantics indexes) i x = some c')
    : CountedRun indexes key field max n c'
      ∧ ((counters key c'.world.documents).length = (counters key c.world.documents).length
        ∨ ∃ doc documents, counters key documents = counters key c.world.documents
          ∧ duplicates indexes doc documents = false ∧ doc.key = key
          ∧ c'.world.documents = documents ++ [doc]) := by
  obtain ⟨op, reply, live, -, answered, moved, -, others, -⟩ := governed.step_cases stepped
  have others : ∀ j, j ≠ i → counterPhase key field max c' j = counterPhase key field max c j :=
    fun j other => (others j other).1
  have bound : i < n := h.length ▸ Config.lt_of_live live
  have once : Config.Reaches (cacheSemantics indexes) Config.anyStep c c' :=
    .single ⟨i, x, trivial, stepped⟩
  have length : c'.threads.length = n := (Config.length_threads_of_reaches once).trans h.length
  cases op with
  | now =>
      have mine : counterPhase key field max c i = counterPhase key field max c' i :=
        Option.some.inj moved
      have phases : ∀ j, counterPhase key field max c' j = counterPhase key field max c j := by
        intro j
        by_cases same : j = i
        · rw [same, mine]
        · exact others j same
      have kept : ∀ p, callsIn p key field max n c' = callsIn p key field max n c := fun p =>
        Finset.filter_congr fun j _ => by rw [phases j]
      obtain ⟨documents, updates, executed⟩ :
          counters key c'.world.documents = counters key c.world.documents
            ∧ c'.world.updates = c.world.updates ∧ c'.world.executed = c.world.executed := by
        rcases cache_act_cases answered with ⟨same, -⟩ | ⟨same, -⟩
        · rw [same]
          exact ⟨rfl, rfl, rfl⟩
        · rw [same]
          exact ⟨counters_at indexes within, rfl, rfl⟩
      refine ⟨⟨length, ?_, ?_, ?_, ?_⟩, .inl (congrArg List.length documents)⟩
      · rw [updates]
        exact h.counted.of_counters documents
      · rw [kept, updates]
        exact h.answered
      · rw [kept, executed]
        exact h.executed
      · rw [executed, updates]
        exact h.effective
  | findOneAndUpdate filter update =>
      obtain ⟨⟨fresh, asks⟩, phase⟩ := Option.ite_none_right_eq_some.mp moved
      have fresh : counterPhase key field max c i = none := fresh
      have mine : counterPhase key field max c' i = some (Except.isOk reply) :=
        (Option.some.inj phase).symm
      obtain ⟨counted, moves, added⟩ := h.counted.act positive asks within answered
      have issued := succ_card_callsIn_le (p := Option.isSome) others bound (by rw [fresh]; rfl)
        (by rw [mine]; rfl)
      have quiet : Except.isOk reply = false →
          (callsIn (· == some true) key field max n c').card
            ≤ (callsIn (· == some true) key field max n c).card := by
        intro failed
        refine card_callsIn_le others fun answered => ?_
        rw [mine, failed] at answered
        cases answered
      have grown := card_callsIn_le_succ (p := (· == some true)) (n := n) others
      have answered := h.answered
      have executed := h.executed
      refine ⟨⟨length, counted, ?_, ?_, fun free => ?_⟩, added⟩
      · rcases moves with ⟨-, updates, failed⟩ | ⟨-, updates | ⟨updates, failed, -⟩⟩
        · exact updates ▸ (quiet failed).trans answered
        · omega
        · exact updates ▸ (quiet failed).trans answered
      · rcases moves with ⟨unmoved, -⟩ | ⟨one, -⟩ <;> omega
      · have effective := h.effective free
        rcases moves with ⟨unmoved, updates, -⟩ | ⟨one, updates | ⟨-, -, unique⟩⟩
        · omega
        · omega
        · exact absurd unique free

theorem CountedRun.initial (absent : counters key w.documents = []) (first : w.updates key = 0)
    (none : w.executed key = 0)
    : CountedRun indexes key field max calls.length (incrementCalls key field max calls w) := by
  have documents : counters key (incrementCalls key field max calls w).world.documents = [] :=
    absent
  have length : (incrementCalls key field max calls w).threads.length = calls.length := by
    simp [incrementCalls, Config.initial]
  refine ⟨length, ⟨?_, ?_, ?_⟩, ?_, ?_, fun _ => none.trans first.symm⟩
  · rw [documents]
    exact fun _ absurd => by cases absurd
  · rw [documents]
    exact congrArg Int.ofNat first.symm
  · rw [documents]
    exact .inl (Nat.zero_le 1)
  · have empty : callsIn (· == some true) key field max calls.length
        (incrementCalls key field max calls w) = ∅ :=
      Finset.filter_eq_empty_iff.mpr fun i _ => by simp [counterPhase, incrementCalls]
    rw [empty]
    exact Nat.zero_le _
  · exact none.le.trans (Nat.zero_le _)

theorem countedRun_of_reaches (positive : 1 ≤ max) (absent : counters key w.documents = [])
    (first : w.updates key = 0) (none : w.executed key = 0)
    (reached : Config.Reaches (cacheSemantics indexes) (WithinTtl key)
      (incrementCalls key field max calls w) c)
    : Keeps key field max c ∧ CountedRun indexes key field max calls.length c := by
  refine Protocol.Governs.invariant
    (J := fun c => CountedRun indexes key field max calls.length c)
    Keeps.initial (.initial absent first none) ?_ reached
  exact fun c c' i x governed h within stepped => (h.step governed positive within stepped).1

theorem CountedRun.values_le (governed : Keeps key field max c)
    (h : CountedRun indexes key field max n c)
    : ((Finset.range n).filter (fun i => (c.value? i).any Option.isSome)).card
        ≤ c.world.updates key := by
  refine (Finset.card_le_card fun i member => ?_).trans h.answered
  obtain ⟨bound, returned⟩ := Finset.mem_filter.mp member
  obtain ⟨value, finished, some⟩ := (Option.any_eq_true ..).mp returned
  exact Finset.mem_filter.mpr ⟨bound, beq_iff_eq.mpr (governed.value finished some)⟩

theorem CountedRun.capped (governed : Keeps key field max c)
    (h : CountedRun indexes key field max calls.length c) (positive : 1 ≤ max)
    (within : (c.world.updates key : Int) ≤ max)
    : Capped key max calls c := by
  have values := h.values_le governed
  exact ⟨by omega, fun i error thrown => governed.error thrown,
    (h.counted.single_iff (by omega)).mpr within⟩

theorem executed_le_calls (h : CountedRun indexes key field max n c)
    : c.world.executed key ≤ n := by
  refine h.executed.trans ?_
  exact (Finset.card_filter_le _ _).trans (Finset.card_range n).le

/-- A unique index forbids a second document of a key. -/
theorem counters_of_unique {index : Index} {doc : CacheDocument} {documents : List CacheDocument}
    (member : index ∈ indexes) (unique : index.unique = true) (spec : index.spec = [.key])
    (mine : doc.key = key) (free : duplicates indexes doc documents = false)
    : counters key documents = [] := by
  rw [duplicates, List.any_eq_false] at free
  have free := free index member
  rw [unique, Bool.true_and, List.any_eq_true] at free
  refine List.filter_eq_nil_iff.mpr fun other there same => free ⟨other, there, ?_⟩
  rw [spec]
  simp [DocumentPath.agrees, mine, of_decide_eq_true same]

/-- With a unique index on the key the cap is kept in every state, however many increments are
executed.
-/
theorem capped_of_unique (positive : 1 ≤ max) {index : Index} (member : index ∈ indexes)
    (unique : index.unique = true) (spec : index.spec = [.key])
    (absent : counters key w.documents = []) (first : w.updates key = 0)
    (none : w.executed key = 0)
    (reached : Config.Reaches (cacheSemantics indexes) (WithinTtl key)
      (incrementCalls key field max calls w) c)
    : Capped key max calls c := by
  have run : Keeps key field max c
      ∧ CountedRun indexes key field max calls.length c
      ∧ (counters key c.world.documents).length ≤ 1 := by
    refine Protocol.Governs.invariant
      (J := fun c => CountedRun indexes key field max calls.length c
        ∧ (counters key c.world.documents).length ≤ 1)
      Keeps.initial ⟨.initial absent first none, ?_⟩ ?_ reached
    · have documents : counters key (incrementCalls key field max calls w).world.documents = [] :=
        absent
      rw [documents]
      exact Nat.zero_le 1
    · rintro c c' i x governed ⟨counted, single⟩ within stepped
      obtain ⟨counted', same | ⟨doc, documents, -, free, mine, added⟩⟩ :=
        counted.step governed positive within stepped
      · exact ⟨counted', same.trans_le single⟩
      · refine ⟨counted', ?_⟩
        rw [added, counters_append, counters_of_unique member unique spec mine free,
          List.nil_append]
        exact List.length_filter_le ..
  obtain ⟨governed, counted, single⟩ := run
  exact counted.capped governed positive ((counted.counted.single_iff (by omega)).mp single)

theorem not_hasUnique_cacheIndexes : ¬ HasUnique cacheIndexes := by
  rintro ⟨index, member, unique⟩
  have plain : ∀ index ∈ cacheIndexes, index.unique = false := by decide
  rw [plain index member] at unique
  cases unique

end

/-- With the indexes of the collection a cap is kept in exactly those states in which no more
increments of the key have been executed than it allows, and no more are executed than calls have
made one.
-/
theorem increments_capped_iff (key field : String) (max : Int) (positive : 1 ≤ max)
    (calls : List IncrementCall) (w : World) (absent : counters key w.documents = [])
    (first : w.updates key = 0) (none : w.executed key = 0) (c : CacheConfig)
    (reached : Config.Reaches (cacheSemantics cacheIndexes) (WithinTtl key)
      (incrementCalls key field max calls w) c)
    : (Capped key max calls c ↔ (c.world.executed key : Int) ≤ max)
      ∧ c.world.executed key ≤ calls.length := by
  obtain ⟨governed, run⟩ := countedRun_of_reaches positive absent first none reached
  have effective := run.effective not_hasUnique_cacheIndexes
  refine ⟨⟨fun capped => ?_, fun within => ?_⟩, executed_le_calls run⟩
  · rw [effective]
    exact (run.counted.single_iff (by omega)).mp capped.single
  · rw [effective] at within
    exact run.capped governed positive within

-- Two increments

def emptyCache : World where
  clock := 1000
  documents := []
  executed := fun _ => 0
  updates := fun _ => 0

def incrementSteps (i time : Nat) : List (Nat × Choice) :=
  List.replicate 3 (i, { time })

/-- Two increments are within a cap of two. -/
theorem increments_capped_twice
    : ∃ c, Config.Reaches (cacheSemantics cacheIndexes) (WithinTtl "key")
        (incrementCalls "key" "count" 2 [{ ttl := 60 }, { ttl := 60 }] emptyCache) c
      ∧ [0, 1].map (fun i => (c.value? i).map (Option.map (fun value => value.lookup "count")))
        = [some (some (some (.number 1))), some (some (some (.number 2)))]
      ∧ Capped "key" 2 [{ ttl := 60 }, { ttl := 60 }] c := by
  have executed : ((incrementCalls "key" "count" 2 [{ ttl := 60 }, { ttl := 60 }] emptyCache).run
      (cacheSemantics cacheIndexes) (WithinTtl "key")
      (incrementSteps 0 1000 ++ incrementSteps 1 2000)).map
        (fun c => [0, 1].map (fun i => (c.value? i).map
          (Option.map (fun value => value.lookup "count"))))
      = some [some (some (some (.number 1))), some (some (some (.number 2)))] := by
    decide +kernel
  obtain ⟨c, reached, returned⟩ := Config.reaches_of_run executed
  obtain ⟨capped, few⟩ := increments_capped_iff "key" "count" 2 (by decide)
    [{ ttl := 60 }, { ttl := 60 }] emptyCache rfl rfl rfl c reached
  exact ⟨c, reached, returned, capped.mpr (Int.ofNat_le.mpr few)⟩

/-- A second increment starts a second counter, and returns a value too. -/
theorem increments_uncapped
    : ∃ c, Config.Reaches (cacheSemantics cacheIndexes) (WithinTtl "key")
        (incrementCalls "key" "count" 1 [{ ttl := 60 }, { ttl := 60 }] emptyCache) c
      ∧ [0, 1].map (fun i => (c.value? i).map (Option.map (fun value => value.lookup "count")))
        = [some (some (some (.number 1))), some (some (some (.number 1)))]
      ∧ (counters "key" c.world.documents).length = 2
      ∧ ¬ Capped "key" 1 [{ ttl := 60 }, { ttl := 60 }] c := by
  have executed : ((incrementCalls "key" "count" 1 [{ ttl := 60 }, { ttl := 60 }] emptyCache).run
      (cacheSemantics cacheIndexes) (WithinTtl "key")
      (incrementSteps 0 1000 ++ incrementSteps 1 2000)).map
        (fun c => ([0, 1].map (fun i => (c.value? i).map
          (Option.map (fun value => value.lookup "count"))),
            (counters "key" c.world.documents).length))
      = some ([some (some (some (.number 1))), some (some (some (.number 1)))], 2) := by
    decide +kernel
  obtain ⟨c, reached, observed⟩ := Config.reaches_of_run executed
  obtain ⟨returned, documents⟩ := Prod.mk.inj observed
  refine ⟨c, reached, returned, documents, fun capped => ?_⟩
  have single := capped.single
  rw [documents] at single
  exact absurd single (by decide)

end AcbuBackend.Cache
