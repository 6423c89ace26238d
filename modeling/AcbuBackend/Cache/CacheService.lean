import AcbuBackend.Effects.Outcome
import Mathlib.Data.List.AList

/-! The cache collection and its counters.
A counter is a field of a document, incremented by one `findOneAndUpdate` that inserts a document
where none matches. Which insertions are refused depends on the indexes of the collection.
-/

namespace AcbuBackend.Cache

open Effects

-- Documents and indexes

/-- A field of the `value` of a document: a number, or any other JSON. -/
inductive CacheField
  | number (n : Int)
  | json (text : String)
deriving DecidableEq

abbrev CacheValue := AList (fun _ : String => CacheField)

/-- A document of `cache`. -/
structure CacheDocument where
  key : String
  value : CacheValue
  updatedAt : Nat
  expiresAt : Nat

inductive DocumentPath
  | key
  | expiresAt

structure Index where
  name : String
  spec : List DocumentPath
  unique : Bool := false
  expireAfterSeconds : Option Nat := none

/-- The indexes that `connectMongoDB` creates. -/
def cacheIndexes : List Index :=
  [{ name := "idx_key_expiresAt", spec := [.key, .expiresAt] },
    { name := "idx_expiresAt_ttl", spec := [.expiresAt], expireAfterSeconds := some 0 }]

def DocumentPath.agrees (doc other : CacheDocument) : DocumentPath → Bool
  | .key => doc.key = other.key
  | .expiresAt => doc.expiresAt = other.expiresAt

/-- A unique index forbids the document next to the others. -/
def duplicates (indexes : List Index) (doc : CacheDocument) (others : List CacheDocument) : Bool :=
  indexes.any (fun index =>
    index.unique && others.any (fun other => index.spec.all (DocumentPath.agrees doc other)))

def expired (indexes : List Index) (time : Nat) (doc : CacheDocument) : Bool :=
  indexes.any (fun index =>
    index.expireAfterSeconds.any (fun seconds => doc.expiresAt + seconds * 1000 ≤ time))

-- Calls

/-- The filter of an update: a key, and a field with the number it is to be below. -/
structure CacheFilter where
  key : String
  below : Option (String × Int) := none
deriving DecidableEq

/-- An update: the field to increment and by how much, and the other fields of a new document. -/
structure CacheUpdate where
  field : String
  amount : Int
  updatedAt : Nat
  expiresAt : Nat
  setOnInsert : List (String × CacheField) := []

/-- `findOneAndUpdate` with `upsert`, answering with the document after the update. -/
inductive CacheOp
  | now
  | findOneAndUpdate (filter : CacheFilter) (update : CacheUpdate)

abbrev CacheOp.Ret : CacheOp → Type
  | .now => Nat
  | .findOneAndUpdate .. => Option CacheDocument

/-- What the driver throws. -/
structure MongoError where
  message : String
  code : Option Nat := none

abbrev cacheInterface : Interface where
  Op := CacheOp
  Ret := CacheOp.Ret
  Err := MongoError

/-- Issues a call of the collection. -/
abbrev issue (op : CacheOp) : Prog cacheInterface op.Ret :=
  Prog.await (I := cacheInterface) op

-- The cache service

def DEFAULT_TTL : Nat := 3600

/-- The options of `increment`; the time to live is in seconds. -/
structure IncrementOptions where
  ttl : Nat
  max : Option Int := none
  setOnInsert : List (String × CacheField) := []

/-- `ttl || DEFAULT_TTL`. -/
def IncrementOptions.timeToLive (options : IncrementOptions) : Nat :=
  if options.ttl = 0 then DEFAULT_TTL else options.ttl

/-- The update of `increment`. -/
def incrementDocument (key field : String) (amount : Int) (options : IncrementOptions)
    : Prog cacheInterface (Option CacheValue) := do
  let time ← issue .now
  let updatedAt ← issue .now
  let result ← issue (.findOneAndUpdate
    { key, below := options.max.map (fun max => (field, max)) }
    { field, amount, updatedAt, expiresAt := time + options.timeToLive * 1000
      setOnInsert := options.setOnInsert })
  return result.map CacheDocument.value

def isDuplicateKeyError (error : MongoError) : Bool :=
  error.code = some 11000

/-- `increment`. A duplicate key is read as the cap having been reached. -/
def increment (key field : String) (amount : Int) (options : IncrementOptions)
    : Prog cacheInterface (Option CacheValue) :=
  (incrementDocument key field amount options).catchWith (fun error =>
    if isDuplicateKeyError error then return none else .fail error)

-- The collection

def fieldBelow (value : CacheValue) (field : String) (max : Int) : Bool :=
  match value.lookup field with
  | some (.number n) => n < max
  | _ => false

def CacheFilter.matches (filter : CacheFilter) (doc : CacheDocument) : Bool :=
  doc.key = filter.key && filter.below.all (fun (field, max) => fieldBelow doc.value field max)

/-- The document after an update, unless the field is not a number. -/
def CacheUpdate.apply (update : CacheUpdate) (doc : CacheDocument) : Option CacheDocument :=
  match doc.value.lookup update.field with
  | some (.json _) => none
  | some (.number n) => some { doc with
      value := doc.value.insert update.field (.number (n + update.amount))
      updatedAt := update.updatedAt
      expiresAt := update.expiresAt }
  | none => some { doc with
      value := doc.value.insert update.field (.number update.amount)
      updatedAt := update.updatedAt
      expiresAt := update.expiresAt }

def CacheUpdate.inserted (update : CacheUpdate) (key : String) : CacheDocument where
  key
  value := (update.setOnInsert.foldl (fun (value : CacheValue) entry => value.insert entry.1
    entry.2) ∅).insert
    update.field (.number update.amount)
  updatedAt := update.updatedAt
  expiresAt := update.expiresAt

/-- Two operators of an update write the same path. -/
def CacheUpdate.conflicts (update : CacheUpdate) : Bool :=
  update.setOnInsert.any (fun entry => entry.1 = update.field)

/-- The first document that matches, between those before and those after it. -/
def splitFirst {δ : Type} (matching : δ → Bool) : List δ → Option (List δ × δ × List δ)
  | [] => none
  | doc :: rest =>
      if matching doc then some ([], doc, rest)
      else (splitFirst matching rest).map (fun (before, found, after) =>
        (doc :: before, found, after))

theorem splitFirst_eq_some {δ : Type} {matching : δ → Bool} {docs before after : List δ} {doc : δ}
    (h : splitFirst matching docs = some (before, doc, after))
    : docs = before ++ doc :: after ∧ matching doc = true := by
  induction docs generalizing before with
  | nil => cases h
  | cons head rest ih =>
      rw [splitFirst] at h
      split at h
      · rename_i found
        obtain ⟨rfl, rfl, rfl⟩ := Option.some.inj h
        exact ⟨rfl, found⟩
      · obtain ⟨⟨before', doc', after'⟩, found, same⟩ := Option.map_eq_some_iff.mp h
        obtain ⟨rfl, rfl, rfl⟩ := same
        obtain ⟨rfl, known⟩ := ih found
        exact ⟨rfl, known⟩

theorem splitFirst_eq_none {δ : Type} {matching : δ → Bool} {docs : List δ}
    (h : splitFirst matching docs = none)
    : ∀ doc ∈ docs, matching doc = false := by
  induction docs with
  | nil => exact fun _ absurd => by cases absurd
  | cons head rest ih =>
      rw [splitFirst] at h
      split at h
      · cases h
      · rename_i other
        exact List.forall_mem_cons.mpr ⟨by simpa using other, ih (Option.map_eq_none_iff.mp h)⟩

/-- The documents, and of every key the number of updates that were executed, whatever they came
to, and the number of those that took effect.
-/
structure World where
  clock : Nat
  documents : List CacheDocument
  executed : String → Nat
  updates : String → Nat

/-- When a call takes place, whether it does, and whether the expired documents were deleted
before it.
-/
structure Choice where
  time : Nat
  outcome : Outcome MongoError := .done
  swept : Bool := false

/-- The collection when a call takes place. -/
def World.at (indexes : List Index) (w : World) (x : Choice) : World :=
  { w with
    clock := x.time
    documents := w.documents.filter (fun doc => !(x.swept && expired indexes x.time doc)) }

def World.execute (w : World) (key : String) : World :=
  { w with
    executed := fun other => if other = key then w.executed other + 1 else w.executed other }

/-- The documents after an update took effect. -/
def World.write (w : World) (key : String) (documents : List CacheDocument) : World :=
  { w with
    documents
    updates := fun other => if other = key then w.updates other + 1 else w.updates other }

def duplicateKeyError : MongoError :=
  { message := "E11000 duplicate key error collection", code := some 11000 }

def findOneAndUpdate (indexes : List Index) (w : World) (filter : CacheFilter)
    (update : CacheUpdate)
    : Except MongoError (Option CacheDocument) × World :=
  if update.conflicts then
    (.error { message := "Updating the path would create a conflict", code := some 40 }, w)
  else
    match splitFirst filter.matches w.documents with
    | some (before, doc, after) =>
        match update.apply doc with
        | none =>
            (.error { message := "Cannot apply $inc to a value of non-numeric type", code := some 14 }, w)
        | some doc =>
            if duplicates indexes doc (before ++ after) then (.error duplicateKeyError, w)
            else (.ok (some doc), w.write filter.key (before ++ doc :: after))
    | none =>
        if duplicates indexes (update.inserted filter.key) w.documents then
          (.error duplicateKeyError, w)
        else (.ok (some (update.inserted filter.key)),
          w.write filter.key (w.documents ++ [update.inserted filter.key]))

/-- What a call answers, and the collection it leaves. -/
def effect (indexes : List Index) (w : World) : (op : CacheOp) → Except MongoError op.Ret × World
  | .now => (.ok w.clock, w)
  | .findOneAndUpdate filter update =>
      -- an update whose operators conflict is not executed
      findOneAndUpdate indexes (if update.conflicts then w else w.execute filter.key) filter update

/-- Time does not go back, and reading it does not fail. -/
def admissible (op : CacheOp) (x : Choice) (w : World) : Bool :=
  w.clock ≤ x.time
  && match op with
    | .now => !x.outcome.isLost && !x.outcome.isFailed
    | _ => true

def cacheEnvironment (indexes : List Index) : Environment cacheInterface World Choice where
  outcome := Choice.outcome
  effect := fun x w op => effect indexes (w.at indexes x) op
  admissible := admissible

def cacheSemantics (indexes : List Index) : Semantics cacheInterface World Choice :=
  (cacheEnvironment indexes).semantics

end AcbuBackend.Cache
