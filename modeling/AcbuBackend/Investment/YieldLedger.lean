import AcbuBackend.Runtime.Errors
import AcbuBackend.Runtime.Text
import Mathlib.Algebra.BigOperators.Group.List.Basic
import Mathlib.Data.List.DropRight

/-! The ledger of yield credits that `yieldAccountingService` keeps in memory, and its totals.
Amounts that are finite are exact rationals. Logging is left out.
-/

namespace AcbuBackend.Investment

open AcbuBackend.Runtime

inductive YieldSource
  | reserve
  | vault
  | pool
deriving DecidableEq

/-- A credit. Its timestamp is absent where the date is invalid. -/
structure YieldCredit where
  source : YieldSource
  amountUsd : JsNumber
  currency : Option String := none
  timestamp : Option ℤ

structure YieldLedgerEntry where
  source : YieldSource
  amountUsd : ℚ
  currency : Option String
  timestamp : ℤ
deriving DecidableEq

def MAX_LEDGER_ENTRIES : Nat :=
  10000

/-- The entries that are kept, the oldest first. -/
structure YieldLedger where
  entries : List YieldLedgerEntry := []
  bounded : entries.length ≤ MAX_LEDGER_ENTRIES := by decide

/-- `Math.round(amountUsd * 1e8) / 1e8`. -/
def normalizeAmountUsd (amountUsd : ℚ) : ℚ :=
  ⌊amountUsd * 10 ^ 8 + 1 / 2⌋ / 10 ^ 8

/-- The pattern `^[A-Z]{3}$`. -/
def isValidCurrencyCode (code : String) : Bool :=
  code.toList.length = 3 && code.toList.all (fun c => 'A' ≤ c && c ≤ 'Z')

section

variable (toUpperCase : String → String)

/-- `assertValidCredit`, with the entry a valid credit is recorded as. -/
def normalizedCredit (credit : YieldCredit) : Except JsError YieldLedgerEntry :=
  match credit.amountUsd with
  | .finite amountUsd =>
      if amountUsd ≤ 0 then .error (.error "Yield amount must be a positive finite number")
      else
        match credit.timestamp with
        | none => .error (.error "Yield timestamp must be a valid Date")
        | some timestamp =>
            if (credit.currency.map toUpperCase).any (fun code => !isValidCurrencyCode code) then
              .error (.error "Yield currency must be a 3-letter uppercase code")
            else
              .ok
                { source := credit.source
                  amountUsd := normalizeAmountUsd amountUsd
                  currency := credit.currency.map toUpperCase
                  timestamp }
  | _ => .error (.error "Yield amount must be a positive finite number")

/-- An entry at the end, and where there are too many none at the front. -/
def YieldLedger.push (ledger : YieldLedger) (entry : YieldLedgerEntry) : YieldLedger :=
  let pushed := ledger.entries ++ [entry]
  if full : MAX_LEDGER_ENTRIES < pushed.length then
    { entries := pushed.tail
      bounded := by
        have bounded := ledger.bounded
        simp only [pushed, List.length_tail, List.length_append, List.length_singleton]
        omega }
  else
    { entries := pushed
      bounded := not_lt.mp full }

def recordYield (ledger : YieldLedger) (credit : YieldCredit) : Except JsError YieldLedger :=
  (normalizedCredit toUpperCase credit).map ledger.push

/-- The ledger after calls one after the other. A call that throws leaves it. -/
def recordAll (credits : List YieldCredit) : YieldLedger :=
  credits.foldl (fun ledger credit => ((recordYield toUpperCase ledger credit).toOption).getD
    ledger) {}

end

def getYieldTotal (ledger : YieldLedger) (source : YieldSource) : ℚ :=
  ((ledger.entries.filter (fun y => y.source = source)).map (·.amountUsd)).sum

-- The entries that are kept

variable {toUpperCase : String → String} {ledger : YieldLedger} {source : YieldSource}

/-- A window of the last `n` entries moves by one: the newest is in it, and the oldest is out where
it was full.
-/
theorem rtake_concat_of_rtake {α : Type} {n : Nat} (positive : 0 < n) (l : List α) (a : α)
    : (l ++ [a]).rtake n
      = if n < (l.rtake n ++ [a]).length then (l.rtake n ++ [a]).tail else l.rtake n ++ [a] := by
  have length : (l.rtake n).length = min n l.length := by
    rw [List.rtake, List.length_drop]
    omega
  rw [List.length_append, length, List.length_singleton]
  simp only [List.rtake, List.length_append, List.length_singleton]
  split
  · rename_i full
    have more : n ≤ l.length := by omega
    rw [← List.drop_append_of_le_length (by omega), ← List.drop_one, List.drop_drop]
    congr 1
    omega
  · rename_i room
    have fewer : l.length < n := by omega
    rw [show l.length + 1 - n = 0 by omega, show l.length - n = 0 by omega]
    rfl

def recordedEntries (toUpperCase : String → String) (credits : List YieldCredit)
    : List YieldLedgerEntry :=
  credits.filterMap (fun credit => (normalizedCredit toUpperCase credit).toOption)

theorem recordedEntries_concat {credits : List YieldCredit} {credit : YieldCredit}
    : recordedEntries toUpperCase (credits ++ [credit])
      = recordedEntries toUpperCase credits ++ (normalizedCredit toUpperCase
        credit).toOption.toList := by
  rw [recordedEntries, List.filterMap_append, recordedEntries]
  congr 1

theorem entries_push {entry : YieldLedgerEntry} {recorded : List YieldLedgerEntry}
    (h : ledger.entries = recorded.rtake MAX_LEDGER_ENTRIES)
    : (ledger.push entry).entries = (recorded ++ [entry]).rtake MAX_LEDGER_ENTRIES := by
  have positive : 0 < MAX_LEDGER_ENTRIES := Nat.succ_pos _
  rw [rtake_concat_of_rtake positive, ← h, YieldLedger.push]
  split <;> rfl

/-- The ledger keeps the newest entries, by induction on the calls. -/
theorem entries_recordAll (credits : List YieldCredit)
    : (recordAll toUpperCase credits).entries
      = (recordedEntries toUpperCase credits).rtake MAX_LEDGER_ENTRIES := by
  induction credits using List.reverseRecOn with
  | nil => exact (List.rtake_nil _).symm
  | append_singleton credits credit ih =>
      have before : recordAll toUpperCase (credits ++ [credit])
          = ((recordYield toUpperCase (recordAll toUpperCase credits) credit).toOption).getD
            (recordAll toUpperCase credits) :=
        List.foldl_append
      rw [before, recordedEntries_concat, recordYield]
      cases normalizedCredit toUpperCase credit with
      | error _ => exact ih.trans (congrArg (List.rtake · _) (List.append_nil _).symm)
      | ok entry => exact entries_push ih

/-- The total of a source is that of its credits among the newest ten thousand recorded. -/
theorem getYieldTotal_recordAll (toUpperCase : String → String) (credits : List YieldCredit)
    (source : YieldSource)
    : getYieldTotal (recordAll toUpperCase credits) source
      = ((((recordedEntries toUpperCase credits).rtake MAX_LEDGER_ENTRIES).filter
          (fun y => y.source = source)).map (·.amountUsd)).sum := by
  rw [getYieldTotal, entries_recordAll]

def dollar : YieldCredit where
  source := .reserve
  amountUsd := .finite 1
  timestamp := some 0

/-- What the credit of one dollar is recorded as. -/
def dollarEntry : YieldLedgerEntry where
  source := .reserve
  amountUsd := 1
  currency := none
  timestamp := 0

/-- Ten thousand and one credits of one dollar make a total of ten thousand. -/
theorem getYieldTotal_forgets
    : getYieldTotal (recordAll id (List.replicate 10001 dollar)) .reserve = 10000
      ∧ ((((recordedEntries id (List.replicate 10001 dollar))).filter
          (fun y => y.source = YieldSource.reserve)).map (·.amountUsd)).sum = 10001
      ∧ ∀ credit ∈ List.replicate 10001 dollar, (normalizedCredit id credit).isOk = true := by
  have recorded : normalizedCredit id dollar = .ok dollarEntry := by decide +kernel
  have entries : ∀ n, recordedEntries id (List.replicate n dollar)
      = List.replicate n dollarEntry := by
    intro n
    rw [recordedEntries, List.filterMap_replicate, recorded]
    rfl
  have total : ∀ n : Nat, (((List.replicate n dollarEntry).filter
      (fun y => y.source = YieldSource.reserve)).map (·.amountUsd)).sum = n := by
    intro n
    rw [List.filter_replicate_of_pos rfl, List.map_replicate, List.sum_replicate]
    simp [dollarEntry]
  refine ⟨?_, ?_, ?_⟩
  · rw [getYieldTotal, entries_recordAll, entries, List.rtake, List.drop_replicate, total,
      List.length_replicate, MAX_LEDGER_ENTRIES]
    norm_num
  · rw [entries, total]
    norm_num
  · intro credit member
    rw [List.eq_of_mem_replicate member, recorded]
    rfl

end AcbuBackend.Investment
