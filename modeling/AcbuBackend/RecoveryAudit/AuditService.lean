import Mathlib.Data.List.Dedup
import Mathlib.Data.Int.Notation

/-! The audit events of account recoveries, and the patterns that are looked for in them.
Times are milliseconds. The details of an event are of any type.
-/

namespace AcbuBackend.RecoveryAudit

-- Writing events

inductive RecoveryEventType
  | recovery_initiated
  | recovery_completed
  | recovery_failed
  | device_trusted
  | session_rotated
deriving DecidableEq

def RecoveryEventType.text : RecoveryEventType → String
  | .recovery_initiated => "recovery_initiated"
  | .recovery_completed => "recovery_completed"
  | .recovery_failed => "recovery_failed"
  | .device_trusted => "device_trusted"
  | .session_rotated => "session_rotated"

inductive Risk
  | low
  | medium
  | high
deriving DecidableEq

structure AuditEvent (D : Type) where
  eventType : RecoveryEventType
  userId : String
  identifier : Option String := none
  ip : Option String := none
  userAgent : Option String := none
  deviceId : Option String := none
  details : Option D := none
  risk : Risk

/-- The `newValue` of a row. The timestamp stands for its text. -/
structure NewValue (D : Type) where
  identifier : Option String
  ip : Option String
  userAgent : Option String
  deviceId : Option String
  details : Option D
  risk : Risk
  timestamp : ℤ
deriving DecidableEq

/-- A row of `audit_trail`. -/
structure AuditTrail (D : Type) where
  eventType : String
  entityType : String
  entityId : String
  action : String
  newValue : NewValue D
  performedBy : String
  timestamp : ℤ

def maskIdentifier (identifier : String) : String :=
  if identifier.toList.contains '@' then "***@***"
  else String.ofList (identifier.toList.take 6) ++ "***"

/-- A call of `auditRecoveryEvent`: when it is made, and whether and when the database stores its
row.
-/
structure Write (D : Type) where
  event : AuditEvent D
  time : ℤ
  created : Bool
  storedAt : ℤ

section

variable {D : Type}

def Write.row (write : Write D) : AuditTrail D :=
  let event := write.event
  { eventType := "recovery_" ++ event.eventType.text
    entityType := "User"
    entityId := event.userId
    action := event.eventType.text
    newValue := {
      identifier := (event.identifier.filter (· ≠ "")).map maskIdentifier
      ip := event.ip
      userAgent := event.userAgent
      deviceId := event.deviceId
      details := event.details
      risk := event.risk
      timestamp := write.time }
    performedBy := event.userId
    timestamp := write.storedAt }

/-- A failure to create the row is caught and logged. -/
def auditRecoveryEvent (auditTrail : List (AuditTrail D)) (write : Write D)
    : List (AuditTrail D) :=
  if write.created then auditTrail ++ [write.row] else auditTrail

/-- The table after a history of calls. -/
def auditTrailOf (history : List (Write D)) : List (AuditTrail D) :=
  history.foldl auditRecoveryEvent []

-- Looking for patterns

structure SuspiciousPatterns where
  isSuspicious : Bool
  reasons : List String

def HIGH_ATTEMPTS : String := "High number of recovery attempts in 24 hours"

def MULTIPLE_DEVICES : String := "Multiple devices used for recovery"

def MULTIPLE_IPS : String := "Multiple IP addresses used for recovery"

def HOUR_MS : ℤ := 60 * 60 * 1000

def recentRows (auditTrail : List (AuditTrail D)) (userId : String) (since : ℤ)
    : List (AuditTrail D) :=
  auditTrail.filter
    (fun row => row.entityType = "User" && row.entityId = userId && since ≤ row.timestamp)

/-- The size of a set of the texts that are there and not empty. -/
def countTexts (texts : List (Option String)) : Nat :=
  (texts.filterMap (fun text => text.filter (· ≠ ""))).dedup.length

def detectSuspiciousPatterns [DecidableEq D] (auditTrail : List (AuditTrail D)) (now : ℤ)
    (userId : String)
    : SuspiciousPatterns :=
  let last24h := now - 24 * HOUR_MS
  let last1h := now - HOUR_MS
  let recentAttempts :=
    ((recentRows auditTrail userId last24h).filter (·.eventType = "recovery_initiated")).length
  let uniqueDevices := ((recentRows auditTrail userId last24h).map (·.newValue)).dedup
  let uniqueIps := ((recentRows auditTrail userId last1h).map (·.newValue)).dedup
  let uniqueDeviceCount := countTexts (uniqueDevices.map (·.deviceId))
  let uniqueIpCount := countTexts (uniqueIps.map (·.ip))
  let reasons :=
    (if 5 < recentAttempts then [HIGH_ATTEMPTS] else [])
      ++ (if 3 < uniqueDeviceCount then [MULTIPLE_DEVICES] else [])
      ++ (if 2 < uniqueIpCount then [MULTIPLE_IPS] else [])
  { isSuspicious := !reasons.isEmpty, reasons }

-- Attempts that are found

variable {history : List (Write D)} {userId : String} {now : ℤ}

/-- A stored recovery attempt of the user in the last 24 hours. -/
def Write.isRecentAttempt (write : Write D) (userId : String) (now : ℤ) : Bool :=
  write.created && write.event.eventType = .recovery_initiated && write.event.userId = userId
    && now - 24 * HOUR_MS ≤ write.storedAt

/-- More than five recent attempts are reported, and nothing else is reported as such. -/
def ReportsAttempts [DecidableEq D] (history : List (Write D)) (userId : String) (now : ℤ) : Prop :=
  let patterns := detectSuspiciousPatterns (auditTrailOf history) now userId
  (5 < history.countP (·.isRecentAttempt userId now) →
      patterns.isSuspicious = true ∧ HIGH_ATTEMPTS ∈ patterns.reasons)
    ∧ (HIGH_ATTEMPTS ∈ patterns.reasons → 5 < history.countP (·.isRecentAttempt userId now))

theorem highAttempts_mem_iff [DecidableEq D] {auditTrail : List (AuditTrail D)}
    : HIGH_ATTEMPTS ∈ (detectSuspiciousPatterns auditTrail now userId).reasons
      ↔ 5 < ((recentRows auditTrail userId (now - 24 * HOUR_MS)).filter
          (·.eventType = "recovery_initiated")).length := by
  have devices : HIGH_ATTEMPTS ≠ MULTIPLE_DEVICES := by decide
  have ips : HIGH_ATTEMPTS ≠ MULTIPLE_IPS := by decide
  simp only [detectSuspiciousPatterns, List.mem_append]
  constructor
  · rintro ((found | found) | found)
    · split at found
      · assumption
      · cases found
    · split at found
      · exact absurd (List.mem_singleton.mp found) devices
      · cases found
    · split at found
      · exact absurd (List.mem_singleton.mp found) ips
      · cases found
  · intro many
    rw [if_pos many]
    exact .inl (.inl (List.mem_singleton.mpr rfl))

theorem eventType_auditTrailOf {row : AuditTrail D} (stored : row ∈ auditTrailOf history)
    : ∃ eventType : RecoveryEventType, row.eventType = "recovery_" ++ eventType.text := by
  have step : ∀ (rows : List (AuditTrail D)) (write : Write D),
      row ∈ auditRecoveryEvent rows write → row ∈ rows ∨ row = write.row := by
    intro rows write member
    unfold auditRecoveryEvent at member
    split at member
    · simpa using member
    · exact .inl member
  suffices ∀ rows : List (AuditTrail D), row ∈ history.foldl auditRecoveryEvent rows →
      row ∈ rows ∨ ∃ write ∈ history, row = write.row by
    obtain member | ⟨write, _, rfl⟩ := this [] stored
    · cases member
    · exact ⟨write.event.eventType, rfl⟩
  intro rows member
  clear stored
  induction history generalizing rows with
  | nil => exact .inl member
  | cons write history ih =>
      rcases ih _ member with earlier | ⟨later, inHistory, rfl⟩
      · rcases step rows write earlier with before | rfl
        · exact .inl before
        · exact .inr ⟨write, List.mem_cons_self, rfl⟩
      · exact .inr ⟨later, List.mem_cons_of_mem _ inHistory, rfl⟩

theorem not_highAttempts [DecidableEq D]
    : HIGH_ATTEMPTS
      ∉ (detectSuspiciousPatterns (auditTrailOf history) now userId).reasons := by
  have apart : ∀ eventType : RecoveryEventType,
      "recovery_" ++ eventType.text ≠ "recovery_initiated" := by
    intro eventType
    cases eventType <;> decide
  have none : (recentRows (auditTrailOf history) userId (now - 24 * HOUR_MS)).filter
      (·.eventType = "recovery_initiated") = [] := by
    refine List.filter_eq_nil_iff.mpr fun row member => ?_
    obtain ⟨eventType, shape⟩ := eventType_auditTrailOf (List.mem_of_mem_filter member)
    rw [shape, decide_eq_true_eq]
    exact apart eventType
  rw [highAttempts_mem_iff, none]
  exact Nat.not_lt_zero 5

/-- The attempts of a user are reported as they should be exactly when there are not too many. -/
theorem reportsAttempts_iff [DecidableEq D] (history : List (Write D)) (userId : String) (now : ℤ)
    : ReportsAttempts history userId now
      ↔ history.countP (·.isRecentAttempt userId now) ≤ 5 := by
  rw [← Nat.not_lt]
  constructor
  · rintro ⟨reported, -⟩ many
    exact not_highAttempts (reported many).2
  · intro few
    exact ⟨fun many => absurd many few, fun found => absurd found not_highAttempts⟩

end

def attempt (time : ℤ) : Write Unit where
  event := { eventType := .recovery_initiated, userId := "user-1", risk := .medium }
  time := time
  created := true
  storedAt := time

/-- Six attempts within six minutes are not reported. -/
theorem six_attempts_unreported
    : ¬ ReportsAttempts ([0, 1, 2, 3, 4, 5].map (fun minute => attempt (60000 * minute))) "user-1"
        300000 := by
  intro ⟨reported, _⟩
  exact not_highAttempts (reported (by decide)).2

end AcbuBackend.RecoveryAudit
