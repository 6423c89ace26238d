import AcbuBackend.Effects.Outcome
import AcbuBackend.Json.Text
import AcbuBackend.Runtime.Errors
import AcbuBackend.Runtime.Tables

/-! The devices that recoveries come from, and which of them are trusted.
A verification looks for its device before it writes it, and a recovery trusts the device that its
verification wrote; other calls come in between.
-/

namespace AcbuBackend.Devices

open Effects Effects.Prog AcbuBackend.Runtime

abbrev UserId := String

abbrev DeviceId := String

/-- What a request tells of its device, as far as it is read. -/
structure DeviceFingerprint where
  userAgent : String
  ip : String
  acceptLanguage : Option String := none
  acceptEncoding : Option String := none
  platform : Option String := none

/-- A row of `user_devices`. -/
structure UserDevice where
  userId : UserId
  fingerprint : String
  userAgent : String
  lastIp : String
  isTrusted : Bool
  verificationAttempts : Nat
  trustedAt : Option ℤ
  lastSeenAt : ℤ

structure DeviceVerificationResult where
  deviceId : DeviceId
  isTrusted : Bool
  requiresVerification : Bool
deriving DecidableEq

-- The calls

inductive DeviceOp
  | now
  | findFirst (userId : UserId) (fingerprint : String)
  | update (id : DeviceId) (lastSeenAt : ℤ) (lastIp : String)
  | upsert (userId : UserId) (fingerprint : String) (lastSeenAt : ℤ) (userAgent lastIp : String)
  | trust (id : DeviceId) (trustedAt : ℤ)
  | deleteUntrusted (before : ℤ)

abbrev DeviceOp.Ret : DeviceOp → Type
  | .now => ℤ
  | .findFirst .. => Option (DeviceId × UserDevice)
  | .upsert .. => DeviceId
  | .update .. | .trust .. | .deleteUntrusted _ => Unit

abbrev deviceInterface : Interface where
  Op := DeviceOp
  Ret := DeviceOp.Ret
  Err := JsError

abbrev perform (op : DeviceOp) : Prog deviceInterface op.Ret :=
  Prog.await (I := deviceInterface) op

-- The service

variable (sha256Hex : List Char → String)

/-- Absent headers are left out of the text, which has no numbers; the address is hashed in it. -/
def generateDeviceFingerprint (fingerprint : DeviceFingerprint) : String :=
  let optional (key : String) (value : Option String) : List (String × Json.Value) :=
    value.toList.map fun text => (key, .string text)
  sha256Hex (Json.stringify (fun _ => []) (.object (
    [("userAgent", .string fingerprint.userAgent)]
    ++ optional "acceptLanguage" fingerprint.acceptLanguage
    ++ optional "acceptEncoding" fingerprint.acceptEncoding
    ++ optional "platform" fingerprint.platform
    ++ [("ipHash",
      if fingerprint.ip = "" then .null else .string (sha256Hex fingerprint.ip.toList))])))

def verifyDevice (userId : UserId) (fingerprint : DeviceFingerprint)
    : Prog deviceInterface DeviceVerificationResult := do
  let deviceFingerprint := generateDeviceFingerprint sha256Hex fingerprint
  let existingDevice ← perform (.findFirst userId deviceFingerprint)
  match existingDevice.filter (fun device => device.2.isTrusted) with
  | some (id, _) => do
      let now ← perform .now
      perform (.update id now fingerprint.ip)
      return { deviceId := id, isTrusted := true, requiresVerification := false }
  | none => do
      let now ← perform .now
      let id ← perform
        (.upsert userId deviceFingerprint now fingerprint.userAgent fingerprint.ip)
      return { deviceId := id, isTrusted := false, requiresVerification := true }

def trustDevice (deviceId : DeviceId) : Prog deviceInterface Unit := do
  let now ← perform .now
  perform (.trust deviceId now)

def cleanupOldDevices : Prog deviceInterface Unit := do
  let now ← perform .now
  perform (.deleteUntrusted (now - 30 * 24 * 60 * 60 * 1000))

/-- A call of the service. When the code of a recovery is right, its device may be trusted. -/
inductive DeviceCall
  | verify (userId : UserId) (fingerprint : DeviceFingerprint)
  | trustRecovery (userId : UserId) (fingerprint : DeviceFingerprint)
  | cleanup

def DeviceCall.prog
    : DeviceCall → Prog deviceInterface (Option DeviceVerificationResult)
  | .verify userId fingerprint => some <$> verifyDevice sha256Hex userId fingerprint
  | .trustRecovery userId fingerprint => do
      let deviceResult ← verifyDevice sha256Hex userId fingerprint
      if !deviceResult.isTrusted then trustDevice deviceResult.deviceId
      return some deviceResult
  | .cleanup => do
      cleanupOldDevices
      return none

-- The table

abbrev DeviceTable := AList (fun _ : DeviceId => UserDevice)

/-- The rows, and the ids that have been generated. -/
structure World where
  devices : DeviceTable := ∅
  generated : List DeviceId := []

/-- What becomes of a call, the time, and the id of a new row. -/
structure Choice where
  outcome : Outcome JsError := .done
  time : ℤ := 0
  newId : DeviceId := ""

def recordNotFound : JsError :=
  .error "Record to update not found."

def World.find (w : World) (userId : UserId) (fingerprint : String)
    : Option (DeviceId × UserDevice) :=
  (w.devices.entries.find? (fun e => e.2.userId = userId ∧ e.2.fingerprint = fingerprint)).map
    fun e => (e.1, e.2)

/-- `update`, of a row that is there. -/
def World.update (w : World) (id : DeviceId) (change : UserDevice → UserDevice)
    : Except JsError Unit × World :=
  match w.devices.lookup id with
  | some row => (.ok (), { w with devices := w.devices.insert id (change row) })
  | none => (.error recordNotFound, w)

def deviceEffect (x : Choice) (w : World) : (op : DeviceOp) → Except JsError op.Ret × World
  | .now => (.ok x.time, w)
  | .findFirst userId fingerprint => (.ok (w.find userId fingerprint), w)
  | .update id lastSeenAt lastIp => w.update id fun row => { row with lastSeenAt, lastIp }
  | .upsert userId fingerprint lastSeenAt userAgent lastIp =>
      match w.find userId fingerprint with
      | some (id, row) =>
          let verificationAttempts := row.verificationAttempts + 1
          (.ok id, { w with
            devices := w.devices.insert id { row with lastSeenAt, lastIp, verificationAttempts } })
      | none =>
          (.ok x.newId,
            { devices := w.devices.insert x.newId
                { userId, fingerprint, userAgent, lastIp, isTrusted := false
                  verificationAttempts := 1, trustedAt := none, lastSeenAt }
              generated := x.newId :: w.generated })
  | .trust id trustedAt =>
      w.update id fun row => { row with isTrusted := true, trustedAt := some trustedAt }
  | .deleteUntrusted before =>
      (.ok (), { w with
        devices := deleteRows w.devices fun row => row.lastSeenAt < before && !row.isTrusted })

/-- An id is generated once. A look at the clock does not fail. -/
def admissible : DeviceOp → Choice → World → Bool
  | .now, x, _ => x.outcome = .done
  | .upsert .., x, w => x.newId ∉ w.generated
  | _, _, _ => true

def deviceEnvironment : Environment deviceInterface World Choice where
  outcome := Choice.outcome
  effect := deviceEffect
  admissible := admissible

def deviceSemantics : Semantics deviceInterface World Choice :=
  deviceEnvironment.semantics

abbrev DeviceConfig := Config deviceInterface (Option DeviceVerificationResult) World

def initialConfig (calls : List DeviceCall) : DeviceConfig :=
  .initial {} (calls.map (DeviceCall.prog sha256Hex))

-- What a call may do

/-- The user and the device of a call, whether it may trust the device, and the row that it works
on: the one it has found trusted, or the one it has written.
-/
structure Phase where
  owner : Option (UserId × String)
  mayTrust : Bool
  device : Option (DeviceId × Bool) := none

def DeviceCall.phase : DeviceCall → Phase
  | .verify userId fingerprint =>
      { owner := some (userId, generateDeviceFingerprint sha256Hex fingerprint), mayTrust := false }
  | .trustRecovery userId fingerprint =>
      { owner := some (userId, generateDeviceFingerprint sha256Hex fingerprint), mayTrust := true }
  | .cleanup => { owner := none, mayTrust := false }

def Phase.next (phase : Phase) : (op : DeviceOp) → Except JsError op.Ret → Option Phase
  | .now, _ => some phase
  | .findFirst userId fingerprint, reply =>
      if phase.owner = some (userId, fingerprint) then
        some { phase with
          device := (reply.toOption.join.filter (fun device => device.2.isTrusted)).map
            fun device => (device.1, true) }
      else none
  | .update id _ _, _ => if phase.device = some (id, true) then some phase else none
  | .upsert userId fingerprint .., reply =>
      if phase.owner = some (userId, fingerprint) then
        some { phase with device := reply.toOption.map fun id => (id, false) }
      else none
  | .trust id _, _ =>
      if phase.mayTrust ∧ phase.device = some (id, false) then some phase else none
  | .deleteUntrusted _, _ => if phase.owner = none then some phase else none

def deviceProtocol : Protocol deviceInterface Phase where
  next := Phase.next

/-- A call that reports on a device works on it. -/
def Reported (value : Option DeviceVerificationResult) (phase : Phase) : Prop :=
  match value with
  | some result => phase.device = some (result.deviceId, result.isTrusted)
  | none => True

section

variable {sha256Hex} {userId : UserId} {fingerprint : DeviceFingerprint} {phase : Phase}

theorem wp_now {Q : ℤ → Phase → Prop} (value : ∀ now, Q now phase)
    : deviceProtocol.wp (perform .now) phase Q (fun _ _ => True) :=
  Protocol.wp_await.mpr ⟨fun now => ⟨phase, rfl, value now⟩, fun _ => ⟨phase, rfl, trivial⟩⟩

theorem wp_verifyDevice
    (own : phase.owner = some (userId, generateDeviceFingerprint sha256Hex fingerprint))
    : deviceProtocol.wp (verifyDevice sha256Hex userId fingerprint) phase
        (fun result phase' => phase'.mayTrust = phase.mayTrust
          ∧ phase'.device = some (result.deviceId, result.isTrusted)) (fun _ _ => True) := by
  unfold verifyDevice
  refine Protocol.wp_bind.mpr (Protocol.wp_await.mpr ⟨fun found => ⟨_, if_pos own, ?_⟩,
    fun _ => ⟨_, if_pos own, trivial⟩⟩)
  split
  · rename_i id row trusted
    refine Protocol.wp_bind.mpr (wp_now fun now => ?_)
    have device : (found.filter (fun device => device.2.isTrusted)).map
        (fun device => (device.1, true)) = some (id, true) := by
      rw [trusted]
      rfl
    exact Protocol.wp_bind.mpr (Protocol.wp_await.mpr
      ⟨fun _ => ⟨_, if_pos device, rfl, device⟩, fun _ => ⟨_, if_pos device, trivial⟩⟩)
  · refine Protocol.wp_bind.mpr (wp_now fun now => ?_)
    exact Protocol.wp_bind.mpr (Protocol.wp_await.mpr
      ⟨fun _ => ⟨_, if_pos own, rfl, rfl⟩, fun _ => ⟨_, if_pos own, trivial⟩⟩)

/-- Every call keeps to the protocol. -/
theorem wp_prog (call : DeviceCall)
    : deviceProtocol.wp (call.prog sha256Hex) (call.phase sha256Hex) Reported
        (fun _ _ => True) := by
  cases call with
  | verify userId fingerprint =>
      exact Protocol.wp_bind.mpr (Protocol.wp_mono (wp_verifyDevice rfl)
        (fun _ _ verified => verified.2) fun _ _ => id)
  | trustRecovery userId fingerprint =>
      refine Protocol.wp_bind.mpr (Protocol.wp_mono (wp_verifyDevice rfl)
        (fun result phase' verified => ?_) fun _ _ => id)
      obtain ⟨may, device⟩ := verified
      cases trusted : result.isTrusted with
      | true => exact device
      | false =>
          have device := trusted ▸ device
          refine Protocol.wp_bind.mpr (Protocol.wp_bind.mpr (wp_now fun now => ?_))
          refine Protocol.wp_await.mpr ⟨fun _ => ⟨_, if_pos ⟨may, device⟩, ?_⟩,
            fun _ => ⟨_, if_pos ⟨may, device⟩, trivial⟩⟩
          exact device.trans (by rw [trusted])
  | cleanup =>
      refine Protocol.wp_bind.mpr (Protocol.wp_bind.mpr (wp_now fun now => ?_))
      exact Protocol.wp_await.mpr ⟨fun _ => ⟨_, rfl, trivial⟩, fun _ => ⟨_, rfl, trivial⟩⟩

end

-- What a step leaves

/-- A row of the same device of the same user. -/
def SameDevice (row row' : UserDevice) : Prop :=
  row'.userId = row.userId ∧ row'.fingerprint = row.fingerprint

/-- A row is as before, or new and not trusted; only `trust` makes a trusted one, which stays. -/
structure Changes (op : DeviceOp) (w w' : World) : Prop where
  generated : ∀ id ∈ w.generated, id ∈ w'.generated
  rows : ∀ id row', w'.devices.lookup id = some row' →
    (∃ row, w.devices.lookup id = some row ∧ SameDevice row row'
      ∧ (row'.isTrusted = true → row.isTrusted = true ∨ ∃ trustedAt, op = .trust id trustedAt))
    ∨ id ∉ w.generated ∧ id ∈ w'.generated ∧ row'.isTrusted = false
  kept : ∀ id row, w.devices.lookup id = some row → row.isTrusted = true →
    ∃ row', w'.devices.lookup id = some row' ∧ SameDevice row row' ∧ row'.isTrusted = true

section

variable {op : DeviceOp} {w w' : World} {id : DeviceId} {row new : UserDevice}

theorem Changes.refl : Changes op w w where
  generated _ there := there
  rows _ row found := .inl ⟨row, found, ⟨rfl, rfl⟩, .inl⟩
  kept _ row found trusted := ⟨row, found, ⟨rfl, rfl⟩, trusted⟩

theorem lookup_find {userId : UserId} {fingerprint : String}
    (found : w.find userId fingerprint = some (id, row))
    : w.devices.lookup id = some row ∧ row.userId = userId ∧ row.fingerprint = fingerprint := by
  obtain ⟨e, there, same⟩ := Option.map_eq_some_iff.mp found
  obtain ⟨rfl, rfl⟩ := Prod.mk.inj same
  exact ⟨AList.mem_lookup_iff.mpr (List.mem_of_find?_eq_some there),
    by simpa using List.find?_some there⟩

theorem changes_insert (found : w.devices.lookup id = some row) (same : SameDevice row new)
    (kept : row.isTrusted = true → new.isTrusted = true)
    (trusted : new.isTrusted = true → row.isTrusted = true ∨ ∃ trustedAt, op = .trust id trustedAt)
    : Changes op w { w with devices := w.devices.insert id new } := by
  refine ⟨fun _ there => there, fun other row' found' => ?_, fun other row' found' trust => ?_⟩
  · by_cases here : other = id
    · subst here
      obtain rfl := Option.some.inj ((AList.lookup_insert _).symm.trans found')
      exact .inl ⟨row, found, same, trusted⟩
    · exact .inl ⟨row', (AList.lookup_insert_ne here).symm.trans found', ⟨rfl, rfl⟩, .inl⟩
  · by_cases here : other = id
    · subst here
      obtain rfl := Option.some.inj (found.symm.trans found')
      exact ⟨new, AList.lookup_insert _, same, kept trust⟩
    · exact ⟨row', (AList.lookup_insert_ne here).trans found', ⟨rfl, rfl⟩, trust⟩

theorem changes_fresh (known : ∀ id row, w.devices.lookup id = some row → id ∈ w.generated)
    (fresh : id ∉ w.generated) (untrusted : new.isTrusted = false)
    : Changes op w { devices := w.devices.insert id new, generated := id :: w.generated } := by
  refine ⟨fun _ => List.mem_cons_of_mem _, fun other row' found' => ?_,
    fun other row' found' trust => ?_⟩
  · by_cases here : other = id
    · subst here
      obtain rfl := Option.some.inj ((AList.lookup_insert _).symm.trans found')
      exact .inr ⟨fresh, List.mem_cons_self, untrusted⟩
    · exact .inl ⟨row', (AList.lookup_insert_ne here).symm.trans found', ⟨rfl, rfl⟩, .inl⟩
  · have apart : other ≠ id := fun here => fresh (here ▸ known other row' found')
    exact ⟨row', (AList.lookup_insert_ne apart).trans found', ⟨rfl, rfl⟩, trust⟩

theorem changes_effect {x : Choice}
    (known : ∀ id row, w.devices.lookup id = some row → id ∈ w.generated)
    (possible : admissible op x w = true)
    : Changes op w (deviceEffect x w op).2 := by
  have updates (id : DeviceId) (change : UserDevice → UserDevice)
      (same : ∀ row, SameDevice row (change row))
      (kept : ∀ row, row.isTrusted = true → (change row).isTrusted = true)
      (trusted : ∀ row, (change row).isTrusted = true →
        row.isTrusted = true ∨ ∃ trustedAt, op = .trust id trustedAt)
      : Changes op w (w.update id change).2 := by
    unfold World.update
    split
    · rename_i row found
      exact changes_insert found (same row) (kept row) (trusted row)
    · exact .refl
  cases op with
  | now | findFirst => exact .refl
  | update => exact updates _ _ (fun _ => ⟨rfl, rfl⟩) (fun _ => id) fun _ => .inl
  | trust id trustedAt =>
      exact updates _ _ (fun _ => ⟨rfl, rfl⟩) (fun _ _ => rfl) fun _ _ => .inr ⟨trustedAt, rfl⟩
  | upsert userId fingerprint =>
      rw [deviceEffect]
      split
      · rename_i found
        exact changes_insert (lookup_find found).1 ⟨rfl, rfl⟩ id .inl
      · exact changes_fresh known (by simpa [admissible] using possible) rfl
  | deleteUntrusted before =>
      refine ⟨fun _ there => there, fun id row found => ?_, fun id row found trust => ?_⟩
      · rw [deviceEffect, lookup_deleteRows] at found
        exact .inl ⟨row, (Option.filter_eq_some_iff.mp found).1, ⟨rfl, rfl⟩, .inl⟩
      · refine ⟨row, ?_, ⟨rfl, rfl⟩, trust⟩
        rw [deviceEffect, lookup_deleteRows]
        exact Option.filter_eq_some_iff.mpr ⟨found, by simp [trust]⟩

end

-- Runs

section

variable {sha256Hex} {calls : List DeviceCall} {c c' : DeviceConfig} {i : Nat}

def startOf (sha256Hex : List Char → String) (calls : List DeviceCall) (i : Nat) : Phase :=
  (calls[i]?).elim { owner := none, mayTrust := false } (DeviceCall.phase sha256Hex)

abbrev Governed (start : Nat → Phase) (c : DeviceConfig) : Prop :=
  deviceProtocol.Governs start (fun _ => Reported) (fun _ _ _ => True) c

/-- A recovery of the user of a row, from its device, has trusted it. -/
def Earned (start : Nat → Phase) (c : DeviceConfig) (id : DeviceId) (row : UserDevice) : Prop :=
  ∃ i, (start i).owner = some (row.userId, row.fingerprint) ∧ (start i).mayTrust = true
    ∧ ∃ event ∈ c.past i, ∃ trustedAt, event.op = .trust id trustedAt

/-- The row that a call works on is one of its user and its device, if it is still there. -/
structure WorksOn (w : World) (owner : Option (UserId × String)) (id : DeviceId) (trusted : Bool)
    : Prop where
  generated : id ∈ w.generated
  own : ∀ row, w.devices.lookup id = some row → owner = some (row.userId, row.fingerprint)
  there : trusted = true → ∃ row, w.devices.lookup id = some row ∧ row.isTrusted = true

structure Kept (start : Nat → Phase) (c : DeviceConfig) : Prop where
  known : ∀ id row, c.world.devices.lookup id = some row → id ∈ c.world.generated
  same : ∀ i, (deviceProtocol.phase start c i).owner = (start i).owner
    ∧ (deviceProtocol.phase start c i).mayTrust = (start i).mayTrust
  device : ∀ i id trusted, (deviceProtocol.phase start c i).device = some (id, trusted) →
    WorksOn c.world (start i).owner id trusted
  earned : ∀ id row, c.world.devices.lookup id = some row → row.isTrusted = true →
    Earned start c id row

theorem WorksOn.changed {op : DeviceOp} {w w' : World} {owner : Option (UserId × String)}
    {id : DeviceId} {trusted : Bool} (works : WorksOn w owner id trusted)
    (changes : Changes op w w')
    : WorksOn w' owner id trusted := by
  refine ⟨changes.generated id works.generated, fun row' found => ?_, fun trust => ?_⟩
  · rcases changes.rows id row' found with ⟨row, before, same, -⟩ | ⟨fresh, -⟩
    · rw [same.1, same.2]
      exact works.own row before
    · exact absurd works.generated fresh
  · obtain ⟨row, found, trust⟩ := works.there trust
    obtain ⟨row', found', -, trust'⟩ := changes.kept id row found trust
    exact ⟨row', found', trust'⟩

/-- A step of a call leaves it with a row of its own user and device. -/
theorem worksOn_next {op : DeviceOp} {reply : deviceInterface.Reply op} {phase phase' : Phase}
    {x : Choice} {w w' : World}
    (known : ∀ id row, w.devices.lookup id = some row → id ∈ w.generated)
    (works : ∀ id trusted, phase.device = some (id, trusted) → WorksOn w phase.owner id trusted)
    (answered : deviceSemantics.act i op x w = some (reply, w')) (changes : Changes op w w')
    (moved : phase.next op reply = some phase')
    : phase'.owner = phase.owner ∧ phase'.mayTrust = phase.mayTrust
      ∧ ∀ id trusted, phase'.device = some (id, trusted) → WorksOn w' phase.owner id trusted := by
  have stays : ∀ id trusted, phase.device = some (id, trusted) →
      WorksOn w' phase.owner id trusted :=
    fun id trusted device => (works id trusted device).changed changes
  cases op with
  | now =>
      obtain rfl := Option.some.inj moved
      exact ⟨rfl, rfl, stays⟩
  | update | trust | deleteUntrusted =>
      obtain rfl := Option.some.inj (Option.ite_none_right_eq_some.mp moved).2
      exact ⟨rfl, rfl, stays⟩
  | findFirst userId fingerprint =>
      obtain ⟨own, moved⟩ := Option.ite_none_right_eq_some.mp moved
      obtain rfl := Option.some.inj moved
      refine ⟨rfl, rfl, fun id trusted device => ?_⟩
      obtain ⟨⟨id', row⟩, found, same⟩ := Option.map_eq_some_iff.mp device
      obtain ⟨rfl, rfl⟩ := Prod.mk.inj same
      obtain ⟨found, trust⟩ := Option.filter_eq_some_iff.mp found
      cases reply with
      | error => cases found
      | ok value =>
          obtain rfl : value = some (id', row) := found
          obtain ⟨told, rfl⟩ :=
            Prod.mk.inj (Outcome.answer_ok (Environment.act_eq_some answered).2).2
          obtain ⟨there, user, device⟩ := lookup_find (Except.ok.inj told)
          refine ⟨known _ _ there, fun row' there' => ?_, fun _ => ⟨row, there, trust⟩⟩
          obtain rfl := Option.some.inj (there.symm.trans there')
          rw [own, user, device]
  | upsert userId fingerprint =>
      obtain ⟨own, moved⟩ := Option.ite_none_right_eq_some.mp moved
      obtain rfl := Option.some.inj moved
      refine ⟨rfl, rfl, fun id trusted device => ?_⟩
      obtain ⟨id', found, same⟩ := Option.map_eq_some_iff.mp device
      obtain ⟨rfl, rfl⟩ := Prod.mk.inj same
      cases reply with
      | error => cases found
      | ok value =>
          obtain rfl : value = id' := Option.some.inj found
          have effect : deviceEffect x w (.upsert userId fingerprint _ _ _) = _ :=
            (Outcome.answer_ok (Environment.act_eq_some answered).2).2
          cases there : w.find userId fingerprint with
          | some found =>
              simp only [deviceEffect, there] at effect
              obtain ⟨told, rfl⟩ := Prod.mk.inj effect
              obtain rfl := Except.ok.inj told
              obtain ⟨there, user, device⟩ := lookup_find there
              refine ⟨known _ _ there, fun row' there' => ?_, fun absurd => by cases absurd⟩
              obtain rfl := Option.some.inj ((AList.lookup_insert _).symm.trans there')
              rw [own, ← user, ← device]
          | none =>
              simp only [deviceEffect, there] at effect
              obtain ⟨told, rfl⟩ := Prod.mk.inj effect
              obtain rfl := Except.ok.inj told
              refine ⟨List.mem_cons_self, fun row' there' => ?_, fun absurd => by cases absurd⟩
              obtain rfl := Option.some.inj ((AList.lookup_insert _).symm.trans there')
              exact own

theorem Kept.step {start : Nat → Phase} (kept : Kept start c) (governed : Governed start c)
    {x : Choice} (stepped : c.step deviceSemantics i x = some c')
    : Kept start c' ∧ ∃ op, Changes op c.world c'.world := by
  obtain ⟨op, reply, -, -, answered, moved, past, rest, -⟩ := governed.step_cases stepped
  have changes : Changes op c.world c'.world := by
    obtain ⟨possible, ⟨left, -⟩ | ⟨left, -⟩⟩ := Environment.outcome_cases answered
    · rw [left]
      exact .refl
    · rw [left]
      exact changes_effect kept.known possible
  obtain ⟨owner, may, device⟩ := worksOn_next kept.known
    (fun id trusted works => (kept.same i).1 ▸ kept.device i id trusted works) answered changes
    moved
  have grown : ∀ j, ∀ event ∈ c.past j, event ∈ c'.past j := by
    intro j event there
    by_cases own : j = i
    · rw [own, past]
      exact List.mem_cons_of_mem _ (own ▸ there)
    · rwa [(rest j own).2.2]
  refine ⟨⟨fun id row found => ?_, fun j => ?_, fun j id trusted works => ?_,
    fun id row found trust => ?_⟩, op, changes⟩
  · rcases changes.rows id row found with ⟨row', before, -⟩ | ⟨-, there, -⟩
    · exact changes.generated id (kept.known id row' before)
    · exact there
  · by_cases own : j = i
    · subst own
      exact ⟨owner.trans (kept.same j).1, may.trans (kept.same j).2⟩
    · rw [(rest j own).1]
      exact kept.same j
  · by_cases own : j = i
    · subst own
      exact (kept.same j).1 ▸ device id trusted works
    · exact (kept.device j id trusted ((rest j own).1 ▸ works)).changed changes
  · rcases changes.rows id row found with ⟨row', before, same, trusts⟩ | ⟨-, -, untrusted⟩
    · rcases trusts trust with trust | ⟨trustedAt, rfl⟩
      · obtain ⟨j, user, may, event, there, trusted⟩ := kept.earned id row' before trust
        exact ⟨j, by rw [user, same.1, same.2], may, event, grown j event there, trusted⟩
      · -- the step trusts the row that its call has written
        obtain ⟨⟨may, written⟩, -⟩ := Option.ite_none_right_eq_some.mp moved
        have user := (kept.device i id false written).own row' before
        exact ⟨i, by rw [user, same.1, same.2], (kept.same i).2 ▸ may, _,
          past ▸ List.mem_cons_self, trustedAt, rfl⟩
    · rw [untrusted] at trust
      cases trust

theorem governed_initial
    : Governed (startOf sha256Hex calls) (initialConfig sha256Hex calls) := by
  refine Protocol.governs_initial fun i prog found => ?_
  rw [List.getElem?_map, Option.map_eq_some_iff] at found
  obtain ⟨call, there, rfl⟩ := found
  rw [startOf, there]
  exact wp_prog call

theorem kept_initial : Kept (startOf sha256Hex calls) (initialConfig sha256Hex calls) where
  known _ _ found := by cases found
  same _ := by
    rw [initialConfig, Protocol.phase_initial]
    exact ⟨rfl, rfl⟩
  device i id trusted works := by
    rw [initialConfig, Protocol.phase_initial, startOf] at works
    cases call : calls[i]? with
    | none =>
        rw [call] at works
        cases works
    | some call' =>
        rw [call] at works
        cases call' <;> cases works
  earned _ _ found := by cases found

theorem kept_reached (reached : Config.Reaches deviceSemantics Config.anyStep
    (initialConfig sha256Hex calls) c)
    : Governed (startOf sha256Hex calls) c ∧ Kept (startOf sha256Hex calls) c :=
  governed_initial.invariant kept_initial
    (fun _ _ _ _ governed kept _ stepped => (kept.step governed stepped).1) reached

/-- Whatever comes in between and whatever fails: a device is trusted only after a recovery of its
user from this device has trusted it, a verification that reports it as trusted is right, and it
stays trusted.
-/
theorem device_trust_earned
    (reached : Config.Reaches deviceSemantics Config.anyStep (initialConfig sha256Hex calls) c)
    : (∀ id row, c.world.devices.lookup id = some row → row.isTrusted = true →
        Earned (startOf sha256Hex calls) c id row)
      ∧ (∀ i result, c.value? i = some (some result) → result.isTrusted = true →
        ∃ row, c.world.devices.lookup result.deviceId = some row ∧ row.isTrusted = true
          ∧ (startOf sha256Hex calls i).owner = some (row.userId, row.fingerprint))
      ∧ ∀ c', Config.Reaches deviceSemantics Config.anyStep c c' →
        ∀ id row, c.world.devices.lookup id = some row → row.isTrusted = true →
          ∃ row', c'.world.devices.lookup id = some row' ∧ SameDevice row row'
            ∧ row'.isTrusted = true := by
  obtain ⟨governed, kept⟩ := kept_reached reached
  refine ⟨kept.earned, fun i result ended trust => ?_, fun c' later id row found trust => ?_⟩
  · have works := kept.device i result.deviceId true (trust ▸ governed.value ended)
    obtain ⟨row, there, trusted⟩ := works.there rfl
    exact ⟨row, there, trusted, works.own row there⟩
  · induction later with
    | refl => exact ⟨row, found, ⟨rfl, rfl⟩, trust⟩
    | tail before last ih =>
        obtain ⟨row', there, same, trust'⟩ := ih
        obtain ⟨governed, kept⟩ := kept_reached (reached.trans before)
        obtain ⟨i, x, -, stepped⟩ := last
        obtain ⟨-, op, changes⟩ := kept.step governed stepped
        obtain ⟨row'', there', same', trust''⟩ := changes.kept id row' there trust'
        exact ⟨row'', there', ⟨same'.1.trans same.1, same'.2.trans same.2⟩, trust''⟩

/-- A recovery that trusts its device, and a later verification from it. -/
def sampleCalls : List DeviceCall :=
  [.trustRecovery "ada" ⟨"browser", "10.0.0.1", none, none, none⟩,
    .verify "ada" ⟨"browser", "10.0.0.1", none, none, none⟩]

theorem device_trust_earned_later
    : ∃ c : DeviceConfig, c.value? 1 = some (some ⟨"d", true, false⟩)
        ∧ ∃ row, c.world.devices.lookup "d" = some row ∧ row.isTrusted = true
          ∧ (startOf String.ofList sampleCalls 1).owner = some (row.userId, row.fingerprint) := by
  have executed : ((initialConfig String.ofList sampleCalls).run deviceSemantics Config.anyStep
      ([0, 0, 0, 0, 0, 1, 1, 1].map fun i => (i, { newId := "d" }))).map (fun c => c.value? 1)
        = some (some (some ⟨"d", true, false⟩)) := by
    decide +kernel
  obtain ⟨c, reached, told⟩ := Config.reaches_of_run executed
  exact ⟨c, told, (device_trust_earned reached).2.1 1 _ told rfl⟩

end

end AcbuBackend.Devices
