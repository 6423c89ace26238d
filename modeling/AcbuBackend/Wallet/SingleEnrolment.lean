import AcbuBackend.Wallet.WalletProtocol

/-! Enrolments of a wallet.
An enrolment checks the address it reads, and its update checks the version its caller has named.
The two belong together where no enrolment reads its user while it names a version that is still to
come.
-/

namespace AcbuBackend.Wallet

open Effects AcbuBackend.Runtime

def World.address (w : World) (userId : UserId) : Option String :=
  setAddress ((w.users.lookup userId).bind (·.stellarAddress))

/-- No step of an enrolment changes an address that is set. -/
def KeepsAddresses (calls : List WalletCall) (c : WalletConfig) : Prop :=
  ∀ i x c' userId address, (callAt calls i).enrolled?.isSome = true →
    c.step walletSemantics i x = some c' → c.world.address userId = some address →
    c'.world.address userId = some address

/-- A call that reads its user names no version above the stored one. -/
def Unguessed (calls : List WalletCall) (c : WalletConfig) (i : Nat) (_ : Choice) : Prop :=
  match c.pending? i with
  | some (.findUser id) =>
      ∀ version ∈ (callAt calls i).version?, ∀ row ∈ c.world.users.lookup id,
        version ≤ row.walletVersion
  | _ => True

instance (calls : List WalletCall) (c : WalletConfig) (i : Nat) (x : Choice)
    : Decidable (Unguessed calls c i x) :=
  decidable_of_iff
    ((match c.pending? i with
      | some (.findUser id) =>
          (callAt calls i).version?.all (fun version =>
            (c.world.users.lookup id).all (fun row => decide (version ≤ row.walletVersion)))
      | _ => true) = true)
    (by
      unfold Unguessed
      split
      · simp [Option.all_eq_true]
      · simp)

/-- An enrolment that has passed its check names the stored version only while the address it has
checked is still there; no other row has the version yet.
-/
def CheckedFresh (calls : List WalletCall) (c : WalletConfig) : Prop :=
  ∀ i stellarAddress row version, (callAt calls i).enrolled? = some stellarAddress →
    stageOf calls c i = .checked → c.world.users.lookup (callAt calls i).userId = some row →
    (callAt calls i).version? = some version →
    version ≤ row.walletVersion
      ∧ (version = row.walletVersion → ∀ address ∈ setAddress row.stellarAddress,
        address = stellarAddress)

variable {dep : Deployment} {calls : List WalletCall}

theorem read_of_checked {c c' : WalletConfig} {i : Nat} {x : Choice} (governed : Governed calls c)
    (stepped : c.step walletSemantics i x = some c') (checked : stageOf calls c' i = .checked)
    : c.pending? i = some (.findUser (callAt calls i).userId) := by
  obtain ⟨op, reply, -, pending, -, moved, -⟩ := governed.step_cases stepped
  rw [phase_eq, phase_eq] at moved
  cases op with
  | findUser id =>
      obtain ⟨rfl, -⟩ := next_findUser moved
      exact pending
  | updateMany id walletVersion data =>
      obtain ⟨-, -, -, -, next⟩ := next_updateMany moved
      rw [(Phase.mk.inj next).2] at checked
      unfold afterUpdate at checked
      split at checked
      · split at checked <;> cases checked
      · cases checked

theorem address_of_passed {row : UserRow} {stellarAddress : String}
    (passed : otherEnrolled (some row.stellarAddress) stellarAddress = false)
    : ∀ address ∈ setAddress row.stellarAddress, address = stellarAddress := by
  intro address there
  simp only [otherEnrolled, Option.getD_some, Option.any_eq_false] at passed
  simpa using passed address there

theorem passed_of_checked {stellarAddress : String}
    {reply : Except JsError (Option (Option String))}
    (checked : afterRead stellarAddress reply = .checked)
    : ∃ found, reply = .ok found ∧ otherEnrolled found stellarAddress = false := by
  unfold afterRead at checked
  split at checked
  · split at checked
    · cases checked
    · exact ⟨_, rfl, Bool.eq_false_iff.mpr ‹_›⟩
  · cases checked

theorem CheckedFresh.written {c c' : WalletConfig} {i : Nat} {row : UserRow} {data : WalletUpdate}
    (h : CheckedFresh calls c) (found : c.world.users.lookup (callAt calls i).userId = some row)
    (left : c'.world.users = c.world.users.insert (callAt calls i).userId (row.apply data))
    (mine : stageOf calls c' i ≠ .checked)
    (others : ∀ j, j ≠ i → stageOf calls c' j = stageOf calls c j)
    : CheckedFresh calls c' := by
  intro j stellarAddress row' version enrols checked there named
  by_cases own : j = i
  · subst own
    exact absurd checked mine
  rw [others j own] at checked
  rw [left] at there
  by_cases same : (callAt calls j).userId = (callAt calls i).userId
  · rw [same, AList.lookup_insert] at there
    obtain rfl := Option.some.inj there
    have below := (h j stellarAddress row version enrols checked (same ▸ found) named).1
    rw [walletVersion_apply]
    exact ⟨by omega, fun equal => by omega⟩
  · rw [AList.lookup_insert_ne same] at there
    exact h j stellarAddress row' version enrols checked there named

theorem CheckedFresh.step {c c' : WalletConfig} {i : Nat} {x : Choice} (h : CheckedFresh calls c)
    (governed : Governed calls c) (unguessed : Unguessed calls c i x)
    (stepped : c.step walletSemantics i x = some c')
    : CheckedFresh calls c' := by
  have read := read_of_checked governed stepped
  obtain ⟨move, -, others⟩ := wallet_step governed stepped
  -- a step that writes nothing concerns its own call at most
  have unwritten : c'.world = c.world →
      (∀ stellarAddress row version, (callAt calls i).enrolled? = some stellarAddress →
        stageOf calls c' i = .checked → c.world.users.lookup (callAt calls i).userId = some row →
        (callAt calls i).version? = some version →
        version ≤ row.walletVersion ∧ (version = row.walletVersion →
          ∀ address ∈ setAddress row.stellarAddress, address = stellarAddress)) →
      CheckedFresh calls c' := by
    intro same own j stellarAddress row version enrols checked there named
    rw [same] at there
    by_cases mine : j = i
    · subst mine
      exact own stellarAddress row version enrols checked there named
    · rw [others j mine] at checked
      exact h j stellarAddress row version enrols checked there named
  generalize reached : stageOf calls c' i = stage at move read
  cases move with
  | @read stellarAddress enrols reply seen same =>
      refine unwritten same fun other row version enrols' checked there named => ?_
      obtain rfl := Option.some.inj (enrols.symm.trans enrols')
      rw [reached] at checked
      obtain ⟨found, told, passed⟩ := passed_of_checked checked
      have unguessed : ∀ version ∈ (callAt calls i).version?,
          ∀ row ∈ c.world.users.lookup (callAt calls i).userId, version ≤ row.walletVersion := by
        unfold Unguessed at unguessed
        rw [read checked] at unguessed
        exact unguessed
      rw [seen found told, there] at passed
      exact ⟨unguessed version named row there, fun _ => address_of_passed passed⟩
  | missed same =>
      refine unwritten same fun _ _ _ _ checked => ?_
      rw [reached] at checked
      cases checked
  | wrote _ found _ left => exact h.written found left (by rw [reached]; nofun) others
  | unreported _ _ found _ left => exact h.written found left (by rw [reached]; nofun) others

theorem address_of_lookup {w : World} {userId : UserId} {row : UserRow}
    (there : w.users.lookup userId = some row)
    : w.address userId = setAddress row.stellarAddress := by
  rw [World.address, there]
  rfl

theorem address_of_enrolled {w w' : World} {userId : UserId} {call : WalletCall} {row : UserRow}
    {address stellarAddress : String} (enrols : call.enrolled? = some stellarAddress)
    (found : w.users.lookup call.userId = some row)
    (kept : ∀ address ∈ setAddress row.stellarAddress, address = stellarAddress)
    (left : w'.users = w.users.insert call.userId (row.apply call.data))
    (there : w.address userId = some address)
    : w'.address userId = some address := by
  by_cases same : userId = call.userId
  · subst same
    have there : address ∈ setAddress row.stellarAddress :=
      (address_of_lookup found).symm.trans there
    obtain rfl := kept address there
    cases call with
    | reserve | update => cases enrols
    | enroll userId ifMatch params =>
        have own : params.stellarAddress = address := Option.some.inj enrols
        have present : address ≠ "" := by simpa using (Option.mem_filter_iff.mp there).2
        have written : w'.users.lookup userId
            = some (row.apply (WalletCall.enroll userId ifMatch params).data) := by
          rw [left]
          exact AList.lookup_insert _
        rw [show (WalletCall.enroll userId ifMatch params).userId = userId from rfl,
          address_of_lookup written]
        simp [WalletCall.data, EnrollWalletParams.data, UserRow.apply, setAddress, own, present]
  · rw [World.address, left, AList.lookup_insert_ne same]
    exact there

theorem CheckedFresh.keepsAddresses {c : WalletConfig} (h : CheckedFresh calls c)
    (governed : Governed calls c)
    : KeepsAddresses calls c := by
  intro i x c' userId address enrols stepped there
  obtain ⟨stellarAddress, enrols⟩ := Option.isSome_iff_exists.mp enrols
  obtain ⟨move, -, -⟩ := wallet_step governed stepped
  have writes : ∀ row, Phase.mayUpdate ⟨callAt calls i, stageOf calls c i⟩ = true →
      c.world.users.lookup (callAt calls i).userId = some row →
      (callAt calls i).version? = some row.walletVersion →
      c'.world.users = c.world.users.insert (callAt calls i).userId
        (row.apply (callAt calls i).data) →
      c'.world.address userId = some address := by
    intro row allowed found named left
    have checked : stageOf calls c i = .checked := by
      unfold Phase.mayUpdate at allowed
      rw [enrols] at allowed
      split at allowed
      · assumption
      · cases ‹some stellarAddress = none›
      · cases allowed
    have kept := (h i stellarAddress row _ enrols checked found named).2 rfl
    exact address_of_enrolled enrols found kept left there
  generalize stageOf calls c' i = stage at move
  cases move with
  | read _ _ _ same | missed same =>
      rw [same]
      exact there
  | wrote allowed found named left => exact writes _ allowed found named left
  | unreported _ allowed found named left => exact writes _ allowed found named left

/-- In a run in which no enrolment reads its user for a version still to come, no enrolment changes
an address that is set.
-/
theorem enrolment_keeps_address (dep : Deployment) (calls : List WalletCall)
    (users : AList (fun _ : UserId => UserRow)) {c : WalletConfig}
    (reached : Config.Reaches walletSemantics (Unguessed calls) (initialConfig dep calls users) c)
    : KeepsAddresses calls c := by
  have base : CheckedFresh calls (initialConfig dep calls users) := by
    intro i _ _ _ _ checked
    rw [stageOf_initial] at checked
    cases checked
  obtain ⟨governed, h⟩ := Protocol.Governs.invariant (J := CheckedFresh calls) governed_initial base
    (fun _ _ _ _ governed h unguessed stepped => h.step governed unguessed stepped) reached
  exact h.keepsAddresses governed

/-- Two enrolments, the second of which names the version that the first one makes. -/
def twoEnrolments : List WalletCall :=
  [sampleEnrolment "\"0\"" firstAddress, sampleEnrolment "\"1\"" secondAddress]

def alreadyEnrolled : JsError :=
  plainAppError "Wallet already enrolled; rotate the address with PUT /users/me/wallet" 409

/-- An enrolment that reads after the first one finds its wallet. -/
theorem enrolment_keeps_address_taken
    : ∃ c, c.world.address "user" = some firstAddress
        ∧ c.error? 1 = some alreadyEnrolled
        ∧ KeepsAddresses twoEnrolments c := by
  have executed :
      ((initialConfig sampleDeployment twoEnrolments sampleUsers).run walletSemantics
        (Unguessed twoEnrolments)
        [(0, {}), (0, {}), (1, {})]).map (fun c => (c.world.address "user", c.error? 1))
        = some (some firstAddress, some alreadyEnrolled) := by
    decide +kernel
  obtain ⟨c, reached, known⟩ := Config.reaches_of_run executed
  obtain ⟨address, error⟩ := Prod.mk.inj known
  exact ⟨c, address, error, enrolment_keeps_address _ _ _ reached⟩

/-- An enrolment that has read before, and has guessed the version, replaces it. -/
theorem guessed_enrolment_overwrites
    : ∃ c c', Config.Reaches walletSemantics Config.anyStep
        (initialConfig sampleDeployment twoEnrolments sampleUsers) c
      ∧ c.step walletSemantics 1 {} = some c'
      ∧ c.world.address "user" = some firstAddress
      ∧ c'.world.address "user" = some secondAddress := by
  have executed :
      ((initialConfig sampleDeployment twoEnrolments sampleUsers).run walletSemantics Config.anyStep
        [(1, {}), (0, {}), (0, {})]).map (fun c => (c.world.address "user",
          (c.step walletSemantics 1 {}).map (fun c' => c'.world.address "user")))
        = some (some firstAddress, some (some secondAddress)) := by
    decide +kernel
  obtain ⟨c, reached, known⟩ := Config.reaches_of_run executed
  obtain ⟨before, after⟩ := Prod.mk.inj known
  obtain ⟨c', stepped, after⟩ := Option.map_eq_some_iff.mp after
  exact ⟨c, c', reached, stepped, before, after⟩

end AcbuBackend.Wallet
