import AcbuBackend.Conversion.ExactlyOnce
import AcbuBackend.MintEvents.EventProtocol

/-! Mint effects and the transactions they belong to.
A mint handler writes the hash of a row together with a final status, and the listener looks for
a row with the hash that is still open. A row that is announced after all is never claimable.
-/

namespace AcbuBackend.MintEvents

open Effects AcbuBackend.Runtime
open Conversion (Message ConversionOp)
open Json (Value)
open Mint (TxId TransactionStatus MintOp)

variable {dep : Deployment} {id : TxId}

/-- The conversion of a mint is on its way: a message for it was sent, and the consumer can claim
the transaction, or has done so.
-/
structure Correlated (w : World) (id : TxId) (txHash : String) : Prop where
  announced : ∃ message ∈ w.sent, message.transactionId = some id ∧ message.txHash = txHash
  claimable : w.mint.statusOf id = some .pending ∨ id ∈ w.claimed

-- Hashes of the rows

/-- The row has a hash. -/
def Hashed (mint : Mint.World) (id : TxId) : Prop :=
  ∃ row, mint.transactions.lookup id = some row ∧ row.blockchainTxHash ≠ none

/-- The row has no hash while it is pending. -/
def UnhashedWhilePending (mint : Mint.World) (id : TxId) : Prop :=
  ∀ row, mint.transactions.lookup id = some row → row.status = .pending
    → row.blockchainTxHash = none

/-- A hash stays, and no pending row comes to have one. -/
structure Kept (mint mint' : Mint.World) (id : TxId) : Prop where
  hashed : Hashed mint id → Hashed mint' id
  unhashed : UnhashedWhilePending mint id → UnhashedWhilePending mint' id

section

variable {mint : Mint.World} {other : TxId} {row new : Mint.Transaction}

theorem Kept.refl : Kept mint mint id :=
  ⟨fun same => same, fun same => same⟩

theorem lookup_put
    : (mint.put other new).transactions.lookup id
      = if id = other then some new else mint.transactions.lookup id := by
  by_cases same : id = other
  · subst same
    simp [Mint.World.put]
  · simp [Mint.World.put, same, AList.lookup_insert_ne same]

theorem Hashed.not_pending (hashed : Hashed mint id) (unhashed : UnhashedWhilePending mint id)
    : mint.statusOf id ≠ some .pending := by
  obtain ⟨row, found, hash⟩ := hashed
  intro pending
  rw [Mint.World.statusOf, found] at pending
  exact hash (unhashed row found (Option.some.inj pending))

theorem kept_put (keeps : id = other → Hashed mint id → new.blockchainTxHash ≠ none)
    (opens : id = other → UnhashedWhilePending mint id → new.status = .pending →
      new.blockchainTxHash = none)
    : Kept mint (mint.put other new) id := by
  by_cases same : id = other
  · have written : (mint.put other new).transactions.lookup id = some new := by
      rw [lookup_put, if_pos same]
    refine ⟨fun hashed => ⟨new, written, keeps same hashed⟩, fun unhashed row found pending => ?_⟩
    obtain rfl := Option.some.inj (written.symm.trans found)
    exact opens same unhashed pending
  · have left : (mint.put other new).transactions.lookup id = mint.transactions.lookup id := by
      rw [lookup_put, if_neg same]
    refine ⟨?_, fun unhashed row found => unhashed row (left.symm.trans found)⟩
    rintro ⟨row, found, hash⟩
    exact ⟨row, left.trans found, hash⟩

theorem kept_apply {data : Mint.TransactionUpdate}
    (found : mint.transactions.lookup other = some row)
    (closes : data.status ≠ .pending)
    : Kept mint (mint.put other (row.apply data)) id := by
  refine kept_put ?_ (fun _ _ pending => (closes pending).elim)
  rintro rfl ⟨row', found', hash⟩
  obtain rfl := Option.some.inj (found.symm.trans found')
  simp [Mint.Transaction.apply, hash]

theorem kept_update {data : Mint.TransactionUpdate} (closes : data.status ≠ .pending)
    : Kept mint (mint.update other data).2 id := by
  unfold Mint.World.update
  split
  · exact .refl
  · exact kept_apply ‹_› closes

theorem kept_moveStatus {current next : TransactionStatus} (closes : id = other → next ≠ .pending)
    : Kept mint (moveStatus mint other current next).2 id := by
  unfold moveStatus
  split
  · exact .refl
  · rename_i row found
    split
    · refine kept_put ?_ (fun same _ pending => (closes same pending).elim)
      rintro rfl ⟨row', found', hash⟩
      obtain rfl := Option.some.inj (found.symm.trans found')
      exact hash
    · exact .refl

theorem kept_mint {x : Mint.Choice} {op : MintOp} {outcome : Outcome JsError}
    (orderly : leavesNoOpenHash op) (possible : Mint.admissible op { x with outcome } mint = true)
    : Kept mint (Mint.effect x mint op).2 id := by
  cases op with
  | createTransaction data =>
      have fresh : x.freshId ∉ mint.transactions := of_decide_eq_true possible
      simp only [Mint.effect, Mint.World.create]
      split
      · exact .refl
      · refine kept_put ?_ (fun _ _ _ => orderly)
        rintro rfl ⟨row, found, -⟩
        rw [AList.lookup_eq_none.mpr fresh] at found
        cases found
  | updateTransaction other data => exact kept_update orderly
  | invokeContract _ call other => exact ⟨fun same => same, fun same => same⟩
  | _ => exact .refl

end

-- What a call changes

/-- A message names the transaction. -/
def World.names (w : World) (id : TxId) : Prop :=
  ∃ message ∈ w.queue ++ w.sent, message.transactionId = some id

/-- What one call of a task may do for a transaction that the task has not claimed: a row is named
once it has a hash, and claimed only where it is pending.
-/
structure Moved (id : TxId) (w w' : World) (phase phase' : Phase) : Prop where
  kept : Kept w.mint w'.mint id
  names : w'.names id → w.names id ∨ phase.named? = some id
  claimed : id ∈ w'.claimed →
    id ∈ w.claimed ∨ phase.named? = some id ∧ w.mint.statusOf id = some .pending
  named : phase'.named? = some id → phase.named? = some id ∨ w.names id ∨ Hashed w.mint id
  held : phase'.held? = some id → phase.named? = some id ∧ w.mint.statusOf id = some .pending

section

variable {w w' : World} {phase phase' : Phase}

theorem Moved.of_kept (unheld : phase.held? ≠ some id) (kept : Kept w.mint w'.mint id)
    (queue : w'.queue ⊆ w.queue) (sent : w'.sent = w.sent) (claimed : w'.claimed = w.claimed)
    : Moved id w w' phase phase where
  kept := kept
  names := by
    rintro ⟨message, member, named⟩
    rw [sent, List.mem_append] at member
    exact .inl ⟨message, List.mem_append.mpr (member.imp_left (@queue message)), named⟩
  claimed member := .inl (claimed ▸ member)
  named named := .inl named
  held held := (unheld held).elim

theorem Moved.of_same (unheld : phase.held? ≠ some id) : Moved id w w phase phase :=
  .of_kept unheld .refl (fun _ member => member) rfl rfl

theorem moved_send {message : Message} (unheld : phase.held? ≠ some id)
    (named : message.transactionId = phase.named?)
    : Moved id w (w.send message) phase phase := by
  refine { Moved.of_same (w := w) unheld with names := ?_, kept := .refl, claimed := .inl }
  rintro ⟨other, member, names⟩
  simp only [World.send, List.cons_append, List.mem_cons, List.mem_append] at member
  rcases member with rfl | queued | rfl | sent
  · exact .inr (named ▸ names)
  · exact .inl ⟨other, List.mem_append_left _ queued, names⟩
  · exact .inr (named ▸ names)
  · exact .inl ⟨other, List.mem_append_right _ sent, names⟩

@[simp] theorem named_afterClaim {count : Nat}
  : (phase.afterClaim count).named? = phase.named? := by
  unfold Phase.afterClaim
  split
  · split <;> rfl
  · rfl

theorem held_afterClaim {count : Nat} (held : (phase.afterClaim count).held? = some id)
    : phase.held? = some id ∨ count = 1 ∧ phase.named? = some id := by
  unfold Phase.afterClaim at held
  split at held
  · split at held
    · exact .inr ⟨‹_›, held⟩
    · cases held
  · exact .inl held

theorem statusOf_of_moved {mint : Mint.World} {current next : TransactionStatus}
    (changed : (moveStatus mint id current next).1 = 1)
    : mint.statusOf id = some current := by
  unfold moveStatus at changed
  split at changed
  · cases changed
  · rename_i row found
    split at changed
    · rename_i same
      simp [Mint.World.statusOf, found, same]
    · cases changed

theorem moved_claim {other : TxId} {count : Nat} (unheld : phase.held? ≠ some id)
    (named : phase.named? = some other) (known : count = 1 → (w.claim other).1 = 1)
    : Moved id w (w.claim other).2 phase (phase.afterClaim count) where
  kept := kept_moveStatus fun _ => nofun
  names := .inl
  claimed := by
    intro member
    simp only [World.claim] at member
    split at member
    · rename_i changed
      rcases List.mem_cons.mp member with rfl | before
      · exact .inr ⟨named, statusOf_of_moved changed⟩
      · exact .inl before
    · exact .inl member
  named same := .inl (named_afterClaim ▸ same)
  held held := by
    rcases held_afterClaim held with held | ⟨one, same⟩
    · exact (unheld held).elim
    · obtain rfl := Option.some.inj (named.symm.trans same)
      exact ⟨same, statusOf_of_moved (known one)⟩

variable {i : Nat} {x : Choice}

theorem moved_mint {op : MintOp} {reply : systemInterface.Reply (.mint op)}
    (unheld : phase.held? ≠ some id)
    (answered : systemSemantics.act i (.mint op) x w = some (reply, w'))
    (next : systemProtocol.next phase (.mint op) reply = some phase')
    : Moved id w w' phase phase' := by
  obtain ⟨orderly, rfl⟩ := Option.ite_none_right_eq_some.mp next |>.imp_right Option.some.inj
  obtain ⟨possible, ⟨rfl, -⟩ | ⟨rfl, -⟩⟩ := Environment.act_cases answered
  · exact .of_same unheld
  · refine .of_kept unheld ?_ (fun _ member => member) rfl rfl
    exact kept_mint orderly possible

theorem moved_listener {op : ListenerOp} {reply : systemInterface.Reply (.listener op)}
    (unheld : phase.held? ≠ some id)
    (answered : systemSemantics.act i (.listener op) x w = some (reply, w'))
    (next : systemProtocol.next phase (.listener op) reply = some phase')
    : Moved id w w' phase phase' := by
  obtain ⟨possible, world⟩ := Environment.act_cases answered
  cases op with
  | findTransaction txHash =>
      have same : w' = w := world.elim And.left And.left
      subst same
      match reply with
      | .ok none | .error _ =>
          obtain rfl := Option.some.inj next
          exact .of_same unheld
      | .ok (some found) =>
          obtain rfl := Option.some.inj next
          rcases world with ⟨-, failed⟩ | ⟨-, effect⟩
          · cases failed
          have chosen : some found = x.transactionId := Except.ok.inj (effect rfl)
          refine { Moved.of_same (w := w') unheld with named := ?_, held := nofun }
          intro named
          obtain rfl := Option.some.inj named
          simp only [systemEnvironment, admissible, ← chosen, Option.any_eq_true] at possible
          obtain ⟨row, known, isOpen⟩ := possible
          have hash : row.blockchainTxHash = some txHash := by
            simp only [isOpenMint, Bool.and_eq_true, decide_eq_true_eq] at isOpen
            exact isOpen.1
          exact .inr (.inr ⟨row, known, by simp [hash]⟩)
  | sendToQueue message =>
      obtain ⟨named, rfl⟩ := Option.ite_none_right_eq_some.mp next |>.imp_right Option.some.inj
      rcases world with ⟨rfl, -⟩ | ⟨rfl, -⟩
      · exact .of_same unheld
      · exact moved_send unheld named
  | operation _ | getTransaction _ | connectRabbitMQ | assertQueueWithDLQ =>
      obtain rfl := Option.some.inj next
      rcases world with ⟨rfl, -⟩ | ⟨rfl, -⟩ <;> exact .of_same unheld

theorem moved_conversion {op : ConversionOp} {reply : systemInterface.Reply (.conversion op)}
    (unheld : phase.held? ≠ some id)
    (answered : systemSemantics.act i (.conversion op) x w = some (reply, w'))
    (next : systemProtocol.next phase (.conversion op) reply = some phase')
    : Moved id w w' phase phase' := by
  obtain ⟨possible, world⟩ := Environment.act_cases answered
  cases op with
  | receive =>
      have same : w' = w := world.elim And.left And.left
      subst same
      match reply with
      | .error _ =>
          obtain rfl := Option.some.inj next
          exact .of_same unheld
      | .ok message =>
          obtain rfl := Option.some.inj next
          rcases world with ⟨-, failed⟩ | ⟨-, effect⟩
          · cases failed
          obtain rfl : message = x.conversion.message := Except.ok.inj (effect rfl)
          have queued : x.conversion.message ∈ w'.queue := (of_decide_eq_true possible).2
          refine { Moved.of_same (w := w') unheld with named := fun named => ?_, held := nofun }
          exact .inr (.inl ⟨_, List.mem_append_left _ queued, named⟩)
  | claimTransaction other =>
      obtain ⟨named, next⟩ := Option.ite_none_right_eq_some.mp next
      match reply with
      | .error _ =>
          obtain rfl := Option.some.inj next
          rcases world with ⟨rfl, -⟩ | ⟨rfl, -⟩
          · exact .of_same unheld
          · have lost := @moved_claim id w phase other 0 unheld named nofun
            cases phase <;> exact lost
      | .ok count =>
          obtain rfl := Option.some.inj next
          rcases world with ⟨-, failed⟩ | ⟨rfl, effect⟩
          · cases failed
          obtain rfl : count = (w.claim other).1 := Except.ok.inj (effect rfl)
          exact moved_claim unheld named fun one => one
  | releaseClaim other =>
      obtain ⟨held, rfl⟩ := Option.ite_none_right_eq_some.mp next |>.imp_right Option.some.inj
      rcases world with ⟨rfl, -⟩ | ⟨rfl, -⟩
      · exact .of_same unheld
      · refine .of_kept unheld (kept_moveStatus ?_) (fun _ member => member) rfl rfl
        rintro rfl
        exact (unheld held).elim
  | completeTransaction other txHash =>
      obtain rfl := Option.some.inj next
      rcases world with ⟨rfl, -⟩ | ⟨rfl, -⟩
      · exact .of_same unheld
      · exact .of_kept unheld (kept_update (by simp)) (fun _ member => member) rfl rfl
  | sendToQueue message =>
      obtain ⟨named, rfl⟩ := Option.ite_none_right_eq_some.mp next |>.imp_right Option.some.inj
      rcases world with ⟨rfl, -⟩ | ⟨rfl, -⟩
      · exact .of_same unheld
      · exact moved_send unheld named
  | ack message | nack message =>
      obtain rfl := Option.some.inj next
      rcases world with ⟨rfl, -⟩ | ⟨rfl, -⟩
      · exact .of_same unheld
      · exact .of_kept unheld .refl (fun _ member => List.mem_of_mem_erase member) rfl rfl
  | fintech transactionId call =>
      obtain rfl := Option.some.inj next
      cases call <;> rcases world with ⟨rfl, -⟩ | ⟨rfl, -⟩ <;> exact .of_same unheld
  | getCurrentBasket | createReserveHistory _ =>
      obtain rfl := Option.some.inj next
      rcases world with ⟨rfl, -⟩ | ⟨rfl, -⟩ <;> exact .of_same unheld

theorem moved_of_act {op : SystemOp} {reply : systemInterface.Reply op}
    (unheld : phase.held? ≠ some id) (answered : systemSemantics.act i op x w = some (reply, w'))
    (next : systemProtocol.next phase op reply = some phase')
    : Moved id w w' phase phase' := by
  cases op with
  | mint op => exact moved_mint unheld answered next
  | listener op => exact moved_listener unheld answered next
  | conversion op => exact moved_conversion unheld answered next

end

-- Runs

/-- What a task has come to know by its calls so far. -/
noncomputable def phaseOf (c : SystemConfig) (i : Nat) : Phase :=
  systemProtocol.phase (fun _ => .idle) c i

abbrev Governed (c : SystemConfig) : Prop :=
  systemProtocol.Governs (fun _ => .idle) (fun _ _ _ => True) (fun _ _ _ => True) c

/-- No task has claimed the transaction, and none can: the row has a hash by the time it is
named, and is not pending with it.
-/
structure Unclaimable (c : SystemConfig) (id : TxId) : Prop where
  unhashed : UnhashedWhilePending c.world.mint id
  unclaimed : id ∉ c.world.claimed
  names : c.world.names id → Hashed c.world.mint id
  named : ∀ i, (phaseOf c i).named? = some id → Hashed c.world.mint id
  unheld : ∀ i, (phaseOf c i).held? ≠ some id

theorem Unclaimable.step {c c' : SystemConfig} {i : Nat} {x : Choice} (governed : Governed c)
    (h : Unclaimable c id) (stepped : c.step systemSemantics i x = some c')
    : Unclaimable c' id := by
  obtain ⟨op, reply, -, -, answered, next, -, others, -⟩ := governed.step_cases stepped
  have moved : Moved id c.world c'.world (phaseOf c i) (phaseOf c' i) :=
    moved_of_act (h.unheld i) answered next
  have closed : (phaseOf c i).named? = some id → c.world.mint.statusOf id ≠ some .pending :=
    fun named => (h.named i named).not_pending h.unhashed
  have same : ∀ j, j ≠ i → phaseOf c' j = phaseOf c j := fun j other => (others j other).1
  constructor
  · exact moved.kept.unhashed h.unhashed
  · intro member
    rcases moved.claimed member with before | ⟨named, pending⟩
    · exact h.unclaimed before
    · exact closed named pending
  · intro names
    rcases moved.names names with before | named
    · exact moved.kept.hashed (h.names before)
    · exact moved.kept.hashed (h.named i named)
  · intro j named
    by_cases stepping : j = i
    · subst stepping
      rcases moved.named named with before | names | hashed
      · exact moved.kept.hashed (h.named j before)
      · exact moved.kept.hashed (h.names names)
      · exact moved.kept.hashed hashed
    · rw [same j stepping] at named
      exact moved.kept.hashed (h.named j named)
  · intro j held
    by_cases stepping : j = i
    · subst stepping
      obtain ⟨named, pending⟩ := moved.held held
      exact closed named pending
    · rw [same j stepping] at held
      exact h.unheld j held

section

variable {tasks : List Task} {transactions : AList (fun _ : TxId => Mint.Transaction)}
  {queue : List Message}

theorem governed_initial : Governed (initialConfig dep tasks transactions queue) := by
  apply Protocol.governs_initial
  intro i prog found
  rw [List.getElem?_map, Option.map_eq_some_iff] at found
  obtain ⟨task, -, rfl⟩ := found
  exact program_wp

theorem unclaimable_initial (absent : id ∉ transactions)
    (unnamed : ∀ message ∈ queue, message.transactionId ≠ some id)
    : Unclaimable (initialConfig dep tasks transactions queue) id where
  unhashed row found := nomatch (AList.lookup_eq_none.mpr absent).symm.trans found
  unclaimed := nofun
  names := by
    rintro ⟨message, member, named⟩
    exact (unnamed message (by simpa [initialConfig, Config.initial] using member) named).elim
  named i named := by
    rw [phaseOf, initialConfig, Protocol.phase_initial] at named
    cases named
  unheld i held := by
    rw [phaseOf, initialConfig, Protocol.phase_initial] at held
    cases held

/-- The conversion of a mint that a run has entered is never on its way, whatever its hash: in
every order of the steps, a row that was announced is not claimable. Witness: `Unclaimable`, by
induction on the run.
-/
theorem mint_never_correlated (dep : Deployment) (tasks : List Task)
    (transactions : AList (fun _ : TxId => Mint.Transaction)) (queue : List Message)
    (known : ∀ message ∈ queue, ∀ id, message.transactionId = some id → id ∈ transactions)
    (c : SystemConfig)
    (reached : Config.Reaches systemSemantics Config.anyStep
      (initialConfig dep tasks transactions queue) c)
    (id : TxId) (entered : id ∉ transactions) (txHash : String)
    : ¬ Correlated c.world id txHash := by
  have unnamed : ∀ message ∈ queue, message.transactionId ≠ some id :=
    fun message member named => entered (known message member id named)
  obtain ⟨-, invariant⟩ := governed_initial.invariant (J := fun c => Unclaimable c id)
    (unclaimable_initial entered unnamed) (fun _ _ _ _ governed h _ stepped => h.step governed
      stepped)
    reached
  rintro ⟨⟨message, sent, named, -⟩, claimable⟩
  have hashed := invariant.names ⟨message, List.mem_append_right _ sent, named⟩
  rcases claimable with pending | claimed
  · exact hashed.not_pending invariant.unhashed pending
  · exact invariant.unclaimed claimed

end

-- A deposit and its effect

def sampleHash : String := String.ofList (List.replicate 64 'a')

def sampleDeployment : Deployment where
  mint := Mint.sampleDeployment
  conversion := Conversion.sampleDeployment
  numberText := fun value => toString value.num

/-- The credit of the minted tokens, with the hash of the mint. -/
def sampleEffect : Value :=
  .object
    [("amount", .string "1"), ("account", .string (String.ofList (List.replicate 56 'G'))),
      ("transaction_hash", .string sampleHash)]

/-- Every call succeeds. -/
def sampleChoice : Choice where
  mint :=
    { Mint.sampleChoice with
      contractResult := { transactionHash := sampleHash, result := 10 ^ 7 } }

/-- The deposit is over before its effect arrives. -/
def sampleSchedule : List (Nat × Choice) :=
  List.replicate 11 (0, sampleChoice) ++ List.replicate 2 (1, sampleChoice)

/-- The row of the deposit, the messages sent, and which tasks are still running. -/
def sampleRead (c : SystemConfig)
    : Option (TransactionStatus × Option String) × List Message × Bool × Bool :=
  ((c.world.mint.transactions.lookup "t1").map (fun row => (row.status, row.blockchainTxHash)),
    c.world.sent, c.live 0, c.live 1)

def sampleStart : SystemConfig :=
  initialConfig sampleDeployment [.mint (.deposit Mint.sampleDeposit), .effect sampleEffect] ∅ []

theorem sample_executed
    : ∃ c, Config.Reaches systemSemantics Config.anyStep sampleStart c
        ∧ sampleRead c = (some (.completed, some sampleHash), [], false, false) := by
  have executed :
      (sampleStart.run systemSemantics Config.anyStep sampleSchedule).map sampleRead
        = some (some (.completed, some sampleHash), [], false, false) := by
    decide +kernel
  exact Config.reaches_of_run executed

/-- The deposit completes with its hash and its effect is handled, and no message is sent. -/
theorem completed_deposit_unannounced
    : ∃ c, Config.Reaches systemSemantics Config.anyStep sampleStart c
        ∧ (c.live 0 = false ∧ c.live 1 = false)
        ∧ (∃ row, c.world.mint.transactions.lookup "t1" = some row
            ∧ row.status = .completed ∧ row.blockchainTxHash = some sampleHash)
        ∧ ¬ Correlated c.world "t1" sampleHash := by
  obtain ⟨c, reached, read⟩ := sample_executed
  obtain ⟨written, read⟩ := Prod.mk.inj read
  obtain ⟨unsent, read⟩ := Prod.mk.inj read
  obtain ⟨row, found, known⟩ := Option.map_eq_some_iff.mp written
  obtain ⟨status, hash⟩ := Prod.mk.inj known
  refine ⟨c, reached, Prod.mk.inj read, ⟨row, found, status, hash⟩, ?_⟩
  rintro ⟨⟨message, sent, -⟩, -⟩
  rw [unsent] at sent
  cases sent

theorem mint_never_correlated_deposit
    : ∃ c, Config.Reaches systemSemantics Config.anyStep sampleStart c
        ∧ c.world.mint.statusOf "t1" = some .completed
        ∧ ¬ Correlated c.world "t1" sampleHash := by
  obtain ⟨c, reached, read⟩ := sample_executed
  obtain ⟨row, found, known⟩ := Option.map_eq_some_iff.mp (congrArg Prod.fst read)
  refine ⟨c, reached, ?_, mint_never_correlated sampleDeployment
    [.mint (.deposit Mint.sampleDeposit), .effect sampleEffect] ∅ [] (fun _ => nofun) c reached "t1"
    nofun sampleHash⟩
  rw [Mint.World.statusOf, found]
  exact congrArg (fun read => some read.1) known

end AcbuBackend.MintEvents
