import AcbuBackend.Mint.MintSteps

/-! What a repeated deposit is answered with.
The replay lookup of `depositFromBasketCurrency` stands behind its wallet, pause, rate and
limit checks. The row of a key stays the only one to bear it, so a later call with the key
creates nothing, but it is answered with the row exactly when all the checks pass again.
-/

namespace AcbuBackend.Mint

open Effects AcbuBackend.Runtime Rates

variable {dep : Deployment} {requests : List MintRequest}

-- The row of a key

/-- The row `id` bears the key, and no other row does. -/
structure KeyOwner (key : String) (id : TxId) (w : World) : Prop where
  bears : ∃ row, w.transactions.lookup id = some row ∧ row.idempotencyKey = some key
  only : ∀ other row, w.transactions.lookup other = some row → row.idempotencyKey = some key →
    other = id

theorem lookup_put {w : World} {id other : TxId} {row : Transaction}
    : (w.put id row).transactions.lookup other
      = if other = id then some row else w.transactions.lookup other := by
  by_cases same : other = id
  · subst same
    simp [World.put]
  · simp [World.put, same, AList.lookup_insert_ne same]

theorem act_create_of_borne {i : Nat} {x : Choice} {w w' : World} {data : Transaction}
    {key : String}
    {id : TxId} {row : Transaction} {reply : Except JsError TxId}
    (answered : mintSemantics.act i (.createTransaction data) x w = some (reply, w'))
    (keyed : data.idempotencyKey = some key) (found : w.transactions.lookup id = some row)
    (bears : row.idempotencyKey = some key)
    : w' = w := by
  have borne : w.transactions.entries.any (fun e => e.2.idempotencyKey = data.idempotencyKey)
      = true := by
    rw [List.any_eq_true]
    exact ⟨⟨id, row⟩, AList.mem_lookup_iff.mp found, by simp [bears, keyed]⟩
  have isKeyed : data.idempotencyKey.isSome = true := by simp [keyed]
  apply act_same answered
  simp only [effect, World.create]
  rw [if_pos ⟨isKeyed, borne⟩]

theorem keyOwner_of_create {i : Nat} {x : Choice} {w w' : World} {data : Transaction} {key : String}
    {id : TxId} {reply : Except JsError TxId}
    (answered : mintSemantics.act i (.createTransaction data) x w = some (reply, w'))
    (keyed : data.idempotencyKey = some key) (absent : id ∉ w.transactions)
    (present : id ∈ w'.transactions)
    : KeyOwner key id w' := by
  obtain ⟨-, left, -⟩ := act_create answered
  rcases left with rfl | put
  · exact absurd present absent
  · have mine : id = x.freshId := by
      rw [put, mem_put] at present
      exact present.resolve_right absent
    subst mine
    refine ⟨⟨data, by rw [put, lookup_put, if_pos rfl], keyed⟩, fun other row found bears => ?_⟩
    by_contra different
    rw [put, lookup_put, if_neg different] at found
    -- the key was borne before, so that nothing was created
    exact absent (act_create_of_borne answered keyed found bears ▸ present)

theorem eq_create_of_added {i : Nat} {op : MintOp} {x : Choice} {w w' : World} {id : TxId}
    {reply : mintInterface.Reply op}
    (answered : mintSemantics.act i op x w = some (reply, w')) (absent : id ∉ w.transactions)
    (present : id ∈ w'.transactions)
    : ∃ data, op = .createTransaction data := by
  cases op with
  | createTransaction data => exact ⟨data, rfl⟩
  | updateTransaction other data =>
      rcases (act_update answered).1 with rfl | ⟨row, found, rfl⟩
      · exact absurd present absent
      · rcases mem_put.mp present with rfl | before
        · exact absurd (AList.lookup_isSome.mp (by simp [found])) absent
        · exact absurd before absent
  | invokeContract sourceAccount call other =>
      rcases (act_invoke answered).1 with rfl | rfl
      · exact absurd present absent
      · exact absurd present absent
  | now | getLatestAcbuRate | isMintingPaused | checkDepositLimits | findUserWallet | getKeypair
  | mintingAddress | findTransaction | findByIdempotencyKey | logAudit =>
      obtain rfl := act_same answered rfl
      exact absurd present absent

theorem KeyOwner.create {i : Nat} {x : Choice} {w w' : World} {data : Transaction} {key : String}
    {id : TxId} {reply : Except JsError TxId} (h : KeyOwner key id w)
    (answered : mintSemantics.act i (.createTransaction data) x w = some (reply, w'))
    : KeyOwner key id w' := by
  obtain ⟨row, found, bears⟩ := h.bears
  obtain ⟨fresh, left, -⟩ := act_create answered
  rcases left with rfl | put
  · exact h
  · have known : id ≠ x.freshId := by
      rintro rfl
      exact fresh (AList.lookup_isSome.mp (by simp [found]))
    refine ⟨⟨row, by rw [put, lookup_put, if_neg known, found], bears⟩,
      fun other row' at' bears' => ?_⟩
    rw [put, lookup_put] at at'
    split at at'
    · obtain rfl := Option.some.inj at'
      have kept : w' = w := act_create_of_borne answered bears' found bears
      have added : x.freshId ∈ w'.transactions := by
        rw [put, mem_put]
        exact .inl rfl
      exact absurd (kept ▸ added) fresh
    · exact h.only other row' at' bears'

theorem KeyOwner.update {w w' : World} {key : String} {id other : TxId} {data : TransactionUpdate}
    (h : KeyOwner key id w) (left : Updated w w' other data)
    : KeyOwner key id w' := by
  rcases left with rfl | ⟨old, before, rfl⟩
  · exact h
  · obtain ⟨row, found, bears⟩ := h.bears
    constructor
    · by_cases same : id = other
      · subst same
        obtain rfl := Option.some.inj (found.symm.trans before)
        exact ⟨row.apply data, by rw [lookup_put, if_pos rfl], bears⟩
      · exact ⟨row, by rw [lookup_put, if_neg same, found], bears⟩
    · intro third row' at' bears'
      rw [lookup_put] at at'
      split at at'
      · rename_i same
        subst same
        obtain rfl := Option.some.inj at'
        exact h.only third old before bears'
      · exact h.only third row' at' bears'

theorem KeyOwner.act {i : Nat} {op : MintOp} {x : Choice} {w w' : World} {key : String} {id : TxId}
    {reply : mintInterface.Reply op} (h : KeyOwner key id w)
    (answered : mintSemantics.act i op x w = some (reply, w'))
    : KeyOwner key id w' := by
  cases op with
  | createTransaction data => exact h.create answered
  | updateTransaction other data => exact h.update (act_update answered).1
  | invokeContract sourceAccount call other =>
      rcases (act_invoke answered).1 with rfl | rfl
      · exact h
      · exact ⟨h.bears, h.only⟩
  | now | getLatestAcbuRate | isMintingPaused | checkDepositLimits | findUserWallet | getKeypair
  | mintingAddress | findTransaction | findByIdempotencyKey | logAudit =>
      obtain rfl := act_same answered rfl
      exact h

theorem KeyOwner.found {i : Nat} {x : Choice} {w w' : World} {key : String} {id : TxId}
    {found : Option (TxId × Transaction)} (h : KeyOwner key id w)
    (answered : mintSemantics.act i (.findByIdempotencyKey key) x w = some (.ok found, w'))
    : ∃ row, found = some (id, row) := by
  obtain ⟨-, answer⟩ := act_eq_some answered
  obtain ⟨-, value⟩ := Outcome.answer_ok answer
  obtain ⟨read, -⟩ := Prod.mk.inj value
  obtain rfl := Except.ok.inj read
  obtain ⟨row, found, bears⟩ := h.bears
  have member : (⟨id, row⟩ : Sigma fun _ : TxId => Transaction) ∈ w.transactions.entries :=
    AList.mem_lookup_iff.mp found
  have some : (w.transactions.entries.find? (fun e => e.2.idempotencyKey = some key)).isSome
      = true := by
    rw [List.find?_isSome]
    exact ⟨_, member, by simp [bears]⟩
  obtain ⟨⟨other, row'⟩, first⟩ := Option.isSome_iff_exists.mp some
  have bears' : row'.idempotencyKey = .some key := by simpa using List.find?_some first
  have at' : w.transactions.lookup other = .some row' :=
    AList.mem_lookup_iff.mpr (List.mem_of_find?_eq_some first)
  obtain rfl := h.only other row' at' bears'
  exact ⟨row', by rw [first]; rfl⟩

-- The checks in front of the lookup

/-- A valid deposit of a user under a raw key. -/
structure KeyedDeposit (req : DepositRequest) (userId rawKey : String) (body : ParsedDeposit)
    (amount : ℚ)
    : Prop where
  valid : depositBodySchema req.body = .ok body
  permitted : isForbiddenDepositCurrency body.currency = false
  supported : isAllowedDepositCurrency body.currency = true
  parsed : parseMonetaryString body.amount "amount" = .ok amount
  caller : callerId? req.apiKey = some userId
  keyed : ∃ headerKey, extractIdempotencyKey req.idempotencyHeader = .ok headerKey
    ∧ headerKey.or body.fintechTxId = some rawKey

/-- A reply after which `depositFromBasketCurrency` goes on to its next check: the caller's
valid wallet is the one of the body, minting is not paused, the amount is converted, and the
limits and the lookup are answered.
-/
def admits (dep : Deployment) (body : ParsedDeposit) (amount : ℚ)
    : (op : MintOp) → Except JsError op.Ret → Bool
  | .findUserWallet _, .ok wallet =>
      wallet = some body.walletAddress && body.walletAddress ≠ ""
        && dep.isValidStellarAddress body.walletAddress
  | .isMintingPaused, .ok paused => !paused
  | .getLatestAcbuRate, .ok rate => (convertAtRate rate amount body.currency).isOk
  | .checkDepositLimits .., .ok _ => true
  | .findByIdempotencyKey _, .ok _ => true
  | _, _ => false

def MintOp.isCreate : MintOp → Bool
  | .createTransaction _ => true
  | _ => false

def MintOp.createsUnder (key : String) : MintOp → Bool
  | .createTransaction data => data.idempotencyKey = some key
  | _ => true

/-- Where a request is, seen from the repetition of a keyed deposit. -/
inductive ReplayPhase
  /-- Any other request. -/
  | outside
  /-- The deposit that may create the row of the key. -/
  | original
  /-- The repetition, all of whose checks have passed so far. -/
  | admitted
  | refused
  | found (id : TxId) (row : Transaction)
  | missed

/-- A repeated deposit makes no call that its checks do not make until its lookup is answered. -/
def replayStep (dep : Deployment) (key : String) (body : ParsedDeposit) (amount : ℚ)
    : ReplayPhase → (op : MintOp) → Except JsError op.Ret → Option ReplayPhase
  | .outside, _, _ => some .outside
  | .missed, _, _ => some .missed
  | .original, op, _ => if op.createsUnder key then some .original else none
  | .admitted, .createTransaction _, _ => none
  | .admitted, .findByIdempotencyKey asked, .ok answer =>
      if asked = key then some (answer.elim .missed (fun e => .found e.1 e.2)) else none
  | .admitted, op, reply => some (if admits dep body amount op reply then .admitted else .refused)
  | _, _, _ => none

def replayProtocol (dep : Deployment) (key : String) (body : ParsedDeposit) (amount : ℚ)
    : Protocol mintInterface ReplayPhase where
  next := replayStep dep key body amount

/-- The phase a history of a repeated deposit has led to says whether its checks have passed. -/
def ReplayPhase.Agrees (dep : Deployment) (body : ParsedDeposit) (amount : ℚ)
    (past : List (Event mintInterface))
    : ReplayPhase → Prop
  | .admitted | .found .. =>
      (∀ event ∈ past, event.op.isCreate = false)
      ∧ ∀ event ∈ past, admits dep body amount event.op event.reply = true
  | .refused =>
      (∀ event ∈ past, event.op.isCreate = false)
      ∧ ¬ ∀ event ∈ past, admits dep body amount event.op event.reply = true
  | .missed => True
  | .outside | .original => False

section

variable {key : String} {body : ParsedDeposit} {amount : ℚ}

theorem replayStep_admitted {op : MintOp} {reply : Except JsError op.Ret} {phase : ReplayPhase}
    (moved : replayStep dep key body amount .admitted op reply = some phase)
    : op.isCreate = false
      ∧ (phase = .missed
        ∨ phase = .refused ∧ admits dep body amount op reply = false
        ∨ (phase = .admitted ∨ ∃ id row, phase = .found id row)
          ∧ admits dep body amount op reply = true) := by
  cases op with
  | createTransaction data => cases reply <;> cases moved
  | findByIdempotencyKey asked =>
      refine ⟨rfl, ?_⟩
      cases reply with
      | error error =>
          obtain rfl := Option.some.inj moved
          exact .inr (.inl ⟨rfl, rfl⟩)
      | ok answer =>
          simp only [replayStep, Option.ite_none_right_eq_some, Option.some.injEq] at moved
          obtain ⟨-, rfl⟩ := moved
          cases answer with
          | none => exact .inl rfl
          | some e => exact .inr (.inr ⟨.inr ⟨e.1, e.2, rfl⟩, rfl⟩)
  | now | getLatestAcbuRate | isMintingPaused | checkDepositLimits | findUserWallet | getKeypair
  | mintingAddress | findTransaction | updateTransaction | logAudit | invokeContract =>
      refine ⟨rfl, .inr ?_⟩
      obtain rfl := Option.some.inj moved
      split
      · rename_i passes
        exact .inr ⟨.inl rfl, passes⟩
      · rename_i fails
        exact .inl ⟨rfl, by simpa using fails⟩

theorem original_of_replay {past : List (Event mintInterface)} {phase : ReplayPhase}
    (h : (replayProtocol dep key body amount).replay .original past = some phase)
    : phase = .original := by
  induction past generalizing phase with
  | nil => exact (Option.some.inj h).symm
  | cons event older ih =>
      obtain ⟨before, history, moved⟩ := Option.bind_eq_some_iff.mp h
      obtain rfl := ih history
      exact (Option.ite_none_right_eq_some.mp moved).2 |> Option.some.inj |>.symm

theorem agrees_of_replay {past : List (Event mintInterface)} {phase : ReplayPhase}
    (h : (replayProtocol dep key body amount).replay .admitted past = some phase)
    : phase.Agrees dep body amount past := by
  induction past generalizing phase with
  | nil =>
      obtain rfl := Option.some.inj h
      simp [ReplayPhase.Agrees]
  | cons event older ih =>
      obtain ⟨before, history, moved⟩ := Option.bind_eq_some_iff.mp h
      have agrees := ih history
      cases before with
      | outside | original => exact agrees.elim
      | refused | found => cases moved
      | missed =>
          obtain rfl := Option.some.inj moved
          trivial
      | admitted =>
          obtain ⟨creates, passes⟩ := agrees
          obtain ⟨reads, rfl | ⟨rfl, fails⟩ | ⟨rfl | ⟨id, row, rfl⟩, admitted⟩⟩ :=
            replayStep_admitted moved
          · trivial
          · refine ⟨List.forall_mem_cons.mpr ⟨reads, creates⟩, fun all => ?_⟩
            exact absurd (all event List.mem_cons_self) (by simp [fails])
          · exact ⟨List.forall_mem_cons.mpr ⟨reads, creates⟩,
              List.forall_mem_cons.mpr ⟨admitted, passes⟩⟩
          · exact ⟨List.forall_mem_cons.mpr ⟨reads, creates⟩,
              List.forall_mem_cons.mpr ⟨admitted, passes⟩⟩

theorem replayStep_check {op : MintOp} {reply : Except JsError op.Ret} (reads : op.isCreate = false)
    (other : ∀ asked, op ≠ .findByIdempotencyKey asked)
    : replayStep dep key body amount .admitted op reply
      = some (if admits dep body amount op reply then .admitted else .refused) := by
  cases op with
  | createTransaction data => cases reads
  | findByIdempotencyKey asked => exact absurd rfl (other asked)
  | _ => rfl

/-- A request that is not watched, or whose lookup found nothing, stays so. -/
theorem wp_unwatched {α : Type} {prog : Prog mintInterface α} {phase : ReplayPhase}
    (h : phase = .outside ∨ phase = .missed)
    : (replayProtocol dep key body amount).wp prog phase (fun _ phase' => phase' = phase)
        (fun _ phase' => phase' = phase) := by
  induction prog with
  | done value => rfl
  | fail error => rfl
  | call op next ih =>
      intro reply
      refine ⟨phase, ?_, ih reply⟩
      rcases h with rfl | rfl <;> rfl

theorem wp_check {op : MintOp} {Q : op.Ret → ReplayPhase → Prop} {E : JsError → ReplayPhase → Prop}
    (reads : op.isCreate = false) (other : ∀ asked, op ≠ .findByIdempotencyKey asked)
    (passes : ∀ value, admits dep body amount op (.ok value) = true → Q value .admitted)
    (fails : ∀ value, admits dep body amount op (.ok value) = false → Q value .refused)
    (throws : ∀ error, E error .refused)
    : (replayProtocol dep key body amount).wp (ask op) .admitted Q E := by
  have step : ∀ reply : Except JsError op.Ret,
      (replayProtocol dep key body amount).next .admitted op reply
        = some (if admits dep body amount op reply then .admitted else .refused) :=
    fun reply => replayStep_check reads other
  refine Protocol.wp_await.mpr ⟨fun value => ⟨_, step _, ?_⟩, fun error => ⟨_, step _, ?_⟩⟩
  · split
    · exact passes value ‹_›
    · rename_i denied
      exact fails value (Bool.not_eq_true _ ▸ denied)
  · have denied : admits dep body amount op (.error error) = false := by
      cases op <;> rfl
    simpa [denied] using throws error

theorem wp_wallet {userId : String} {Q : String → ReplayPhase → Prop}
    {E : JsError → ReplayPhase → Prop} (passes : ∀ address, Q address .admitted)
    (throws : ∀ error, E error .refused)
    : (replayProtocol dep key body amount).wp (assertUserWalletAddress dep userId
        body.walletAddress)
        .admitted Q E := by
  unfold assertUserWalletAddress
  rw [Protocol.wp_bind]
  apply wp_check rfl (fun _ => MintOp.noConfusion)
  · intro wallet admitted
    have known : wallet = some body.walletAddress ∧ body.walletAddress ≠ ""
        ∧ dep.isValidStellarAddress body.walletAddress = true := by
      simpa [admits, and_assoc] using admitted
    obtain ⟨rfl, nonempty, valid⟩ := known
    simp [nonempty, valid, passes]
  · intro wallet denied
    simp only [Protocol.wp_bind, Protocol.wp_orThrow, Protocol.wp_ensure, Protocol.wp_pure]
    refine ⟨fun address present => ⟨fun valid => ⟨fun same => ?_, fun _ => throws _⟩,
      fun _ => throws _⟩, fun _ => throws _⟩
    obtain ⟨rfl, nonempty⟩ := Option.filter_eq_some_iff.mp present
    obtain rfl := of_decide_eq_true same
    simp [admits, valid] at denied
    simp [denied] at nonempty
  · exact throws

theorem isSome_currencyToRateField {currency : String}
    (h : isAllowedDepositCurrency currency = true)
    : (currencyToRateField currency).isSome = true := by
  have listed : currency ∈ basketCurrencies := by simpa [isAllowedDepositCurrency] using h
  have all : ∀ c ∈ basketCurrencies, (currencyToRateField c).isSome = true := by decide
  exact all currency listed

theorem wp_conversion {Q : ConversionResult → ReplayPhase → Prop} {E : JsError → ReplayPhase → Prop}
    (supported : isAllowedDepositCurrency body.currency = true)
    (passes : ∀ result, Q result .admitted) (throws : ∀ error, E error .refused)
    : (replayProtocol dep key body amount).wp (convertLocal amount body.currency) .admitted Q
        E := by
  unfold convertLocal
  simp only [Protocol.wp_bind, Protocol.wp_ensure, isSome_currencyToRateField supported,
    Bool.true_eq_false, false_implies, true_implies, and_true]
  apply wp_check rfl (fun _ => MintOp.noConfusion)
  · intro rate admitted
    cases converted : convertAtRate rate amount body.currency with
    | ok result => simp [Prog.fromExcept, passes]
    | error error => simp [admits, converted, Except.isOk, Except.toBool] at admitted
  · intro rate denied
    cases converted : convertAtRate rate amount body.currency with
    | ok result => simp [admits, converted, Except.isOk, Except.toBool] at denied
    | error error => simp [Prog.fromExcept, throws]
  · exact throws

-- The two deposits

variable {req : DepositRequest} {userId rawKey : String}

theorem wp_repeated (h : KeyedDeposit req userId rawKey body amount)
    (isKey : key = scopeIdempotencyKey dep.sha256Hex userId rawKey)
    : (replayProtocol dep key body amount).wp (depositFromBasketCurrency dep req) .admitted
        (fun value phase => phase = .missed
          ∨ ∃ id row, phase = .found id row ∧ value = existingDeposit id row body.currency amount)
        (fun _ phase => phase = .missed ∨ phase = .refused) := by
  obtain ⟨headerKey, header, raw⟩ := h.keyed
  unfold depositFromBasketCurrency
  simp only [h.valid, h.permitted, h.supported, h.parsed, h.caller, Prog.fromExcept, Prog.orThrow,
    Protocol.wp_bind, Protocol.wp_done, Protocol.wp_ensure, Bool.not_false, Bool.true_eq_false,
    true_implies, false_implies, and_true]
  apply wp_wallet (fun _ => ?_) (fun _ => .inr rfl)
  apply wp_check rfl (fun _ => MintOp.noConfusion)
  rotate_left
  · intro paused denied
    have paused : paused = true := by simpa [admits] using denied
    simp [paused]
  · exact fun _ => .inr rfl
  intro paused admitted
  have running : paused = false := by simpa [admits] using admitted
  simp only [running, Bool.not_false, Bool.true_eq_false, true_implies, false_implies, and_true]
  apply wp_conversion h.supported (fun _ => ?_) (fun _ => .inr rfl)
  apply wp_check rfl (fun _ => MintOp.noConfusion) _ (fun _ denied => by cases denied)
    (fun _ => .inr rfl)
  intro _ _
  unfold submitDeposit
  simp only [header, raw, Prog.fromExcept, findDeposit, Option.map_some, Protocol.wp_bind,
    Protocol.wp_done, Protocol.wp_await, ← isKey]
  constructor
  · rintro (_ | ⟨id, row⟩)
    · refine ⟨.missed, by simp [replayProtocol, replayStep], ?_⟩
      apply Protocol.wp_mono (wp_unwatched (.inr rfl))
      · exact fun _ _ missed => .inl missed
      · exact fun _ _ missed => .inl missed
    · exact ⟨.found id row, by simp [replayProtocol, replayStep], .inr ⟨id, row, rfl, rfl⟩⟩
  · exact fun _ => ⟨.refused, rfl, .inr rfl⟩

theorem wp_originalCall {op : MintOp} {Q : op.Ret → ReplayPhase → Prop}
    {E : JsError → ReplayPhase → Prop} (under : op.createsUnder key = true)
    (hQ : ∀ value, Q value .original) (hE : ∀ error, E error .original)
    : (replayProtocol dep key body amount).wp (ask op) .original Q E := by
  have step : ∀ reply, (replayProtocol dep key body amount).next .original op reply
      = some .original := by
    intro reply
    simp [replayProtocol, replayStep, under]
  exact Protocol.wp_await.mpr
    ⟨fun value => ⟨_, step _, hQ value⟩, fun error => ⟨_, step _, hE error⟩⟩

theorem wp_originalInvoke {row : TxId} {txId : Option TxId} {units : String}
    {call : ℤ → ContractCall}
    : (replayProtocol dep key body amount).wp (invokeMint row txId units call) .original
        (fun _ phase => phase = .original) (fun _ phase => phase = .original) := by
  have marked : ∀ error, (replayProtocol dep key body amount).wp
    (markTransactionFailed txId) .original
      (fun _ phase => (replayProtocol dep key body amount).wp
        (Prog.fail error : Prog mintInterface ContractResult) phase
        (fun _ phase => phase = .original) (fun _ phase => phase = .original))
      (fun _ phase => phase = .original) := by
    intro error
    cases txId with
    | none => exact rfl
    | some id => exact Protocol.wp_swallow.mpr (wp_originalCall rfl (fun _ => rfl) (fun _ => rfl))
  unfold invokeMint
  simp only [Protocol.wp_catchWith, Protocol.wp_bind, Protocol.wp_orThrow, Protocol.wp_fromExcept]
  apply wp_originalCall rfl _ marked
  intro publicKey
  refine ⟨fun sourceAccount _ => ⟨fun units _ => ?_, fun error _ => marked error⟩,
    fun _ => marked _⟩
  exact wp_originalCall rfl (fun _ => rfl) marked

theorem wp_originalMint {id : TxId} {currency wallet : String}
    : (replayProtocol dep key body amount).wp (mintDeposit id amount currency wallet) .original
        (fun _ phase => phase = .original) (fun _ _ => True) := by
  unfold mintDeposit convertLocal
  simp only [Protocol.wp_catchWith, Protocol.wp_bind, Protocol.wp_ensure, Protocol.wp_orThrow,
    Protocol.wp_fromExcept]
  have failed : ∀ error, (replayProtocol dep key body amount).wp
      (ask (.updateTransaction id { status := .failed })) .original
      (fun _ phase => (replayProtocol dep key body amount).wp
        (ask (.logAudit id "deposit_failed")).swallow phase
        (fun _ phase => (replayProtocol dep key body amount).wp
          (Prog.fail error : Prog mintInterface Unit) phase
          (fun _ phase => phase = .original) (fun _ _ => True))
        (fun _ _ => True))
      (fun _ _ => True) := by
    intro error
    refine wp_originalCall rfl (fun _ => Protocol.wp_swallow.mpr ?_) (fun _ => trivial)
    exact wp_originalCall rfl (fun _ => trivial) (fun _ => trivial)
  refine ⟨fun _ => wp_originalCall rfl (fun rate => ?_) failed, fun _ => failed _⟩
  refine ⟨fun result _ => wp_originalCall rfl (fun publicKey => ?_) failed,
    fun error _ => failed error⟩
  refine ⟨fun sourceAccount _ => ?_, fun _ => failed _⟩
  apply Protocol.wp_mono wp_originalInvoke
  · rintro mintResult _ rfl
    exact wp_originalCall rfl (fun _ => rfl) failed
  · rintro error _ rfl
    exact failed error

theorem wp_originalSubmit (h : KeyedDeposit req userId rawKey body amount)
    (isKey : key = scopeIdempotencyKey dep.sha256Hex userId rawKey)
    : (replayProtocol dep key body amount).wp (submitDeposit dep req body amount userId) .original
        (fun _ _ => True) (fun _ _ => True) := by
  obtain ⟨headerKey, header, raw⟩ := h.keyed
  unfold submitDeposit
  simp only [header, raw, Prog.fromExcept, findDeposit, createDeposit, Option.map_some,
    Protocol.wp_bind, Protocol.wp_done, ← isKey]
  apply wp_originalCall rfl _ (fun _ => trivial)
  rintro (_ | ⟨id, row⟩)
  · rw [Protocol.wp_bind, Protocol.wp_catchWith, Protocol.wp_bind]
    apply wp_originalCall (by simp [MintOp.createsUnder, raw, isKey])
    · intro id
      rw [Protocol.wp_pure, Protocol.wp_bind]
      apply Protocol.wp_mono wp_originalMint _ (fun _ _ _ => trivial)
      rintro _ _ rfl
      rw [Protocol.wp_bind]
      exact wp_originalCall rfl (fun _ => trivial) (fun _ => trivial)
    · intro error
      cases error with
      | uniqueConstraint =>
          simp only [Protocol.wp_bind, Protocol.wp_orThrow]
          apply wp_originalCall rfl _ (fun _ => trivial)
          exact fun _ => ⟨fun _ _ => True.intro, fun _ => trivial⟩
      | _ => exact True.intro
  · exact True.intro

theorem wp_original (h : KeyedDeposit req userId rawKey body amount)
    (isKey : key = scopeIdempotencyKey dep.sha256Hex userId rawKey)
    : (replayProtocol dep key body amount).wp (depositFromBasketCurrency dep req) .original
        (fun _ _ => True) (fun _ _ => True) := by
  unfold depositFromBasketCurrency
  simp only [h.valid, h.permitted, h.supported, h.parsed, h.caller, assertUserWalletAddress,
    convertLocal, Protocol.wp_bind, Protocol.wp_ensure, Protocol.wp_pure, Protocol.wp_fromExcept,
    Protocol.wp_orThrow, Except.ok.injEq, Option.some.injEq, forall_eq', implies_true, and_true]
  intro _ _
  apply wp_originalCall rfl _ (fun _ => trivial)
  intro wallet address _ _ _
  apply wp_originalCall rfl _ (fun _ => trivial)
  intro paused _ _
  apply wp_originalCall rfl _ (fun _ => trivial)
  intro rate conversion _
  exact wp_originalCall rfl (fun _ => wp_originalSubmit h isKey) (fun _ => trivial)

end

-- Runs

/-- The step by which request `i` puts the row `id` into the table. -/
structure Creates (c c' : MintConfig) (i : Nat) (id : TxId) : Prop where
  step : ∃ x, c.step mintSemantics i x = some c'
  absent : id ∉ c.world.transactions
  present : id ∈ c'.world.transactions

/-- The original is request `i` and its repetition request `j`. -/
def watched (i j : Nat) : Nat → ReplayPhase :=
  fun k => if k = j then .admitted else if k = i then .original else .outside

section

variable {userId rawKey : String} {body : ParsedDeposit} {amount : ℚ} {key : String} {i j : Nat}
  {first later : DepositRequest}

/-- Every request keeps to the protocol, and the repetition ends as its phase says. -/
abbrev ReplayGoverned (dep : Deployment) (key : String) (body : ParsedDeposit) (amount : ℚ)
    (i j : Nat) (c : MintConfig)
    : Prop :=
  (replayProtocol dep key body amount).Governs (watched i j)
    (fun k value phase => k = j → phase = .missed
      ∨ ∃ id row, phase = .found id row ∧ value = existingDeposit id row body.currency amount)
    (fun k _ phase => k = j → phase = .missed ∨ phase = .refused) c

theorem replayGoverned_initial {transactions : AList (fun _ : TxId => Transaction)}
    (firstAt : requests[i]? = some (.deposit first))
    (laterAt : requests[j]? = some (.deposit later))
    (original : KeyedDeposit first userId rawKey body amount)
    (repeated : KeyedDeposit later userId rawKey body amount)
    (isKey : key = scopeIdempotencyKey dep.sha256Hex userId rawKey)
    : ReplayGoverned dep key body amount i j (initialConfig dep requests transactions) := by
  apply Protocol.governs_initial
  intro k prog found
  rw [List.getElem?_map, Option.map_eq_some_iff] at found
  obtain ⟨request, at', rfl⟩ := found
  unfold watched
  by_cases isLater : k = j
  · subst isLater
    obtain rfl := Option.some.inj (at'.symm.trans laterAt)
    rw [if_pos rfl]
    apply Protocol.wp_mono (wp_repeated repeated isKey)
    · exact fun _ _ ended _ => ended
    · exact fun _ _ ended _ => ended
  · rw [if_neg isLater]
    by_cases isFirst : k = i
    · subst isFirst
      obtain rfl := Option.some.inj (at'.symm.trans firstAt)
      rw [if_pos rfl]
      apply Protocol.wp_mono (wp_original original isKey)
      · exact fun _ _ _ same => absurd same isLater
      · exact fun _ _ _ same => absurd same isLater
    · rw [if_neg isFirst]
      apply Protocol.wp_mono (wp_unwatched (.inl rfl))
      · exact fun _ _ _ same => absurd same isLater
      · exact fun _ _ _ same => absurd same isLater

/-- What is known of the repetition once the row of the key is there. -/
structure Replayed (dep : Deployment) (key : String) (body : ParsedDeposit) (amount : ℚ)
    (i j : Nat) (id : TxId) (c : MintConfig)
    : Prop where
  owner : KeyOwner key id c.world
  hits : (replayProtocol dep key body amount).phase (watched i j) c j ≠ .missed
  names : ∀ other row,
    (replayProtocol dep key body amount).phase (watched i j) c j = .found other row → other = id

theorem replayStep_owned {op : MintOp} {reply : Except JsError op.Ret} {x : Choice} {w w' : World}
    {k : Nat} {id : TxId} {phase : ReplayPhase} (owner : KeyOwner key id w)
    (answered : mintSemantics.act k op x w = some (reply, w'))
    (moved : replayStep dep key body amount .admitted op reply = some phase)
    : phase ≠ .missed ∧ ∀ other row, phase = .found other row → other = id := by
  by_cases lookup : ∃ asked, op = .findByIdempotencyKey asked
  · obtain ⟨asked, rfl⟩ := lookup
    cases reply with
    | error error =>
        have refused : phase = .refused := (Option.some.inj moved).symm
        rw [refused]
        exact ⟨ReplayPhase.noConfusion, fun _ _ => ReplayPhase.noConfusion⟩
    | ok answer =>
        simp only [replayStep, Option.ite_none_right_eq_some, Option.some.injEq] at moved
        obtain ⟨rfl, rfl⟩ := moved
        obtain ⟨row, rfl⟩ := owner.found answered
        refine ⟨ReplayPhase.noConfusion, fun other row' same => ?_⟩
        exact (ReplayPhase.found.inj same).1.symm
  · rw [replayStep_check (replayStep_admitted moved).1 (not_exists.mp lookup)] at moved
    have checked := Option.some.inj moved
    rw [← checked]
    split <;> exact ⟨ReplayPhase.noConfusion, fun _ _ => ReplayPhase.noConfusion⟩

theorem ReplayGoverned.agrees {c : MintConfig} (h : ReplayGoverned dep key body amount i j c)
    (bound : j < c.threads.length)
    : ((replayProtocol dep key body amount).phase (watched i j) c j).Agrees dep body amount
        (c.past j) := by
  have found : c.threads[j]? = some c.threads[j] := List.getElem?_eq_getElem bound
  have history := (h.phase_eq found).1
  have mine : watched i j j = .admitted := if_pos rfl
  have past : c.past j = c.threads[j].past := by simp [Config.past, found]
  rw [mine] at history
  rw [past]
  exact agrees_of_replay history

theorem Replayed.step {c c' : MintConfig} {id : TxId} {k : Nat} {x : Choice}
    (h : Replayed dep key body amount i j id c) (governed
      : ReplayGoverned dep key body amount i j c)
    (stepped : c.step mintSemantics k x = some c')
    : Replayed dep key body amount i j id c' := by
  obtain ⟨op, reply, live, -, answered, moved, -, others, -⟩ := governed.step_cases stepped
  have owner := h.owner.act answered
  by_cases mine : j = k
  · subst mine
    have agrees := governed.agrees (Config.lt_of_live live)
    have hits := h.hits
    generalize (replayProtocol dep key body amount).phase (watched i j) c j
      = before at moved agrees hits
    cases before with
    | outside | original => exact agrees.elim
    | missed => exact absurd rfl hits
    | refused | found => cases moved
    | admitted =>
        obtain ⟨hits', names'⟩ := replayStep_owned h.owner answered moved
        exact ⟨owner, hits', names'⟩
  · exact ⟨owner, (others j mine).1 ▸ h.hits, (others j mine).1 ▸ h.names⟩

theorem ReplayGoverned.original {c : MintConfig} (h : ReplayGoverned dep key body amount i j c)
    (different : i ≠ j)
    : (replayProtocol dep key body amount).phase (watched i j) c i = .original := by
  have mine : watched i j i = .original := by simp [watched, different]
  cases found : c.threads[i]? with
  | none => rw [Protocol.phase_of_none _ found, mine]
  | some thread =>
      have history := (h.phase_eq found).1
      rw [mine] at history
      exact original_of_replay history

theorem Replayed.of_creates {c c' : MintConfig} {id : TxId}
    (governed : ReplayGoverned dep key body amount i j c) (created : Creates c c' i id)
    (notBegun : c'.past j = [])
    : ReplayGoverned dep key body amount i j c' ∧ Replayed dep key body amount i j id c' := by
  obtain ⟨x, stepped⟩ := created.step
  obtain ⟨op, reply, -, -, answered, moved, past, -, governed'⟩ := governed.step_cases stepped
  have different : i ≠ j := by
    rintro rfl
    rw [notBegun] at past
    cases past
  have start : (replayProtocol dep key body amount).phase (watched i j) c' j = .admitted := by
    simp [Protocol.phase, notBegun, Protocol.replay, watched]
  obtain ⟨data, rfl⟩ := eq_create_of_added answered created.absent created.present
  rw [governed.original different] at moved
  have keyed : data.idempotencyKey = some key := by
    simpa [MintOp.createsUnder] using (Option.ite_none_right_eq_some.mp moved).1
  refine ⟨governed', keyOwner_of_create answered keyed created.absent created.present, ?_, ?_⟩
  · rw [start]
    exact ReplayPhase.noConfusion
  · rw [start]
    exact fun _ _ => ReplayPhase.noConfusion

/-- Every check of the handler is answered so that it goes on. -/
def PassesChecks (dep : Deployment) (body : ParsedDeposit) (amount : ℚ)
    (past : List (Event mintInterface))
    : Prop :=
  ∀ event ∈ past, admits dep body amount event.op event.reply = true

end

/-- 100 NGN under a key. -/
def keyedSample : DepositRequest :=
  { sampleDeposit with idempotencyHeader := some "k1" }

def keyedSampleBody : ParsedDeposit where
  currency := "NGN"
  amount := "100"
  walletAddress := sampleWallet
  fintechTxId := none

deriving instance DecidableEq for ParsedDeposit

theorem keyedSample_keyed : KeyedDeposit keyedSample "user" "k1" keyedSampleBody 100 where
  valid := by decide +kernel
  permitted := by decide +kernel
  supported := by decide +kernel
  parsed := by decide +kernel
  caller := by decide +kernel
  keyed := ⟨some "k1", by decide +kernel, rfl⟩

instance {body : ParsedDeposit} {amount : ℚ} {past : List (Event mintInterface)}
    : Decidable (PassesChecks dep body amount past) :=
  inferInstanceAs (Decidable (∀ event ∈ past, admits dep body amount event.op event.reply = true))

/-- Reads a run of two deposits after the sixth call of the first, which creates its row. -/
def readRepetition {β : Type} (schedule : List (Nat × Choice)) (f : MintConfig → β)
    (before : MintConfig)
    : Bool × Option (Bool × Option β) :=
  ("t1" ∉ before.world.transactions,
    (before.step mintSemantics 0 sampleChoice).map (fun after =>
      ("t1" ∈ after.world.transactions && (after.past 1).isEmpty,
        (after.run mintSemantics Config.anyStep schedule).map f)))

theorem exists_of_readRepetition {β : Type} {requests : List MintRequest}
    {schedule : List (Nat × Choice)} {f : MintConfig → β} {b : β}
    (h : ((initialConfig sampleDeployment requests ∅).run mintSemantics Config.anyStep
      (List.replicate 5 (0, sampleChoice))).map (readRepetition schedule f)
        = some (true, some (true, some b)))
    : ∃ before after c,
        Config.Reaches mintSemantics Config.anyStep (initialConfig sampleDeployment requests ∅)
          before
        ∧ Creates before after 0 "t1"
        ∧ after.past 1 = []
        ∧ Config.Reaches mintSemantics Config.anyStep after c
        ∧ f c = b := by
  obtain ⟨before, reached, read⟩ := Config.reaches_of_run h
  obtain ⟨absent, rest⟩ := Prod.mk.inj read
  obtain ⟨after, stepped, read⟩ := Option.map_eq_some_iff.mp rest
  obtain ⟨made, rest⟩ := Prod.mk.inj read
  obtain ⟨present, unbegun⟩ := Bool.and_eq_true_iff.mp made
  obtain ⟨c, continued, value⟩ := Config.reaches_of_run rest
  exact ⟨before, after, c, reached,
    ⟨⟨_, stepped⟩, of_decide_eq_true absent, of_decide_eq_true present⟩,
    List.isEmpty_iff.mp unbegun, continued, value⟩

end AcbuBackend.Mint
