import AcbuBackend.Reads.TransactionReads

/-! A key sees rows of its own user or organisation.
Every endpoint filters by the owner but `getTransactionById`, which compares the users of the key
and of the row, and shows the row where either has none.
-/

namespace AcbuBackend.Reads

open AcbuBackend.Runtime

-- Ownership

/-- A key of a user or of an organisation. -/
def TenantKey (apiKey : ApiKey) : Prop :=
  (callerId? (some apiKey)).isSome ∨ apiKey.organizationId.isSome

/-- A row of the user of a key. -/
def SameUser (apiKey : ApiKey) (userId : Option String) : Prop :=
  ∃ caller, callerId? (some apiKey) = some caller ∧ userId = some caller

/-- A row of the organisation of a key. -/
def SameOrganization (apiKey : ApiKey) (organizationId : Option String) : Prop :=
  ∃ organization, apiKey.organizationId = some organization ∧ organizationId = some organization

def Transaction.BelongsTo (t : Transaction) (apiKey : ApiKey) : Prop :=
  SameUser apiKey t.userId ∨ SameOrganization apiKey t.organizationId

def InvestmentWithdrawalRequest.BelongsTo (row : InvestmentWithdrawalRequest) (apiKey : ApiKey)
    : Prop :=
  SameUser apiKey row.userId ∨ SameOrganization apiKey row.organizationId

/-- An entry shows a row of a table that has a property. -/
def Shows {ρ ι : Type} (table : AList (fun _ : String => ρ)) (entry : String → ρ → ι)
    (owned : ρ → Prop)
    (shown : ι)
    : Prop :=
  ∃ id row, table.lookup id = some row ∧ shown = entry id row ∧ owned row

/-- Every entry of a response shows a row of the user or the organisation of a key. -/
def ReadResponse.Owned (db : Database) (apiKey : ApiKey) : ReadResponse → Prop
  | .transactions items _ =>
      ∀ item ∈ items, Shows db.transactions transactionItem (Transaction.BelongsTo · apiKey) item
  | .transaction detail =>
      Shows db.transactions transactionDetail (Transaction.BelongsTo · apiKey) detail
  | .transfers items _ =>
      ∀ item ∈ items, Shows db.transactions transferItem (Transaction.BelongsTo · apiKey) item
  | .transfer detail => Shows db.transactions transferDetail (Transaction.BelongsTo · apiKey) detail
  | .requests items _ =>
      ∀ item ∈ items,
        Shows db.withdrawalRequests withdrawRequestItem
          (InvestmentWithdrawalRequest.BelongsTo · apiKey) item

/-- The users of a key and of a row are there to be compared. -/
def Comparable (apiKey : ApiKey) (t : Transaction) : Prop :=
  (callerId? (some apiKey)).isSome ∧ (t.userId.filter (fun userId => userId ≠ "")).isSome

/-- A request that does not ask for a transaction whose owner goes unchecked: one without a user, or
one of a user asked for with a key that has none. Those of the organisation of the key are its own.
-/
def ReadRequest.Guarded (db : Database) (apiKey : ApiKey) : ReadRequest → Prop
  | .getTransactionById id =>
      ∀ t, db.transactions.lookup id = some t →
        Comparable apiKey t ∨ SameOrganization apiKey t.organizationId
  | _ => True

variable {codec : CursorCodec} {db : Database} {apiKey : ApiKey} {response : ReadResponse}

-- Lists

theorem shows_of_page {ρ ι : Type} {table : AList (fun _ : String => ρ)} {entry : String → ρ → ι}
    {owned : ρ → Prop} {createdAt : ρ → Nat} {order : RowOrder createdAt} {matching : ρ → Bool}
    {cursor : Option String} {limit take : Nat} {item : ι}
    (filtered : ∀ row, matching row = true → owned row)
    (h : item ∈ (pageOf limit (findManyBy order (rowsOf table) matching cursor take)).rows.map
      (fun row => entry row.1 row.2))
    : Shows table entry owned item := by
  obtain ⟨row, member, rfl⟩ := List.mem_map.mp h
  obtain ⟨there, matched⟩ := mem_findManyBy (mem_pageOf member)
  exact ⟨row.1, row.2, lookup_of_mem_rowsOf there, rfl, filtered row.2 matched⟩

theorem sameUser_of_requireUser {refusal : JsError} {userId : String} {owner : Option String}
    (caller : requireUser apiKey refusal = .ok userId) (same : owner = some userId)
    : SameUser apiKey owner := by
  unfold requireUser at caller
  split at caller
  · cases caller
  · rename_i caller' known
    obtain rfl := Except.ok.inj caller
    exact ⟨caller', known, same⟩

theorem except_bind_ok {ε α β : Type} {x : Except ε α} {f : α → Except ε β} {b : β}
    (h : (x >>= f) = .ok b)
    : ∃ a, x = .ok a ∧ f a = .ok b := by
  cases x with
  | error e => cases h
  | ok a => exact ⟨a, rfl, h⟩

theorem listMyTransactions_owned {limit cursor : QueryParam}
    (h : listMyTransactions codec db apiKey limit cursor = .ok response)
    : response.Owned db apiKey := by
  unfold listMyTransactions listMyTransactionsBy at h
  obtain ⟨userId, caller, h⟩ := except_bind_ok h
  dsimp only at h
  split at h
  · obtain ⟨cursorId, -, h⟩ := except_bind_ok h
    obtain rfl := Except.ok.inj h
    intro item member
    refine shows_of_page (fun t matched => ?_) member
    simp only [isListed, Bool.and_eq_true, decide_eq_true_eq] at matched
    exact .inl (sameUser_of_requireUser caller matched.1)
  · cases h

theorem getTransfers_owned {limit cursor : QueryParam}
    (h : getTransfers codec db apiKey limit cursor = .ok response)
    : response.Owned db apiKey := by
  unfold getTransfers getTransfersBy at h
  obtain ⟨userId, caller, h⟩ := except_bind_ok h
  dsimp only at h
  split at h
  · obtain ⟨cursorId, -, h⟩ := except_bind_ok h
    obtain rfl := Except.ok.inj h
    intro item member
    refine shows_of_page (fun t matched => ?_) member
    simp only [isListedTransfer, Bool.and_eq_true, decide_eq_true_eq] at matched
    exact .inl (sameUser_of_requireUser caller matched.1)
  · cases h

theorem getTransferById_owned {id : String} (h : getTransferById db apiKey id = .ok response)
    : response.Owned db apiKey := by
  obtain ⟨userId, caller, h⟩ := except_bind_ok h
  split at h
  · cases h
  · rename_i t found
    obtain rfl := Except.ok.inj h
    obtain ⟨there, matched⟩ := Option.filter_eq_some_iff.mp found
    simp only [Bool.and_eq_true, decide_eq_true_eq] at matched
    exact ⟨id, t, there, rfl, .inl (sameUser_of_requireUser caller matched.1)⟩

theorem belongsTo_of_inScope {row : InvestmentWithdrawalRequest} (tenant : TenantKey apiKey)
    (inside : inScope apiKey row = true)
    : row.BelongsTo apiKey := by
  unfold inScope at inside
  split at inside
  · rename_i userId caller
    exact .inl ⟨userId, caller, of_decide_eq_true inside⟩
  · rename_i missing
    rcases tenant with user | organization
    · rw [missing] at user
      cases user
    · obtain ⟨organization, known⟩ := Option.isSome_iff_exists.mp organization
      exact .inr ⟨organization, known, (of_decide_eq_true inside).trans known⟩

theorem getInvestmentWithdrawRequests_owned {limit cursor status : QueryParam}
    (tenant : TenantKey apiKey)
    (h : getInvestmentWithdrawRequests codec db apiKey limit cursor status = .ok response)
    : response.Owned db apiKey := by
  unfold getInvestmentWithdrawRequests at h
  split at h
  · obtain ⟨cursorId, -, h⟩ := except_bind_ok h
    obtain rfl := Except.ok.inj h
    intro item member
    refine shows_of_page (fun row matched => ?_) member
    exact belongsTo_of_inScope tenant (Bool.and_eq_true_iff.mp matched).1
  · cases h

-- One transaction

theorem rejectForeign_ok_iff {t : Transaction}
    : rejectForeign apiKey t = .ok () ↔ (Comparable apiKey t → SameUser apiKey t.userId) := by
  unfold rejectForeign
  split
  · rename_i caller owner known owned
    obtain ⟨some_owner, -⟩ := Option.filter_eq_some_iff.mp owned
    have comparable : Comparable apiKey t := ⟨by rw [known]; rfl, by rw [owned]; rfl⟩
    constructor
    · intro passed _
      split at passed
      · cases passed
      · rename_i same
        exact ⟨caller, known, by rw [some_owner, not_not.mp same]⟩
    · intro same
      obtain ⟨caller', known', owned'⟩ := same comparable
      have equal : owner = caller := by
        rw [some_owner] at owned'
        rw [known] at known'
        rw [Option.some.inj owned', Option.some.inj known']
      rw [if_neg (not_not.mpr equal)]
  · rename_i unknown
    refine iff_of_true rfl (fun comparable => ?_)
    obtain ⟨caller, known⟩ := Option.isSome_iff_exists.mp comparable.1
    obtain ⟨owner, owned⟩ := Option.isSome_iff_exists.mp comparable.2
    exact absurd owned (unknown caller owner known)

theorem SameUser.comparable {t : Transaction} (same : SameUser apiKey t.userId)
    : Comparable apiKey t := by
  obtain ⟨caller, known, owned⟩ := same
  obtain ⟨-, nonempty⟩ := Option.filter_eq_some_iff.mp known
  refine ⟨by rw [known]; rfl, ?_⟩
  rw [owned, Option.filter_some, if_pos nonempty]
  rfl

theorem getTransactionById_ok_iff {id : String}
    : getTransactionById db apiKey id = .ok response
      ↔ ∃ t, db.transactions.lookup id = some t ∧ (Comparable apiKey t → SameUser apiKey t.userId)
        ∧ response = .transaction (transactionDetail id t) := by
  unfold getTransactionById
  constructor
  · intro h
    split at h
    · cases h
    · rename_i t found
      obtain ⟨⟨⟩, passed, h⟩ := except_bind_ok h
      exact ⟨t, found, rejectForeign_ok_iff.mp passed, (Except.ok.inj h).symm⟩
  · rintro ⟨t, found, same, rfl⟩
    rw [found]
    dsimp only
    rw [rejectForeign_ok_iff.mpr same]
    rfl

theorem getTransactionById_owned_iff {id : String}
    : (∀ response, getTransactionById db apiKey id = .ok response → response.Owned db apiKey)
      ↔ (ReadRequest.getTransactionById id).Guarded db apiKey := by
  constructor
  · intro owned t found
    by_cases comparable : Comparable apiKey t
    · exact .inl comparable
    · obtain ⟨id', t', found', same, belongs⟩ := owned _
        (getTransactionById_ok_iff.mpr ⟨t, found, fun here => absurd here comparable, rfl⟩)
      obtain rfl : id = id' := congrArg (fun d : TransactionDetail => d.transaction_id) same
      obtain rfl : t = t' := Option.some.inj (found.symm.trans found')
      rcases belongs with user | organization
      · exact .inl user.comparable
      · exact .inr organization
  · intro guarded response h
    obtain ⟨t, found, same, rfl⟩ := getTransactionById_ok_iff.mp h
    refine ⟨id, t, found, rfl, ?_⟩
    rcases guarded t found with comparable | organization
    · exact .inl (same comparable)
    · exact .inr organization

-- Isolation

/-- Every successful response to a request shows rows of the user or the organisation of the key
just when the request asks for no transaction whose owner goes unchecked.
-/
theorem reads_isolated_iff (codec : CursorCodec) (db : Database) (apiKey : ApiKey)
    (request : ReadRequest)
    (tenant : TenantKey apiKey)
    : (∀ response, respond codec db apiKey request = .ok response → response.Owned db apiKey)
      ↔ request.Guarded db apiKey := by
  cases request with
  | listMyTransactions limit cursor => exact iff_of_true (fun _ => listMyTransactions_owned) trivial
  | getTransactionById id => exact getTransactionById_owned_iff
  | getTransfers limit cursor => exact iff_of_true (fun _ => getTransfers_owned) trivial
  | getTransferById id => exact iff_of_true (fun _ => getTransferById_owned) trivial
  | getInvestmentWithdrawRequests limit cursor status =>
      exact iff_of_true (fun _ => getInvestmentWithdrawRequests_owned tenant) trivial

/-- Encodings that leave a text as it is. -/
def plainCodec : CursorCodec where
  toBase64Url := id
  fromBase64Url := id
  sign := id

def oneTransaction : Database where
  transactions :=
    (∅ : AList (fun _ : String => Transaction)).insert "t1"
      { userId := some "u1", type := "burn", status := "completed", createdAt := 0 }
  withdrawalRequests := ∅

def organizationKey : ApiKey :=
  { userId := none, organizationId := some "o1" }

theorem reads_isolated_owner
    : (∀ response, respond plainCodec oneTransaction { userId := some "u1", organizationId := none }
          (.getTransactionById "t1") = .ok response →
        response.Owned oneTransaction { userId := some "u1", organizationId := none })
      ↔ (ReadRequest.getTransactionById "t1").Guarded oneTransaction
          { userId := some "u1", organizationId := none } :=
  reads_isolated_iff plainCodec oneTransaction { userId := some "u1", organizationId := none }
    (.getTransactionById "t1") (.inl rfl)

/-- The key of an organisation is shown the transaction of a user who is not of it. -/
theorem reads_foreign
    : ¬ (∀ (codec : CursorCodec) (db : Database) (apiKey : ApiKey) (request : ReadRequest)
        (response : ReadResponse), TenantKey apiKey
          → respond codec db apiKey request = .ok response →
          response.Owned db apiKey) := by
  intro isolated
  have shown : respond plainCodec oneTransaction organizationKey (.getTransactionById "t1")
      = .ok (.transaction (transactionDetail "t1"
          { userId := some "u1", type := "burn", status := "completed", createdAt := 0 })) := by
    decide +kernel
  obtain ⟨id, t, found, same, belongs⟩ := isolated _ _ organizationKey _ _ (.inr rfl) shown
  obtain rfl : "t1" = id := congrArg (fun d : TransactionDetail => d.transaction_id) same
  obtain rfl := Option.some.inj ((AList.lookup_insert _).symm.trans found)
  rcases belongs with ⟨caller, known, -⟩ | ⟨organization, -, owned⟩
  · cases known
  · cases owned

end AcbuBackend.Reads
