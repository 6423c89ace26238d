import AcbuBackend.Kyc.DocumentOwnership
import AcbuBackend.Reads.TransactionReads

/-! Transactions and transfers, read page by page.
The rows of one creation time may come in another order in every query.
-/

namespace AcbuBackend.Reads

open Kyc (isUuid isIdChar_of_isUuid)
open Paging AcbuBackend.Runtime

-- Cursors that come back

/-- `base64url` is read back and a signature has no dot. -/
structure CursorCodec.Lawful (codec : CursorCodec) : Prop where
  roundTrip : ∀ text, codec.fromBase64Url (codec.toBase64Url text) = text
  nonempty : ∀ text, text ≠ "" → codec.toBase64Url text ≠ ""
  noDot : ∀ text, '.' ∉ (codec.sign text).toList

theorem span_append {p : Char → Bool} {part rest : List Char} {c : Char}
    (inside : ∀ c ∈ part, p c = true) (sep : p c = false)
    : (part ++ c :: rest).takeWhile p = part ∧ (part ++ c :: rest).dropWhile p = c :: rest := by
  have stop : ¬ p c = true := by rw [sep]; decide
  constructor
  · rw [List.takeWhile_append_of_pos inside, List.takeWhile_cons_of_neg stop, List.append_nil]
  · rw [List.dropWhile_append_of_pos inside, List.dropWhile_cons_of_neg stop]

theorem splitCursor_append {body signature : String} (nonempty : body ≠ "")
    (noDot : '.' ∉ signature.toList)
    : CursorCodec.splitCursor (body ++ "." ++ signature) = some (body, signature) := by
  have reversed : (body ++ "." ++ signature).toList.reverse
      = signature.toList.reverse ++ '.' :: body.toList.reverse := by
    simp
  obtain ⟨before, behind⟩ := @span_append (fun c => decide (c ≠ '.'))
    signature.toList.reverse body.toList.reverse '.'
    (fun c member => decide_eq_true fun dot => noDot (dot ▸ List.mem_reverse.mp member)) rfl
  unfold CursorCodec.splitCursor
  rw [reversed, before, behind]
  cases parts : body.toList.reverse with
  | nil => exact absurd (String.toList_eq_nil_iff.mp (List.reverse_eq_nil_iff.mp parts)) nonempty
  | cons c rest =>
      dsimp only
      rw [← parts, List.reverse_reverse, List.reverse_reverse, String.ofList_toList,
        String.ofList_toList]

theorem splitPayload_cursorPayload {scope id : String} (noColon : ':' ∉ scope.toList)
    : CursorCodec.splitPayload (cursorPayload scope id) = some (scope, id) := by
  have parts : (cursorPayload scope id).toList = scope.toList ++ ':' :: id.toList := by
    simp [cursorPayload]
  obtain ⟨before, behind⟩ := @span_append (fun c => decide (c ≠ ':')) scope.toList id.toList ':'
    (fun c member => decide_eq_true fun colon => noColon (colon ▸ member)) rfl
  unfold CursorCodec.splitPayload
  rw [parts, before, behind]
  dsimp only
  rw [String.ofList_toList, String.ofList_toList]

theorem decodeCursor_encodeCursor {codec : CursorCodec} (lawful : codec.Lawful) {scope id : String}
    (noColon : ':' ∉ scope.toList) (nonempty : id ≠ "")
    : codec.decodeCursor (some (codec.encodeCursor id scope)) scope = .ok (some id) := by
  have payload : cursorPayload scope id ≠ "" := by
    intro none
    have length := congrArg String.length none
    simp [cursorPayload] at length
  have given : (some (codec.encodeCursor id scope)).filter (fun cursor => cursor ≠ "")
      = some (codec.encodeCursor id scope) := by
    refine Option.filter_eq_some_iff.mpr ⟨rfl, decide_eq_true fun none => ?_⟩
    have length := congrArg String.length none
    simp [CursorCodec.encodeCursor] at length
  unfold CursorCodec.decodeCursor
  rw [given]
  dsimp only
  rw [CursorCodec.encodeCursor,
    splitCursor_append (lawful.nonempty _ payload) (lawful.noDot _)]
  dsimp only
  rw [lawful.roundTrip, if_neg (not_not.mpr rfl), splitPayload_cursorPayload noColon]
  dsimp only
  rw [if_neg (by simp [nonempty])]

-- Queries that break ties in any order

section

variable {ρ : Type} {createdAt : ρ → Nat}

theorem findManyBy_eq {order : RowOrder createdAt} {rows : List (String × ρ)}
    {matching : ρ → Bool} {cursor : Option (String × ρ)} {take : Nat}
    (there : ∀ row, cursor = some row → rows.find? (fun other => other.1 = row.1) = some row)
    : findManyBy order rows matching (cursor.map Prod.fst) take
      = (order.after (rows.filter (fun row => matching row.2)) cursor).take take := by
  cases cursor with
  | none => rfl
  | some row =>
      unfold findManyBy
      simp only [Option.map_some, there row rfl]
      rfl

end

-- The two lists

/-- The lists that are read page by page. -/
inductive Listing
  | listMyTransactions
  | getTransfers

def Listing.matching (userId : String) : Listing → Transaction → Bool
  | .listMyTransactions => isListed userId
  | .getTransfers => isListedTransfer userId

def Listing.rows (listing : Listing) (db : Database) (userId : String)
    : List (String × Transaction) :=
  (rowsOf db.transactions).filter (fun row => listing.matching userId row.2)

def Listing.respond (codec : CursorCodec) (db : Database) (apiKey : ApiKey)
    (order : RowOrder Transaction.createdAt) (limit cursor : QueryParam)
    : Listing → Except JsError ReadResponse
  | .listMyTransactions => listMyTransactionsBy codec db apiKey order limit cursor
  | .getTransfers => getTransfersBy codec db apiKey order limit cursor

def ReadResponse.page : ReadResponse → List String × Option String
  | .transactions items next_cursor => (items.map (·.transaction_id), next_cursor)
  | .transfers items next_cursor => (items.map (·.transaction_id), next_cursor)
  | .requests items next_cursor => (items.map (·.id), next_cursor)
  | .transaction detail => ([detail.transaction_id], none)
  | .transfer detail => ([detail.transaction_id], none)

/-- The ids shown by the first requests of a client that follows the cursors, and the cursor of the
next request, unless there is none to make.
-/
def followCursor (codec : CursorCodec) (db : Database) (apiKey : ApiKey) (listing : Listing)
    (limit : QueryParam) (orders : Nat → RowOrder Transaction.createdAt)
    : Nat → Except JsError (List String × Option QueryParam)
  | 0 => .ok ([], some .absent)
  | turns + 1 => do
      let (shown, next) ← followCursor codec db apiKey listing limit orders turns
      match next with
      | none => return (shown, none)
      | some cursor => do
          let response ← listing.respond codec db apiKey (orders turns) limit cursor
          return (shown ++ response.page.1, response.page.2.map .text)

/-- The client comes to a page without a cursor, and has been shown every row of the list once. -/
def ShowsOnce (codec : CursorCodec) (db : Database) (apiKey : ApiKey) (userId : String)
    (listing : Listing) (limit : QueryParam) (orders : Nat → RowOrder Transaction.createdAt)
    : Prop :=
  ∃ turns shown, followCursor codec db apiKey listing limit orders turns = .ok (shown, none)
    ∧ shown.Perm ((listing.rows db userId).map Prod.fst)

-- One request

section

variable {codec : CursorCodec} {db : Database} {apiKey : ApiKey} {userId : String}
    {limitParam : QueryParam} {limit : Nat}

theorem pos_of_readLimit (admissible : readLimit limitParam = .ok limit) : 0 < limit := by
  unfold readLimit at admissible
  split at admissible
  · obtain rfl := Except.ok.inj admissible
    decide
  · cases admissible
  · split at admissible
    · obtain rfl := Except.ok.inj admissible
      decide
    · split at admissible
      · cases admissible
      · split at admissible
        · cases admissible
        · split at admissible
          · cases admissible
          · obtain rfl := Except.ok.inj admissible
            omega

/-- The columns of the ids of users and rows are of type `uuid`. -/
structure UuidColumns (db : Database) (userId : String) : Prop where
  user : isUuid userId = true
  rows : ∀ id ∈ db.transactions, isUuid id = true

theorem UuidColumns.noColon (columns : UuidColumns db userId) : ':' ∉ userId.toList := by
  intro colon
  cases isIdChar_of_isUuid columns.user ':' colon

theorem rowsOf_ids_nodup {ρ : Type} {table : AList (fun _ : String => ρ)}
    : ((rowsOf table).map Prod.fst).Nodup := by
  unfold rowsOf
  rw [List.map_map]
  exact table.nodupKeys

theorem find?_rowsOf {ρ : Type} {table : AList (fun _ : String => ρ)} {row : String × ρ}
    (member : row ∈ rowsOf table)
    : (rowsOf table).find? (fun other => other.1 = row.1) = some row := by
  cases found : (rowsOf table).find? (fun other => other.1 = row.1) with
  | none => exact absurd (decide_eq_true rfl) (List.find?_eq_none.mp found row member)
  | some other =>
      have there := List.mem_of_find?_eq_some found
      have same : other.1 = row.1 := by simpa using List.find?_some found
      exact congrArg some (List.inj_on_of_nodup_map rowsOf_ids_nodup there member same)

theorem UuidColumns.nonempty (columns : UuidColumns db userId) {row : String × Transaction}
    (member : row ∈ rowsOf db.transactions)
    : row.1 ≠ "" := by
  intro none
  have stored : row.1 ∈ db.transactions :=
    AList.lookup_isSome.mp (Option.isSome_iff_exists.mpr ⟨_, lookup_of_mem_rowsOf member⟩)
  have uuid := columns.rows row.1 stored
  rw [none] at uuid
  exact absurd uuid (by decide)

def cursorParam (codec : CursorCodec) (userId : String)
    : Option (String × Transaction) → QueryParam
  | none => .absent
  | some row => .text (codec.encodeCursor row.1 userId)

def shownPage (codec : CursorCodec) (userId : String) (limit : Nat)
    (list : List (String × Transaction))
    : List String × Option String :=
  if limit < list.length then
    ((list.take limit).map Prod.fst,
      (list.take limit).getLast?.map (fun row => codec.encodeCursor row.1 userId))
  else (list.map Prod.fst, none)

theorem pageOf_take (list : List (String × Transaction))
    : ((pageOf limit (list.take (limit + 1))).rows.map Prod.fst,
        (pageOf limit (list.take (limit + 1))).nextCursor codec userId)
      = shownPage codec userId limit list := by
  unfold shownPage pageOf Page.nextCursor
  by_cases more : limit < list.length
  · have long : limit < (list.take (limit + 1)).length := by
      rw [List.length_take]
      omega
    simp only [long, more, if_true, decide_true, List.take_take,
      Nat.min_eq_left (Nat.le_succ limit)]
  · have all : list.take (limit + 1) = list := List.take_of_length_le (by omega)
    simp only [all, more, if_false, decide_false, Bool.false_eq_true]

theorem respond_eq (lawful : codec.Lawful) (caller : callerId? (some apiKey) = some userId)
    (columns : UuidColumns db userId) (admissible : readLimit limitParam = .ok limit)
    (listing : Listing) {order : RowOrder Transaction.createdAt}
    {cursor : Option (String × Transaction)}
    (there : ∀ row, cursor = some row → row ∈ listing.rows db userId)
    : ∃ response,
        listing.respond codec db apiKey order limitParam (cursorParam codec userId cursor)
          = .ok response
        ∧ response.page
          = shownPage codec userId limit (order.after (listing.rows db userId) cursor) := by
  have stored : ∀ row, cursor = some row → row ∈ rowsOf db.transactions :=
    fun row given => (List.mem_filter.mp (there row given)).1
  have decoded : ∃ text, readText (cursorParam codec userId cursor) = .ok text
      ∧ codec.decodeCursor text userId = .ok (cursor.map Prod.fst) := by
    cases cursor with
    | none => exact ⟨none, rfl, rfl⟩
    | some row => exact ⟨_, rfl, decodeCursor_encodeCursor lawful columns.noColon
        (columns.nonempty (stored row rfl))⟩
  obtain ⟨text, read, decoded⟩ := decoded
  have found : ∀ matching, findManyBy order (rowsOf db.transactions) matching
      (cursor.map Prod.fst) (limit + 1)
        = (order.after ((rowsOf db.transactions).filter (fun row => matching row.2)) cursor).take
          (limit + 1) :=
    fun matching => findManyBy_eq fun row given => find?_rowsOf (stored row given)
  rw [← pageOf_take]
  cases listing with
  | listMyTransactions =>
      have answered : listMyTransactionsBy codec db apiKey order limitParam
            (cursorParam codec userId cursor)
          = .ok (.transactions
            ((pageOf limit ((order.after (Listing.rows .listMyTransactions db userId) cursor).take
              (limit + 1))).rows.map (fun row => transactionItem row.1 row.2))
            ((pageOf limit ((order.after (Listing.rows .listMyTransactions db userId) cursor).take
              (limit + 1))).nextCursor codec userId)) := by
        unfold listMyTransactionsBy requireUser
        simp only [caller, admissible, read, decoded, found, bind, Except.bind]
        rfl
      refine ⟨_, answered, ?_⟩
      rw [ReadResponse.page, List.map_map]
      rfl
  | getTransfers =>
      have answered : getTransfersBy codec db apiKey order limitParam
            (cursorParam codec userId cursor)
          = .ok (.transfers
            ((pageOf limit ((order.after (Listing.rows .getTransfers db userId) cursor).take
              (limit + 1))).rows.map (fun row => transferItem row.1 row.2))
            ((pageOf limit ((order.after (Listing.rows .getTransfers db userId) cursor).take
              (limit + 1))).nextCursor codec userId)) := by
        unfold getTransfersBy requireUser
        simp only [caller, admissible, read, decoded, found, bind, Except.bind]
        rfl
      refine ⟨_, answered, ?_⟩
      rw [ReadResponse.page, List.map_map]
      rfl

-- All requests

theorem followCursor_eq (lawful : codec.Lawful) (caller : callerId? (some apiKey) = some userId)
    (columns : UuidColumns db userId) (admissible : readLimit limitParam = .ok limit)
    (listing : Listing) {orders : Nat → RowOrder Transaction.createdAt} {turns : Nat}
    : followCursor codec db apiKey listing limitParam orders turns
      = .ok ((follow orders (listing.rows db userId) limit turns).shown.map Prod.fst,
        (follow orders (listing.rows db userId) limit turns).next.map
        (cursorParam codec userId)) := by
  induction turns with
  | zero => rfl
  | succ turns ih =>
      have known := (@follow_mem _ _ _ _ orders (listing.rows db userId) limit turns).2
      rw [followCursor, ih, follow]
      generalize follow orders (listing.rows db userId) limit turns = progress at known
      simp only [bind, Except.bind]
      unfold Progress.turn
      cases next : progress.next with
      | none =>
          simp only [next, Option.map_none]
          rfl
      | some cursor =>
          obtain ⟨response, answered, shown⟩ :=
            @respond_eq codec db apiKey userId limitParam limit lawful caller columns admissible
              listing (orders turns) cursor fun row same => known row (next ▸ same ▸ rfl)
          simp only [Option.map_some, answered, shown]
          generalize (orders turns).after (listing.rows db userId) cursor = list
          unfold shownPage
          by_cases more : limit < list.length
          · have nonempty : list.take limit ≠ [] := by
              have positive := pos_of_readLimit admissible
              refine List.ne_nil_of_length_pos ?_
              rw [List.length_take]
              omega
            have ends := List.getLast?_eq_some_getLast nonempty
            simp only [if_pos more, ends, List.map_append]
            rfl
          · simp only [if_neg more, List.map_append]
            rfl

theorem followCursor_ended {listing : Listing} {orders : Nat → RowOrder Transaction.createdAt}
    {turns : Nat} {shown : List String}
    (ended : followCursor codec db apiKey listing limitParam orders turns = .ok (shown, none))
    (more : Nat)
    : followCursor codec db apiKey listing limitParam orders (turns + more)
        = .ok (shown, none) := by
  induction more with
  | zero => exact ended
  | succ more ih =>
      rw [← Nat.add_assoc, followCursor, ih]
      rfl

/-- Following the cursors shows every row of a list once, however rows of one time are ordered,
exactly if no page but the last ends with a creation time that two of the rows share.
-/
theorem pages_shown_once_iff (lawful : codec.Lawful)
    (caller : callerId? (some apiKey) = some userId) (columns : UuidColumns db userId)
    (admissible : readLimit limitParam = .ok limit) (listing : Listing)
    : (∀ orders, ShowsOnce codec db apiKey userId listing limitParam orders)
      ↔ EndsApart (fun row : String × Transaction => row.2.createdAt) (listing.rows db userId)
        limit := by
  have ids : ((listing.rows db userId).map Prod.fst).Nodup :=
    (List.filter_sublist.map Prod.fst).nodup rowsOf_ids_nodup
  have distinct : (listing.rows db userId).Nodup := ids.of_map Prod.fst
  rw [← complete_iff_endsApart (pos_of_readLimit admissible) distinct]
  refine forall_congr' fun orders => exists_congr fun turns => ?_
  rw [followCursor_eq lawful caller columns admissible listing]
  constructor
  · rintro ⟨shown, same, all⟩
    obtain ⟨rfl, next⟩ := Prod.mk.inj (Except.ok.inj same)
    refine ⟨Option.map_eq_none_iff.mp next, ?_⟩
    have there := (@follow_mem _ _ _ _ orders (listing.rows db userId) limit turns).1
    have once : (follow orders (listing.rows db userId) limit turns).shown.Nodup :=
      (all.nodup_iff.mpr ids).of_map Prod.fst
    refine (List.subperm_of_subset once there).perm_of_length_le ?_
    have length := all.length_eq
    rw [List.length_map, List.length_map] at length
    exact length.ge
  · rintro ⟨ended, all⟩
    exact ⟨_, congrArg Except.ok (Prod.ext rfl (by rw [ended]; rfl)), all.map Prod.fst⟩

end

/-- Cursors of one user, whose first one is encoded as `base64url` does. -/
def twoPagesCodec : CursorCodec where
  toBase64Url text :=
    if text = cursorPayload "0b9e6f1c-1d1b-4a52-9b65-3c1f6a3f5e01"
        "7f0c2d3e-5a4b-4c6d-8e9f-0a1b2c3d4e5f"
    then "MGI5ZTZmMWMtMWQxYi00YTUyLTliNjUtM2MxZjZhM2Y1ZTAxOjdmMGMyZDNlLTVhNGItNGM2ZC04ZTlmLTBhMWIy"
      ++ "YzNkNGU1Zg"
    else "_" ++ text
  fromBase64Url body :=
    if body.toList.head? = some '_' then String.ofList body.toList.tail
    else cursorPayload "0b9e6f1c-1d1b-4a52-9b65-3c1f6a3f5e01" "7f0c2d3e-5a4b-4c6d-8e9f-0a1b2c3d4e5f"
  sign _ := "Zk3vQp8mT1sYc0XhUe5rWg2bN7aLoD9i"

theorem twoPagesCodec_lawful : twoPagesCodec.Lawful where
  roundTrip text := by
    unfold twoPagesCodec
    dsimp only
    split
    · rename_i own
      rw [own]
      decide +kernel
    · rw [if_pos (by simp)]
      simp
  nonempty text _ := by
    unfold twoPagesCodec
    dsimp only
    split
    · decide
    · intro none
      have length := congrArg String.length none
      simp at length
  noDot _ := (by decide : '.' ∉ "Zk3vQp8mT1sYc0XhUe5rWg2bN7aLoD9i".toList)

/-- Two transactions of a user, made at the given times. -/
def twoTransactions (first second : Nat) : Database where
  transactions :=
    ((∅ : AList (fun _ : String => Transaction)).insert "5d3c1b2a-9f8e-4d7c-b6a5-948372615040"
      { userId := some "0b9e6f1c-1d1b-4a52-9b65-3c1f6a3f5e01", type := "transfer",
        status := "completed", createdAt := second }).insert "7f0c2d3e-5a4b-4c6d-8e9f-0a1b2c3d4e5f"
      { userId := some "0b9e6f1c-1d1b-4a52-9b65-3c1f6a3f5e01", type := "transfer",
        status := "completed", createdAt := first }
  withdrawalRequests := ∅

def readerKey : ApiKey where
  userId := some "0b9e6f1c-1d1b-4a52-9b65-3c1f6a3f5e01"
  organizationId := none

theorem twoTransactions_uuids (first second : Nat)
    : UuidColumns (twoTransactions first second) "0b9e6f1c-1d1b-4a52-9b65-3c1f6a3f5e01" where
  user := by decide
  rows id member := by
    rcases (AList.mem_insert _).mp member with rfl | member
    · decide
    · rcases (AList.mem_insert _).mp member with rfl | none
      · decide
      · exact (AList.notMem_empty id none).elim

/-- Two transfers of different times, one on each page. -/
theorem pages_shown_once_two
    : (∀ orders, ShowsOnce twoPagesCodec (twoTransactions 2000 1000) readerKey
        "0b9e6f1c-1d1b-4a52-9b65-3c1f6a3f5e01" .getTransfers (.text "1") orders)
      ↔ EndsApart (fun row : String × Transaction => row.2.createdAt)
        (Listing.getTransfers.rows (twoTransactions 2000 1000)
          "0b9e6f1c-1d1b-4a52-9b65-3c1f6a3f5e01") 1 :=
  pages_shown_once_iff twoPagesCodec_lawful rfl (twoTransactions_uuids 2000 1000)
    (by decide +kernel) .getTransfers

/-- Two transfers of one time: the second query puts the other one first, and drops it. -/
theorem transfer_shown_twice
    : twoPagesCodec.Lawful
      ∧ UuidColumns (twoTransactions 1000 1000) "0b9e6f1c-1d1b-4a52-9b65-3c1f6a3f5e01"
      ∧ readLimit (.text "1") = .ok 1
      ∧ ¬ ∀ orders, ShowsOnce twoPagesCodec (twoTransactions 1000 1000) readerKey
        "0b9e6f1c-1d1b-4a52-9b65-3c1f6a3f5e01" .getTransfers (.text "1") orders := by
  refine ⟨twoPagesCodec_lawful, twoTransactions_uuids 1000 1000, by decide +kernel, fun once => ?_⟩
  let orders : Nat → RowOrder Transaction.createdAt := fun turns =>
    .byRank _ (fun row => if row.1 = "7f0c2d3e-5a4b-4c6d-8e9f-0a1b2c3d4e5f" then 2 * turns else 1)
  have repeated : followCursor twoPagesCodec (twoTransactions 1000 1000) readerKey .getTransfers
      (.text "1") orders 2
      = .ok (["7f0c2d3e-5a4b-4c6d-8e9f-0a1b2c3d4e5f", "7f0c2d3e-5a4b-4c6d-8e9f-0a1b2c3d4e5f"],
        none) := by
    decide +kernel
  obtain ⟨turns, shown, ended, all⟩ := once orders
  have stays := followCursor_ended repeated turns
  rw [Nat.add_comm, followCursor_ended ended 2] at stays
  obtain ⟨rfl, -⟩ := Prod.mk.inj (Except.ok.inj stays)
  have distinct := all.nodup_iff.mpr ((List.filter_sublist.map Prod.fst).nodup rowsOf_ids_nodup)
  exact absurd distinct (by decide)

end AcbuBackend.Reads
