import AcbuBackend.Paging.CursorPages
import AcbuBackend.Runtime.Errors
import AcbuBackend.Runtime.Text

/-! Pages of rows, and the cursors that lead from one page to the next.
A cursor is signed together with the scope of its caller. The encoding of its body and the
signature are parameters.
-/

namespace AcbuBackend.Reads

open Paging AcbuBackend.Runtime

-- Cursors

/-- The encodings of `base64url` and the signature under the secret of the server. -/
structure CursorCodec where
  toBase64Url : String → String
  fromBase64Url : String → String
  sign : String → String

def invalidCursor : JsError :=
  appError "Invalid pagination cursor" 400 .INVALID_CURSOR

def cursorPayload (scope id : String) : String :=
  scope ++ ":" ++ id

namespace CursorCodec

variable (codec : CursorCodec)

def encodeCursor (id scope : String) : String :=
  codec.toBase64Url (cursorPayload scope id) ++ "." ++ codec.sign (cursorPayload scope id)

/-- The scope and the id of a payload, split at the first colon. -/
def splitPayload (payload : String) : Option (String × String) :=
  match payload.toList.dropWhile (fun c => c ≠ ':') with
  | [] => none
  | _ :: id => some (String.ofList (payload.toList.takeWhile (fun c => c ≠ ':')), String.ofList id)

/-- The body and the signature of a cursor, split at the last dot. -/
def splitCursor (cursor : String) : Option (String × String) :=
  match cursor.toList.reverse.dropWhile (fun c => c ≠ '.') with
  | [] | [_] => none
  | _ :: body =>
      some (String.ofList body.reverse,
        String.ofList (cursor.toList.reverse.takeWhile (fun c => c ≠ '.')).reverse)

/-- `decodeCursor`. Strings that are equal in constant time are equal. -/
def decodeCursor (cursor : Option String) (scope : String) : Except JsError (Option String) :=
  match cursor.filter (fun cursor => cursor ≠ "") with
  | none => .ok none
  | some cursor =>
      match splitCursor cursor with
      | none => .error invalidCursor
      | some (body, providedSignature) =>
          let payload := codec.fromBase64Url body
          if providedSignature ≠ codec.sign payload then .error invalidCursor
          else
            match splitPayload payload with
            | none => .error invalidCursor
            | some (cursorScope, id) =>
                if cursorScope ≠ scope ∨ id = "" then .error invalidCursor else .ok (some id)

end CursorCodec

-- Pages

/-- A query parameter: not given, a text, or anything else of a kind. -/
inductive QueryParam
  | absent
  | text (value : String)
  | other (kind : String)
deriving DecidableEq

/-- `z.string().optional()`. -/
def readText : QueryParam → Except String (Option String)
  | .absent => .ok none
  | .text value => .ok (some value)
  | .other kind => .error s!"Expected string, received {kind}"

/-- The `limit` of a page. -/
def readLimit : QueryParam → Except String Nat
  | .absent => .ok 20
  | .other kind => .error s!"Expected string, received {kind}"
  | .text value =>
      if value = "" then .ok 20
      else
        match jsParseInt value with
        | none => .error "Expected number, received nan"
        | some limit =>
            if limit < 1 then .error "Number must be greater than or equal to 1"
            else if 100 < limit then .error "Number must be less than or equal to 100"
            else .ok limit.toNat

def issue {α : Type} (field : String) : Except String α → List (String × String)
  | .ok _ => []
  | .error message => [(field, message)]

section

variable {ρ : Type} (createdAt : ρ → Nat)

/-- An order of rows, newest first. -/
abbrev RowOrder : Type :=
  TieOrder (fun row : String × ρ => createdAt row.2)

/-- Rows of one time in the order of the table. -/
def RowOrder.stable : RowOrder createdAt where
  sort rows := rows.mergeSort (fun row other => createdAt other.2 ≤ createdAt row.2)
  perm rows := List.mergeSort_perm rows _
  sorted rows := by
    refine (List.pairwise_mergeSort ?_ ?_ rows).imp fun le => of_decide_eq_true le
    · intro row other last first second
      exact decide_eq_true ((of_decide_eq_true second).trans (of_decide_eq_true first))
    · intro row other
      rw [Bool.or_eq_true, decide_eq_true_eq, decide_eq_true_eq]
      exact le_total _ _

variable {createdAt}

/-- `findMany`, newest first: of the rows that match, those after the row of the cursor. No row is
found after a cursor whose row is not there. Rows of one time are in any order.
-/
def findManyBy (order : RowOrder createdAt) (rows : List (String × ρ)) (matching : ρ → Bool)
    (cursor : Option String) (take : Nat)
    : List (String × ρ) :=
  let sorted := order.sort (rows.filter (fun row => matching row.2))
  let rest :=
    match cursor with
    | none => sorted
    | some id =>
        match rows.find? (fun (row : String × ρ) => row.1 = id) with
        | none => []
        | some (_, start) =>
            (sorted.dropWhile (fun (row : String × ρ) => createdAt start < createdAt row.2)).drop 1
  rest.take take

/-- `findMany`, with rows of one time in the order of the table. -/
def findMany (createdAt : ρ → Nat) (rows : List (String × ρ)) (matching : ρ → Bool)
    (cursor : Option String) (take : Nat)
    : List (String × ρ) :=
  findManyBy (RowOrder.stable createdAt) rows matching cursor take

theorem mem_findManyBy {order : RowOrder createdAt} {rows : List (String × ρ)} {matching : ρ → Bool}
    {cursor : Option String} {take : Nat} {row : String × ρ}
    (h : row ∈ findManyBy order rows matching cursor take)
    : row ∈ rows ∧ matching row.2 = true := by
  have sorted : ∀ row ∈ order.sort (rows.filter (fun row => matching row.2)),
      row ∈ rows ∧ matching row.2 = true :=
    fun row member => List.mem_filter.mp ((order.perm _).mem_iff.mp member)
  unfold findManyBy at h
  have h := List.mem_of_mem_take h
  split at h
  · exact sorted row h
  · split at h
    · cases h
    · exact sorted row ((List.dropWhile_sublist _).subset (List.mem_of_mem_drop h))

/-- A page of rows, and whether there are more. -/
structure Page (ρ : Type) where
  rows : List (String × ρ)
  hasMore : Bool

/-- `list.length > limit` of one row more than the limit. -/
def pageOf (limit : Nat) (list : List (String × ρ)) : Page ρ where
  rows := if limit < list.length then list.take limit else list
  hasMore := limit < list.length

theorem mem_pageOf {limit : Nat} {list : List (String × ρ)} {row : String × ρ}
    (h : row ∈ (pageOf limit list).rows)
    : row ∈ list := by
  unfold pageOf at h
  split at h
  · exact List.mem_of_mem_take h
  · exact h

def Page.nextCursor (codec : CursorCodec) (scope : String) (page : Page ρ) : Option String :=
  if page.hasMore then page.rows.getLast?.map (fun row => codec.encodeCursor row.1 scope) else none

end

end AcbuBackend.Reads
