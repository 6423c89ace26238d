import AcbuBackend.Runtime.Text
import Mathlib.Data.List.Forall2
import Mathlib.Data.Option.Basic

/-! The resolver of recipients, and what its results tell of a phone number or an email.
The mapping of letters to lower case is a parameter. A character counts as one.
-/

namespace AcbuBackend.Recipient

open AcbuBackend.Runtime

-- Queries

inductive QueryKind
  | username
  | phone
  | email
  | address
deriving DecidableEq

structure RecipientQuery where
  kind : QueryKind
  value : String
deriving DecidableEq

def STELLAR_ADDRESS_LENGTH : Nat := 56

def removeSpaces (cs : List Char) : List Char :=
  cs.filter (fun c => !isJsSpace c)

/-- `/^\+[0-9]{10,15}$/`. -/
def isE164 : List Char → Bool
  | '+' :: digits => digits.all isDigit && 10 ≤ digits.length && digits.length ≤ 15
  | _ => false

/-- `/^G[A-Z2-7]+$/`. -/
def isAddressText : List Char → Bool
  | 'G' :: rest =>
      rest ≠ [] && rest.all (fun c => ('A' ≤ c && c ≤ 'Z') || ('2' ≤ c && c ≤ '7'))
  | _ => false

def normalizeRecipientQuery (toLowerCase : String → String) (q : String)
    : Except String RecipientQuery :=
  let trimmed := jsTrim q
  if trimmed = "" then .error "Recipient query is required"
  else
    let lower := toLowerCase trimmed
    if lower.toList.head? = some '@' then
      .ok { kind := .username, value := String.ofList (removeSpaces (lower.toList.drop 1)) }
    else if isE164 trimmed.toList then .ok { kind := .phone, value := trimmed }
    else if trimmed.toList.contains '@' && trimmed.toList.contains '.' then
      .ok { kind := .email, value := lower }
    else if trimmed.toList.length = STELLAR_ADDRESS_LENGTH && isAddressText trimmed.toList then
      .ok { kind := .address, value := trimmed }
    else .ok { kind := .username, value := String.ofList (removeSpaces lower.toList) }

-- Masks

def maskPhone (phoneE164 : String) : Option String :=
  let cs := phoneE164.toList
  if cs.length < 6 then none
  else some (String.ofList (cs.take 4 ++ "****".toList ++ cs.drop (cs.length - 4)))

/-- The local part of an email and its domain, which ends at a further `@`. -/
def splitEmail (cs : List Char) : List Char × List Char :=
  (cs.takeWhile (· ≠ '@'), ((cs.dropWhile (· ≠ '@')).drop 1).takeWhile (· ≠ '@'))

def maskEmail (email : String) : Option String :=
  let cs := email.toList
  if '@' ∉ cs then none
  else
    let (localPart, domain) := splitEmail cs
    if localPart.length ≤ 2 then some (String.ofList ("**@".toList ++ domain))
    else some (String.ofList (localPart.take 2 ++ "***@".toList ++ domain))

-- The resolver

/-- The columns of `users` that the resolver reads. -/
structure User where
  id : String
  username : Option String
  phoneE164 : Option String
  email : Option String
  privacyHideFromSearch : Bool

/-- A row of `user_contacts`. -/
structure UserContact where
  userId : String
  contactUserId : String

structure Database where
  users : List User
  contacts : List UserContact

structure ResolveResult where
  userId : String
  displayName : String
  username : Option String
  maskedPhone : Option String
  maskedEmail : Option String
  canReceive : Bool
deriving DecidableEq

/-- A column that holds a text other than the empty one. -/
def given (text : Option String) : Option String :=
  text.filter (· ≠ "")

/-- The row a query looks for. -/
def RecipientQuery.isFor (query : RecipientQuery) (user : User) : Bool :=
  match query.kind with
  | .username => user.username = some query.value
  | .phone => user.phoneE164 = some query.value
  | .email => user.email = some query.value
  | .address => false

def Database.shows (db : Database) (callerUserId : Option String) (user : User) : Bool :=
  !(user.privacyHideFromSearch && callerUserId ≠ some user.id)
  || (given callerUserId).any (fun caller =>
    db.contacts.any (fun contact => contact.userId = user.id && contact.contactUserId = caller))

def User.displayName (user : User) : String :=
  match given user.username with
  | some username => "@" ++ username
  | none =>
      ((given user.phoneE164).or (given user.email)).getD (String.ofList (user.id.toList.take 8))

def User.result (user : User) : ResolveResult where
  userId := user.id
  displayName := user.displayName
  username := given user.username
  maskedPhone := (given user.phoneE164).bind maskPhone
  maskedEmail := (given user.email).bind maskEmail
  canReceive := true

def resolveRecipient (toLowerCase : String → String) (db : Database) (q : String)
    (callerUserId : Option String)
    : Except String (Option ResolveResult) := do
  let query ← normalizeRecipientQuery toLowerCase q
  if query.kind = .address then return none
  else
    match db.users.find? query.isFor with
    | none => return none
    | some user => return if db.shows callerUserId user then some user.result else none

-- What is hidden

/-- The part of a phone number that its mask does not show. -/
def hiddenPhone (cs : List Char) : List Char :=
  if cs.length < 6 then cs else (cs.drop 4).take (cs.length - 8)

/-- The parts of an email that its mask does not show: of the local part, and behind the domain. -/
def hiddenEmail (cs : List Char) : List Char × List Char :=
  if '@' ∉ cs then (cs, [])
  else
    let (localPart, _) := splitEmail cs
    (if localPart.length ≤ 2 then localPart else localPart.drop 2,
      ((cs.dropWhile (· ≠ '@')).drop 1).dropWhile (· ≠ '@'))

section

variable (toLowerCase : String → String) (q : String) (callerUserId : Option String)

/-- A part that occurs in a query, as it is given or as it is looked for. -/
def OccursIn (part : List Char) : Prop :=
  part <:+: q.toList
  ∨ ∃ query, normalizeRecipientQuery toLowerCase q = .ok query ∧ part <:+: query.value.toList

/-- Two parts that are the same, or do not occur in the query. -/
def SamePart (part part' : List Char) : Prop :=
  part = part' ∨ ¬ OccursIn toLowerCase q part ∧ ¬ OccursIn toLowerCase q part'

/-- Phone numbers that differ in nothing but a hidden part. -/
def PhoneChange (phone phone' : String) : Prop :=
  phone = phone' ∨
    maskPhone phone = maskPhone phone'
    ∧ hiddenPhone phone.toList ≠ hiddenPhone phone'.toList
    ∧ SamePart toLowerCase q (hiddenPhone phone.toList) (hiddenPhone phone'.toList)

/-- Emails that differ in nothing but hidden parts. -/
def EmailChange (email email' : String) : Prop :=
  email = email' ∨
    maskEmail email = maskEmail email'
    ∧ hiddenEmail email.toList ≠ hiddenEmail email'.toList
    ∧ SamePart toLowerCase q (hiddenEmail email.toList).1 (hiddenEmail email'.toList).1
    ∧ SamePart toLowerCase q (hiddenEmail email.toList).2 (hiddenEmail email'.toList).2

/-- Rows of one user that differ in nothing but hidden parts, and do not differ for the user. -/
structure UserChange (user user' : User) : Prop where
  id : user'.id = user.id
  username : user'.username = user.username
  privacy : user'.privacyHideFromSearch = user.privacyHideFromSearch
  phone : Option.Rel (PhoneChange toLowerCase q) user.phoneE164 user'.phoneE164
  email : Option.Rel (EmailChange toLowerCase q) user.email user'.email
  own : callerUserId = some user.id → user' = user

/-- Databases that differ in nothing but hidden parts of other users' contact data. -/
structure HiddenChange (db db' : Database) : Prop where
  users : List.Forall₂ (UserChange toLowerCase q callerUserId) db.users db'.users
  contacts : db'.contacts = db.contacts

end

section

variable {toLowerCase : String → String} {q : String} {callerUserId : Option String}

theorem hiddenPhone_isInfix (cs : List Char) : hiddenPhone cs <:+: cs := by
  unfold hiddenPhone
  split
  · exact List.infix_rfl
  · exact (List.take_prefix _ _).isInfix.trans (List.drop_suffix _ _).isInfix

theorem hiddenEmail_isInfix (cs : List Char)
    : (hiddenEmail cs).1 <:+: cs ∧ (hiddenEmail cs).2 <:+: cs := by
  unfold hiddenEmail splitEmail
  split
  · exact ⟨List.infix_rfl, List.nil_infix⟩
  · dsimp only
    refine ⟨?_, ?_⟩
    · split
      · exact (List.takeWhile_prefix _).isInfix
      · exact (List.drop_suffix _ _).isInfix.trans (List.takeWhile_prefix _).isInfix
    · exact (List.dropWhile_suffix _).isInfix.trans
        ((List.drop_suffix _ _).isInfix.trans (List.dropWhile_suffix _).isInfix)

theorem SamePart.eq {part part' : List Char} (same : SamePart toLowerCase q part part')
    (occurs : OccursIn toLowerCase q part ∨ OccursIn toLowerCase q part')
    : part = part' := by
  rcases same with same | ⟨absent, absent'⟩
  · exact same
  · rcases occurs with there | there
    · exact absurd there absent
    · exact absurd there absent'

theorem occursIn_of_empty (part : List Char) (inside : part <:+: "".toList)
    : OccursIn toLowerCase q part := by
  rw [List.infix_nil.mp inside]
  exact .inl List.nil_infix

/-- Changes of a column that its mask hides, and that the query does not speak of. -/
structure Discreet (toLowerCase : String → String) (q : String) (mask : String → Option String)
    (change : String → String → Prop)
    : Prop where
  masked : ∀ {text text'}, change text text' → mask text = mask text'
  /-- A text of which every part occurs in the query is not changed. -/
  spoken : ∀ {text text'}, change text text' →
    ((∀ part, part <:+: text.toList → OccursIn toLowerCase q part)
      ∨ ∀ part, part <:+: text'.toList → OccursIn toLowerCase q part) → text = text'

theorem phoneChange_discreet : Discreet toLowerCase q maskPhone (PhoneChange toLowerCase q) where
  masked change := change.elim (congrArg maskPhone) And.left
  spoken change occurs := by
    rcases change with same | ⟨-, apart, part⟩
    · exact same
    · exact absurd (part.eq (occurs.imp (· _ (hiddenPhone_isInfix _)) (· _ (hiddenPhone_isInfix _))))
        apart

theorem emailChange_discreet : Discreet toLowerCase q maskEmail (EmailChange toLowerCase q) where
  masked change := change.elim (congrArg maskEmail) And.left
  spoken change occurs := by
    rcases change with same | ⟨-, apart, first, second⟩
    · exact same
    · have first := first.eq
        (occurs.imp (· _ (hiddenEmail_isInfix _).1) (· _ (hiddenEmail_isInfix _).1))
      have second := second.eq
        (occurs.imp (· _ (hiddenEmail_isInfix _).2) (· _ (hiddenEmail_isInfix _).2))
      exact absurd (Prod.ext first second) apart

section

variable {mask : String → Option String} {change : String → String → Prop}
  {column column' : Option String}

theorem Discreet.found_iff {value : String} (discreet : Discreet toLowerCase q mask change)
    (changed : Option.Rel change column column')
    (occurs : ∀ part, part <:+: value.toList → OccursIn toLowerCase q part)
    : column' = some value ↔ column = some value := by
  cases changed with
  | none => rfl
  | some changed =>
      rw [Option.some.injEq, Option.some.injEq]
      constructor
      · rintro rfl
        exact discreet.spoken changed (.inr occurs)
      · rintro rfl
        exact (discreet.spoken changed (.inl occurs)).symm

theorem Discreet.given_iff (discreet : Discreet toLowerCase q mask change)
    (changed : Option.Rel change column column')
    : given column' = none ↔ given column = none := by
  have empty : ∀ column : Option String,
      given column = none ↔ column = none ∨ column = some "" := by
    intro column
    cases column with
    | none => simp [given]
    | some text => simp [given]
  rw [empty, empty, discreet.found_iff changed occursIn_of_empty]
  cases changed with
  | none => rfl
  | some _ => simp

theorem Discreet.given_eq_iff (discreet : Discreet toLowerCase q mask change)
    (changed : Option.Rel change column column')
    : given column' = given column ↔ column' = column := by
  refine ⟨fun same => ?_, congrArg given⟩
  cases held : given column with
  | none =>
      cases changed with
      | none => rfl
      | @some text text' changed =>
          have empty : text = "" := by simpa [given] using held
          rw [discreet.spoken changed (.inl (empty ▸ occursIn_of_empty))]
  | some text =>
      rw [held] at same
      rw [(Option.filter_eq_some_iff.mp held).1, (Option.filter_eq_some_iff.mp same).1]

theorem Discreet.given_some {text : String} (discreet : Discreet toLowerCase q mask change)
    (changed : Option.Rel change column column') (held : given column = some text)
    : ∃ text', given column' = some text' := by
  refine Option.ne_none_iff_exists'.mp fun none => ?_
  rw [(discreet.given_iff changed).mp none] at held
  cases held

theorem Discreet.mask_eq (discreet : Discreet toLowerCase q mask change) (nothing : mask "" = none)
    (changed : Option.Rel change column column')
    : (given column').bind mask = (given column).bind mask := by
  have ungiven : ∀ column : Option String, (given column).bind mask = column.bind mask := by
    intro column
    cases column with
    | none => rfl
    | some text =>
        by_cases empty : text = ""
        · subst empty
          exact nothing.symm
        · rw [given, Option.filter_some, if_pos (by simpa using empty)]
  rw [ungiven, ungiven]
  cases changed with
  | none => rfl
  | some changed => exact (discreet.masked changed).symm

end

-- Two runs

theorem UserChange.isFor {query : RecipientQuery} {user user' : User}
    (change : UserChange toLowerCase q callerUserId user user')
    (normalized : normalizeRecipientQuery toLowerCase q = .ok query)
    : query.isFor user' = query.isFor user := by
  have occurs : ∀ part, part <:+: query.value.toList → OccursIn toLowerCase q part :=
    fun part inside => .inr ⟨query, normalized, inside⟩
  unfold RecipientQuery.isFor
  cases query.kind with
  | username => simp only [change.username]
  | phone =>
      dsimp only
      rw [decide_eq_decide]
      exact phoneChange_discreet.found_iff change.phone occurs
  | email =>
      dsimp only
      rw [decide_eq_decide]
      exact emailChange_discreet.found_iff change.email occurs
  | address => rfl

theorem find_change {users users' : List User} {query : RecipientQuery}
    (change : List.Forall₂ (UserChange toLowerCase q callerUserId) users users')
    (normalized : normalizeRecipientQuery toLowerCase q = .ok query)
    : Option.Rel (UserChange toLowerCase q callerUserId) (users.find? query.isFor)
      (users'.find? query.isFor) := by
  induction change with
  | nil => exact .none
  | cons first _ ih =>
      rw [List.find?_cons, List.find?_cons, first.isFor normalized]
      split
      · exact .some first
      · exact ih

/-- The contact that a user without a name is shown by is the same: the phone number, or else the
email.
-/
def ContactAgrees (user user' : User) : Prop :=
  if given user.phoneE164 = none then user'.email = user.email
  else user'.phoneE164 = user.phoneE164

theorem UserChange.result_eq_iff {user user' : User}
    (change : UserChange toLowerCase q callerUserId user user')
    : user'.result = user.result ↔ (given user.username = none → ContactAgrees user user') := by
  have phone := phoneChange_discreet.given_iff change.phone
  have email := emailChange_discreet.given_iff change.email
  have maskedPhone := phoneChange_discreet.mask_eq (by decide) change.phone
  have maskedEmail := emailChange_discreet.mask_eq (by decide) change.email
  simp only [User.result, maskedPhone, maskedEmail, change.id, change.username,
    ResolveResult.mk.injEq, and_true, true_and]
  unfold User.displayName ContactAgrees
  rw [change.username, change.id]
  cases named : given user.username with
  | some name => simp
  | none =>
      simp only [forall_const]
      cases held : given user.phoneE164 with
      | none =>
          rw [phone.mpr held, if_pos rfl, Option.none_or, Option.none_or,
            ← emailChange_discreet.given_eq_iff change.email]
          cases held : given user.email with
          | none => rw [email.mpr held]; simp
          | some text =>
              obtain ⟨text', held'⟩ := emailChange_discreet.given_some change.email held
              simp [held']
      | some text =>
          obtain ⟨text', held'⟩ := phoneChange_discreet.given_some change.phone held
          rw [if_neg (Option.some_ne_none text), ← phoneChange_discreet.given_eq_iff change.phone,
            held, held']
          simp

/-- The user whom the caller finds has a name, or a contact that is the same in both databases. -/
def NamesAgree (toLowerCase : String → String) (q : String) (callerUserId : Option String)
    (db db' : Database)
    : Prop :=
  ∀ query, normalizeRecipientQuery toLowerCase q = .ok query → query.kind ≠ .address →
    ∀ user user', db.users.find? query.isFor = some user →
      db'.users.find? query.isFor = some user' → db.shows callerUserId user = true →
      given user.username = none → ContactAgrees user user'

theorem HiddenChange.shows {db db' : Database} {user user' : User}
    (change : HiddenChange toLowerCase q callerUserId db db')
    (changed : UserChange toLowerCase q callerUserId user user')
    : db'.shows callerUserId user' = db.shows callerUserId user := by
  unfold Database.shows
  rw [change.contacts, changed.id, changed.privacy]

/-- The hidden parts of contact data reach a result exactly through the displayed name of a user who
has none.
-/
theorem resolveRecipient_eq_iff {db db' : Database}
    (change : HiddenChange toLowerCase q callerUserId db db')
    : resolveRecipient toLowerCase db' q callerUserId
        = resolveRecipient toLowerCase db q callerUserId
      ↔ NamesAgree toLowerCase q callerUserId db db' := by
  unfold resolveRecipient NamesAgree
  cases normalized : normalizeRecipientQuery toLowerCase q with
  | error e => simp [bind, Except.bind]
  | ok query =>
      simp only [bind, Except.bind, Except.ok.injEq, forall_eq']
      by_cases address : query.kind = .address
      · simp [address]
      · rw [if_neg address, if_neg address, imp_iff_right address]
        have both := find_change change.users normalized
        generalize db.users.find? query.isFor = found at both ⊢
        generalize db'.users.find? query.isFor = found' at both ⊢
        cases both with
        | none => simp
        | @some user user' changed =>
            have shows := change.shows changed
            have result := changed.result_eq_iff
            simp only [Option.some.injEq, shows]
            cases shown : db.shows callerUserId user with
            | false => simp [shown]
            | true => simpa [pure, Except.pure, shown] using result

end

-- A number that is displayed

def contactUser (username : Option String) (phoneE164 : String) : User where
  id := "user-123"
  username := username
  phoneE164 := some phoneE164
  email := some "jane@example.com"
  privacyHideFromSearch := false

def contactDatabase (username : Option String) (phoneE164 : String) : Database where
  users := [contactUser username phoneE164]
  contacts := []

/-- The lower case of letters without marks. -/
def asciiLowerCase (text : String) : String :=
  String.ofList (text.toList.map Char.toLower)

/-- Two numbers with one mask differ in what it hides, which a query by email does not speak of. -/
theorem contactDatabase_change (username : Option String)
    : HiddenChange asciiLowerCase "jane@example.com" none
        (contactDatabase username "+2348012345678")
        (contactDatabase username "+2349998765678") := by
  have unspoken : ∀ part : List Char, (∃ c ∈ part, c.isDigit = true) →
      ¬ OccursIn asciiLowerCase "jane@example.com" part := by
    have none : "jane@example.com".toList.all (fun c => !c.isDigit) = true := by decide
    rintro part ⟨c, inPart, digit⟩ (given | ⟨query, normalized, value⟩)
    · have other := List.all_eq_true.mp none c (given.subset inPart)
      rw [digit] at other
      cases other
    · have email : normalizeRecipientQuery asciiLowerCase "jane@example.com"
          = .ok { kind := .email, value := "jane@example.com" } := by decide +kernel
      obtain rfl := Except.ok.inj (normalized.symm.trans email)
      have other := List.all_eq_true.mp none c (value.subset inPart)
      rw [digit] at other
      cases other
  have phone : PhoneChange asciiLowerCase "jane@example.com" "+2348012345678" "+2349998765678" :=
    .inr ⟨by decide, by decide,
      .inr ⟨unspoken _ ⟨'0', by decide⟩, unspoken _ ⟨'9', by decide⟩⟩⟩
  refine ⟨.cons ⟨rfl, rfl, rfl, .some phone, .some (.inl rfl), fun own => ?_⟩ .nil, rfl⟩
  cases own

theorem resolveRecipient_eq_iff_contact
    : NamesAgree asciiLowerCase "jane@example.com" none
        (contactDatabase (some "jane") "+2348012345678")
        (contactDatabase (some "jane") "+2349998765678") :=
  (resolveRecipient_eq_iff (contactDatabase_change (some "jane"))).mp (by decide +kernel)

/-- A user without a name is displayed by the whole number, so that its hidden part is told. -/
theorem number_displayed
    : HiddenChange asciiLowerCase "jane@example.com" none
        (contactDatabase none "+2348012345678") (contactDatabase none "+2349998765678")
      ∧ resolveRecipient asciiLowerCase (contactDatabase none "+2349998765678")
          "jane@example.com" none
        ≠ resolveRecipient asciiLowerCase (contactDatabase none "+2348012345678")
          "jane@example.com" none :=
  ⟨contactDatabase_change none, by decide +kernel⟩

end AcbuBackend.Recipient
