import Mathlib.Data.Fintype.Card
import Mathlib.Data.List.Forall2
import Mathlib.Data.List.TakeWhile
import Mathlib.Tactic.Common

/-! The redaction of log values: secrets under telling keys, and card numbers in texts.
A value refers to the objects of a heap, as these may be shared and may contain themselves; texts
are lists of characters. What is neither a text nor an object is left as it is.
-/

namespace AcbuBackend.Logging

abbrev Text := List Char

def REDACTED : Text :=
  "[REDACTED]".toList

-- Card numbers

/-- `\w`, whose digits are those of ASCII. -/
def isWordChar (c : Char) : Bool :=
  c.isAlphanum || c = '_'

/-- Whether `CARD_NUMBER_PATTERN` matches here: digits that are a word of their own. -/
def cardAt (inWord : Bool) (cs : Text) : Bool :=
  let word := cs.takeWhile isWordChar
  !inWord && word.all Char.isDigit && 13 ≤ word.length && word.length ≤ 19

/-- The replacement from here on: behind a character of a word or not, with so many characters of a
match to pass.
-/
def replaceFrom : Bool → Nat → Text → Text
  | _, _, [] => []
  | _, skip + 1, c :: cs => replaceFrom (isWordChar c) skip cs
  | inWord, 0, c :: cs =>
      if cardAt inWord (c :: cs) then
        REDACTED
          ++ replaceFrom (isWordChar c) (((c :: cs).takeWhile isWordChar).length - 1) cs
      else c :: replaceFrom (isWordChar c) 0 cs

def redactPii (value : Text) : Text :=
  replaceFrom false 0 value

/-- A text in which the pattern matches somewhere. -/
def ContainsCard (cs : Text) : Prop :=
  ∃ before digits after, cs = before ++ digits ++ after ∧ digits.all Char.isDigit
    ∧ 13 ≤ digits.length ∧ digits.length ≤ 19
    ∧ (∀ c ∈ before.getLast?, isWordChar c = false) ∧ ∀ c ∈ after.head?, isWordChar c = false

def hasCard : Bool → Text → Bool
  | _, [] => false
  | inWord, c :: cs => cardAt inWord (c :: cs) || hasCard (isWordChar c) cs

theorem isWordChar_of_isDigit {c : Char} (digit : c.isDigit = true) : isWordChar c = true := by
  simp [isWordChar, Char.isAlphanum, digit]

theorem takeWhile_word {word after : Text} (inside : ∀ c ∈ word, isWordChar c = true)
    (outside : ∀ c ∈ after.head?, isWordChar c = false)
    : (word ++ after).takeWhile isWordChar = word := by
  rw [List.takeWhile_append_of_pos inside]
  cases after with
  | nil => simp
  | cons c cs => simp [outside c rfl]

/-- A text that is scanned without a match contains no card number. -/
theorem not_containsCard {cs : Text} (none : hasCard false cs = false) : ¬ ContainsCard cs := by
  rintro ⟨before, digits, after, rfl, all, low, high, start, stop⟩
  have inside : ∀ c ∈ digits, isWordChar c = true :=
    fun c member => isWordChar_of_isDigit (List.all_eq_true.mp all c member)
  have matched : cardAt false (digits ++ after) = true := by
    simp [cardAt, takeWhile_word inside stop, all, low, high]
  have found : ∀ (before : Text) (inWord : Bool), (∀ c ∈ before.getLast?, isWordChar c = false) →
      (before = [] → inWord = false) → hasCard inWord (before ++ (digits ++ after)) = true := by
    intro before
    induction before with
    | nil =>
        intro inWord _ outside
        obtain rfl := outside rfl
        cases shape : digits ++ after with
        | nil =>
            rw [List.append_eq_nil_iff] at shape
            rw [shape.1] at low
            cases low
        | cons c cs =>
            rw [shape] at matched
            simp [hasCard, matched]
    | cons c cs ih =>
        intro inWord last _
        rw [List.cons_append, hasCard, Bool.or_eq_true]
        refine .inr (ih _ (fun d member => last d ?_) fun empty => last c ?_)
        · rw [List.getLast?_cons, Option.mem_def.mp member]
          rfl
        · rw [empty]
          rfl
  rw [List.append_assoc, found before false start fun _ => rfl] at none
  cases none

theorem takeWhile_replaceFrom {cs : Text}
    : (replaceFrom true 0 cs).takeWhile isWordChar = cs.takeWhile isWordChar := by
  induction cs with
  | nil => rfl
  | cons c cs ih =>
      rw [replaceFrom, if_neg (by simp [cardAt])]
      cases word : isWordChar c with
      | true => rw [List.takeWhile_cons_of_pos word, List.takeWhile_cons_of_pos word, ih]
      | false => simp [word]

/-- The characters of a match are passed. -/
theorem replaceFrom_skip {word after : Text} (inside : ∀ c ∈ word, isWordChar c = true)
    : replaceFrom true word.length (word ++ after) = replaceFrom true 0 after := by
  induction word with
  | nil => rfl
  | cons c word ih =>
      rw [List.length_cons, List.cons_append, replaceFrom, inside c List.mem_cons_self]
      exact ih fun d member => inside d (List.mem_cons_of_mem c member)

theorem hasCard_cons_of_not_word {c : Char} {cs : Text} {inWord : Bool}
    (outside : isWordChar c = false)
    : hasCard inWord (c :: cs) = hasCard false cs := by
  simp [hasCard, cardAt, outside]

/-- Behind the start of a word, the pattern matches only after it. -/
theorem hasCard_word {word after : Text} (inside : ∀ c ∈ word, isWordChar c = true)
    : hasCard true (word ++ after) = hasCard true after := by
  induction word with
  | nil => rfl
  | cons c word ih =>
      rw [List.cons_append, hasCard, inside c List.mem_cons_self,
        ih fun d member => inside d (List.mem_cons_of_mem c member)]
      simp [cardAt]

theorem hasCard_redacted {rest : Text} (inWord : Bool) (none : hasCard false rest = false)
    : hasCard inWord (REDACTED ++ rest) = false := by
  have inside : ∀ c ∈ "EDACTED".toList, isWordChar c = true := List.all_eq_true.mp rfl
  have shape : REDACTED ++ rest = '[' :: 'R' :: ("EDACTED".toList ++ ']' :: rest) := rfl
  have word : ('R' :: ("EDACTED".toList ++ ']' :: rest)).takeWhile isWordChar
      = "REDACTED".toList :=
    @takeWhile_word "REDACTED".toList (']' :: rest) (List.all_eq_true.mp rfl) fun c same => by
      obtain rfl := Option.some.inj same
      decide
  rw [shape, hasCard_cons_of_not_word (by decide), hasCard, cardAt, word]
  have letter : isWordChar 'R' = true := by decide
  rw [letter, hasCard_word inside, hasCard_cons_of_not_word (by decide), none]
  decide

/-- Nothing in a replaced text matches, whatever the scan starts behind. -/
theorem hasCard_replaceFrom (cs : Text) (inWord : Bool)
    : hasCard inWord (replaceFrom inWord 0 cs) = false := by
  induction size : cs.length using Nat.strong_induction_on generalizing cs inWord with
  | _ n ih =>
      cases cs with
      | nil => rfl
      | cons c cs =>
          rw [replaceFrom]
          split
          · -- the match is a word, and what follows it is no part of one
            rename_i matched
            have first : isWordChar c = true := by
              by_contra outside
              simp [cardAt, outside] at matched
            have passed := @replaceFrom_skip (cs.takeWhile isWordChar) (cs.dropWhile isWordChar)
              fun d member => List.mem_takeWhile_imp member
            rw [List.takeWhile_append_dropWhile] at passed
            rw [List.takeWhile_cons_of_pos first, List.length_cons, Nat.add_sub_cancel, first,
              passed]
            refine hasCard_redacted inWord ?_
            cases rest : cs.dropWhile isWordChar with
            | nil => rfl
            | cons d after =>
                have outside : isWordChar d = false := by
                  have := List.head?_dropWhile_not isWordChar cs
                  simpa [rest] using this
                have shorter : after.length < n := by
                  have := (@List.dropWhile_suffix _ cs isWordChar).length_le
                  rw [rest, List.length_cons] at this
                  rw [← size, List.length_cons]
                  omega
                rw [replaceFrom, if_neg (by simp [cardAt]), hasCard_cons_of_not_word outside,
                  outside]
                exact ih _ shorter after false rfl
          · rename_i unmatched
            rw [hasCard, ih cs.length (by simp [← size]) cs _ rfl, Bool.or_false]
            have same : cardAt inWord (c :: replaceFrom (isWordChar c) 0 cs)
                = cardAt inWord (c :: cs) := by
              unfold cardAt
              cases word : isWordChar c with
              | true =>
                  rw [List.takeWhile_cons_of_pos word, List.takeWhile_cons_of_pos word,
                    takeWhile_replaceFrom]
              | false => simp [word]
            rw [same]
            exact Bool.not_eq_true _ ▸ unmatched

theorem replaceFrom_of_not_hasCard {cs : Text} {inWord : Bool} (none : hasCard inWord cs = false)
    : replaceFrom inWord 0 cs = cs := by
  induction cs generalizing inWord with
  | nil => rfl
  | cons c cs ih =>
      obtain ⟨unmatched, none⟩ := Bool.or_eq_false_iff.mp none
      rw [replaceFrom, if_neg (by simp [unmatched]), ih none]

theorem not_containsCard_redactPii (value : Text) : ¬ ContainsCard (redactPii value) :=
  not_containsCard (hasCard_replaceFrom value false)

/-- What the scan finds, it finds outside of a word. -/
theorem containsCard_of_hasCard {cs : Text} {inWord : Bool} (found : hasCard inWord cs = true)
    : ∃ before digits after, cs = before ++ digits ++ after ∧ digits.all Char.isDigit
      ∧ 13 ≤ digits.length ∧ digits.length ≤ 19 ∧ (before = [] → inWord = false)
      ∧ (∀ c ∈ before.getLast?, isWordChar c = false)
      ∧ ∀ c ∈ after.head?, isWordChar c = false := by
  induction cs generalizing inWord with
  | nil => cases found
  | cons c cs ih =>
      rcases Bool.or_eq_true_iff.mp found with here | later
      · simp only [cardAt, Bool.and_eq_true, Bool.not_eq_true', decide_eq_true_eq] at here
        obtain ⟨⟨⟨outside, all⟩, low⟩, high⟩ := here
        refine ⟨[], _, (c :: cs).dropWhile isWordChar, List.takeWhile_append_dropWhile.symm, all,
          low, high, fun _ => outside, by simp, fun d first => ?_⟩
        have := List.head?_dropWhile_not isWordChar (c :: cs)
        rw [Option.mem_def.mp first] at this
        exact this
      · obtain ⟨before, digits, after, rfl, all, low, high, start, last, stop⟩ := ih later
        refine ⟨c :: before, digits, after, rfl, all, low, high, by simp, fun d own => ?_, stop⟩
        cases before with
        | nil =>
            obtain rfl := Option.some.inj own
            exact start rfl
        | cons e before => exact last d (by simpa using own)

/-- No card number is left in a text, and a text without one is left as it is. -/
theorem redactPii_redacts (value : Text)
    : ¬ ContainsCard (redactPii value) ∧ (redactPii value = value ↔ ¬ ContainsCard value) := by
  refine ⟨not_containsCard_redactPii value, fun left => ?_, fun free => ?_⟩
  · rw [← left]
    exact not_containsCard_redactPii value
  · refine replaceFrom_of_not_hasCard (Bool.not_eq_true _ ▸ fun found => free ?_)
    obtain ⟨before, digits, after, shape, all, low, high, -, start, stop⟩ :=
      containsCard_of_hasCard found
    exact ⟨before, digits, after, shape, all, low, high, start, stop⟩

-- Keys

/-- The spellings of words with an optional separator between them. -/
def spellings : List String → List Text
  | [] => [[]]
  | [word] => [word.toList]
  | word :: words =>
      (spellings words).flatMap (fun rest =>
        [word.toList ++ rest, word.toList ++ '_' :: rest, word.toList ++ '-' :: rest])

/-- The alternatives of `SENSITIVE_KEY_PATTERN` that match anywhere in a key. -/
def sensitiveParts : List Text :=
  [["password"], ["passcode"], ["passwd"], ["secret"], ["token"], ["authorization"],
    ["api", "key"], ["private", "key"], ["access", "token"], ["refresh", "token"],
    ["client", "secret"], ["secret", "key"], ["secret", "access", "key"], ["cvv"], ["cvc"], ["ssn"],
    ["bvn"], ["credit", "card"], ["card", "number"], ["cookie"], ["mnemonic"]].flatMap spellings

/-- Those that match a whole word only. -/
def sensitiveWords : List Text :=
  ["pin".toList, "seed".toList, "jwt".toList]

def hasWord (words : List Text) : Bool → Text → Bool
  | _, [] => false
  | inWord, c :: cs =>
      !inWord && words.contains ((c :: cs).takeWhile isWordChar) || hasWord words (isWordChar c) cs

def isSensitiveKey (key : Text) : Bool :=
  let lower := key.map Char.toLower
  lower.tails.any (fun rest => sensitiveParts.any (fun part => part.isPrefixOf rest))
    || hasWord sensitiveWords false lower

example : isSensitiveKey "X-Api-Key".toList = true ∧ isSensitiveKey "shipping".toList = false := by
  decide

-- Values

/-- A value of JavaScript. What is neither a text nor an object is of type `α`. -/
inductive LogValue (α : Type) (n : Nat)
  | text (value : Text)
  | other (value : α)
  | ref (address : Fin n)

inductive LogObject (α : Type) (n : Nat)
  | array (items : List (LogValue α n))
  | object (fields : List (Text × LogValue α n))

/-- The objects, by their addresses. -/
abbrev Heap (α : Type) (n : Nat) := Fin n → LogObject α n

/-- A redacted value, which is a tree. -/
inductive Redacted (α : Type)
  | text (value : Text)
  | other (value : α)
  | array (items : List (Redacted α))
  | object (fields : List (Text × Redacted α))

/-- A traversal with a state, of which each element may fail. -/
def mapState {β γ σ : Type} (f : β → σ → Option (γ × σ)) : List β → σ → Option (List γ × σ)
  | [], s => some ([], s)
  | x :: xs, s => do
      let (y, s) ← f x s
      let (ys, s) ← mapState f xs s
      return (y :: ys, s)

variable {α : Type} {n : Nat}

/-- A field of an object, given how its value is redacted. -/
def redactField {β : Type}
    (redact : Option Text → LogValue α n → Finset (Fin n) → Option (β × Finset (Fin n)))
    (field : Text × LogValue α n) (seen : Finset (Fin n))
    : Option ((Text × β) × Finset (Fin n)) :=
  (redact (some field.1) field.2 seen).map (fun r => ((field.1, r.1), r.2))

/-- A call of `redactLogValue`, given how it calls itself. A text under the key `stack` is replaced
by `redactStack`, which is `redactPii`.
-/
def redactStep (heap : Heap α n)
    (again : Option Text → LogValue α n → Finset (Fin n) → Option (Redacted α × Finset (Fin n)))
    (key : Option Text) (value : LogValue α n) (seen : Finset (Fin n))
    : Option (Redacted α × Finset (Fin n)) :=
  if key.any isSensitiveKey then some (.text REDACTED, seen)
  else
    match value with
    | .text value => some (.text (redactPii value), seen)
    | .other value => some (.other value, seen)
    | .ref address =>
        if address ∈ seen then some (.text "[Circular]".toList, seen)
        else
          match heap address with
          | .array items =>
              (mapState (again none) items (insert address seen)).map (fun r => (.array r.1, r.2))
          | .object fields =>
              (mapState (redactField again) fields (insert address seen)).map
                (fun r => (.object r.1, r.2))

/-- `redactLogValue`, to a depth that is given. -/
def redactLogValue (heap : Heap α n) : Nat → Option Text → LogValue α n → Finset (Fin n) →
    Option (Redacted α × Finset (Fin n))
  | 0 => fun _ _ _ => none
  | depth + 1 => redactStep heap (redactLogValue heap depth)

/-- The fields of a log entry that are left. -/
def STRUCTURED_FIELDS : List Text :=
  ["level".toList, "timestamp".toList, "message".toList]

/-- What becomes of a field of the entry: it is left, or redacted. -/
def formatField (heap : Heap α n) (depth : Nat) (field : Text × LogValue α n)
    (seen : Finset (Fin n))
    : Option ((Text × (LogValue α n ⊕ Redacted α)) × Finset (Fin n)) :=
  if field.1 ∈ STRUCTURED_FIELDS then some ((field.1, .inl field.2), seen)
  else redactField (fun key value seen =>
    (redactLogValue heap depth key value seen).map (fun r => (.inr r.1, r.2))) field seen

/-- The entry is made by the logger: it is not marked as seen, and no object refers to it. -/
def redactFormat (heap : Heap α n) (depth : Nat) (info : List (Text × LogValue α n))
    : Option (List (Text × (LogValue α n ⊕ Redacted α)) × Finset (Fin n)) :=
  mapState (formatField heap depth) info ∅

-- What is left of a value

/-- No text contains a card number, and no field with a telling key has a value of its own. -/
inductive Clean : Redacted α → Prop
  | text (value : Text) (free : ¬ ContainsCard value) : Clean (.text value)
  | other (value : α) : Clean (.other value)
  | array (items : List (Redacted α)) (each : ∀ item ∈ items, Clean item) : Clean (.array items)
  | object (fields : List (Text × Redacted α)) (each : ∀ field ∈ fields, Clean field.2)
      (secret : ∀ field ∈ fields, isSensitiveKey field.1 → field.2 = .text REDACTED)
      : Clean (.object fields)

theorem mapState_ends {β γ σ : Type} {f : β → σ → Option (γ × σ)} {Keeps : σ → Prop}
    {Result : β → γ → Prop}
    (each : ∀ x s, Keeps s → ∃ y s', f x s = some (y, s') ∧ Keeps s' ∧ Result x y)
    (xs : List β) {s : σ} (first : Keeps s)
    : ∃ ys s', mapState f xs s = some (ys, s') ∧ Keeps s' ∧ List.Forall₂ Result xs ys := by
  induction xs generalizing s with
  | nil => exact ⟨[], s, rfl, first, .nil⟩
  | cons x xs ih =>
      obtain ⟨y, s', ended, kept, result⟩ := each x s first
      obtain ⟨ys, s'', rest, kept, results⟩ := ih kept
      exact ⟨y :: ys, s'', by simp [mapState, ended, rest], kept, .cons result results⟩

/-- What a call promises: it ends, with a clean value, and has seen no less than before. -/
def Redacts (f : Option Text → LogValue α n → Finset (Fin n) →
    Option (Redacted α × Finset (Fin n))) (key : Option Text) (value : LogValue α n)
    (seen : Finset (Fin n)) : Prop :=
  ∃ redacted seen', f key value seen = some (redacted, seen') ∧ seen ⊆ seen' ∧ Clean redacted
    ∧ (key.any isSensitiveKey → redacted = .text REDACTED)

theorem forall_of_forall₂ {β γ : Type} {Result : β → γ → Prop} {xs : List β} {ys : List γ}
    (results : List.Forall₂ Result xs ys) {P : γ → Prop} (imp : ∀ x y, Result x y → P y)
    : ∀ y ∈ ys, P y := by
  induction results with
  | nil => simp
  | cons result _ ih => exact List.forall_mem_cons.mpr ⟨imp _ _ result, ih⟩

theorem redactStep_redacts {heap : Heap α n}
    {again : Option Text → LogValue α n → Finset (Fin n) → Option (Redacted α × Finset (Fin n))}
    {key : Option Text} {value : LogValue α n} {seen : Finset (Fin n)}
    (descends : ∀ key value seen', seen.card < seen'.card → Redacts again key value seen')
    : Redacts (redactStep heap again) key value seen := by
  by_cases telling : key.any isSensitiveKey = true
  · exact ⟨_, seen, if_pos telling, subset_rfl, .text _ (not_containsCard (by decide)),
      fun _ => rfl⟩
  have step {redacted : Redacted α} {seen' : Finset (Fin n)}
      (ended : redactStep heap again key value seen = some (redacted, seen'))
      (grown : seen ⊆ seen') (clean : Clean redacted)
      : Redacts (redactStep heap again) key value seen :=
    ⟨redacted, seen', ended, grown, clean, fun told => absurd told telling⟩
  cases value with
  | text value =>
      exact step (if_neg telling) subset_rfl (.text _ (not_containsCard_redactPii value))
  | other value => exact step (if_neg telling) subset_rfl (.other value)
  | ref address =>
      by_cases met : address ∈ seen
      · exact step ((if_neg telling).trans (if_pos met)) subset_rfl
          (.text _ (not_containsCard (by decide)))
      have inside (key : Option Text) (value : LogValue α n) (seen' : Finset (Fin n))
          (marked : insert address seen ⊆ seen') : Redacts again key value seen' := by
        refine descends key value seen' ?_
        have := Finset.card_le_card marked
        rw [Finset.card_insert_of_notMem met] at this
        omega
      have entered := (Finset.subset_insert address seen)
      cases object : heap address with
      | array items =>
          obtain ⟨ys, seen', ended, marked, results⟩ := @mapState_ends _ _ _ (again none)
            (insert address seen ⊆ ·) (fun _ item => Clean item)
            (fun item seen' marked => by
              obtain ⟨redacted, later, ended, grown, clean, -⟩ := inside none item seen' marked
              exact ⟨redacted, later, ended, marked.trans grown, clean⟩)
            items _ subset_rfl
          exact step (by simp [redactStep, telling, met, object, ended]) (entered.trans marked)
            (.array ys (forall_of_forall₂ results fun _ _ => id))
      | object fields =>
          obtain ⟨ys, seen', ended, marked, results⟩ := @mapState_ends _ _ _
            (redactField again) (insert address seen ⊆ ·)
            (fun _ field => Clean field.2 ∧ (isSensitiveKey field.1 → field.2 = .text REDACTED))
            (fun field seen' marked => by
              obtain ⟨redacted, later, ended, grown, clean, told⟩ :=
                inside (some field.1) field.2 seen' marked
              exact ⟨(field.1, redacted), later, by simp [redactField, ended], marked.trans grown,
                clean, told⟩)
            fields _ subset_rfl
          exact step (by simp [redactStep, telling, met, object, ended]) (entered.trans marked)
            (.object ys (forall_of_forall₂ results fun _ _ => And.left)
              (forall_of_forall₂ results fun _ _ => And.right))

/-- One more than the number of objects is depth enough. -/
theorem redactLogValue_redacts {heap : Heap α n} {depth : Nat} {key : Option Text}
    {value : LogValue α n} {seen : Finset (Fin n)} (enough : n < depth + seen.card)
    : Redacts (redactLogValue heap depth) key value seen := by
  induction depth generalizing key value seen with
  | zero =>
      have := card_finset_fin_le seen
      omega
  | succ depth ih =>
      exact redactStep_redacts fun key value seen' larger => ih (by omega)

/-- What a field of an entry is logged as. -/
def Logged (field : Text × LogValue α n) (logged : Text × (LogValue α n ⊕ Redacted α)) : Prop :=
  logged.1 = field.1
    ∧ (field.1 ∈ STRUCTURED_FIELDS → logged.2 = .inl field.2)
    ∧ (field.1 ∉ STRUCTURED_FIELDS → ∃ redacted, logged.2 = .inr redacted ∧ Clean redacted
      ∧ (isSensitiveKey field.1 → redacted = .text REDACTED))

/-- Every log entry is redacted, also where objects contain themselves: a structured field is left,
and behind every other one no card number and no value of a telling key is left, at any depth.
-/
theorem redactFormat_clean (heap : Heap α n) (info : List (Text × LogValue α n))
    : ∃ fields seen, redactFormat heap (n + 1) info = some (fields, seen)
      ∧ List.Forall₂ Logged info fields := by
  obtain ⟨fields, seen, ended, -, results⟩ :=
    @mapState_ends _ _ _ (formatField heap (n + 1)) (fun _ => True) Logged
      (fun field seen _ => by
        by_cases structured : field.1 ∈ STRUCTURED_FIELDS
        · exact ⟨(field.1, .inl field.2), seen, if_pos structured, trivial, rfl, fun _ => rfl,
            fun no => absurd structured no⟩
        · obtain ⟨redacted, seen', ended, -, clean, told⟩ :=
            @redactLogValue_redacts _ _ heap (n + 1) (some field.1) field.2 seen (by omega)
          exact ⟨(field.1, .inr redacted), seen',
            by simp [formatField, redactField, structured, ended], trivial, rfl,
            fun yes => absurd yes structured, fun _ => ⟨redacted, rfl, clean, told⟩⟩)
      info ∅ trivial
  exact ⟨fields, seen, ended, results⟩

-- What an entry does not depend on

/-- Two fields that may differ in a value behind a telling key. -/
def SameField (field field' : Text × LogValue α n) : Prop :=
  field.1 = field'.1 ∧ (isSensitiveKey field.1 ∨ field.2 = field'.2)

/-- Two heaps that differ in such values only. -/
def SameHeap (heap heap' : Heap α n) : Prop :=
  ∀ address, match heap address, heap' address with
    | .array items, .array items' => items = items'
    | .object fields, .object fields' => List.Forall₂ SameField fields fields'
    | _, _ => False

theorem mapState_congr {β γ σ : Type} {f g : β → σ → Option (γ × σ)} {xs xs' : List β}
    (same : List.Forall₂ (fun x x' => f x = g x') xs xs') (s : σ)
    : mapState f xs s = mapState g xs' s := by
  induction same generalizing s with
  | nil => rfl
  | cons first _ ih => simp only [mapState, first, ih]

theorem mapState_mem {β γ σ : Type} {f : β → σ → Option (γ × σ)} {xs : List β} {ys : List γ}
    {s t : σ}
    (ended : mapState f xs s = some (ys, t)) {y : γ} (member : y ∈ ys)
    : ∃ x ∈ xs, ∃ s' t', f x s' = some (y, t') := by
  induction xs generalizing s ys with
  | nil =>
      cases ended
      cases member
  | cons x xs ih =>
      obtain ⟨⟨first, s'⟩, made, ended⟩ := Option.bind_eq_some_iff.mp ended
      obtain ⟨⟨rest, s''⟩, others, same⟩ := Option.bind_eq_some_iff.mp ended
      cases same
      rcases List.mem_cons.mp member with rfl | member
      · exact ⟨x, List.mem_cons_self, s, s', made⟩
      · obtain ⟨x', own, found⟩ := ih others member
        exact ⟨x', List.mem_cons_of_mem x own, found⟩

theorem redactField_congr {β : Type}
    (redact : Option Text → LogValue α n → Finset (Fin n) → Option (β × Finset (Fin n)))
    {field field' : Text × LogValue α n} (same : SameField field field')
    (told : isSensitiveKey field.1 → ∀ value value' seen,
      redact (some field.1) value seen = redact (some field.1) value' seen)
    : redactField redact field = redactField redact field' := by
  obtain ⟨key, value⟩ := field
  obtain ⟨key', value'⟩ := field'
  obtain ⟨rfl, telling | rfl⟩ := same
  · funext seen
    rw [redactField, redactField, told telling value value']
  · rfl

theorem redactLogValue_told {heap : Heap α n} {depth : Nat} {key : Text}
    (telling : isSensitiveKey key) (value value' : LogValue α n) (seen : Finset (Fin n))
    : redactLogValue heap depth (some key) value seen
      = redactLogValue heap depth (some key) value' seen := by
  cases depth with
  | zero => rfl
  | succ depth => exact (if_pos telling).trans (if_pos telling).symm

theorem redactLogValue_congr {heap heap' : Heap α n} (same : SameHeap heap heap') (depth : Nat)
    : redactLogValue heap depth = redactLogValue heap' depth := by
  induction depth with
  | zero => rfl
  | succ depth ih =>
      funext key value seen
      rw [redactLogValue, redactLogValue, ih]
      unfold redactStep
      split
      · rfl
      cases value with
      | text | other => rfl
      | ref address =>
          have own := same address
          dsimp only
          split
          · rfl
          cases first : heap address with
          | array items =>
              cases second : heap' address with
              | array items' =>
                  simp only [first, second] at own
                  rw [own]
              | object => simp only [first, second] at own
          | object fields =>
              cases second : heap' address with
              | array => simp only [first, second] at own
              | object fields' =>
                  simp only [first, second] at own
                  dsimp only
                  rw [mapState_congr (own.imp fun field field' same =>
                    redactField_congr (redactLogValue heap' depth) same redactLogValue_told)]

/-- No structured field of an entry holds an object, which would be left as it is. -/
def PlainStructured (info : List (Text × LogValue α n)) : Prop :=
  ∀ field ∈ info, field.1 ∈ STRUCTURED_FIELDS → ∀ address, field.2 ≠ .ref address

/-- What is logged refers to no object. -/
def Flat (logged : List (Text × (LogValue α n ⊕ Redacted α))) : Prop :=
  ∀ field ∈ logged, ∀ address, field.2 ≠ .inl (.ref address)

theorem redactFormat_flat {heap : Heap α n} {depth : Nat} {info : List (Text × LogValue α n)}
    (plain : PlainStructured info) {logged : List (Text × (LogValue α n ⊕ Redacted α))}
    {seen : Finset (Fin n)} (ended : redactFormat heap depth info = some (logged, seen))
    : Flat logged := by
  intro field member address same
  obtain ⟨origin, own, before, after, made⟩ := mapState_mem ended member
  unfold formatField at made
  split at made
  · rename_i structured
    cases made
    exact plain origin own structured address (Sum.inl.inj same)
  · obtain ⟨⟨value, seen'⟩, redacted, made⟩ := Option.map_eq_some_iff.mp made
    obtain ⟨⟨tree, seen''⟩, -, inr⟩ := Option.map_eq_some_iff.mp redacted
    cases inr
    cases made
    cases same

/-- Where no structured field holds an object, a log entry does not depend on the values behind
telling keys, wherever these are: what is logged is the same, and refers to no object.
-/
theorem redactFormat_congr {heap heap' : Heap α n} (same : SameHeap heap heap')
    {info info' : List (Text × LogValue α n)} (fields : List.Forall₂ SameField info info')
    (plain : PlainStructured info) (depth : Nat)
    : redactFormat heap depth info = redactFormat heap' depth info'
      ∧ ∀ logged seen, redactFormat heap depth info = some (logged, seen) → Flat logged := by
  refine ⟨mapState_congr (fields.imp fun field field' same' => ?_) ∅,
    fun _ _ => redactFormat_flat plain⟩
  funext seen
  unfold formatField
  rw [redactLogValue_congr same, ← same'.1]
  split
  · -- no structured field has a telling key
    rename_i structured
    have plain : ∀ key ∈ STRUCTURED_FIELDS, isSensitiveKey key = false := by decide
    rcases same'.2 with telling | value
    · rw [plain _ structured] at telling
      cases telling
    · rw [value]
  · exact congrFun (redactField_congr _ same' fun telling value value' seen => by
      rw [redactLogValue_told telling value value']) seen

/-- The objects of an entry with a password. -/
def passwordHeap (password : String) : Heap Unit 1 :=
  fun _ => .object [("user".toList, .text "ada".toList), ("password".toList, .text password.toList)]

def passwordEntry : List (Text × LogValue Unit 1) :=
  [("message".toList, .text "signed in".toList), ("meta".toList, .ref 0)]

theorem redactFormat_congr_password
    : redactFormat (passwordHeap "secret") 2 passwordEntry
        = redactFormat (passwordHeap "guess") 2 passwordEntry
      ∧ ∀ logged seen, redactFormat (passwordHeap "secret") 2 passwordEntry = some (logged, seen) →
        Flat logged := by
  refine redactFormat_congr
    (fun _ => List.Forall₂.cons ⟨rfl, .inr rfl⟩ (.cons ⟨rfl, .inl (by decide)⟩ .nil))
    (.cons ⟨rfl, .inr rfl⟩ (.cons ⟨rfl, .inr rfl⟩ .nil)) ?_ 2
  intro field member structured address same
  rcases List.mem_cons.mp member with rfl | member
  · cases same
  · obtain rfl := List.mem_singleton.mp member
    revert structured
    decide

end AcbuBackend.Logging
