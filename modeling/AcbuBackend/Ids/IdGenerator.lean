import Mathlib.Data.Int.Bitwise
import Mathlib.Data.List.Pairwise
import Mathlib.Tactic.Linarith

/-! Identifiers that are ordered by the time of their generation.
The clock is what its readings are: it may stall, jump forward or step back.
-/

namespace AcbuBackend.Ids

-- The generator

/-- The variables of the module, at their start. -/
structure GeneratorState where
  lastMs : ℤ := 0
  seqCounter : Nat := 0

def SEQ_MAX : Nat := 0xfff

/-- What a call is answered: the readings of the clock in turn, the random bytes of the counter, and
those of the identifier.
-/
structure Draws where
  readings : List ℤ
  seed : UInt16 := 0
  randB : Vector UInt8 10 := .replicate 10 0

/-- The random start of the counter. -/
def seedCounter (seed : UInt16) : Nat :=
  seed.toNat &&& SEQ_MAX

/-- The readings after a wait for the clock to pass `lastMs`; `none` if it does not. -/
def spin (lastMs : ℤ) : List ℤ → Option (List ℤ)
  | [] => none
  | now :: readings => if now ≤ lastMs then spin lastMs readings else some readings

/-- The variables after a call has read `nowMs`, where the later readings let it end. -/
def GeneratorState.advance (state : GeneratorState) (nowMs : ℤ) (readings : List ℤ) (seed : UInt16)
    : Option GeneratorState :=
  if state.lastMs < nowMs then some { lastMs := nowMs, seqCounter := seedCounter seed }
  else if SEQ_MAX < state.seqCounter + 1 then
    match spin state.lastMs readings with
    | some (lastMs :: _) => some { lastMs, seqCounter := seedCounter seed }
    | _ => none
  else some { state with seqCounter := state.seqCounter + 1 }

def writeUInt16BE (value : Nat) : List UInt8 :=
  [UInt8.ofNat (value / 256), UInt8.ofNat value]

def writeUInt32BE (value : Nat) : List UInt8 :=
  writeUInt16BE (value / 65536) ++ writeUInt16BE value

def idBytes (nowMs : ℤ) (seqCounter : Nat) (randB : Vector UInt8 10) : List UInt8 :=
  let msHigh := ((nowMs / 65536) % 4294967296).toNat
  let msLow := (nowMs % 65536).toNat
  let versionAndSeq := 0x7000 ||| (seqCounter &&& 0x0fff)
  writeUInt32BE msHigh ++ writeUInt16BE msLow ++ writeUInt16BE versionAndSeq
    ++ [(randB[0] &&& 0x3f) ||| 0x80, randB[1], randB[2], randB[3], randB[4], randB[5], randB[6],
      randB[7]]

def hexDigits : List Char :=
  "0123456789abcdef".toList

def hexByte (byte : UInt8) : List Char :=
  [hexDigits[byte.toNat / 16]?.getD '0', hexDigits[byte.toNat % 16]?.getD '0']

def formatUuid (buf : List UInt8) : String :=
  let hex := buf.flatMap hexByte
  String.ofList (hex.take 8 ++ '-' :: (hex.drop 8).take 4 ++ '-' :: (hex.drop 12).take 4
    ++ '-' :: (hex.drop 16).take 4 ++ '-' :: hex.drop 20)

/-- An identifier and the variables after it; `none` for a call that does not return. -/
def generateId (state : GeneratorState) (draws : Draws) : Option (String × GeneratorState) :=
  match draws.readings with
  | [] => none
  | nowMs :: readings =>
      (state.advance nowMs readings draws.seed).map (fun state' =>
        (formatUuid (idBytes nowMs state'.seqCounter draws.randB), state'))

/-- The identifiers of calls that follow each other. -/
def generateIds : GeneratorState → List Draws → Option (List String)
  | _, [] => some []
  | state, draws :: rest =>
      (generateId state draws).bind (fun (id, state') => (generateIds state' rest).map (id :: ·))

-- The first 64 bits

def hexValue (c : Char) : Nat :=
  hexDigits.idxOf c

/-- The first 64 bits of an identifier, as the number its first 16 digits write. -/
def firstBits (id : String) : Nat :=
  ((id.toList.filter (fun c => c ≠ '-')).take 16).foldl (fun value c => 16 * value + hexValue c) 0

/-- The number that bytes write. -/
def bytesValue (bytes : List UInt8) (start : Nat) : Nat :=
  bytes.foldl (fun value byte => 256 * value + byte.toNat) start

/-- What the first 64 bits say of a time and a counter. -/
def stamp (nowMs : ℤ) (seqCounter : Nat) : Nat :=
  65536 * nowMs.toNat + 0x7000 + seqCounter

theorem hexDigit_facts : ∀ n < 16,
    hexValue (hexDigits[n]?.getD '0') = n ∧ hexDigits[n]?.getD '0' ≠ '-' := by
  decide

theorem hexByte_value (byte : UInt8) (start : Nat)
    : (hexByte byte).foldl (fun value c => 16 * value + hexValue c) start
      = 256 * start + byte.toNat := by
  have bound : byte.toNat < 256 := byte.toNat_lt
  have high := (hexDigit_facts (byte.toNat / 16) (by omega)).1
  have low := (hexDigit_facts (byte.toNat % 16) (by omega)).1
  simp only [hexByte, List.foldl_cons, List.foldl_nil, high, low]
  omega

theorem hex_value (bytes : List UInt8) (start : Nat)
    : (bytes.flatMap hexByte).foldl (fun value c => 16 * value + hexValue c) start
      = bytesValue bytes start := by
  induction bytes generalizing start with
  | nil => rfl
  | cons byte bytes ih =>
      rw [List.flatMap_cons, List.foldl_append, hexByte_value, ih]
      rfl

theorem length_hex (bytes : List UInt8) : (bytes.flatMap hexByte).length = 2 * bytes.length := by
  induction bytes with
  | nil => rfl
  | cons byte bytes ih =>
      rw [List.flatMap_cons, List.length_append, ih, List.length_cons]
      simp only [hexByte, List.length_cons, List.length_nil]
      omega

theorem hex_ne_hyphen (bytes : List UInt8) : ∀ c ∈ bytes.flatMap hexByte, c ≠ '-' := by
  intro c member
  obtain ⟨byte, -, digit⟩ := List.mem_flatMap.mp member
  have bound : byte.toNat < 256 := byte.toNat_lt
  rcases List.mem_cons.mp digit with rfl | digit
  · exact (hexDigit_facts _ (by omega)).2
  · rw [List.mem_singleton.mp digit]
    exact (hexDigit_facts _ (by omega)).2

theorem filter_formatUuid (buf : List UInt8)
    : (formatUuid buf).toList.filter (fun c => c ≠ '-') = buf.flatMap hexByte := by
  have digits := hex_ne_hyphen buf
  unfold formatUuid
  generalize buf.flatMap hexByte = hex at digits
  have kept : ∀ part : List Char, (∀ c ∈ part, c ∈ hex) →
      part.filter (fun c => decide (c ≠ '-')) = part :=
    fun part inside => List.filter_eq_self.mpr fun c member =>
      decide_eq_true (digits c (inside c member))
  have cut : ∀ n, hex.drop n = (hex.drop n).take 4 ++ hex.drop (n + 4) := by
    intro n
    rw [← List.drop_drop, List.take_append_drop]
  have whole : hex = hex.take 8 ++ ((hex.drop 8).take 4 ++ ((hex.drop 12).take 4
      ++ ((hex.drop 16).take 4 ++ hex.drop 20))) := by
    rw [← cut 16, ← cut 12, ← cut 8, List.take_append_drop]
  rw [String.toList_ofList]
  simp only [List.filter_append, List.filter_cons, ne_eq, not_true_eq_false, decide_false,
    Bool.false_eq_true, if_false]
  rw [kept _ fun c => List.mem_of_mem_take, kept _ fun c member =>
      List.mem_of_mem_drop (List.mem_of_mem_take member),
    kept _ fun c member => List.mem_of_mem_drop (List.mem_of_mem_take member),
    kept _ fun c member => List.mem_of_mem_drop (List.mem_of_mem_take member),
    kept _ fun c => List.mem_of_mem_drop]
  conv_rhs => rw [whole]
  simp only [List.append_assoc]

theorem bytesValue_append (left right : List UInt8) (start : Nat)
    : bytesValue (left ++ right) start = bytesValue right (bytesValue left start) :=
  List.foldl_append

theorem bytesValue_writeUInt16BE (value start : Nat)
    : bytesValue (writeUInt16BE value) start = 65536 * start + value % 65536 := by
  simp only [bytesValue, writeUInt16BE, List.foldl_cons, List.foldl_nil, UInt8.toNat_ofNat']
  omega

theorem bytesValue_writeUInt32BE (value start : Nat)
    : bytesValue (writeUInt32BE value) start = 4294967296 * start + value % 4294967296 := by
  rw [writeUInt32BE, bytesValue_append, bytesValue_writeUInt16BE, bytesValue_writeUInt16BE]
  omega

theorem versionAndSeq_eq {seqCounter : Nat} (small : seqCounter ≤ SEQ_MAX)
    : 0x7000 ||| (seqCounter &&& 0x0fff) = 0x7000 + seqCounter := by
  have bound : seqCounter < 2 ^ 12 := Nat.lt_succ_of_le small
  have low : seqCounter &&& 0x0fff = seqCounter := by
    have masked := Nat.and_two_pow_sub_one_eq_mod seqCounter 12
    rw [Nat.mod_eq_of_lt bound] at masked
    exact masked
  rw [low]
  exact (Nat.two_pow_add_eq_or_of_lt bound 7).symm

/-- The clock fits into 48 bits. -/
def InRange (nowMs : ℤ) : Prop :=
  0 ≤ nowMs ∧ nowMs < 2 ^ 48

theorem firstBits_formatUuid {nowMs : ℤ} {seqCounter : Nat} (inRange : InRange nowMs)
    (small : seqCounter ≤ SEQ_MAX) (randB : Vector UInt8 10)
    : firstBits (formatUuid (idBytes nowMs seqCounter randB)) = stamp nowMs seqCounter := by
  obtain ⟨nonneg, bound⟩ := inRange
  have counter : seqCounter ≤ 4095 := small
  unfold firstBits
  rw [filter_formatUuid, idBytes]
  rw [versionAndSeq_eq small, List.flatMap_append, List.take_append_of_le_length (by
    rw [length_hex]; rfl), List.take_of_length_le (by rw [length_hex]; exact le_rfl), hex_value,
    bytesValue_append, bytesValue_append, bytesValue_writeUInt32BE, bytesValue_writeUInt16BE,
    bytesValue_writeUInt16BE, stamp]
  omega

-- Calls in order

/-- The clock has not stepped back, and if it has not advanced either, the counter has room. -/
def GeneratorState.Advances (state : GeneratorState) (nowMs : ℤ) : Prop :=
  state.lastMs < nowMs ∨ nowMs = state.lastMs ∧ state.seqCounter < SEQ_MAX

/-- Each call of a run reads a clock that is in range and that advances, or stalls while the counter
has room.
-/
def EachAdvances : GeneratorState → List Draws → Prop
  | _, [] => True
  | state, draws :: rest =>
      (∀ nowMs readings, draws.readings = nowMs :: readings →
        InRange nowMs ∧ state.Advances nowMs)
      ∧ ∀ id state', generateId state draws = some (id, state') → EachAdvances state' rest

theorem seedCounter_le (seed : UInt16) : seedCounter seed ≤ SEQ_MAX :=
  Nat.and_le_right

section

variable {state state' : GeneratorState} {nowMs : ℤ} {readings : List ℤ} {seed : UInt16}

theorem advance_cases (advanced : state.advance nowMs readings seed = some state')
    : state.lastMs < nowMs ∧ state' = ⟨nowMs, seedCounter seed⟩
      ∨ nowMs ≤ state.lastMs ∧ SEQ_MAX ≤ state.seqCounter ∧ state'.seqCounter = seedCounter seed
      ∨ nowMs ≤ state.lastMs ∧ state.seqCounter < SEQ_MAX
        ∧ state' = ⟨state.lastMs, state.seqCounter + 1⟩ := by
  unfold GeneratorState.advance at advanced
  split at advanced
  · rename_i later
    exact .inl ⟨later, (Option.some.inj advanced).symm⟩
  · rename_i notLater
    have notLater := not_lt.mp notLater
    split at advanced
    · rename_i overflows
      refine .inr (.inl ⟨notLater, Nat.le_of_lt_succ overflows, ?_⟩)
      split at advanced
      · rw [← Option.some.inj advanced]
      · cases advanced
    · rename_i room
      exact .inr (.inr ⟨notLater, Nat.lt_of_succ_le (not_lt.mp room),
        (Option.some.inj advanced).symm⟩)

theorem advance_seqCounter_le (advanced : state.advance nowMs readings seed = some state')
    : state'.seqCounter ≤ SEQ_MAX := by
  rcases advance_cases advanced with ⟨-, rfl⟩ | ⟨-, -, same⟩ | ⟨-, room, rfl⟩
  · exact seedCounter_le seed
  · rw [same]
    exact seedCounter_le seed
  · exact room

theorem stamp_lt_of_advances (advanced : state.advance nowMs readings seed = some state')
    (small : state.seqCounter ≤ SEQ_MAX) (nonneg : 0 ≤ state.lastMs)
    (advances : state.Advances nowMs)
    : state'.lastMs = nowMs ∧ stamp state.lastMs state.seqCounter
        < stamp nowMs state'.seqCounter := by
  have small : state.seqCounter ≤ 4095 := small
  have seeded : seedCounter seed ≤ 4095 := seedCounter_le seed
  have full : SEQ_MAX = 4095 := rfl
  unfold stamp
  rcases advance_cases advanced with ⟨later, rfl⟩ | ⟨notLater, overflows, -⟩ | ⟨notLater, room, rfl⟩
  · exact ⟨rfl, by dsimp only; omega⟩
  · rcases advances with later | ⟨-, room⟩
    · exact absurd later notLater.not_gt
    · exact absurd room overflows.not_gt
  · rcases advances with later | ⟨rfl, -⟩
    · exact absurd later notLater.not_gt
    · exact ⟨rfl, by dsimp only; omega⟩

theorem stamp_le_of_not_advances (advanced : state.advance nowMs readings seed = some state')
    (nonneg : 0 ≤ nowMs) (stuck : ¬ state.Advances nowMs)
    : stamp nowMs state'.seqCounter ≤ stamp state.lastMs state.seqCounter := by
  have bounded : state'.seqCounter ≤ 4095 := advance_seqCounter_le advanced
  have full : SEQ_MAX = 4095 := rfl
  unfold GeneratorState.Advances at stuck
  unfold stamp
  omega

end

theorem generateId_cases {state state' : GeneratorState} {draws : Draws} {id : String}
    (generated : generateId state draws = some (id, state'))
    : ∃ nowMs readings, draws.readings = nowMs :: readings
        ∧ state.advance nowMs readings draws.seed = some state'
        ∧ id = formatUuid (idBytes nowMs state'.seqCounter draws.randB) := by
  unfold generateId at generated
  split at generated
  · cases generated
  · rename_i nowMs readings read
    obtain ⟨advancedState, advanced, same⟩ := Option.map_eq_some_iff.mp generated
    obtain ⟨rfl, rfl⟩ := Prod.mk.inj same
    exact ⟨nowMs, readings, read, advanced, rfl⟩

theorem generateIds_cons {state : GeneratorState} {draws : Draws} {rest : List Draws}
    {ids : List String} (generated : generateIds state (draws :: rest) = some ids)
    : ∃ id state' ids', generateId state draws = some (id, state')
        ∧ generateIds state' rest = some ids' ∧ ids = id :: ids' := by
  obtain ⟨⟨id, state'⟩, first, later⟩ := Option.bind_eq_some_iff.mp generated
  obtain ⟨ids', others, same⟩ := Option.map_eq_some_iff.mp later
  exact ⟨id, state', ids', first, others, same.symm⟩

theorem increasing_of_advances {state : GeneratorState} {draws : List Draws} {ids : List String}
    (generated : generateIds state draws = some ids) (small : state.seqCounter ≤ SEQ_MAX)
    (nonneg : 0 ≤ state.lastMs) (each : EachAdvances state draws)
    : (stamp state.lastMs state.seqCounter :: ids.map firstBits).Pairwise (· < ·) := by
  induction draws generalizing state ids with
  | nil =>
      obtain rfl := Option.some.inj generated
      exact List.pairwise_singleton _ _
  | cons draws rest ih =>
      obtain ⟨id, state', ids', first, others, rfl⟩ := generateIds_cons generated
      obtain ⟨nowMs, readings, read, advanced, rfl⟩ := generateId_cases first
      obtain ⟨inRange, advances⟩ := each.1 nowMs readings read
      obtain ⟨same, later⟩ := stamp_lt_of_advances advanced small nonneg advances
      have bounded := advance_seqCounter_le advanced
      have rest := ih others bounded (same ▸ inRange.1) (each.2 _ state' first)
      rw [same] at rest
      rw [List.map_cons, firstBits_formatUuid inRange bounded]
      exact List.pairwise_cons.mpr ⟨List.forall_mem_cons.mpr ⟨later, fun value member =>
        later.trans ((List.pairwise_cons.mp rest).1 value member)⟩, rest⟩

theorem advances_of_increasing {state : GeneratorState} {draws : List Draws} {ids : List String}
    (generated : generateIds state draws = some ids) (small : state.seqCounter ≤ SEQ_MAX)
    (nonneg : 0 ≤ state.lastMs)
    (inRange : ∀ call ∈ draws, ∀ nowMs ∈ call.readings.head?, InRange nowMs)
    (increasing : (stamp state.lastMs state.seqCounter :: ids.map firstBits).Pairwise (· < ·))
    : EachAdvances state draws := by
  induction draws generalizing state ids with
  | nil => trivial
  | cons draws rest ih =>
      obtain ⟨id, state', ids', first, others, rfl⟩ := generateIds_cons generated
      obtain ⟨nowMs, readings, read, advanced, rfl⟩ := generateId_cases first
      have ranged : InRange nowMs := inRange draws List.mem_cons_self nowMs (by rw [read]; rfl)
      have bounded := advance_seqCounter_le advanced
      rw [List.map_cons, firstBits_formatUuid ranged bounded] at increasing
      obtain ⟨above, later⟩ := List.pairwise_cons.mp increasing
      have advances : state.Advances nowMs := by
        by_contra stuck
        exact (above _ List.mem_cons_self).not_ge
          (stamp_le_of_not_advances advanced ranged.1 stuck)
      obtain ⟨same, -⟩ := stamp_lt_of_advances advanced small nonneg advances
      refine ⟨fun nowMs' readings' read' => ?_, fun id' state'' generated' => ?_⟩
      · obtain ⟨rfl, -⟩ := List.cons.inj (read.symm.trans read')
        exact ⟨ranged, advances⟩
      · obtain ⟨-, rfl⟩ := Prod.mk.inj (Option.some.inj (first.symm.trans generated'))
        refine ih others bounded (same ▸ ranged.1)
          (fun call member => inRange call (List.mem_cons_of_mem _ member)) ?_
        rw [same]
        exact later

/-- On a clock that stays in range, the identifiers of a process increase in their first 64 bits
exactly when at each call the clock has advanced, or stalls and the counter has room. Where that is
so they are distinct in them as well.
-/
theorem ids_increase_iff (draws : List Draws) (ids : List String)
    (generated : generateIds {} draws = some ids)
    (inRange : ∀ call ∈ draws, ∀ nowMs ∈ call.readings.head?, InRange nowMs)
    : ((ids.map firstBits).Pairwise (· < ·) ↔ EachAdvances {} draws)
      ∧ (EachAdvances {} draws → (ids.map firstBits).Nodup) := by
  have iff : (ids.map firstBits).Pairwise (· < ·) ↔ EachAdvances {} draws := by
    constructor
    · intro increasing
      refine advances_of_increasing generated (Nat.zero_le _) le_rfl inRange ?_
      cases draws with
      | nil =>
          obtain rfl := Option.some.inj generated
          exact List.pairwise_singleton _ _
      | cons call rest =>
          -- no reading is before the start of the clock
          obtain ⟨id, state', ids', first, -, rfl⟩ := generateIds_cons generated
          obtain ⟨nowMs, readings, read, advanced, rfl⟩ := generateId_cases first
          have ranged : InRange nowMs := inRange call List.mem_cons_self nowMs (by rw [read]; rfl)
          have advances : GeneratorState.Advances {} nowMs :=
            ranged.1.lt_or_eq.imp_right fun same => ⟨same.symm, by decide⟩
          obtain ⟨-, later⟩ := stamp_lt_of_advances advanced (Nat.zero_le _) le_rfl advances
          rw [List.map_cons, firstBits_formatUuid ranged (advance_seqCounter_le advanced)]
            at increasing ⊢
          exact List.pairwise_cons.mpr ⟨List.forall_mem_cons.mpr ⟨later, fun value member =>
            later.trans ((List.pairwise_cons.mp increasing).1 value member)⟩, increasing⟩
    · exact fun each =>
        (List.pairwise_cons.mp (increasing_of_advances generated (Nat.zero_le _) le_rfl each)).2
  exact ⟨iff, fun each => (iff.mpr each).imp fun smaller => smaller.ne⟩

/-- Three calls on a clock that stalls and then advances. -/
def stalling : List Draws :=
  [{ readings := [1700000000000], seed := 7 }, { readings := [1700000000000] },
    { readings := [1700000000005], seed := 3 }]

/-- Their identifiers increase, so each call advances. -/
theorem ids_increase_stalling
    : ∃ ids, generateIds {} stalling = some ids ∧ (ids.map firstBits).Pairwise (· < ·)
      ∧ EachAdvances {} stalling := by
  obtain ⟨ids, generated⟩ : ∃ ids, generateIds {} stalling = some ids :=
    Option.isSome_iff_exists.mp (by decide +kernel)
  have increasing : (generateIds {} stalling).all (fun ids =>
      decide ((ids.map firstBits).Pairwise (· < ·))) = true := by
    decide +kernel
  rw [generated] at increasing
  have increasing : (ids.map firstBits).Pairwise (· < ·) := of_decide_eq_true increasing
  have inRange : ∀ call ∈ stalling, ∀ nowMs ∈ call.readings.head?, InRange nowMs := by
    simp [stalling, InRange]
  exact ⟨ids, generated, increasing,
    (ids_increase_iff stalling ids generated inRange).1.mp increasing⟩

/-- A counter that starts at its end overflows in the same millisecond. The call waits for the clock
to advance, but still writes the time it has read before; with the same random start its identifier
has the first 64 bits of the one before. And where the clock steps back, so do the identifiers.
-/
theorem ids_repeat
    : ((generateIds {} [{ readings := [1000], seed := 0xffff },
          { readings := [1000, 1000, 1001, 1001], seed := 0xffff }]).map (List.map firstBits)
        = some [65568767, 65568767])
      ∧ ((generateIds {} [{ readings := [1000], seed := 5 }, { readings := [999] }]).map
          (List.map firstBits)
        = some [65564677, 65499142]) := by
  decide +kernel

end AcbuBackend.Ids
