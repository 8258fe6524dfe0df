import UrclDebugger.Proofs.Machine.Shift
import UrclDebugger.Proofs.Machine.Access
import UrclDebugger.Proofs.Machine.Loop

/-!
# The machine over integers

Where the machine adds one without a check, to an address, to the stack pointer and to the
instruction pointer, and where it shifts to the right, the exact machine computes with integers. It
lapses when the exact result is no word or when it would shift by a count that is negative or not
below the number of bits. All else it does as the machine does.

Whatever the scope, no action can make it lapse (`Exact.perform_eq`). The move of the instruction
pointer lapses at the greatest word and nowhere else, so a step that does not leave that word for
the move is a step of the machine (`Exact.step_agrees`).
-/

namespace UrclDebugger

/-- Why the exact machine has ended without a result. -/
inductive Exact.Stop where
  /-- The machine fails as well. -/
  | failed (error : ExecError)
  /-- An unchecked result is no word, or a shift count is out of range. -/
  | lapsed

/-- A computation of the exact machine. -/
abbrev Exact (α : Type) : Type := ExceptT Exact.Stop (StateM Scope) α

namespace Exact

section Lift

variable {α β : Type}

/-- What a computation ends with in a scope: its result, and the scope that it leaves. -/
def outcome (computation : Exact α) (scope : Scope) : Except Stop α × Scope :=
  computation.run.run scope

/-- An ending of the machine as one of the exact machine. -/
def ended (ending : Except ExecError α × Scope) : Except Stop α × Scope :=
  (ending.1.mapError .failed, ending.2)

/-- A computation of the machine as one of the exact machine. -/
def lift (computation : Exec α) : Exact α :=
  ExceptT.mk fun scope => ended (computation.outcome scope)

@[simp] theorem outcome_lift (computation : Exec α) (scope : Scope) :
    (lift computation).outcome scope = ended (computation.outcome scope) := rfl

theorem lift_pure (result : α) : lift (pure result : Exec α) = pure result := rfl

/-- Parts that are done as the machine does them are done so together. -/
theorem lift_bind (computation : Exec α) (rest : α → Exec β) :
    lift (computation >>= rest) = lift computation >>= fun result => lift (rest result) := by
  refine ExceptT.ext (StateT.ext fun scope => ?_)
  show ended ((computation >>= rest).outcome scope) =
    ((lift computation >>= fun result => lift (rest result)) : Exact β).run.run scope
  rw [Exec.outcome_bind, ExceptT.run_bind, StateT.run_bind]
  have first : (lift computation).run.run scope = ended (computation.outcome scope) := rfl
  rw [first]
  rcases computation.outcome scope with ⟨error | result, left⟩ <;> rfl

/-- After a result the rest runs in the scope that was left; after an error nothing more runs. -/
theorem outcome_bind (computation : Exact α) (rest : α → Exact β) (scope : Scope) :
    (computation >>= rest).outcome scope =
      match computation.outcome scope with
      | (.ok result, left) => (rest result).outcome left
      | (.error stop, left) => (.error stop, left) := by
  simp only [outcome, ExceptT.run_bind, StateT.run_bind]
  rcases computation.run.run scope with ⟨_ | _, left⟩ <;> rfl

section Outcome

variable {computation : Exact α} {rest : α → Exact β} {scope left : Scope}

theorem outcome_bind_of_ok {result : α} (first : computation.outcome scope = (.ok result, left)) :
    (computation >>= rest).outcome scope = (rest result).outcome left := by
  rw [outcome_bind, first]

theorem outcome_bind_of_error {stop : Stop}
    (first : computation.outcome scope = (.error stop, left)) :
    (computation >>= rest).outcome scope = (.error stop, left) := by
  rw [outcome_bind, first]

end Outcome

/-- In the scope the exact computation ends as the machine's does. -/
def AgreesAt (scope : Scope) (exact : Exact α) (computation : Exec α) : Prop :=
  exact.outcome scope = ended (computation.outcome scope)

theorem agreesAt_lift (scope : Scope) (computation : Exec α) :
    AgreesAt scope (lift computation) computation := rfl

/-- The rest has to agree in the scope only that the first part leaves for it. -/
theorem AgreesAt.bind {scope : Scope} {exact : Exact α} {computation : Exec α}
    {exactRest : α → Exact β} {rest : α → Exec β} (first : AgreesAt scope exact computation)
    (continued : ∀ result left, computation.outcome scope = (.ok result, left) →
      AgreesAt left (exactRest result) (rest result)) :
    AgreesAt scope (exact >>= exactRest) (computation >>= rest) := by
  rw [AgreesAt, outcome_bind, Exec.outcome_bind, first]
  rcases ends : computation.outcome scope with ⟨error | result, left⟩
  · rfl
  · exact continued result left ends

end Lift

section Words

/-- The word of an exact result. -/
def word (exact : Int) : Exact Word :=
  match Word.ofInt? exact with
  | some word => pure word
  | none => throw .lapsed

/-- One more than a word. -/
def raised (word : Word) : Exact Word := Exact.word (word.toInt + 1)

/-- A word shifted to the right, which divides by a power of two and rounds to the floor. -/
def shiftedRight (a count : Word) : Exact Word :=
  if 0 ≤ count.toInt ∧ count.toInt < 64 then word (a.toInt / 2 ^ count.toInt.toNat)
  else throw .lapsed

theorem word_toInt (word : Word) : Exact.word word.toInt = pure word := by
  rw [Exact.word, Word.ofInt?_toInt]

theorem raised_of_ne {word : Word} (notGreatest : word ≠ Int64.maxValue) :
    raised word = pure (word + 1) := by
  rw [raised, ← Word.toInt_add_one notGreatest, word_toInt]

theorem raised_of_neg {word : Word} (negative : word < 0) : raised word = pure (word + 1) := by
  apply raised_of_ne
  rintro rfl
  exact absurd negative (by decide)

/-- Above the greatest word there is none. -/
theorem raised_greatest : raised Int64.maxValue = throw .lapsed := by
  have none : Word.ofInt? (Int64.maxValue.toInt + 1) = none :=
    Word.ofInt?_eq_none_iff.mpr (.inr (Int.lt_succ _))
  rw [raised, Exact.word, none]

theorem shiftedRight_of_le {count : Word} (natural : 0 ≤ count.toInt) (small : count.toInt ≤ 63)
    (a : Word) : shiftedRight a count = pure (a >>> count) := by
  rw [shiftedRight, if_pos ⟨natural, Int.lt_add_one_of_le small⟩,
    ← Word.toInt_shiftRight natural small, word_toInt]

end Words

section Operations

/-- A left shift that is undone to see whether it has lost a bit. -/
def shiftLeft (a count : Word) : Exact Word := do
  let count ← lift (Exec.arithmetic (Alu.shiftCount count))
  let back ← shiftedRight (a <<< count) count
  if back = a then return a <<< count else throw (.failed (.arithmetic .overflow))

/-- A right shift. -/
def shiftRight (a count : Word) : Exact Word := do
  let count ← lift (Exec.arithmetic (Alu.shiftCount count))
  shiftedRight a count

/-- The result of an operation on one word. -/
def unary : Alu.Unary → Word → Exact Word
  | .shiftLeft, a => shiftLeft a 1
  | .shiftRight, a => shiftedRight a 1
  | op, a => lift (Exec.arithmetic (op.apply a))

/-- The result of an operation on two words. -/
def binary : Alu.Binary → Word → Word → Exact Word
  | .shiftLeft, a, b => shiftLeft a b
  | .shiftRight, a, b => shiftRight a b
  | op, a, b => lift (Exec.arithmetic (op.apply a b))

/-- A count that can be used is in range. -/
theorem shiftCount_inRange {count lowered : Word} (usable : Alu.shiftCount count = .ok lowered) :
    0 ≤ lowered.toInt ∧ lowered.toInt ≤ 63 := by
  by_cases negative : count < 0
  · rw [Alu.shiftCount, if_pos negative] at usable
    contradiction
  have natural : 0 ≤ count.toInt := Int.not_lt.mp (mt Word.lt_zero_iff.mpr negative)
  rcases Int.lt_or_le 63 count.toInt with large | small
  · rw [Alu.shiftCount_of_lt large] at usable
    obtain rfl := Except.ok.inj usable
    decide
  · rw [Alu.shiftCount_of_le natural small] at usable
    obtain rfl := Except.ok.inj usable
    exact ⟨natural, small⟩

theorem shiftLeft_eq (a count : Word) :
    shiftLeft a count = lift (Exec.arithmetic (Alu.shiftLeft a count)) := by
  rw [shiftLeft, Alu.shiftLeft]
  cases usable : Alu.shiftCount count with
  | error error => rfl
  | ok lowered =>
    obtain ⟨natural, small⟩ := shiftCount_inRange usable
    show (shiftedRight (a <<< lowered) lowered >>= fun back =>
      if back = a then pure (a <<< lowered) else throw (.failed (.arithmetic .overflow))) = _
    rw [shiftedRight_of_le natural small, pure_bind]
    dsimp only
    split <;> rfl

theorem shiftRight_eq (a count : Word) :
    shiftRight a count = lift (Exec.arithmetic (Alu.shiftRight a count)) := by
  rw [shiftRight, Alu.shiftRight]
  cases usable : Alu.shiftCount count with
  | error error => rfl
  | ok lowered =>
    obtain ⟨natural, small⟩ := shiftCount_inRange usable
    exact shiftedRight_of_le natural small a

theorem unary_eq (op : Alu.Unary) (a : Word) :
    unary op a = lift (Exec.arithmetic (op.apply a)) := by
  cases op with
  | shiftLeft => exact shiftLeft_eq a 1
  | shiftRight => exact shiftedRight_of_le (by decide) (by decide) a
  | _ => rfl

theorem binary_eq (op : Alu.Binary) (a b : Word) :
    binary op a b = lift (Exec.arithmetic (op.apply a b)) := by
  cases op with
  | shiftLeft => exact shiftLeft_eq a b
  | shiftRight => exact shiftRight_eq a b
  | _ => rfl

end Operations

section Memory

/-- The cell of the stack at a negative address is found by adding one to the address. -/
def locate (address : Word) : Exact Unit :=
  if address < 0 then discard (raised address) else pure ()

/-- Reads the value at an address. -/
def load (address : Word) : Exact Value := do
  locate address
  lift (Exec.read (Memory.load · address))

/-- Stores a value at an address. -/
def store (address : Word) (value : Value) : Exact Unit := do
  locate address
  lift (Memory.store address value)

/-- Moves the stack pointer down by one and stores a value there. -/
def push (value : Value) : Exact Unit := do
  let pointer ← lift (Exec.read (·.requireInt Variable.stackPointer))
  let lowered ← lift (Exec.arithmetic (Alu.Binary.sub.apply pointer 1))
  lift (Exec.assign Variable.stackPointer (.int lowered))
  store lowered value

/-- The value at the stack pointer, which moves up by one. -/
def pop : Exact Value := do
  let pointer ← lift (Exec.read (·.requireInt Variable.stackPointer))
  if 0 ≤ pointer then throw (.failed .stackUnderflow)
  let value ← load pointer
  let above ← raised pointer
  lift (Exec.assign Variable.stackPointer (.int above))
  return value

theorem locate_eq (address : Word) : locate address = pure () := by
  unfold locate
  split
  · rename_i negative
    rw [raised_of_neg negative]
    rfl
  · rfl

theorem load_eq (address : Word) : load address = lift (Exec.read (Memory.load · address)) := by
  rw [load, locate_eq, pure_bind]

theorem store_eq (address : Word) (value : Value) :
    store address value = lift (Memory.store address value) := by
  rw [store, locate_eq, pure_bind]

theorem push_eq (value : Value) : push value = lift (Memory.push value) := by
  unfold push Memory.push
  simp only [lift_bind, store_eq]

/-- The stack pointer is negative where something is popped, so the word above it exists. -/
theorem pop_eq : pop = lift Memory.pop := by
  unfold pop Memory.pop
  rw [lift_bind]
  refine bind_congr fun pointer => ?_
  by_cases natural : 0 ≤ pointer
  · rw [if_pos natural, if_pos natural]
    rfl
  · rw [if_neg natural, if_neg natural, load_eq, raised_of_neg (Int64.not_le.mp natural)]
    simp only [pure_bind, lift_bind, lift_pure]

end Memory

section Actions

/-- The word that an operand stands for. -/
def operand (text : String) : Exact Word := lift (Machine.operand text)

/-- Binds a variable. -/
def assign (name : String) (value : Value) : Exact Unit := lift (Exec.assign name value)

/-- Performs an action. -/
def perform : Action → Exact Unit
  | .ret => do
    let position ← pop
    assign Variable.instructionPointer position
  | .push value => do
    let word ← operand value
    push (.int word)
  | .pop target => do
    let value ← pop
    assign target value
  | .call destination => do
    let position ← operand destination
    let pointer ← lift (Exec.read (·.requireInt Variable.instructionPointer))
    push (.int pointer)
    lift (Machine.jump position)
  | .load target address => do
    let address ← operand address
    let value ← load address
    assign target value
  | .store address value => do
    let address ← operand address
    let word ← operand value
    store address (.int word)
  | .copy address source => do
    let address ← operand address
    let source ← operand source
    let value ← load source
    store address value
  | .unary op target value => do
    let word ← operand value
    let result ← unary op word
    assign target (.int result)
  | .binary op target left right => do
    let left ← operand left
    let right ← operand right
    let result ← binary op left right
    assign target (.int result)
  | other => lift (Machine.perform other)

/-- No action makes the exact machine lapse, whatever the scope. -/
theorem perform_eq (action : Action) : perform action = lift (Machine.perform action) := by
  cases action with
  | ret => rw [perform, Machine.perform, lift_bind, pop_eq]; rfl
  | push value => simp only [perform, Machine.perform, lift_bind, push_eq, operand]
  | pop target => rw [perform, Machine.perform, lift_bind, pop_eq]; rfl
  | call destination => simp only [perform, Machine.perform, lift_bind, push_eq, operand]
  | load target address =>
    simp only [perform, Machine.perform, lift_bind, load_eq, operand, assign]
  | store address value => simp only [perform, Machine.perform, lift_bind, store_eq, operand]
  | copy address source =>
    simp only [perform, Machine.perform, lift_bind, load_eq, store_eq, operand]
  | unary op target value =>
    simp only [perform, Machine.perform, lift_bind, unary_eq, operand, assign]
  | binary op target left right =>
    simp only [perform, Machine.perform, lift_bind, binary_eq, operand, assign]
  -- All other actions compute nothing without a check.
  | _ => rfl

end Actions

section Turns

/-- The end of a turn: the instruction pointer moves on. -/
def moveOn : Exact Unit := do
  let pointer ← lift (Exec.read (·.requireInt Variable.instructionPointer))
  let next ← raised pointer
  assign Variable.instructionPointer (.int next)

/-- One turn of a run: the instruction at the instruction pointer is performed and the pointer
moves on. -/
def turn : Exact Unit := do
  let pointer ← lift (Exec.read (·.requireInt Variable.instructionPointer))
  let action ← lift (Exec.read (Fetch.action · pointer))
  perform action
  moveOn

/-- Takes turns until the program halts or the run ends, at most the given number of them. -/
def turns : Nat → Exact Unit
  | 0 => throw (.failed .unfinished)
  | limit + 1 => do
    if ← lift (Exec.read Machine.halted) then return
    turn
    if ← lift (Exec.read (.ok <| Machine.pauses ·)) then return
    turns limit

/-- The body of the entry routine: a run of at most the given number of turns. -/
def execute (limit : Nat) : Exact Unit := do
  assign Variable.breakFlag (.bool false)
  turns limit

/-- Calls the routine that a variable holds. -/
def call (limit : Nat) (name : String) : Exact Unit := do
  match (← lift get).get? name with
  | some (.routine routine) =>
    if routine = Variable.entry then execute limit else throw (.failed (.noBody name))
  | some other => throw (.failed (.notCallable other.kind))
  | none => throw (.failed (.undefined name))

/-- One step of the debugger: the step flag is set and the entry routine is called. -/
def step (limit : Nat) : Exact Unit := do
  assign Variable.stepFlag (.bool true)
  call limit Variable.entry

/-- The instruction pointer can be moved on: it is not the greatest word. -/
def Movable (scope : Scope) : Prop :=
  scope.get? Variable.instructionPointer ≠ some (.int Int64.maxValue)

variable {scope : Scope}

theorem moveOn_agrees (movable : Movable scope) : AgreesAt scope moveOn Machine.moveOn := by
  refine (agreesAt_lift scope _).bind fun pointer left read => ?_
  obtain ⟨bound, rfl⟩ := Exec.outcome_read_eq_ok_iff.mp read
  have notGreatest : pointer ≠ Int64.maxValue := by
    rintro rfl
    exact movable (Scope.requireInt_eq_ok_iff.mp bound)
  rw [raised_of_ne notGreatest, pure_bind]
  exact agreesAt_lift scope _

theorem moveOn_lapses
    (bound : scope.get? Variable.instructionPointer = some (.int Int64.maxValue)) :
    moveOn.outcome scope = (.error .lapsed, scope) := by
  have pointer : scope.requireInt Variable.instructionPointer = .ok Int64.maxValue :=
    Scope.requireInt_eq_ok_iff.mpr bound
  have read : (lift (Exec.read (·.requireInt Variable.instructionPointer))).outcome scope =
      (.ok Int64.maxValue, scope) := by
    rw [outcome_lift, Exec.outcome_read, pointer]
    rfl
  have noWord : (raised Int64.maxValue).outcome scope = (.error .lapsed, scope) := by
    rw [raised_greatest]
    rfl
  exact (outcome_bind_of_ok read).trans (outcome_bind_of_error noWord)

/-- A turn that leaves the pointer movable is a turn of the machine. -/
theorem turn_agrees (movable : ∀ pointer action left,
      scope.get? Variable.instructionPointer = some (.int pointer) →
      Fetch.action scope pointer = .ok action →
      (Machine.perform action).outcome scope = (.ok (), left) → Movable left) :
    AgreesAt scope turn Machine.turn := by
  rw [Machine.turn_eq]
  refine (agreesAt_lift scope _).bind fun pointer _ read => ?_
  obtain ⟨bound, rfl⟩ := Exec.outcome_read_eq_ok_iff.mp read
  refine (agreesAt_lift scope _).bind fun action _ taken => ?_
  obtain ⟨fetched, rfl⟩ := Exec.outcome_read_eq_ok_iff.mp taken
  rw [perform_eq]
  refine (agreesAt_lift scope _).bind fun _ left performed => moveOn_agrees ?_
  exact movable pointer action left (Scope.requireInt_eq_ok_iff.mp bound) fetched performed

/-- A turn lapses whose action leaves the greatest word in the instruction pointer. -/
theorem turn_lapses {pointer : Word} {action : Action} {left : Scope}
    (bound : scope.get? Variable.instructionPointer = some (.int pointer))
    (fetched : Fetch.action scope pointer = .ok action)
    (performed : (Machine.perform action).outcome scope = (.ok (), left))
    (greatest : left.get? Variable.instructionPointer = some (.int Int64.maxValue)) :
    turn.outcome scope = (.error .lapsed, left) := by
  have read : (lift (Exec.read (·.requireInt Variable.instructionPointer))).outcome scope =
      (.ok pointer, scope) := by
    rw [outcome_lift, Exec.outcome_read, Scope.requireInt_eq_ok_iff.mpr bound]
    rfl
  have taken : (lift (Exec.read (Fetch.action · pointer))).outcome scope = (.ok action, scope) := by
    rw [outcome_lift, Exec.outcome_read, fetched]
    rfl
  have done : (perform action).outcome scope = (.ok (), left) := by
    rw [perform_eq, outcome_lift, performed]
    rfl
  rw [turn, outcome_bind_of_ok read, outcome_bind_of_ok taken, outcome_bind_of_ok done]
  exact moveOn_lapses greatest

/-- A run that ends with its first turn is a run of the machine if the turn is one. -/
theorem turns_agree (limit : Nat)
    (agrees : Machine.halted scope = .ok false → AgreesAt scope turn Machine.turn)
    (pausing : ∀ left, Machine.turn.outcome scope = (.ok (), left) → Machine.pauses left = true) :
    AgreesAt scope (turns (limit + 1)) (Machine.turns (limit + 1)) := by
  refine (agreesAt_lift scope _).bind fun stopped _ read => ?_
  obtain ⟨running, rfl⟩ := Exec.outcome_read_eq_ok_iff.mp read
  cases stopped with
  | true => rfl
  | false =>
    refine (agrees running).bind fun _ left turned => ?_
    refine (agreesAt_lift left _).bind fun pause _ asked => ?_
    obtain ⟨pauses, rfl⟩ := Exec.outcome_read_eq_ok_iff.mp asked
    obtain rfl : true = pause := (pausing left turned).symm.trans (Except.ok.inj pauses)
    rfl

theorem call_agrees (limit : Nat) (name : String)
    (agrees : AgreesAt scope (execute limit) (Machine.execute limit)) :
    AgreesAt scope (call limit name) (Machine.call limit name) := by
  refine (agreesAt_lift scope get).bind fun found left got => ?_
  obtain ⟨rfl, rfl⟩ : scope = found ∧ scope = left := by simpa using got
  cases scope.get? name with
  | none => rfl
  | some value =>
    cases value with
    | routine routine =>
      dsimp only
      split
      · exact agrees
      · rfl
    | _ => rfl

/-- A step that ends with its first turn is a step of the machine if the turn is one. -/
theorem step_agrees (limit : Nat)
    (agrees : Machine.halted (Machine.prepared scope) = .ok false →
      AgreesAt (Machine.prepared scope) turn Machine.turn)
    (pausing : ∀ left, Machine.turn.outcome (Machine.prepared scope) = (.ok (), left) →
      Machine.pauses left = true) :
    AgreesAt scope (step (limit + 1)) (Machine.step (limit + 1)) := by
  refine (agreesAt_lift scope _).bind fun _ flagged assigned => ?_
  obtain rfl : scope.insert Variable.stepFlag (.bool true) = flagged := congrArg Prod.snd assigned
  refine call_agrees (limit + 1) Variable.entry ?_
  refine (agreesAt_lift _ _).bind fun _ begun cleared => ?_
  obtain rfl : Machine.prepared scope = begun := congrArg Prod.snd cleared
  exact turns_agree limit agrees pausing

/-- A step whose turn lapses lapses. -/
theorem step_lapses (limit : Nat) {left : Scope}
    (entry : scope.get? Variable.entry = some (.routine Variable.entry))
    (running : Machine.halted (Machine.prepared scope) = .ok false)
    (lapses : turn.outcome (Machine.prepared scope) = (.error .lapsed, left)) :
    (step (limit + 1)).outcome scope = (.error .lapsed, left) := by
  have called : (step (limit + 1)).outcome scope =
      (call (limit + 1) Variable.entry).outcome (scope.insert Variable.stepFlag (.bool true)) := rfl
  have bound := Machine.entry_of_stepping entry
  have entered : (call (limit + 1) Variable.entry).outcome
      (scope.insert Variable.stepFlag (.bool true)) =
        (turns (limit + 1)).outcome (Machine.prepared scope) := by
    refine (outcome_bind_of_ok (agreesAt_lift _ get)).trans ?_
    rw [bound]
    rfl
  have stays : (lift (Exec.read Machine.halted)).outcome (Machine.prepared scope) =
      (.ok false, Machine.prepared scope) := by
    rw [outcome_lift, Exec.outcome_read, running]
    rfl
  rw [called, entered]
  exact (outcome_bind_of_ok stays).trans (outcome_bind_of_error lapses)

end Turns

end Exact

end UrclDebugger
