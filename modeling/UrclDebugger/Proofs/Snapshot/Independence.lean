import UrclDebugger.Proofs.Script.Descent
import UrclDebugger.Proofs.Snapshot.Extract
import UrclDebugger.Proofs.Snapshot.Sequence

/-!
# Parts of a snapshot are independent

Every part of a snapshot is a function of the variables that it shows. The expressions that read a
sequence name one variable each, so two scopes that agree on it have the same texts, and neither
other variables nor the failure of another part are seen (`extract_part_by_part`).
-/

namespace UrclDebugger.Snapshot

/-- Reading gives the same where each item gives the same. -/
theorem mapM_eq_mapM {ε α β : Type} {first second : α → Except ε β} {items : List α}
    (same : ∀ item ∈ items, first item = second item) : items.mapM first = items.mapM second := by
  induction items with
  | nil => rfl
  | cons item rest ih =>
    rw [List.mapM_cons, List.mapM_cons, same item List.mem_cons_self,
      ih fun other member => same other (List.mem_cons_of_mem item member)]

/-- What counts as a length is the number of positions before it. -/
theorem lengthOf_lt {scope : Scope} {name : String} {size : Nat}
    (counted : lengthOf scope name = .ok size) : size < Word.positions := by
  obtain ⟨value, _, checked⟩ := exists_of_bind_eq_ok counted
  split at checked
  · rename_i length position
    obtain rfl := Except.ok.inj checked
    obtain ⟨word, _, index⟩ := Option.bind_eq_some_iff.mp position
    have exact : word.toInt = length := Word.toIndex?_eq_some_iff.mp index
    have greatest := Int64.toInt_lt word
    unfold Word.positions
    omega
  · contradiction

section Agreement

variable {one other : Scope} {name : String} (agree : one.get? name = other.get? name)

include agree

/-- An expression that names one variable has the same value where that variable has. -/
theorem evaluated_eq {text : String} {expression : Expr} (parsed : Expr.parse text = .ok expression)
    (single : expression.names = [name]) : evaluated one text = evaluated other text := by
  have reads : ∀ read ∈ expression.names, one.get? read = other.get? read := by
    rw [single]
    intro read named
    obtain rfl := List.mem_singleton.mp named
    exact agree
  show (Expr.evaluateText one text).mapError _ = (Expr.evaluateText other text).mapError _
  rw [Expr.evaluateText_congr parsed reads]

variable (unreserved : Parser.reserved? name = none)
  (spells : Token.spellsName name.toList = true)

include unreserved spells

theorem lengthOf_eq : lengthOf one name = lengthOf other name := by
  have same := evaluated_eq agree (Expr.parse_lengthExpression unreserved spells) rfl
  simp only [lengthOf, same]

/-- The texts of a sequence are those of the variable that holds it. -/
theorem textsOf_eq {suffix : String} {item : Nat → Expr}
    (parsed : ∀ index < Word.positions,
      Expr.parse (itemExpression name suffix index) = .ok (item index))
    (single : ∀ index, (item index).names = [name]) :
    textsOf one name suffix = textsOf other name suffix := by
  unfold textsOf
  rw [lengthOf_eq agree unreserved spells]
  cases counted : lengthOf other name with
  | error error => rfl
  | ok size =>
    have reads : ∀ index ∈ List.range size, evaluated one (itemExpression name suffix index) =
        evaluated other (itemExpression name suffix index) := by
      intro index listed
      have small : index < Word.positions :=
        Nat.lt_trans (List.mem_range.mp listed) (lengthOf_lt counted)
      exact evaluated_eq agree (parsed index small) (single index)
    simp only [bind, Except.bind]
    rw [mapM_eq_mapM fun index listed => by rw [reads index listed]]

theorem textsOf_items_eq : textsOf one name "" = textsOf other name "" :=
  textsOf_eq agree unreserved spells
    (fun _ small => Expr.parse_itemExpression unreserved spells small) fun _ => rfl

theorem textsOf_sources_eq : textsOf one name ".Source" = textsOf other name ".Source" :=
  textsOf_eq agree unreserved spells
    (fun _ small => Expr.parse_sourceExpression unreserved spells small) fun _ => rfl

end Agreement

section Parts

variable {one other : Scope}

/-- The listing is a function of the program and the instruction pointer. -/
theorem program_extract_eq
    (program : one.get? Variable.program = other.get? Variable.program)
    (pointer : one.get? Variable.instructionPointer = other.get? Variable.instructionPointer) :
    (extract one).program = (extract other).program := by
  have held : Engine.read one Variable.program = Engine.read other Variable.program := program
  have pointed : Engine.read one Variable.instructionPointer =
      Engine.read other Variable.instructionPointer := pointer
  have taken : programOf one = programOf other := by
    rw [programOf, programOf, held, pointed, textsOf_sources_eq program rfl (by decide)]
  simp only [extract, extractWithLog, taken]

/-- The stack is a function of its cells and the stack pointer. -/
theorem stack_extract_eq
    (stack : one.get? Variable.stack = other.get? Variable.stack)
    (pointer : one.get? Variable.stackPointer = other.get? Variable.stackPointer) :
    (extract one).stack = (extract other).stack := by
  have held : Engine.read one Variable.stack = Engine.read other Variable.stack := stack
  have pointed : Engine.read one Variable.stackPointer =
      Engine.read other Variable.stackPointer := pointer
  have taken : stackOf one = stackOf other := by
    rw [stackOf, stackOf, held, pointed, textsOf_items_eq stack rfl (by decide)]
  simp only [extract, extractWithLog, taken]

/-- The memory rows are a function of the memory. -/
theorem memory_extract_eq
    (memory : one.get? Variable.memory = other.get? Variable.memory) :
    (extract one).memory = (extract other).memory := by
  have held : Engine.read one Variable.memory = Engine.read other Variable.memory := memory
  have taken : memoryOf one = memoryOf other := by rw [memoryOf, memoryOf, held]
  simp only [extract, extractWithLog, taken]

end Parts

/-- Each part of a snapshot is decided by the variables that it shows: the listing by the program
and the instruction pointer, the stack by its cells and the stack pointer, the memory rows by the
memory, and the registers by the variables that hold integers and booleans. Two scopes that agree
on these show the same there, whatever else they bind, and the registers are the same in whatever
order the variables of a scope are enumerated. -/
theorem extract_part_by_part (one other : Scope) :
    (one.get? Variable.program = other.get? Variable.program →
      one.get? Variable.instructionPointer = other.get? Variable.instructionPointer →
      (extract one).program = (extract other).program) ∧
    (one.get? Variable.stack = other.get? Variable.stack →
      one.get? Variable.stackPointer = other.get? Variable.stackPointer →
      (extract one).stack = (extract other).stack) ∧
    (one.get? Variable.memory = other.get? Variable.memory →
      (extract one).memory = (extract other).memory) ∧
    ((∀ name value, value.isRegister = true →
        (one.get? name = some value ↔ other.get? name = some value)) →
      (extract one).registers = (extract other).registers ∧
        ∀ order, order.Perm (Engine.names one) →
          registersAmong one order = (extract other).registers) := by
  refine ⟨program_extract_eq, stack_extract_eq, memory_extract_eq, fun agree => ?_⟩
  have listed (order : List String) (alike : order.Perm (Engine.names one)) :
      registersAmong one order = (extract other).registers := by
    have enumerated : Enumerates one order :=
      ⟨alike.nodup_iff.mpr (LawfulEngine.nodup_names one), fun name =>
        alike.mem_iff.trans (LawfulEngine.mem_names one name)⟩
    exact registersAmong_eq enumerated (enumerates_names other) agree
  exact ⟨listed _ (List.Perm.refl _), listed⟩

/-- A scope with variables that have the names of functions. -/
def shadowed : Scope := (mixed.insert "len" (.text "STACK")).insert "str" .absent

/-- Variables that have the names of functions change nothing of what is shown. -/
theorem extract_part_by_part_shadowed :
    (extract mixed).program = (extract shadowed).program ∧
    (extract mixed).stack = (extract shadowed).stack ∧
    (extract mixed).memory = (extract shadowed).memory ∧
    (extract mixed).registers = (extract shadowed).registers ∧
    registersAmong mixed (Engine.names mixed).reverse = (extract shadowed).registers := by
  obtain ⟨program, stack, memory, registers⟩ := extract_part_by_part mixed shadowed
  have agree : ∀ name value, value.isRegister = true →
      (mixed.get? name = some value ↔ shadowed.get? name = some value) := by
    intro name value kind
    rw [shadowed, FiniteMap.get?_insert, FiniteMap.get?_insert]
    by_cases str : name = "str"
    · subst str
      have free : mixed.get? "str" = none := rfl
      have other : Value.absent ≠ value := by
        rintro rfl
        contradiction
      simp [free, other]
    · by_cases len : name = "len"
      · subst len
        have free : mixed.get? "len" = none := rfl
        have other : Value.text "STACK" ≠ value := by
          rintro rfl
          contradiction
        simp [free, other]
      · rw [if_neg str, if_neg len]
  obtain ⟨same, ordered⟩ := registers agree
  exact ⟨program rfl rfl, stack rfl rfl, memory rfl, same, ordered _ (List.reverse_perm _)⟩

end UrclDebugger.Snapshot
