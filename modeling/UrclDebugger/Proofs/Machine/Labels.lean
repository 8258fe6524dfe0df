import UrclDebugger.Proofs.Assembly.Layout
import UrclDebugger.Proofs.Machine.Access
import UrclDebugger.Proofs.Machine.Refinement
import UrclDebugger.Proofs.Script.Decimal

/-!
# Where labels lead

A label stands for the number of instructions above its line, through a variable that is named after
the label without its dots. A jump to it makes the instruction below that line the next one
(`label_leads_below`). Labels that differ in their leading dots only share one variable: the lines
of both are kept in the program, and both lead to the lower of the two lines
(`label_leads_astray`).
-/

namespace UrclDebugger

/-- An operand that starts with a dot is looked up as a label. -/
theorem Operand.value_of_isLabel {operand : String} (isLabel : isLabel operand = true)
    (scope : Scope) : value scope operand = scope.requireInt (labelVariable operand) := by
  obtain ⟨rest, dotted⟩ : ∃ rest, operand.toList = '.' :: rest := by
    unfold Operand.isLabel isLabelText at isLabel
    split at isLabel
    · rename_i next others same
      exact ⟨next :: others, same⟩
    · contradiction
  have noZero : operand ≠ zeroRegister := by
    rintro rfl
    contradiction
  have noPointer : operand ≠ "SP" := by
    rintro rfl
    contradiction
  have noRegister : isRegister operand = false := by
    simp [isRegister, noPointer, dotted]
  rw [value, if_neg noZero, if_neg (by simp [noRegister]), if_pos isLabel]

namespace AssemblyLine

/-- The position of a label on a line: the number of instructions on the lines above. -/
def positionBelow (above : List (List Char)) : Nat := (instructionsOf (contents above)).length

/-- What lines around a label line say stands around the label. -/
theorem contents_append_label {above below : List (List Char)} {line : List Char} {label : String}
    (marks : parse? line = some (.label label)) :
    contents (above ++ line :: below) = contents above ++ .label label :: contents below := by
  rw [contents, List.filterMap_append, List.filterMap_cons_some marks]
  rfl

end AssemblyLine

namespace Program

open AssemblyLine

section Split

variable {text : String} {program : Program} (assembled : assemble text = .ok program)
  {above below : List (List Char)} {line : List Char} {label : String}
  (split : Text.lines text.toList = above ++ line :: below)
  (marks : parse? line = some (.label label))

include assembled split marks

/-- The labels of a program are those above a label line, the one on it and those below. -/
theorem labels_of_split : program.labels.toList =
    labelsOf 0 (contents above) ++ (label, positionBelow above) ::
      labelsOf (positionBelow above) (contents below) := by
  rw [(assemble_eq_ok_iff.mp assembled).2, split, contents_append_label marks]
  simp [extend, labelsOf_append, labelsOf, positionBelow]

/-- The instruction below a label line is at the label's position. -/
theorem getElem?_of_split : positionBelow above ≤ program.instructions.size ∧
    program.instructions[positionBelow above]? = (instructionsOf (contents below)).head? := by
  have parts : program.instructions.toList =
      instructionsOf (contents above) ++ instructionsOf (contents below) := by
    rw [(assemble_eq_ok_iff.mp assembled).2, split, contents_append_label marks]
    simp [extend, instructionsOf_append]
  constructor
  · rw [← Array.length_toList, parts, List.length_append]
    exact Nat.le_add_right _ _
  · rw [← Array.getElem?_toList, parts, positionBelow, List.getElem?_append_right (Nat.le_refl _),
      Nat.sub_self, List.head?_eq_getElem?]

/-- A label names the lowest line with its variable. -/
theorem position?_of_split {operand : String}
    (names : Operand.labelVariable operand = Operand.labelVariable label)
    (lowest : ∀ other, .label other ∈ contents below →
      Operand.labelVariable other ≠ Operand.labelVariable label) :
    program.position? operand = some (Int64.ofNat (positionBelow above)) := by
  -- the search runs from the last label up, and passes all those below the line
  have none : (labelsOf (positionBelow above) (contents below)).reverse.find? (fun entry =>
      Operand.labelVariable entry.1 = Operand.labelVariable operand) = none := by
    rw [List.find?_eq_none]
    intro entry listed same
    have holds := exists_label_of_mem_labelsOf (List.mem_reverse.mp listed)
    exact lowest entry.1 holds ((of_decide_eq_true same).trans names)
  rw [position?, labels_of_split assembled split marks, List.reverse_append, List.reverse_cons,
    List.append_assoc, List.find?_append, none, Option.none_or]
  simp [names]

end Split

end Program

namespace Machine

variable {scope : Scope} {pointer destination : Word} {operand : String}

/-- A jump to where an operand leads changes nothing but the instruction pointer. -/
theorem outcome_turn_of_jump
    (bound : scope.get? Variable.instructionPointer = some (.int pointer))
    (fetched : Fetch.action scope pointer = .ok (.jump operand))
    (leads : Operand.value scope operand = .ok destination)
    (notLeast : destination ≠ Int64.minValue) :
    turn.outcome scope =
      (.ok (), scope.insert Variable.instructionPointer (.int destination)) := by
  have here : scope.requireInt Variable.instructionPointer = .ok pointer :=
    Scope.requireInt_eq_ok_iff.mpr bound
  have moved := outcome_moveOn (FiniteMap.get?_insert_self scope Variable.instructionPointer
    (.int (destination - 1)))
  rw [turn_eq]
  simp only [Exec.outcome_bind, Exec.outcome_read, here, fetched, perform, Machine.operand, leads,
    outcome_jump notLeast, moved, FiniteMap.insert_insert, Word.sub_one_add_one]

/-- A step that jumps to a label sets its two flags and the instruction pointer. -/
theorem step_of_jump (entry : scope.get? Variable.entry = some (.routine Variable.entry))
    (running : halted scope = .ok false)
    (bound : scope.get? Variable.instructionPointer = some (.int pointer))
    (fetched : Fetch.action scope pointer = .ok (.jump operand))
    (isLabel : Operand.isLabel operand = true)
    (leads : Operand.value scope operand = .ok destination)
    (notLeast : destination ≠ Int64.minValue) :
    Engine.step scope =
      (.ok (), (prepared scope).insert Variable.instructionPointer (.int destination)) := by
  -- neither flag of the step is the program, a label variable or part of the machine's state
  have fetchedToo : Fetch.action (prepared scope) pointer = .ok (.jump operand) :=
    (fetch_eq_fetch (get?_prepared (by decide) (by decide)) pointer).trans fetched
  have leadsToo : Operand.value (prepared scope) operand = .ok destination := by
    have differs {own : String} (listed : own ∈ Variable.own) :
        Operand.labelVariable operand ≠ own := Operand.labelVariable_ne_of_mem_own listed operand
    rw [← leads, Operand.value_of_isLabel isLabel, Operand.value_of_isLabel isLabel,
      Scope.requireInt, Scope.requireInt, get?_prepared (differs (by decide)) (differs (by decide))]
  have boundToo : (prepared scope).get? Variable.instructionPointer = some (.int pointer) := by
    rw [get?_prepared (by decide) (by decide), bound]
  have turned := outcome_turn_of_jump boundToo fetchedToo leadsToo notLeast
  have goes : halted (prepared scope) = .ok false :=
    (halted_eq_halted (get?_prepared (by decide) (by decide))).trans running
  have flagged : ((prepared scope).insert Variable.instructionPointer (.int destination)).get?
      Variable.stepFlag = some (.bool true) := by
    rw [FiniteMap.get?_insert_of_ne _ _ (by decide), get?_stepFlag_prepared]
  obtain ⟨count, single, steps⟩ := steps_singleTurn entry fun left ends => by
    rw [turned] at ends
    obtain ⟨_, rfl⟩ := Prod.mk.inj ends
    exact flagged
  rw [step_of_steps steps (Nat.lt_of_le_of_lt single (by decide)), singleTurn, goes, turned]

end Machine

open AssemblyLine in
/-- A label leads to the instruction below its line. Of label lines whose names differ in leading
dots only the lowest counts, so let the line be the lowest with its variable. Once the source is
loaded into any scope, an operand that names the label stands for the number of instructions above
the line, which is the position of the first instruction below it, or the end of the program if
there is none. In every state that has kept the label's variable, a step that comes to a jump to
the operand succeeds, and changes its two flags and the instruction pointer, which is that
position. -/
theorem label_leads_below {source : Source} {program : Program}
    (urcl : source.extension? = some "urcl")
    (assembled : Program.assemble source.text = .ok program)
    (short : source.text.length < Word.positions) {above below : List (List Char)}
    {line : List Char} {label : String}
    (split : Text.lines source.text.toList = above ++ line :: below)
    (marks : parse? line = some (.label label))
    (lowest : ∀ other, .label other ∈ contents below →
      Operand.labelVariable other ≠ Operand.labelVariable label)
    {operand : String} (isLabel : Operand.isLabel operand = true)
    (names : Operand.labelVariable operand = Operand.labelVariable label) (scope : Scope) :
    Operand.value (Engine.load scope source).scope operand =
        .ok (Int64.ofNat (positionBelow above)) ∧
      positionBelow above ≤ program.instructions.size ∧
      program.instructions[positionBelow above]? = (instructionsOf (contents below)).head? ∧
      ∀ (state : Scope) (pointer : Word),
        state.get? (Operand.labelVariable operand) =
          (Engine.load scope source).scope.get? (Operand.labelVariable operand) →
        state.get? Variable.entry = some (.routine Variable.entry) →
        Machine.halted state = .ok false →
        state.get? Variable.instructionPointer = some (.int pointer) →
        Fetch.action state pointer = .ok (.jump operand) →
        Engine.step state = (.ok (), (Machine.prepared state).insert Variable.instructionPointer
          (.int (Int64.ofNat (positionBelow above)))) := by
  obtain ⟨inside, next⟩ := Program.getElem?_of_split assembled split marks
  have fits : positionBelow above < Word.positions := Nat.lt_of_le_of_lt inside
    (Nat.lt_of_le_of_lt (Program.size_instructions_le_of_assemble assembled) short)
  have notLeast : Int64.ofNat (positionBelow above) ≠ Int64.minValue := by
    intro same
    have sign := Word.toInt_position fits
    rw [same, Int64.toInt_minValue] at sign
    omega
  have found : (Engine.load scope source).scope.get? (Operand.labelVariable operand) =
      some (.int (Int64.ofNat (positionBelow above))) := by
    rw [Urcl.scope_load urcl assembled, Program.get?_bind_labelVariable,
      Program.position?_of_split assembled split marks names lowest]
    rfl
  have leads (state : Scope) (kept : state.get? (Operand.labelVariable operand) =
        (Engine.load scope source).scope.get? (Operand.labelVariable operand)) :
      Operand.value state operand = .ok (Int64.ofNat (positionBelow above)) := by
    rw [Operand.value_of_isLabel isLabel, Scope.requireInt, kept, found]
  refine ⟨leads _ rfl, inside, next, ?_⟩
  intro state pointer kept entry running bound fetched
  exact Machine.step_of_jump entry running bound fetched isLabel (leads state kept) notLeast

/-- Once a program that starts with a jump is loaded, it runs and the jump comes first. -/
theorem jump_first_of_load {source : Source} {program : Program} {operand : String}
    (urcl : source.extension? = some "urcl")
    (assembled : Program.assemble source.text = .ok program)
    (starts : program.instructions[0]? = some ⟨"JMP", [operand]⟩) (scope : Scope) :
    (Engine.load scope source).scope.get? Variable.entry = some (.routine Variable.entry) ∧
      Machine.halted (Engine.load scope source).scope = .ok false ∧
      (Engine.load scope source).scope.get? Variable.instructionPointer = some (.int 0) ∧
      Fetch.action (Engine.load scope source).scope 0 = .ok (.jump operand) := by
  rw [Urcl.scope_load urcl assembled]
  have halt : (program.bind scope).get? Variable.haltFlag = some (.bool false) := by
    rw [Program.get?_bind_of_mem_own (by decide) (by decide) (by decide)]
    simp +decide [Program.bindState, FiniteMap.get?_insert]
  have pointer : (program.bind scope).get? Variable.instructionPointer = some (.int 0) := by
    rw [Program.get?_bind_of_mem_own (by decide) (by decide) (by decide)]
    simp +decide [Program.bindState, FiniteMap.get?_insert]
  have first : program.instruction? 0 = some ⟨"JMP", [operand]⟩ := starts
  refine ⟨Program.get?_bind_entry, Machine.halted_of_get? halt, pointer, ?_⟩
  rw [Fetch.action_of_program Program.get?_bind_program, first]
  exact Fetch.decode_toValue (Opcode.ofMnemonic?_mnemonic .jmp) rfl 0

/-- A program that jumps over an instruction to its end. -/
def skippingSource : Source := .inline "skipping.urcl" "JMP .end\n.middle\nNOP\n.end"

theorem label_leads_below_skipping :
    ∃ loaded : Scope, (Engine.load (Engine.fresh : Scope) skippingSource).scope = loaded ∧
      Operand.value loaded ".end" = .ok 2 ∧
      Engine.step loaded = (.ok (),
        (Machine.prepared loaded).insert Variable.instructionPointer (.int 2)) := by
  have urcl : skippingSource.extension? = some "urcl" := by decide
  have assembled : Program.assemble skippingSource.text =
      .ok ⟨#[⟨"JMP", [".end"]⟩, ⟨"NOP", []⟩], #[(".middle", 1), (".end", 2)]⟩ := rfl
  have split : Text.lines skippingSource.text.toList =
      ["JMP .end".toList, ".middle".toList, "NOP".toList] ++ ".end".toList :: [] := rfl
  have marks : AssemblyLine.parse? ".end".toList = some (.label ".end") := rfl
  have isLabel : Operand.isLabel ".end" = true := by decide
  obtain ⟨leads, _, _, jumps⟩ := label_leads_below urcl assembled (by decide) split marks
    (by simp [AssemblyLine.contents]) isLabel rfl Engine.fresh
  have position : Int64.ofNat (AssemblyLine.positionBelow
      ["JMP .end".toList, ".middle".toList, "NOP".toList]) = 2 := by decide
  rw [position] at leads jumps
  obtain ⟨entry, running, pointer, fetched⟩ :=
    jump_first_of_load urcl assembled rfl Engine.fresh
  exact ⟨_, rfl, leads, jumps _ 0 rfl entry running pointer fetched⟩

/-- A program with two labels that differ in their dots only. -/
def clashingSource : Source := .inline "clashing.urcl" "JMP .a\n.a\nNOP\n..a\nNOP"

/-- Of two labels that differ in their dots the upper one leads to the lower one's line. -/
theorem label_leads_astray :
    ∃ (program : Program) (loaded : Scope),
      Program.assemble clashingSource.text = .ok program ∧
      program.labels = #[(".a", 1), ("..a", 2)] ∧
      (Engine.load (Engine.fresh : Scope) clashingSource).scope = loaded ∧
      Operand.value loaded ".a" = .ok 2 ∧
      (Engine.step loaded).2.get? Variable.instructionPointer = some (.int 2) := by
  have urcl : clashingSource.extension? = some "urcl" := by decide
  have assembled : Program.assemble clashingSource.text =
      .ok ⟨#[⟨"JMP", [".a"]⟩, ⟨"NOP", []⟩, ⟨"NOP", []⟩], #[(".a", 1), ("..a", 2)]⟩ := rfl
  have isLabel : Operand.isLabel ".a" = true := by decide
  have leads : Operand.value (Engine.load (Engine.fresh : Scope) clashingSource).scope ".a" =
      .ok 2 := by
    have split : Text.lines clashingSource.text.toList =
        ["JMP .a".toList, ".a".toList, "NOP".toList] ++ "..a".toList :: ["NOP".toList] := rfl
    have marks : AssemblyLine.parse? "..a".toList = some (.label "..a") := rfl
    have below : AssemblyLine.contents ["NOP".toList] = [.instruction ⟨"NOP", []⟩] := rfl
    have shared : Operand.labelVariable ".a" = Operand.labelVariable "..a" := by decide
    have position := Program.position?_of_split assembled split marks shared
      (by rw [below]; simp)
    have counted : AssemblyLine.positionBelow
      ["JMP .a".toList, ".a".toList, "NOP".toList] = 2 := by decide
    rw [Operand.value_of_isLabel isLabel, Scope.requireInt, Urcl.scope_load urcl assembled,
      Program.get?_bind_labelVariable, position, counted]
    rfl
  obtain ⟨entry, running, pointer, fetched⟩ :=
    jump_first_of_load urcl assembled rfl Engine.fresh
  have stepped := Machine.step_of_jump entry running pointer fetched isLabel leads (by decide)
  refine ⟨_, _, assembled, rfl, rfl, leads, ?_⟩
  rw [stepped, FiniteMap.get?_insert_self]

end UrclDebugger
