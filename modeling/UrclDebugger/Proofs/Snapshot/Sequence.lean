import Mathlib
import UrclDebugger.FiniteMap.Lemmas
import UrclDebugger.Proofs.Script.Evaluation
import UrclDebugger.Proofs.Script.Reading
import UrclDebugger.Urcl

/-!
# Texts of lists

The program and the stack of a snapshot are read by expressions, item after item. As long as a value
is short enough for its length to be a word, what is read are the texts of the items that it gives,
or for a program their sources. A program one of whose items has no source is not read at all. What
a list gives are its items.
-/

namespace UrclDebugger

namespace Value

/-- The text of a value's source, empty for a value without one. -/
def sourceText (value : Value) : String :=
  ((value.field? "Source").map render).getD ""

/-- Only objects have sources. -/
theorem isSome_source_iff {item : Value} : (item.field? "Source").isSome = true ↔
    ∃ fields source, item = .object fields ∧ fields.get? "Source" = some source := by
  cases item <;> simp [field?, Option.isSome_iff_exists]

/-- The length of the value, if it has one, is a word. -/
def IsShort (value : Value) : Prop := ∀ count, value.length = .ok count → count < Word.positions

/-- What a value gives when it is read position after position. -/
structure ReadAs (value : Value) (items : Array Value) : Prop where
  /-- There are as many items as the value is long. -/
  length : value.length = .ok items.size
  /-- Each position gives its item. -/
  item : ∀ index item, items[index]? = some item → value.item (Int64.ofNat index) = .ok item

/-- A value is read in one way only. -/
theorem ReadAs.unique {value : Value} {first second : Array Value} (one : value.ReadAs first)
    (other : value.ReadAs second) : first = second := by
  have sizes : first.size = second.size := Except.ok.inj (one.length.symm.trans other.length)
  apply Array.ext sizes
  intro index inside within
  exact Except.ok.inj ((one.item index _ (Array.getElem?_eq_getElem inside)).symm.trans
    (other.item index _ (Array.getElem?_eq_getElem within)))

/-- A list is read as its items. -/
theorem readAs_list {items : Array Value} (fits : items.size < Word.positions) :
    (Value.list items).ReadAs items where
  length := rfl
  item index item here := by
    have inside : index < items.size := (Array.getElem?_eq_some_iff.mp here).1
    have slot : slot? items.size (Int64.ofNat index) = some index :=
      slot?_eq_some_iff.mpr ⟨inside, .inl (Word.toInt_position (Nat.lt_trans inside fits))⟩
    simp only [Value.item, slot, Option.bind_some, here]

theorem isShort_list {items : Array Value} (fits : items.size < Word.positions) :
    (Value.list items).IsShort := by
  intro count counted
  rwa [← Except.ok.inj counted]

end Value

namespace Snapshot

variable {scope : Scope} {name : String}

/-- Reading items one by one gives the results if each item gives its result. -/
theorem mapM_eq_ok_iff {ε α β : Type} {read : α → Except ε β} {items : List α}
    {results : List β} : items.mapM read = .ok results ↔ items.map read = results.map .ok := by
  induction items generalizing results with
  | nil => cases results <;> simp [pure, Except.pure]
  | cons item rest ih =>
    rw [List.mapM_cons, List.map_cons]
    cases here : read item with
    | error error => cases results <;> simp [bind, Except.bind]
    | ok result =>
      cases later : rest.mapM read with
      | error error => cases results <;> simp [bind, Except.bind, ← ih, later]
      | ok others => cases results <;> simp [bind, Except.bind, pure, Except.pure, ← ih, later]

/-- Reading positions one by one gives the results if each position gives its result. -/
theorem mapM_range_eq_ok_iff {ε β : Type} {read : Nat → Except ε β} {size : Nat}
    {results : List β} : (List.range size).mapM read = .ok results ↔
      results.length = size ∧ ∀ index (inside : index < results.length),
        read index = .ok results[index] := by
  rw [mapM_eq_ok_iff]
  constructor
  · intro same
    obtain rfl : size = results.length := by simpa using congrArg List.length same
    refine ⟨rfl, fun index inside => ?_⟩
    simpa [inside] using congrArg (·[index]?) same
  · rintro ⟨rfl, each⟩
    exact List.ext_getElem (by simp) fun index _ inside => by
      simpa using each index (by simpa using inside)

/-- What was read as a list is kept as an array. -/
theorem toArray_eq_ok_iff {ε α : Type} {outcome : Except ε (List α)} {results : Array α} :
    (do return (← outcome).toArray) = Except.ok results ↔ outcome = .ok results.toList := by
  cases outcome with
  | error error => simp [bind, Except.bind]
  | ok read =>
    have same : read.toArray = results ↔ read = results.toList :=
      ⟨fun made => by rw [← made], fun listed => by rw [listed]⟩
    simpa [bind, Except.bind, pure, Except.pure] using same

section Bound

variable {value : Value} (unreserved : Parser.reserved? name = none)
  (spells : Token.spellsName name.toList = true) (bound : scope.get? name = some value)

include unreserved spells bound

/-- The expression for a length gives the length of what the variable holds. -/
theorem evaluated_length : evaluated scope (lengthExpression name) =
    (value.length.map fun count => .int (Int64.ofNat count)).mapError .evaluation := by
  show (Expr.evaluateText scope (lengthExpression name)).mapError _ = _
  rw [Expr.evaluateText, Expr.parse_lengthExpression unreserved spells]
  simp only [Expr.evaluate_len, Expr.evaluate_name_of_bound bound, Except.bind]

/-- The expression for an item gives the text of what its position selects. -/
theorem evaluated_item {index : Nat} (small : index < Word.positions) :
    evaluated scope (itemExpression name "" index) =
      ((value.item (Int64.ofNat index)).map fun item => .text item.render).mapError
        .evaluation := by
  show (Expr.evaluateText scope (itemExpression name "" index)).mapError _ = _
  rw [Expr.evaluateText, Expr.parse_itemExpression unreserved spells small]
  simp only [Expr.evaluate_str, Expr.evaluate_index_literal, Expr.evaluate_name_of_bound bound,
    Except.bind]

/-- The expression for a source gives the text of the source that the item has. -/
theorem evaluated_source {index : Nat} (small : index < Word.positions) :
    evaluated scope (itemExpression name ".Source" index) =
      (((value.item (Int64.ofNat index)).bind (·.field "Source")).map fun source =>
        .text source.render).mapError .evaluation := by
  show (Expr.evaluateText scope (itemExpression name ".Source" index)).mapError _ = _
  rw [Expr.evaluateText, Expr.parse_sourceExpression unreserved spells small]
  simp only [Expr.evaluate_str, Expr.evaluate_field, Expr.evaluate_index_literal,
    Expr.evaluate_name_of_bound bound, Except.bind]

/-- A short value is as long as it says. -/
theorem lengthOf_eq_ok_iff (short : value.IsShort) {size : Nat} :
    lengthOf scope name = .ok size ↔ value.length = .ok size := by
  unfold lengthOf
  rw [evaluated_length unreserved spells bound]
  cases counted : value.length with
  | error error => simp [Except.map, Except.mapError, bind, Except.bind]
  | ok count =>
    have position : Word.toIndex? (Int64.ofNat count) = some count :=
      Word.toIndex?_eq_some_iff.mpr (Word.toInt_position (short count counted))
    simp [Except.map, Except.mapError, bind, Except.bind, pure, Except.pure, Value.int?, position]

/-- The texts of a value are those that the expressions for its items give, one after another. -/
theorem textsOf_eq_ok_iff (short : value.IsShort) {suffix : String} {texts : Array String} :
    textsOf scope name suffix = .ok texts ↔ value.length = .ok texts.size ∧
      ∀ index (inside : index < texts.size),
        (evaluated scope (itemExpression name suffix index)).map Value.render =
          .ok texts[index] := by
  have reads (size : Nat) : (List.range size).mapM (fun index => do
      return (← evaluated scope (itemExpression name suffix index)).render) =
        .ok texts.toList ↔ texts.size = size ∧ ∀ index (inside : index < texts.size),
          (evaluated scope (itemExpression name suffix index)).map Value.render =
            .ok texts[index] := mapM_range_eq_ok_iff
  have counts := @lengthOf_eq_ok_iff scope name value unreserved spells bound short
  unfold textsOf
  cases counted : lengthOf scope name with
  | error error =>
    have none : value.length ≠ .ok texts.size := fun long =>
      nomatch counted.symm.trans (counts.mpr long)
    simp [none, bind, Except.bind]
  | ok size =>
    rw [counts.mp counted]
    refine toArray_eq_ok_iff.trans ((reads size).trans (and_congr_left fun _ => ?_))
    rw [Except.ok.injEq, eq_comm]

/-- The texts of a value are those of the items as which it is read, if the expression for an item
gives its text exactly for the items that qualify. -/
theorem textsOf_eq_ok_iff_readAs (short : value.IsShort) {suffix : String}
    {qualifies : Value → Prop} {text : Value → String}
    (gives : ∀ index < Word.positions, ∀ shown,
      (evaluated scope (itemExpression name suffix index)).map Value.render = .ok shown ↔
        ∃ item, value.item (Int64.ofNat index) = .ok item ∧ qualifies item ∧ text item = shown)
    {texts : Array String} :
    textsOf scope name suffix = .ok texts ↔
      ∃ items, value.ReadAs items ∧ (∀ item ∈ items, qualifies item) ∧ texts = items.map text := by
  rw [textsOf_eq_ok_iff unreserved spells bound short]
  constructor
  · rintro ⟨counted, each⟩
    have small {index : Nat} (inside : index < texts.size) : index < Word.positions :=
      Nat.lt_trans inside (short _ counted)
    choose item found qualified shown using fun index (inside : index < texts.size) =>
      (gives index (small inside) _).mp (each index inside)
    let items := Array.ofFn fun index : Fin texts.size => item index index.isLt
    have sizes : items.size = texts.size := Array.size_ofFn
    have here (index : Nat) (inside : index < items.size) :
        items[index] = item index (sizes ▸ inside) := Array.getElem_ofFn inside
    refine ⟨items, ⟨sizes.symm ▸ counted, ?_⟩, ?_, ?_⟩
    · intro index _ held
      obtain ⟨inside, rfl⟩ := Array.getElem?_eq_some_iff.mp held
      rw [here]
      exact found index _
    · intro _ member
      obtain ⟨index, inside, rfl⟩ := Array.mem_iff_getElem.mp member
      rw [here]
      exact qualified index _
    · refine Array.ext (by rw [Array.size_map, sizes]) fun index inside within => ?_
      rw [Array.getElem_map, here]
      exact (shown index inside).symm
  · rintro ⟨items, reads, all, rfl⟩
    have counted : value.length = .ok (items.map text).size := Array.size_map.symm ▸ reads.length
    refine ⟨counted, fun index within => ?_⟩
    have inside : index < items.size := Array.size_map (f := text) ▸ within
    refine (gives index (Nat.lt_trans within (short _ counted)) _).mpr ⟨items[index], ?_, ?_, ?_⟩
    · exact reads.item index _ (Array.getElem?_eq_getElem inside)
    · exact all _ (Array.getElem_mem inside)
    · rw [Array.getElem_map]

/-- The texts of a value are the texts of the items as which it is read. -/
theorem textsOf_items_iff (short : value.IsShort) {texts : Array String} :
    textsOf scope name "" = .ok texts ↔
      ∃ items, value.ReadAs items ∧ texts = items.map Value.render := by
  have gives : ∀ index < Word.positions, ∀ shown,
      (evaluated scope (itemExpression name "" index)).map Value.render = .ok shown ↔
        ∃ item, value.item (Int64.ofNat index) = .ok item ∧ True ∧ item.render = shown := by
    intro index small shown
    rw [evaluated_item unreserved spells bound small]
    cases value.item (Int64.ofNat index) <;> simp [Except.map, Except.mapError, Value.render]
  simpa using textsOf_eq_ok_iff_readAs unreserved spells bound short gives

/-- The sources of a value are those of the items as which it is read, and all of them have
one. -/
theorem textsOf_sources_iff (short : value.IsShort) {texts : Array String} :
    textsOf scope name ".Source" = .ok texts ↔
      ∃ items, value.ReadAs items ∧ (∀ item ∈ items, (item.field? "Source").isSome = true) ∧
        texts = items.map Value.sourceText := by
  refine textsOf_eq_ok_iff_readAs unreserved spells bound short fun index small shown => ?_
  rw [evaluated_source unreserved spells bound small]
  cases value.item (Int64.ofNat index) with
  | error error => simp [Except.map, Except.mapError, Except.bind]
  | ok item =>
    cases found : item.field? "Source" <;>
      simp [Except.map, Except.mapError, Except.bind, Value.field, Value.render, Value.sourceText,
        found]

end Bound

section List

variable {items : Array Value} (unreserved : Parser.reserved? name = none)
  (spells : Token.spellsName name.toList = true) (bound : scope.get? name = some (.list items))
  (fits : items.size < Word.positions)

include unreserved spells bound fits

/-- The texts of a list's items are their own texts. -/
theorem textsOf_items : textsOf scope name "" = .ok (items.map Value.render) :=
  (textsOf_items_iff unreserved spells bound (Value.isShort_list fits)).mpr
    ⟨items, Value.readAs_list fits, rfl⟩

/-- The sources of a list's items are their texts. -/
theorem textsOf_sources (all : ∀ item ∈ items, (item.field? "Source").isSome = true) :
    textsOf scope name ".Source" = .ok (items.map Value.sourceText) :=
  (textsOf_sources_iff unreserved spells bound (Value.isShort_list fits)).mpr
    ⟨items, Value.readAs_list fits, all, rfl⟩

/-- Only where all items have a source is a program read. -/
theorem isSome_source_of_textsOf {texts : Array String}
    (read : textsOf scope name ".Source" = .ok texts) :
    ∀ item ∈ items, (item.field? "Source").isSome = true := by
  obtain ⟨others, reads, all, _⟩ :=
    (textsOf_sources_iff unreserved spells bound (Value.isShort_list fits)).mp read
  rwa [reads.unique (Value.readAs_list fits)] at all

end List

/-- The sources of a program's objects are the texts of its instructions. -/
theorem textsOf_program (unreserved : Parser.reserved? name = none)
    (spells : Token.spellsName name.toList = true) {instructions : Array Instruction}
    (bound : scope.get? name = some (.list (instructions.map Instruction.toValue)))
    (fits : instructions.size < Word.positions) :
    textsOf scope name ".Source" = .ok (instructions.map Instruction.text) := by
  have written (instruction : Instruction) :
      instruction.toValue.field? "Source" = some (.text instruction.text) := by
    simp [Instruction.toValue, Value.field?, FiniteMap.ofList, FiniteMap.get?_insert]
  have all : ∀ item ∈ instructions.map Instruction.toValue,
      (item.field? "Source").isSome = true := by
    intro item member
    obtain ⟨instruction, _, rfl⟩ := Array.mem_map.mp member
    rw [written]
    rfl
  have sources : (instructions.map Instruction.toValue).map Value.sourceText =
      instructions.map Instruction.text := by
    rw [Array.map_map]
    congr 1
    funext instruction
    simp [Value.sourceText, written, Value.render]
  rw [← sources]
  exact textsOf_sources unreserved spells bound (by rwa [Array.size_map]) all

/-- With a list as its program a scope shows the sources that are read. -/
theorem program_extract_of_list {items : Array Value} {pointer : Word}
    (program : scope.get? Variable.program = some (.list items))
    (position : scope.get? Variable.instructionPointer = some (.int pointer)) :
    (extract scope).program =
      (textsOf scope Variable.program ".Source").toOption.map fun texts => ⟨pointer, texts⟩ := by
  have loaded : Engine.read scope Variable.program = some (.list items) := program
  have current : Engine.read scope Variable.instructionPointer = some (.int pointer) := position
  simp only [extract, extractWithLog, programOf, loaded, current, Option.bind_some, Value.int?]
  cases textsOf scope Variable.program ".Source" <;> rfl

/-- With a list as its stack a scope shows the texts of its cells. -/
theorem stack_extract_of_list {items : Array Value} {pointer : Word}
    (stack : scope.get? Variable.stack = some (.list items))
    (top : scope.get? Variable.stackPointer = some (.int pointer))
    (fits : items.size < Word.positions) :
    (extract scope).stack = some ⟨pointer, items.map Value.render⟩ := by
  have cells : Engine.read scope Variable.stack = some (.list items) := stack
  have current : Engine.read scope Variable.stackPointer = some (.int pointer) := top
  have texts : textsOf scope Variable.stack "" = .ok (items.map Value.render) :=
    textsOf_items rfl (by decide) stack fits
  simp only [extract, extractWithLog, stackOf, cells, current, Option.bind_some, Value.int?, texts]
  rfl

/-- Reading a list item by item is reading the list. A program that is a list is listed exactly if
every item is an object with a source, and then the listing has the pointer of the scope and, for
each item in its place, the text of the item's source. A stack that is a list is always shown, with
the pointer of the scope and the texts of its cells. -/
theorem extract_reads_lists (scope : Scope) :
    (∀ items pointer, items.size < Word.positions →
      scope.get? Variable.program = some (.list items) →
      scope.get? Variable.instructionPointer = some (.int pointer) →
      ((extract scope).program.isSome = true ↔ ∀ item ∈ items, ∃ fields source,
        item = .object fields ∧ fields.get? "Source" = some source) ∧
      ∀ listing, (extract scope).program = some listing →
        listing.pointer = pointer ∧ listing.instructions.size = items.size ∧
          ∀ index < items.size, ∃ fields source, items[index]? = some (.object fields) ∧
            fields.get? "Source" = some source ∧
              listing.instructions[index]? = some source.render) ∧
    ∀ cells pointer, cells.size < Word.positions →
      scope.get? Variable.stack = some (.list cells) →
      scope.get? Variable.stackPointer = some (.int pointer) →
      (extract scope).stack = some ⟨pointer, cells.map Value.render⟩ := by
  refine ⟨fun items pointer fits program position => ?_,
    fun cells pointer fits stack top => stack_extract_of_list stack top fits⟩
  have shown := program_extract_of_list program position
  have listed (all : ∀ item ∈ items, (item.field? "Source").isSome = true) :
      (extract scope).program = some ⟨pointer, items.map Value.sourceText⟩ := by
    rw [shown, textsOf_sources rfl (by decide) program fits all]
    rfl
  have sources (listing : ProgramListing) (present : (extract scope).program = some listing) :
      ∀ item ∈ items, (item.field? "Source").isSome = true := by
    cases read : textsOf scope Variable.program ".Source" with
    | ok texts => exact isSome_source_of_textsOf rfl (by decide) program fits read
    | error error =>
      rw [shown, read] at present
      contradiction
  constructor
  · simp only [← Value.isSome_source_iff]
    refine ⟨fun present => ?_, fun all => by rw [listed all]; rfl⟩
    obtain ⟨listing, there⟩ := Option.isSome_iff_exists.mp present
    exact sources listing there
  · intro listing there
    have all := sources listing there
    obtain rfl := Option.some.inj ((listed all).symm.trans there)
    refine ⟨rfl, Array.size_map, fun index inside => ?_⟩
    obtain ⟨fields, source, same, found⟩ :=
      Value.isSome_source_iff.mp (all items[index] (Array.getElem_mem inside))
    refine ⟨fields, source, ?_, found, ?_⟩
    · rw [Array.getElem?_eq_getElem inside, same]
    · rw [Array.getElem?_map, Array.getElem?_eq_getElem inside, same, Option.map_some,
        Value.sourceText, Value.field?, found]
      rfl

/-- A scope whose program and stack are lists of different kinds of values. -/
def mixed : Scope :=
  (∅ : Scope)
    |>.insert Variable.program (.list #[.object (FiniteMap.ofList [("Source", .int 7)]),
      .object (FiniteMap.ofList [("Operation", .text "NOP"), ("Source", .list #[.bool true])])])
    |>.insert Variable.instructionPointer (.int 1)
    |>.insert Variable.stack (.list #[.absent, .text "top", .list #[]])
    |>.insert Variable.stackPointer (.int (-2))

theorem extract_reads_lists_mixed :
    (∃ listing, (extract mixed).program = some listing ∧ listing.pointer = 1 ∧
      listing.instructions.size = 2) ∧
    (extract mixed).stack =
      some ⟨-2, #[Value.absent, .text "top", .list #[]].map Value.render⟩ := by
  obtain ⟨programs, views⟩ := extract_reads_lists mixed
  obtain ⟨listed, exactly⟩ := programs _ 1 (by decide) rfl rfl
  have all : ∀ item ∈ #[Value.object (FiniteMap.ofList [("Source", .int 7)]),
      .object (FiniteMap.ofList [("Operation", .text "NOP"), ("Source", .list #[.bool true])])],
      ∃ fields source, item = .object fields ∧ fields.get? "Source" = some source := by
    simp only [← Value.isSome_source_iff]
    decide
  obtain ⟨listing, shown⟩ := Option.isSome_iff_exists.mp (listed.mpr all)
  obtain ⟨pointer, size, _⟩ := exactly listing shown
  exact ⟨⟨listing, shown, pointer, size⟩, views _ (-2) (by decide) rfl rfl⟩

end Snapshot

end UrclDebugger
