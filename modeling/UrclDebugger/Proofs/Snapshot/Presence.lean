import Mathlib
import UrclDebugger.Proofs.Provenance.Session
import UrclDebugger.Proofs.Snapshot.Sequence

/-!
# Which values are shown as sequences

A listing or a stack is shown when the expressions that read it have values, and those do not ask
for a list. A map whose keys are the positions answers them as a list does, and for the text without
characters no item is asked for (`extract_shows_iff`). All other values are not shown, and neither
is a list without its pointer.
-/

namespace UrclDebugger

/-- The values that show as sequences, with the items that they show. -/
inductive Value.ShownAs : Value → Array Value → Prop where
  | list (items : Array Value) : ShownAs (.list items) items
  /-- The keys of a map are the positions from zero on. -/
  | map {cells : FiniteMap Word Value} {items : Array Value} (counted : cells.size = items.size)
      (numbered : ∀ index item, items[index]? = some item →
        cells.get? (Int64.ofNat index) = some item) : ShownAs (.map cells) items
  | emptyText : ShownAs (.text "") #[]

namespace Value

/-- A cell of a map is read by its key. -/
theorem item_map_eq_ok_iff {cells : FiniteMap Word Value} {position : Word} {found : Value} :
    (Value.map cells).item position = .ok found ↔ cells.get? position = some found := by
  unfold item
  cases here : cells.get? position <;> simp [here]

/-- A text has no items, so it is read only as long as none is asked for. -/
theorem readAs_text_iff {content : String} {items : Array Value} :
    (Value.text content).ReadAs items ↔ content = "" ∧ items = #[] := by
  constructor
  · intro reads
    have counted : content.length = items.size := Except.ok.inj reads.length
    have none : items = #[] := by
      by_contra some
      have first : items[0]? = _ := Array.getElem?_eq_getElem (Array.size_pos_iff.mpr some)
      have read := reads.item 0 _ first
      contradiction
    subst none
    exact ⟨String.length_eq_zero_iff.mp counted, rfl⟩
  · rintro ⟨rfl, rfl⟩
    exact ⟨rfl, fun index item here => nomatch here⟩

/-- Among the short values exactly those that show as sequences can be read item by item. -/
theorem readAs_iff_shownAs {value : Value} (short : value.IsShort) {items : Array Value} :
    value.ReadAs items ↔ value.ShownAs items := by
  cases value with
  | list held =>
    have own : (Value.list held).ReadAs held := readAs_list (short held.size rfl)
    refine ⟨fun reads => ?_, ?_⟩
    · rw [reads.unique own]
      exact .list held
    · rintro ⟨⟩
      exact own
  | map cells =>
    constructor
    · intro reads
      exact .map (Except.ok.inj reads.length) fun index item here =>
        item_map_eq_ok_iff.mp (reads.item index item here)
    · rintro (_ | ⟨counted, numbered⟩)
      exact ⟨congrArg Except.ok counted, fun index item here =>
        item_map_eq_ok_iff.mpr (numbered index item here)⟩
  | text content =>
    rw [readAs_text_iff]
    constructor
    · rintro ⟨rfl, rfl⟩
      exact .emptyText
    · rintro ⟨⟩
      exact ⟨rfl, rfl⟩
  | _ => exact ⟨fun reads => (nomatch reads.length), fun shown => (nomatch shown)⟩

end Value

namespace Snapshot

variable {scope : Scope}

/-- A part that needs a variable, a pointer beside it and texts is shown where all three are. -/
theorem part_eq_some_iff {α : Type} {part : String} {make : Word → Array String → α}
    {held pointer : Option Value} {texts : Except ExtractionError (Array String)} {shown : α} :
    (orEmpty part none (match held, pointer.bind Value.int? with
      | some _, some word => texts.map fun texts => some (make word texts)
      | _, _ => .ok none)).1 = some shown ↔
      ∃ value word read, held = some value ∧ pointer = some (.int word) ∧ texts = .ok read ∧
        make word read = shown := by
  cases held with
  | none => simp [orEmpty]
  | some value =>
    cases pointer with
    | none => simp [orEmpty]
    | some top =>
      cases texts <;> cases top <;> simp [orEmpty, Except.map, Value.int?]

/-- A listing is shown for a program whose sources are read, with the instruction pointer. -/
theorem program_extract_eq_some_iff {listing : ProgramListing} :
    (extract scope).program = some listing ↔
      scope.get? Variable.instructionPointer = some (.int listing.pointer) ∧
        ∃ value, scope.get? Variable.program = some value ∧
          textsOf scope Variable.program ".Source" = .ok listing.instructions := by
  refine part_eq_some_iff.trans ⟨?_, ?_⟩
  · rintro ⟨value, word, read, held, pointed, texts, rfl⟩
    exact ⟨pointed, value, held, texts⟩
  · rintro ⟨pointed, value, held, texts⟩
    exact ⟨value, listing.pointer, listing.instructions, held, pointed, texts, rfl⟩

/-- A stack is shown if the texts of its cells are read, with the stack pointer. -/
theorem stack_extract_eq_some_iff {view : StackView} :
    (extract scope).stack = some view ↔
      scope.get? Variable.stackPointer = some (.int view.pointer) ∧
        ∃ value, scope.get? Variable.stack = some value ∧
          textsOf scope Variable.stack "" = .ok view.cells := by
  refine part_eq_some_iff.trans ⟨?_, ?_⟩
  · rintro ⟨value, word, read, held, pointed, texts, rfl⟩
    exact ⟨pointed, value, held, texts⟩
  · rintro ⟨pointed, value, held, texts⟩
    exact ⟨value, view.pointer, view.cells, held, pointed, texts, rfl⟩

/-- What is shown as a listing or as a stack. A listing is shown exactly if the instruction pointer
is an integer and the program shows as a sequence of objects that all have sources; it has the
pointer and the texts of the sources. A stack is shown exactly if the stack pointer is an integer
and the stack shows as a sequence; it has the pointer and the texts of the cells. Sequences are
lists, maps whose keys are the positions, and the empty text. -/
theorem extract_shows_iff (scope : Scope)
    (programShort : ∀ value, scope.get? Variable.program = some value → value.IsShort)
    (stackShort : ∀ value, scope.get? Variable.stack = some value → value.IsShort) :
    (∀ listing, (extract scope).program = some listing ↔
      scope.get? Variable.instructionPointer = some (.int listing.pointer) ∧
        ∃ value items, scope.get? Variable.program = some value ∧ value.ShownAs items ∧
          (∀ item ∈ items, (item.field? "Source").isSome = true) ∧
            listing.instructions = items.map Value.sourceText) ∧
    ∀ view, (extract scope).stack = some view ↔
      scope.get? Variable.stackPointer = some (.int view.pointer) ∧
        ∃ value items, scope.get? Variable.stack = some value ∧ value.ShownAs items ∧
          view.cells = items.map Value.render := by
  constructor
  · intro listing
    rw [program_extract_eq_some_iff]
    refine and_congr_right fun _ => exists_congr fun value => ?_
    constructor
    · rintro ⟨held, texts⟩
      have short := programShort value held
      obtain ⟨items, reads, all, same⟩ := (textsOf_sources_iff rfl (by decide) held short).mp texts
      exact ⟨items, held, (Value.readAs_iff_shownAs short).mp reads, all, same⟩
    · rintro ⟨items, held, shown, all, same⟩
      have short := programShort value held
      have reads := (Value.readAs_iff_shownAs short).mpr shown
      exact ⟨held, (textsOf_sources_iff rfl (by decide) held short).mpr ⟨items, reads, all, same⟩⟩
  · intro view
    rw [stack_extract_eq_some_iff]
    refine and_congr_right fun _ => exists_congr fun value => ?_
    constructor
    · rintro ⟨held, texts⟩
      have short := stackShort value held
      obtain ⟨items, reads, same⟩ := (textsOf_items_iff rfl (by decide) held short).mp texts
      exact ⟨items, held, (Value.readAs_iff_shownAs short).mp reads, same⟩
    · rintro ⟨items, held, shown, same⟩
      have short := stackShort value held
      have reads := (Value.readAs_iff_shownAs short).mpr shown
      exact ⟨held, (textsOf_items_iff rfl (by decide) held short).mpr ⟨items, reads, same⟩⟩

/-- A loaded program after a script that has put maps in the places of the program and the stack. -/
def remapped : Scope :=
  (Engine.load (Engine.load (Engine.fresh : Scope) (.inline "p.urcl" "NOP")).scope
    (.inline "z.urs" "ROM = \x7b0: ROM[0]\x7d\nSTACK = \x7b0: 5\x7d")).scope

theorem program_remapped : (extract remapped).program = some ⟨0, #["NOP"]⟩ := by cbv

theorem stack_remapped : (extract remapped).stack = some ⟨0, #["5"]⟩ := by cbv

/-- A session shows a listing and a stack where scripts have bound maps. -/
theorem extract_shows_maps :
    Visited remapped ∧
      (remapped.get? Variable.program).map Value.kind = some .map ∧
      (extract remapped).program = some ⟨0, #["NOP"]⟩ ∧
      (remapped.get? Variable.stack).map Value.kind = some .map ∧
      (extract remapped).stack = some ⟨0, #["5"]⟩ :=
  ⟨.loaded (.loaded .fresh _) _, by cbv, program_remapped, by cbv, stack_remapped⟩

/-- What the maps are shown as. -/
theorem extract_shows_iff_remapped :
    (∃ value items, remapped.get? Variable.program = some value ∧ value.ShownAs items ∧
      #["NOP"] = items.map Value.sourceText) ∧
    ∃ value items, remapped.get? Variable.stack = some value ∧ value.ShownAs items ∧
      #["5"] = items.map Value.render := by
  have short {name : String} (single : (remapped.get? name).map Value.length = some (.ok 1)) :
      ∀ value, remapped.get? name = some value → value.IsShort := by
    intro value bound count counted
    rw [bound, Option.map_some, counted] at single
    obtain rfl : count = 1 := by simpa using single
    decide
  obtain ⟨listings, views⟩ := extract_shows_iff remapped (short (by cbv)) (short (by cbv))
  obtain ⟨_, program, instructions, bound, shown, _, texts⟩ := (listings _).mp program_remapped
  obtain ⟨_, stack, cells, held, shows, values⟩ := (views _).mp stack_remapped
  exact ⟨⟨program, instructions, bound, shown, texts⟩, stack, cells, held, shows, values⟩

end Snapshot

end UrclDebugger
