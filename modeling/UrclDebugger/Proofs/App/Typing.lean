import UrclDebugger.Proofs.App.Modes
import UrclDebugger.Proofs.Script.Literal

/-!
# Typing the number of a source

With fewer than ten sources the first digit that is the number of one, counted from one, decides
which source is meant; with more of them a whole numeral is typed, with leading zeros or without,
and entered. While a source is chosen digits change nothing but the mode, and between them the clock
may be looked at and the screen drawn, so what a visit comes to is told by what was typed
(`Visit.Stands.foldl_digits`).
-/

namespace UrclDebugger

namespace App

/-- The digits are the number of the source at an index, counted from one. Leading zeros are
allowed. -/
def Picks (count : Nat) (digits : List Char) (index : Nat) : Prop :=
  Numeral.Digits 10 digits (index + 1) ∧ index < count

/-- The first of the characters that is the number of a source alone is that of the source at an
index. -/
inductive FirstPicks (count : Nat) : List Char → Nat → Prop where
  | here {c : Char} {rest : List Char} {index : Nat} (picks : Picks count [c] index) :
      FirstPicks count (c :: rest) index
  | later {c : Char} {rest : List Char} {index : Nat} (idle : ∀ other, ¬ Picks count [c] other)
      (first : FirstPicks count rest index) : FirstPicks count (c :: rest) index

section Numbers

variable {count : Nat} {digits : List Char}

theorem numberOf_eq_ofDigitChars (digits : List Char) :
    numberOf digits = Nat.ofDigitChars 10 digits 0 := by
  have shifted (start : Nat) : digits.foldl
      (fun value c => value * 10 + (c.toNat - '0'.toNat)) start =
      Nat.ofDigitChars 10 digits start := by
    induction digits generalizing start with
    | nil => rfl
    | cons c rest ih => rw [List.foldl_cons, ih, Nat.ofDigitChars_cons, Nat.mul_comm]
  exact shifted 0

/-- One or more digits make the number that they are a numeral of. -/
theorem digits_numberOf_iff (decimal : ∀ c ∈ digits, c.isDigit = true) (present : digits ≠ [])
    (number : Nat) : Numeral.Digits 10 digits number ↔ numberOf digits = number := by
  have read : Numeral.natural? 10 digits = some (numberOf digits) := by
    rw [numberOf_eq_ofDigitChars]
    cases digits with
    | nil => exact absurd rfl present
    | cons c rest => exact Numeral.accumulate?_digits _ decimal 0
  rw [← Numeral.natural?_eq_some_iff (by decide), read, Option.some.injEq]

/-- The index that is found is that of the source whose number was typed. -/
theorem sourceIndex?_eq_some_iff (decimal : ∀ c ∈ digits, c.isDigit = true) {index : Nat} :
    sourceIndex? (String.ofList digits) count = some index ↔ Picks count digits index := by
  unfold sourceIndex? Picks
  by_cases present : digits = []
  · subst present
    constructor
    · exact nofun
    · rintro ⟨⟨values, some, -, same, -⟩, -⟩
      exact absurd (List.map_eq_nil_iff.mp same.symm) some
  · have typed : (String.ofList digits).isEmpty = false := by
      rw [String.isEmpty_eq_false_iff]
      intro empty
      exact present (String.ofList_eq_empty_iff.mp empty)
    rw [typed, digits_numberOf_iff decimal present, String.toList_ofList]
    simp only [Bool.false_eq_true, ↓reduceIte]
    split
    · rw [Option.some.injEq]
      omega
    · constructor
      · exact nofun
      · omega

theorem sourceIndex?_eq_none_iff (decimal : ∀ c ∈ digits, c.isDigit = true) :
    sourceIndex? (String.ofList digits) count = none ↔ ∀ index, ¬ Picks count digits index := by
  rw [Option.eq_none_iff_forall_ne_some]
  exact forall_congr' fun index => not_congr (sourceIndex?_eq_some_iff decimal)

/-- The decimal of a number of a source picks it. -/
theorem picks_toDigits {index : Nat} (inside : index < count) :
    Picks count (Nat.toDigits 10 (index + 1)) index :=
  ⟨Numeral.digits_toDigits _, inside⟩

end Numbers

end App

/-- The mode after a digit is typed while a source is picked. -/
def Mode.typed (count : Nat) : Mode → Char → Mode
  | .pickUnload digits, c => App.modeAfterDigit (digits.push c) count
  | mode, _ => mode

namespace App

section Typed

variable {count : Nat} {digits : List Char}

/-- Nothing that is typed changes what is to be confirmed. -/
theorem foldl_typed_confirmUnload (index : Nat) :
    digits.foldl (Mode.typed count) (.confirmUnload index) = .confirmUnload index := by
  induction digits with
  | nil => rfl
  | cons c rest ih => exact ih

theorem modeAfterDigit_of_picks (few : count < 10) {c : Char} (digit : c.isDigit = true)
    {index : Nat} (picks : Picks count [c] index) :
    modeAfterDigit ("".push c) count = .confirmUnload index := by
  have found : sourceIndex? ("".push c) count = some index :=
    (sourceIndex?_eq_some_iff (by simpa using digit)).mpr picks
  rw [modeAfterDigit, if_pos few, found]

theorem modeAfterDigit_of_idle (few : count < 10) {c : Char} (digit : c.isDigit = true)
    (idle : ∀ index, ¬ Picks count [c] index) :
    modeAfterDigit ("".push c) count = .pickUnload "" := by
  have missed : sourceIndex? ("".push c) count = none :=
    (sourceIndex?_eq_none_iff (by simpa using digit)).mpr idle
  rw [modeAfterDigit, if_pos few, missed]

/-- With fewer than ten sources the first digit that is the number of one decides. By induction on
the digits before it. -/
theorem foldl_typed_of_firstPicks (few : count < 10) {index : Nat}
    (first : FirstPicks count digits index) (decimal : ∀ c ∈ digits, c.isDigit = true) :
    digits.foldl (Mode.typed count) (.pickUnload "") = .confirmUnload index := by
  induction first with
  | here picks =>
    rw [List.foldl_cons, Mode.typed,
      modeAfterDigit_of_picks few (decimal _ List.mem_cons_self) picks]
    exact foldl_typed_confirmUnload _
  | later idle first ih =>
    rw [List.foldl_cons, Mode.typed,
      modeAfterDigit_of_idle few (decimal _ List.mem_cons_self) idle]
    exact ih fun c member => decimal c (List.mem_cons_of_mem _ member)

/-- With fewer than ten sources digits that are the number of none leave nothing behind. -/
theorem foldl_typed_of_idle (few : count < 10) (idle : ∀ index, ¬ FirstPicks count digits index)
    (decimal : ∀ c ∈ digits, c.isDigit = true) :
    digits.foldl (Mode.typed count) (.pickUnload "") = .pickUnload "" := by
  induction digits with
  | nil => rfl
  | cons c rest ih =>
    have idleHere (index : Nat) : ¬ Picks count [c] index := fun picks => idle index (.here picks)
    rw [List.foldl_cons, Mode.typed,
      modeAfterDigit_of_idle few (decimal _ List.mem_cons_self) idleHere]
    exact ih (fun index first => idle index (.later idleHere first))
      fun d member => decimal d (List.mem_cons_of_mem _ member)

theorem foldl_typed_eq_confirmUnload_iff (few : count < 10)
    (decimal : ∀ c ∈ digits, c.isDigit = true) (index : Nat) :
    digits.foldl (Mode.typed count) (.pickUnload "") = .confirmUnload index ↔
      FirstPicks count digits index := by
  constructor
  · intro confirms
    by_cases some : ∃ other, FirstPicks count digits other
    · obtain ⟨other, first⟩ := some
      rw [foldl_typed_of_firstPicks few first decimal] at confirms
      obtain rfl := Mode.confirmUnload.inj confirms
      exact first
    · rw [foldl_typed_of_idle few (not_exists.mp some) decimal] at confirms
      contradiction
  · exact fun first => foldl_typed_of_firstPicks few first decimal

/-- With ten sources or more everything that is typed is kept. -/
theorem foldl_typed_of_many (many : 10 ≤ count) (before : String) :
    digits.foldl (Mode.typed count) (.pickUnload before) =
      .pickUnload (String.ofList (before.toList ++ digits)) := by
  induction digits generalizing before with
  | nil => rw [List.foldl_nil, List.append_nil, String.ofList_toList]
  | cons c rest ih =>
    rw [List.foldl_cons, Mode.typed, modeAfterDigit, if_neg (Nat.not_lt.mpr many), ih,
      String.toList_push, List.append_assoc, List.singleton_append]

end Typed

namespace Event

/-- The key that is pressed, if one is. -/
def key? : Event → Option Key
  | .press _ key => some key
  | _ => none

end Event

end App

/-- The character that a key writes, if it does. -/
def Key.character? : Key → Option Char
  | .char c _ => some c
  | _ => none

namespace App

/-- The keys that are pressed in the events write the text. The clock may be looked at and the
screen drawn in between. -/
def Types (text : List Char) (events : List Event) : Prop :=
  (events.filterMap Event.key?).map Key.character? = text.map some

section Types

variable {text : List Char} {events : List Event}

/-- Typing a text is typing its first character and then the others. -/
theorem Types.uncons {c : Char} (types : Types (c :: text) events) :
    ∃ idle now control later, events = idle ++ .press now (.char c control) :: later ∧
      (∀ event ∈ idle, event.key? = none) ∧ Types text later := by
  obtain ⟨key, keys, pressed, writes, rest⟩ := List.map_eq_cons_iff.mp types
  obtain ⟨idle, event, later, split, quiet, presses, remaining⟩ :=
    List.filterMap_eq_cons_iff.mp pressed
  cases event with
  | press now written =>
    obtain rfl := Option.some.inj presses
    cases written with
    | char d control =>
      obtain rfl := Option.some.inj writes
      refine ⟨idle, now, control, later, split, quiet, ?_⟩
      rw [Types, remaining]
      exact rest
    | _ => contradiction
  | tick now => contradiction
  | draw width height => contradiction

/-- Typing nothing is pressing no key. -/
theorem Types.idle (types : Types [] events) : ∀ event ∈ events, event.key? = none :=
  List.filterMap_eq_nil_iff.mp (List.map_eq_nil_iff.mp types)

theorem types_map_press (now : Nat) (text : List Char) :
    Types text (text.map fun c => .press now (.char c false)) := by
  induction text with
  | nil => rfl
  | cons c rest ih => exact congrArg (some c :: ·) ih

end Types

/-- A digit neither confirms nor refuses. -/
theorem not_answers_of_isDigit {c : Char} (digit : c.isDigit = true) (control : Bool) :
    (Key.char c control).confirms = false ∧ (Key.char c control).refuses = false := by
  unfold Key.confirms Key.refuses
  constructor <;> split <;> first | rfl | (exfalso; simp_all)

end App

/-- Whether a source is being chosen. -/
def Mode.Chooses : Mode → Prop
  | .pickUnload _ | .confirmUnload _ => True
  | .normal | .openPath _ => False

theorem Mode.chooses_typed {mode : Mode} (chooses : mode.Chooses) (count : Nat) (c : Char) :
    (mode.typed count c).Chooses := by
  cases mode with
  | pickUnload digits =>
    unfold typed App.modeAfterDigit
    dsimp only
    repeat' split
    all_goals trivial
  | confirmUnload index => trivial
  | normal => exact chooses
  | openPath typed => exact chooses

/-- A visit has come to a mode with some sources loaded, and no step is being taken. -/
structure Visit.Stands {σ : Type} (visit : Visit σ) (sources : List Source) (mode : Mode) :
    Prop where
  free : visit.app.session.pacer.stepping = false
  sources : visit.app.session.sources = sources
  mode : visit.app.mode = mode

namespace Visit.Stands

variable {σ : Type} [Engine σ] (surroundings : Surroundings) {visit : Visit σ}
  {sources : List Source} {mode : Mode}

/-- A key that asks nothing of the session changes the mode only. -/
theorem press (stands : visit.Stands sources mode) {now : Nat} {key : Key}
    (silent : visit.app.asks? now key = none) :
    (visit.next surroundings (.press now key)).Stands sources (visit.app.modeAfter key) := by
  obtain ⟨session, after, _⟩ :=
    visit.app.respond_eq surroundings visit.exchange stands.free (.press now key)
  rw [App.Event.asks?, silent] at session
  have same : (visit.next surroundings (.press now key)).app.session = visit.app.session := session
  exact ⟨same ▸ stands.free, same ▸ stands.sources, after⟩

/-- The clock and the screen leave the mode and the sources alone. -/
theorem next_idle (stands : visit.Stands sources mode) {event : App.Event}
    (idle : event.key? = none) : (visit.next surroundings event).Stands sources mode := by
  obtain ⟨session, after, _⟩ :=
    visit.app.respond_eq surroundings visit.exchange stands.free event
  cases event with
  | press now key => contradiction
  | tick now =>
    have same : (visit.next surroundings (.tick now)).app.session =
        visit.app.session.answered surroundings visit.exchange (some (.tick now)) := session
    refine ⟨?_, ?_, after.trans stands.mode⟩
    · rw [same]
      exact Session.stepping_answered surroundings visit.exchange stands.free _
    · rw [same, Session.sources_tick surroundings visit.exchange stands.free now]
      exact stands.sources
  | draw width height => exact ⟨stands.free, stands.sources, after.trans stands.mode⟩

theorem foldl_idle (stands : visit.Stands sources mode) {events : List App.Event}
    (idle : ∀ event ∈ events, event.key? = none) :
    (events.foldl (Visit.next surroundings) visit).Stands sources mode := by
  induction events generalizing visit with
  | nil => exact stands
  | cons event rest ih =>
    exact ih (stands.next_idle surroundings (idle event List.mem_cons_self))
      fun other member => idle other (List.mem_cons_of_mem _ member)

/-- A digit that is typed while a source is chosen changes the mode only. -/
theorem next_digit (stands : visit.Stands sources mode) (chooses : mode.Chooses) {c : Char}
    (digit : c.isDigit = true) (now : Nat) (control : Bool) :
    (visit.next surroundings (.press now (.char c control))).Stands sources
      (mode.typed sources.length c) := by
  obtain ⟨unconfirmed, unrefused⟩ := App.not_answers_of_isDigit digit control
  have silent : visit.app.asks? now (.char c control) = none := by
    unfold App.asks?
    rw [stands.mode]
    cases mode with
    | pickUnload digits => rfl
    | confirmUnload index =>
      dsimp only
      rw [unconfirmed]
      rfl
    | normal => exact chooses.elim
    | openPath typed => exact chooses.elim
  have after : visit.app.modeAfter (.char c control) = mode.typed sources.length c := by
    unfold App.modeAfter
    rw [stands.mode]
    cases mode with
    | pickUnload digits =>
      dsimp only [App.pressPickUnload]
      rw [if_pos digit, stands.sources]
      rfl
    | confirmUnload index =>
      dsimp only
      rw [unconfirmed, unrefused]
      rfl
    | normal => exact chooses.elim
    | openPath typed => exact chooses.elim
  exact after ▸ stands.press surroundings silent

/-- Digits that are typed while a source is chosen change the mode one after another. By induction
on the digits; what happens before each of them is idle. -/
theorem foldl_digits (stands : visit.Stands sources mode) (chooses : mode.Chooses)
    {digits : List Char} (decimal : ∀ c ∈ digits, c.isDigit = true) {events : List App.Event}
    (types : App.Types digits events) :
    (events.foldl (Visit.next surroundings) visit).Stands sources
      (digits.foldl (Mode.typed sources.length) mode) := by
  induction digits generalizing visit mode events with
  | nil => exact stands.foldl_idle surroundings types.idle
  | cons c rest ih =>
    obtain ⟨idle, now, control, later, rfl, quiet, remaining⟩ := types.uncons
    rw [List.foldl_append, List.foldl_cons]
    have typed := (stands.foldl_idle surroundings quiet).next_digit surroundings chooses
      (decimal c List.mem_cons_self) now control
    exact ih typed (Mode.chooses_typed chooses _ _)
      (fun d member => decimal d (List.mem_cons_of_mem _ member)) remaining

/-- Whoever asks to take a source out chooses one if there are several. -/
theorem next_ask (stands : visit.Stands sources .normal) (choice : 2 ≤ sources.length) (now : Nat)
    (control : Bool) :
    (visit.next surroundings (.press now (.char 'u' control))).Stands sources
      (.pickUnload "") := by
  have silent : visit.app.asks? now (.char 'u' control) = none := by
    unfold App.asks?
    rw [stands.mode]
    rfl
  have after : visit.app.modeAfter (.char 'u' control) = .pickUnload "" := by
    unfold App.modeAfter
    rw [stands.mode]
    dsimp only [App.modeAfterNormal, App.askUnload]
    rw [stands.sources]
    match count : sources.length, choice with
    | _ + 2, _ => rfl
  exact after ▸ stands.press surroundings silent

/-- Entering what was typed picks a source or clears the input. -/
theorem next_enter {digits : String} (stands : visit.Stands sources (.pickUnload digits))
    (now : Nat) :
    (visit.next surroundings (.press now .enter)).Stands sources
      (match App.sourceIndex? digits sources.length with
        | some index => .confirmUnload index
        | none => .pickUnload "") := by
  have silent : visit.app.asks? now .enter = none := by
    unfold App.asks?
    rw [stands.mode]
  have after : visit.app.modeAfter .enter = match App.sourceIndex? digits sources.length with
      | some index => .confirmUnload index
      | none => .pickUnload "" := by
    unfold App.modeAfter
    rw [stands.mode]
    dsimp only [App.pressPickUnload]
    rw [stands.sources]
    cases App.sourceIndex? digits sources.length <;> rfl
  exact after ▸ stands.press surroundings silent

end Visit.Stands

end UrclDebugger
