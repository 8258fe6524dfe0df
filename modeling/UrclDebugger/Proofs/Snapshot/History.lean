import UrclDebugger.Proofs.Script.Decimal
import UrclDebugger.Proofs.Snapshot.Extract

/-!
# What a history keeps

Observing a snapshot with distinct entries compares every entry with what was kept for its key and
then keeps the entry's text; keys that the snapshot does not show keep what they had. A register is
kept as a text, but texts of integers and booleans are as good as the values themselves
(`Value.render_inj`).

A history that has observed snapshots one after another is the latest sighting of every entry
(`History.Remembers`), so a change tells how an entry compares with the latest snapshot before that
held it; snapshots without the entry do not count.
-/

namespace UrclDebugger

/-- A key is looked up with success exactly when an entry has it. -/
theorem isSome_lookup {κ β : Type} [DecidableEq κ] (entries : List (κ × β)) (key : κ) :
    (entries.lookup key).isSome = true ↔ key ∈ entries.map Prod.fst := by
  induction entries with
  | nil => exact ⟨nofun, nofun⟩
  | cons entry rest ih =>
    rw [List.lookup_cons, List.map_cons, List.mem_cons]
    by_cases here : key = entry.1
    · simp [here]
    · have passed : (key == entry.1) = false := beq_eq_false_iff_ne.mpr here
      simp [passed, here, ih]

namespace Value

/-- Both flags are written with a letter. -/
theorem letter_mem_render_bool (flag : Bool) : 'e' ∈ (render (.bool flag)).toList := by
  cases flag <;> decide

/-- Two registers with one text have one value. -/
theorem render_inj {a b : Value} (registerA : a.isRegister = true)
    (registerB : b.isRegister = true) : a.render = b.render ↔ a = b := by
  refine ⟨fun same => ?_, congrArg render⟩
  match a, b with
  | .int a, .int b => exact congrArg int (Word.toDecimal_inj.mp same)
  | .bool a, .bool b => cases a <;> cases b <;> first | rfl | contradiction
  | .int a, .bool b =>
    have lettered : 'e' ∈ (render (.int a)).toList := same ▸ letter_mem_render_bool b
    exact absurd lettered (Word.letter_notMem_toDecimal a)
  | .bool a, .int b =>
    have lettered : 'e' ∈ (render (.int b)).toList := same ▸ letter_mem_render_bool a
    exact absurd lettered (Word.letter_notMem_toDecimal b)

end Value

namespace History

/-- Only what was kept before the first entry is compared with, as no key comes twice. By induction
on the entries. -/
theorem get?_observeEntries {κ : Type} [LT κ] [DecidableEq κ] [DecidableLT κ] [KeyOrder κ]
    (entries : List (κ × String)) (distinct : (entries.map Prod.fst).Nodup)
    (changes : FiniteMap κ Change) (kept : FiniteMap κ String) (wanted : κ) :
    (observeEntries entries (changes, kept)).1.get? wanted =
        ((entries.lookup wanted).map (compare (kept.get? wanted))).or (changes.get? wanted) ∧
      (observeEntries entries (changes, kept)).2.get? wanted =
        (entries.lookup wanted).or (kept.get? wanted) := by
  induction entries generalizing changes kept with
  | nil => exact ⟨rfl, rfl⟩
  | cons entry rest ih =>
    obtain ⟨key, text⟩ := entry
    obtain ⟨fresh, distinctRest⟩ := List.nodup_cons.mp distinct
    rw [observeEntries, (ih distinctRest _ _).1, (ih distinctRest _ _).2]
    by_cases here : wanted = key
    · subst here
      -- the key does not come again, so nothing is compared with its new text
      have absent : rest.lookup wanted = none := by
        rw [← Option.not_isSome_iff_eq_none, isSome_lookup]
        exact fresh
      simp [absent]
    · have passed : (wanted == key) = false := beq_eq_false_iff_ne.mpr here
      simp [List.lookup_cons, passed, FiniteMap.get?_insert_of_ne _ _ here]

theorem lookup_registerTexts (snapshot : Snapshot) (name : String) :
    (registerTexts snapshot).lookup name = (snapshot.register? name).map Value.render := by
  unfold registerTexts Snapshot.register?
  induction snapshot.registers with
  | nil => rfl
  | cons register rest ih =>
    rw [List.map_cons, List.lookup_cons, List.find?_cons]
    by_cases here : name = register.name
    · simp [here, Register.text]
    · have passed : (name == register.name) = false := beq_eq_false_iff_ne.mpr here
      simp [passed, Ne.symm here, ih]

theorem keys_registerTexts (snapshot : Snapshot) :
    (registerTexts snapshot).map Prod.fst = snapshot.registers.map Register.name := by
  rw [registerTexts, List.map_map]
  rfl

section Observe

variable {snapshot : Snapshot} (distinct : snapshot.Distinct) (history : History)

include distinct

theorem observe_registers (name : String) :
    (history.observe snapshot).1.registers.get? name =
        (snapshot.register? name).map (fun value =>
          compare (history.registers.get? name) value.render) ∧
      (history.observe snapshot).2.registers.get? name =
        ((snapshot.register? name).map Value.render).or (history.registers.get? name) := by
  have named : ((registerTexts snapshot).map Prod.fst).Nodup :=
    keys_registerTexts snapshot ▸ distinct.names
  have observed := get?_observeEntries _ named ∅ history.registers name
  rw [lookup_registerTexts, FiniteMap.get?_empty, Option.or_none, Option.map_map] at observed
  exact observed

theorem observe_memory (address : Word) :
    (history.observe snapshot).1.memory.get? address =
        (snapshot.cell? address).map (compare (history.memory.get? address)) ∧
      (history.observe snapshot).2.memory.get? address =
        (snapshot.cell? address).or (history.memory.get? address) := by
  have addressed : ((cellTexts snapshot).map Prod.fst).Nodup :=
    snapshot.addresses_eq ▸ distinct.addresses
  have observed := get?_observeEntries _ addressed ∅ history.memory address
  rw [FiniteMap.get?_empty, Option.or_none] at observed
  exact observed

end Observe

end History

namespace Snapshot

theorem isSome_register? (snapshot : Snapshot) (name : String) :
    (snapshot.register? name).isSome = true ↔ name ∈ snapshot.registers.map Register.name := by
  unfold register?
  rw [Option.isSome_map, List.find?_isSome, List.mem_map]
  simp only [decide_eq_true_eq]

theorem isSome_cell? (snapshot : Snapshot) (address : Word) :
    (snapshot.cell? address).isSome = true ↔ address ∈ snapshot.addresses := by
  rw [addresses_eq]
  exact isSome_lookup _ _

/-- A register that is listed is the one that is found by its name. -/
theorem register?_of_mem {snapshot : Snapshot} (distinct : snapshot.Distinct) {register : Register}
    (listed : register ∈ snapshot.registers) :
    snapshot.register? register.name = some register.value := by
  obtain ⟨before, after, split⟩ := List.append_of_mem listed
  have named := distinct.names
  rw [split, List.map_append, List.map_cons] at named
  -- no register before the listed one has its name
  have passed : ∀ other ∈ before, ¬ decide (other.name = register.name) = true := by
    intro other earlier same
    have apart := (List.nodup_append.mp named).2.2
    exact apart _ (List.mem_map_of_mem earlier) _ List.mem_cons_self (of_decide_eq_true same)
  unfold register?
  rw [split, List.find?_append, List.find?_eq_none.mpr passed]
  simp

/-- What is found by a name is a register. -/
theorem isRegister_of_register? {snapshot : Snapshot} (distinct : snapshot.Distinct) {name : String}
    {value : Value} (found : snapshot.register? name = some value) : value.isRegister = true := by
  obtain ⟨register, listed, rfl⟩ := Option.map_eq_some_iff.mp found
  exact distinct.kinds register (List.mem_of_find?_eq_some listed)

end Snapshot

/-- A change tells how a value compares with earlier sightings, the latest of which come first. -/
structure Change.Tells {α : Type} (change : Option Change) (sightings : List (Option α))
    (value : α) : Prop where
  new : change = some .new ↔ ∀ sighting ∈ sightings, sighting = none
  changed : change = some .changed ↔ ∃ last, sightings.findSome? id = some last ∧ last ≠ value
  unchanged : change = some .unchanged ↔ sightings.findSome? id = some value

/-- Comparing the text of the latest sighting tells how values compare whose texts tell them
apart. -/
theorem Change.tells_compare {α : Type} (text : α → String) (sightings : List (Option α))
    (value : α) (apart : ∀ last ∈ sightings.findSome? id, text last = text value ↔ last = value) :
    Tells (some (History.compare ((sightings.findSome? id).map text) (text value))) sightings
      value := by
  cases seen : sightings.findSome? id with
  | none =>
    have unseen : ∀ sighting ∈ sightings, sighting = none := List.findSome?_eq_none_iff.mp seen
    constructor
    · exact ⟨fun _ => unseen, fun _ => rfl⟩
    · simp [History.compare, seen]
    · simp [History.compare, seen]
  | some last =>
    have sighted : ¬ ∀ sighting ∈ sightings, sighting = none := by
      intro unseen
      have missing : sightings.findSome? id = none := List.findSome?_eq_none_iff.mpr unseen
      rw [missing] at seen
      contradiction
    have decided := apart last seen
    by_cases same : last = value
    · subst same
      constructor <;> simp [History.compare, seen, sighted]
    · have differ : text last ≠ text value := fun equal => same (decided.mp equal)
      constructor <;> simp [History.compare, seen, sighted, same, differ]

namespace History

/-- A history keeps the latest sighting of every entry of the snapshots shown, the latest of which
come first. -/
structure Remembers (history : History) (shown : List Snapshot) : Prop where
  distinct : ∀ snapshot ∈ shown, snapshot.Distinct
  registers : ∀ name, history.registers.get? name =
    ((shown.map (Snapshot.register? · name)).findSome? id).map Value.render
  memory : ∀ address, history.memory.get? address =
    (shown.map (Snapshot.cell? · address)).findSome? id

theorem remembers_nil : ({} : History).Remembers [] :=
  ⟨nofun, fun _ => rfl, fun _ => rfl⟩

section Remembers

variable {history : History} {shown : List Snapshot} {snapshot : Snapshot}

/-- A snapshot that is observed is the latest sighting of what it shows. -/
theorem Remembers.observe (held : history.Remembers shown) (distinct : snapshot.Distinct) :
    (history.observe snapshot).2.Remembers (snapshot :: shown) where
  distinct := List.forall_mem_cons.mpr ⟨distinct, held.distinct⟩
  registers name := by
    rw [(observe_registers distinct history name).2, held.registers, List.map_cons,
      List.findSome?_cons]
    cases snapshot.register? name <;> rfl
  memory address := by
    rw [(observe_memory distinct history address).2, held.memory, List.map_cons,
      List.findSome?_cons]
    cases snapshot.cell? address <;> rfl

/-- What is found as the latest sighting of a register is one. -/
theorem Remembers.isRegister (held : history.Remembers shown) {name : String} {value : Value}
    (last : (shown.map (Snapshot.register? · name)).findSome? id = some value) :
    value.isRegister = true := by
  obtain ⟨sighting, sighted, seen⟩ := List.exists_of_findSome?_eq_some last
  obtain ⟨earlier, present, rfl⟩ := List.mem_map.mp sighted
  exact Snapshot.isRegister_of_register? (held.distinct earlier present) seen

theorem Remembers.tells_register (held : history.Remembers shown) (distinct : snapshot.Distinct)
    {register : Register} (listed : register ∈ snapshot.registers) :
    Change.Tells ((history.observe snapshot).1.registers.get? register.name)
      (shown.map (Snapshot.register? · register.name)) register.value := by
  rw [(observe_registers distinct history register.name).1,
    Snapshot.register?_of_mem distinct listed, Option.map_some, held.registers]
  apply Change.tells_compare
  intro last seen
  exact Value.render_inj (held.isRegister seen) (distinct.kinds register listed)

theorem Remembers.tells_cell (held : history.Remembers shown) (distinct : snapshot.Distinct)
    {address : Word} {text : String} (listed : snapshot.cell? address = some text) :
    Change.Tells ((history.observe snapshot).1.memory.get? address)
      (shown.map (Snapshot.cell? · address)) text := by
  rw [(observe_memory distinct history address).1, listed, Option.map_some, held.memory]
  have compared := Change.tells_compare id (shown.map (Snapshot.cell? · address)) text
    fun _ _ => Iff.rfl
  rw [Option.map_id_fun] at compared
  exact compared

end Remembers

end History

end UrclDebugger
