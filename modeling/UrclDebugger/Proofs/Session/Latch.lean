/-!
# Flags that are set and reset by events

Whether a program runs by itself, and whether a step is being taken, are flags that some events set
and others reset. Such a flag is up exactly if an event has set it and none has reset it since
(`Latch.foldl_next_eq_true_iff`), or if it was up before and none has reset it at all.
-/

namespace UrclDebugger.Latch

variable {α : Type} {sets resets : α → Bool}

/-- A flag after one more event. -/
def next (sets resets : α → Bool) (flag : Bool) (event : α) : Bool :=
  sets event || flag && !resets event

theorem next_eq_true_iff {flag : Bool} {event : α} :
    next sets resets flag event = true ↔
      sets event = true ∨ flag = true ∧ resets event = false := by
  simp [next]

/-- By induction on the events: the first one either sets the flag, or it is one more that has not
reset it. -/
theorem foldl_next_eq_true_iff {events : List α} {before : Bool} :
    events.foldl (next sets resets) before = true ↔
      (∃ earlier event later, events = earlier ++ event :: later ∧ sets event = true ∧
        ∀ other ∈ later, resets other = false) ∨
      before = true ∧ ∀ event ∈ events, resets event = false := by
  induction events generalizing before with
  | nil => simp
  | cons first rest ih =>
    rw [List.foldl_cons, ih, next_eq_true_iff]
    constructor
    · rintro (⟨earlier, event, later, rfl, set, kept⟩ | ⟨set | ⟨up, kept⟩, others⟩)
      · exact .inl ⟨first :: earlier, event, later, rfl, set, kept⟩
      · exact .inl ⟨[], first, rest, rfl, set, others⟩
      · exact .inr ⟨up, List.forall_mem_cons.mpr ⟨kept, others⟩⟩
    · rintro (⟨earlier, event, later, same, set, kept⟩ | ⟨up, kept⟩)
      · cases earlier with
        | nil =>
          obtain ⟨rfl, rfl⟩ := List.cons.inj same
          exact .inr ⟨.inl set, kept⟩
        | cons _ earlier =>
          obtain ⟨rfl, rfl⟩ := List.cons.inj same
          exact .inl ⟨earlier, event, later, rfl, set, kept⟩
      · obtain ⟨here, others⟩ := List.forall_mem_cons.mp kept
        exact .inr ⟨.inr ⟨up, here⟩, others⟩

end UrclDebugger.Latch
