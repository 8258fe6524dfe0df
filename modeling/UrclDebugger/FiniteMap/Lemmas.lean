import UrclDebugger.FiniteMap

/-!
# Lookups in finite maps

A finite map is seen through `get?`. The main statements say what each operation does to lookups,
that `toList` lists the bindings in strictly ascending key order, and that two maps with the same
lookups are equal (`FiniteMap.ext`).
-/

namespace UrclDebugger

namespace Entries

variable {κ β γ : Type} [LT κ]

section Lookup

variable [DecidableEq κ]

@[simp] theorem get?_nil {bound : Option κ} (wanted : κ) :
    (nil : Entries κ β bound).get? wanted = none := rfl

@[simp] theorem get?_cons {bound : Option κ} (key : κ) (above : IsAbove bound key) (value : β)
    (rest : Entries κ β (some key)) (wanted : κ) :
    (cons key above value rest).get? wanted =
      if wanted = key then some value else rest.get? wanted := rfl

theorem get?_mapValues (f : β → γ) {bound : Option κ} (entries : Entries κ β bound) (wanted : κ) :
    (entries.mapValues f).get? wanted = (entries.get? wanted).map f := by
  induction entries with
  | nil => rfl
  | cons key above value rest ih =>
    simp only [mapValues, get?_cons, ih]
    split <;> rfl

/-- Looking up in the list of the bindings is looking up in the map. -/
theorem lookup_map_toList (f : β → γ) {bound : Option κ} (entries : Entries κ β bound)
    (wanted : κ) :
    (entries.toList.map fun (key, value) => (key, f value)).lookup wanted =
      (entries.get? wanted).map f := by
  induction entries with
  | nil => rfl
  | cons key above value rest ih =>
    rw [toList, List.map_cons, List.lookup_cons, get?_cons]
    by_cases here : wanted = key
    · simp [here]
    · have passed : (wanted == key) = false := beq_eq_false_iff_ne.mpr here
      simp only [passed, here, ↓reduceIte, ih]

end Lookup

theorem length_toList {bound : Option κ} (entries : Entries κ β bound) :
    entries.toList.length = entries.size := by
  induction entries with
  | nil => rfl
  | cons key above value rest ih => simp [toList, size, ih]

theorem isEmpty_iff {bound : Option κ} (entries : Entries κ β bound) :
    entries.isEmpty = true ↔ entries = ∅ := by
  cases entries with
  | nil => exact ⟨fun _ => rfl, fun _ => rfl⟩
  | cons => exact ⟨nofun, nofun⟩

section Order

variable [KeyOrder κ]

/-- Every key that is listed lies above the bound. -/
theorem isAbove_of_mem_toList {bound : Option κ} (entries : Entries κ β bound)
    {entry : κ × β} (member : entry ∈ entries.toList) : IsAbove bound entry.1 := by
  induction entries with
  | nil => cases member
  | cons key above value rest ih =>
    rcases List.mem_cons.mp member with rfl | later
    · exact above
    · exact fun lower bounds => KeyOrder.trans _ _ _ (above lower bounds) (ih later key rfl)

/-- The bindings are listed in strictly ascending key order. -/
theorem pairwise_toList {bound : Option κ} (entries : Entries κ β bound) :
    entries.toList.Pairwise (·.1 < ·.1) := by
  induction entries with
  | nil => exact .nil
  | cons key above value rest ih =>
    exact .cons (fun entry member => isAbove_of_mem_toList rest member key rfl) ih

/-- No key is listed twice. -/
theorem nodup_keys {bound : Option κ} (entries : Entries κ β bound) : entries.keys.Nodup := by
  have ascending : entries.keys.Pairwise (· < ·) := List.pairwise_map.mpr entries.pairwise_toList
  refine ascending.imp ?_
  intro a b below same
  exact KeyOrder.irrefl b (same ▸ below)

variable [DecidableEq κ]

/-- A key that does not lie above the bound is not bound. -/
theorem get?_eq_none_of_not_isAbove {bound : Option κ} (entries : Entries κ β bound) {wanted : κ}
    (notAbove : ¬ IsAbove bound wanted) : entries.get? wanted = none := by
  induction entries with
  | nil => rfl
  | cons key above value rest ih =>
    have different : wanted ≠ key := fun same => notAbove (same ▸ above)
    rw [get?_cons, if_neg different]
    exact ih fun aboveKey => notAbove fun lower bounds =>
      KeyOrder.trans _ _ _ (above lower bounds) (aboveKey key rfl)

/-- A key below the first one is not bound. -/
theorem get?_cons_of_lt {bound : Option κ} {key : κ} {above : IsAbove bound key} {value : β}
    {rest : Entries κ β (some key)} {wanted : κ} (below : wanted < key) :
    (cons key above value rest).get? wanted = none := by
  have different : wanted ≠ key := fun same => KeyOrder.irrefl key (same ▸ below)
  rw [get?_cons, if_neg different]
  exact rest.get?_eq_none_of_not_isAbove fun above =>
    KeyOrder.irrefl wanted (KeyOrder.trans _ _ _ below (above key rfl))

/-- A key is not bound behind itself. -/
theorem get?_rest {key : κ} (rest : Entries κ β (some key)) : rest.get? key = none :=
  rest.get?_eq_none_of_not_isAbove fun above => KeyOrder.irrefl key (above key rfl)

/-- Listing and looking up agree. -/
theorem mem_toList {bound : Option κ} (entries : Entries κ β bound) (key : κ) (value : β) :
    (key, value) ∈ entries.toList ↔ entries.get? key = some value := by
  induction entries with
  | nil => simp [toList]
  | cons first above old rest ih =>
    simp only [toList, List.mem_cons, Prod.mk.injEq, get?_cons, ih]
    by_cases same : key = first
    · subst same
      simp [get?_rest, eq_comm]
    · simp [same]

theorem mem_keys {bound : Option κ} (entries : Entries κ β bound) (key : κ) :
    key ∈ entries.keys ↔ (entries.get? key).isSome = true := by
  simp only [keys, List.mem_map, Option.isSome_iff_exists]
  constructor
  · rintro ⟨⟨_, value⟩, member, rfl⟩
    exact ⟨value, (mem_toList entries _ value).mp member⟩
  · rintro ⟨value, found⟩
    exact ⟨(key, value), (mem_toList entries key value).mpr found, rfl⟩

/-- Two entry lists with the same lookups are equal. -/
theorem ext {bound : Option κ} {a b : Entries κ β bound}
    (same : ∀ key, a.get? key = b.get? key) : a = b := by
  induction a with
  | nil =>
    cases b with
    | nil => rfl
    | cons key above value rest => simpa using same key
  | cons key above value rest ih =>
    cases b with
    | nil => simpa using same key
    | cons other otherAbove old others =>
      have notBelow : ¬ key < other := fun below => by
        simpa [get?_cons_of_lt below] using same key
      have notAbove : ¬ other < key := fun below => by
        simpa [get?_cons_of_lt below] using same other
      have equal : key = other := Decidable.byContradiction fun different =>
        notAbove (KeyOrder.connex _ _ notBelow different)
      subst equal
      have equalValues : value = old := by simpa using same key
      subst equalValues
      rw [ih fun wanted => ?_]
      by_cases here : wanted = key
      · rw [here, get?_rest, get?_rest]
      · simpa [here] using same wanted

variable [DecidableLT κ]

theorem get?_alterAbove (key : κ) (f : Option β → β) {bound : Option κ}
    (above : IsAbove bound key) (entries : Entries κ β bound) (wanted : κ) :
    (entries.alterAbove key f above).get? wanted =
      if wanted = key then some (f (entries.get? key)) else entries.get? wanted := by
  induction entries with
  | nil => rfl
  | cons first firstAbove old rest ih =>
    rw [alterAbove]
    split
    · rename_i before
      rw [get?_cons_of_lt before]
      rfl
    · split
      · rename_i same
        subst same
        simp only [get?_cons, ↓reduceIte]
        split <;> rfl
      · rename_i different
        simp only [get?_cons, if_neg different]
        by_cases here : wanted = first
        · have : wanted ≠ key := fun equal => different (equal.symm.trans here)
          simp [here, Ne.symm different]
        · simpa [here] using ih _

end Order

end Entries

namespace FiniteMap

variable {κ β : Type} [LT κ] [DecidableEq κ]

@[simp] theorem get?_empty (wanted : κ) : (∅ : FiniteMap κ β).get? wanted = none := rfl

variable [KeyOrder κ]

/-- Two maps with the same lookups are equal. -/
theorem ext {a b : FiniteMap κ β} (same : ∀ key, a.get? key = b.get? key) : a = b :=
  Entries.ext same

variable [DecidableLT κ]

theorem get?_alter (entries : FiniteMap κ β) (key : κ) (f : Option β → β) (wanted : κ) :
    (alter entries key f).get? wanted =
      if wanted = key then some (f (entries.get? key)) else entries.get? wanted :=
  Entries.get?_alterAbove ..

theorem get?_insert (entries : FiniteMap κ β) (key : κ) (value : β) (wanted : κ) :
    (insert entries key value).get? wanted =
      if wanted = key then some value else entries.get? wanted :=
  get?_alter ..

@[simp] theorem get?_insert_self (entries : FiniteMap κ β) (key : κ) (value : β) :
    (insert entries key value).get? key = some value := by
  rw [get?_insert, if_pos rfl]

theorem get?_insert_of_ne (entries : FiniteMap κ β) {key wanted : κ} (value : β)
    (different : wanted ≠ key) : (insert entries key value).get? wanted = entries.get? wanted := by
  rw [get?_insert, if_neg different]

/-- Binding a key to the value that it has changes nothing. -/
theorem insert_of_get? {entries : FiniteMap κ β} {key : κ} {value : β}
    (found : entries.get? key = some value) : insert entries key value = entries := by
  apply ext
  intro wanted
  rw [get?_insert]
  split
  · rename_i same
    rw [same, found]
  · rfl

/-- Of two bindings of one key the later one stays. -/
theorem insert_insert (entries : FiniteMap κ β) (key : κ) (first second : β) :
    insert (insert entries key first) key second = insert entries key second := by
  apply ext
  intro wanted
  simp only [get?_insert]
  split <;> rfl

/-- Bindings of different keys can be made in either order. -/
theorem insert_comm (entries : FiniteMap κ β) {first second : κ} (different : first ≠ second)
    (a b : β) :
    insert (insert entries first a) second b = insert (insert entries second b) first a := by
  apply ext
  intro wanted
  simp only [get?_insert]
  by_cases here : wanted = second
  · simp [here, Ne.symm different]
  · simp [here]

/-- A change of one key binds it to what is made of its value. -/
theorem alter_eq_insert (entries : FiniteMap κ β) (key : κ) (f : Option β → β) :
    alter entries key f = insert entries key (f (entries.get? key)) := by
  apply ext
  intro wanted
  rw [get?_alter, get?_insert]

/-- A change of one key and a binding of another can be made in either order. -/
theorem alter_insert_of_ne (entries : FiniteMap κ β) {key other : κ} (different : key ≠ other)
    (f : Option β → β) (value : β) :
    alter (insert entries other value) key f = insert (alter entries key f) other value := by
  apply ext
  intro wanted
  simp only [get?_alter, get?_insert, if_neg different]
  by_cases here : wanted = other
  · simp [here, Ne.symm different]
  · simp [here]

/-- Of many bindings made one after another the last one of a key stays. -/
theorem get?_foldl_insert {α : Type} (key : α → κ) (value : α → β) (items : List α)
    (entries : FiniteMap κ β) (wanted : κ) :
    (items.foldl (fun entries item => insert entries (key item) (value item)) entries).get? wanted =
      ((items.reverse.find? fun item => key item = wanted).map value).or (entries.get? wanted) := by
  induction items generalizing entries with
  | nil => rfl
  | cons item rest ih =>
    rw [List.foldl_cons, ih, get?_insert, List.reverse_cons, List.find?_append]
    by_cases here : wanted = key item
    · subst here
      cases rest.reverse.find? fun other => key other = key item <;> simp
    · cases rest.reverse.find? fun other => key other = wanted <;> simp [here, Ne.symm here]

end FiniteMap

end UrclDebugger
