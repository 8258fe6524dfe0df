import UrclDebugger.FiniteMap
import UrclDebugger.Word

/-!
# Values

Every variable of a debugged program holds a value of one of eight kinds. Integers and booleans
are registers, the program is a list of objects, the stack is a list and memory is a map from
addresses. A value has one text, which is what a pane shows and what `str` gives.
-/

namespace UrclDebugger

/-- What a variable of the debugged program holds. -/
inductive Value where
  /-- A signed word. -/
  | int (value : Word)
  | bool (value : Bool)
  | text (value : String)
  /-- A sequence, such as the program or the stack. -/
  | list (items : Array Value)
  /-- Cells by address, such as the memory. -/
  | map (cells : Entries Word Value none)
  /-- Values by field name, such as an instruction. -/
  | object (fields : Entries String Value none)
  /-- Something that can be called, by the name of what it runs. -/
  | routine (name : String)
  /-- The value that stands for the absence of one. -/
  | absent

namespace Value

/-- The kinds of values. -/
inductive Kind where
  | int
  | bool
  | text
  | list
  | map
  | object
  | routine
  | absent
  deriving DecidableEq

/-- The name of a kind in messages. -/
def Kind.name : Kind → String
  | .int => "int"
  | .bool => "bool"
  | .text => "str"
  | .list => "list"
  | .map => "map"
  | .object => "object"
  | .routine => "routine"
  | .absent => "none"

/-- The kind of a value. -/
def kind : Value → Kind
  | .int _ => .int
  | .bool _ => .bool
  | .text _ => .text
  | .list _ => .list
  | .map _ => .map
  | .object _ => .object
  | .routine _ => .routine
  | .absent => .absent

instance : Inhabited Value := ⟨.absent⟩

/-- The word of an integer. -/
def int? : Value → Option Word
  | .int value => some value
  | _ => none

/-- The flag of a boolean. -/
def bool? : Value → Option Bool
  | .bool value => some value
  | _ => none

/-- The items of a list. -/
def list? : Value → Option (Array Value)
  | .list items => some items
  | _ => none

/-- The cells of a map. -/
def map? : Value → Option (FiniteMap Word Value)
  | .map cells => some cells
  | _ => none

/-- The value of an object's field. -/
def field? (value : Value) (field : String) : Option Value :=
  match value with
  | .object fields => fields.get? field
  | _ => none

/-- Integers and booleans are what the register pane lists. -/
def isRegister : Value → Bool
  | .int _ | .bool _ => true
  | _ => false

/-- Zero, `false`, what is empty and the absent value are false; all else is true. -/
def isTruthy : Value → Bool
  | .int value => value ≠ 0
  | .bool value => value
  | .text value => !value.isEmpty
  | .list items => !items.isEmpty
  | .map cells => !cells.isEmpty
  | .object _ | .routine _ => true
  | .absent => false

mutual

/-- The text of a value. -/
def render : Value → String
  | .int value => value.toDecimal
  | .bool value => if value then "true" else "false"
  | .text value => value
  | .list ⟨[]⟩ => "[]"
  | .list ⟨first :: rest⟩ => "[" ++ renderItems first.render rest ++ "]"
  | .map .nil => "\x7b\x7d"
  | .map (.cons key _ value rest) =>
    "\x7b" ++ renderCells (key.toDecimal ++ ": " ++ value.render) rest ++ "\x7d"
  | .object fields => renderObject fields
  | .routine name => "<routine " ++ name ++ ">"
  | .absent => "<null>"
termination_by structural value => value

/-- The text `written` followed by the texts of items, a comma before each. -/
def renderItems (written : String) : List Value → String
  | [] => written
  | item :: rest => renderItems (written ++ ", " ++ item.render) rest
termination_by structural items => items

/-- The text `written` followed by the texts of cells, a comma before each. -/
def renderCells {bound : Option Word} (written : String) : Entries Word Value bound → String
  | .nil => written
  | .cons key _ value rest =>
    renderCells (written ++ ", " ++ key.toDecimal ++ ": " ++ value.render) rest
termination_by structural cells => cells

/-- The text of an object: of its fields only `Source` shows. -/
def renderObject {bound : Option String} : Entries String Value bound → String
  | .nil => "<object>"
  | .cons key _ value rest =>
    if key = "Source" then "<object " ++ value.render ++ ">" else renderObject rest
termination_by structural fields => fields

end

mutual

/-- Equality of values. -/
def equal : Value → Value → Bool
  | .int a, .int b => a == b
  | .bool a, .bool b => a == b
  | .text a, .text b => a == b
  | .list ⟨a⟩, .list ⟨b⟩ => equalItems a b
  | .map a, .map b => equalCells a b
  | .object a, .object b => equalFields a b
  | .routine a, .routine b => a == b
  | .absent, .absent => true
  | _, _ => false
termination_by structural a => a

/-- Equality of sequences of values. -/
def equalItems : List Value → List Value → Bool
  | [], [] => true
  | a :: as, b :: bs => a.equal b && equalItems as bs
  | _, _ => false
termination_by structural as => as

/-- Equality of cells. -/
def equalCells {bound other : Option Word} :
    Entries Word Value bound → Entries Word Value other → Bool
  | .nil, .nil => true
  | .cons j _ a as, .cons k _ b bs => j == k && a.equal b && equalCells as bs
  | _, _ => false
termination_by structural as => as

/-- Equality of fields. -/
def equalFields {bound other : Option String} :
    Entries String Value bound → Entries String Value other → Bool
  | .nil, .nil => true
  | .cons j _ a as, .cons k _ b bs => j == k && a.equal b && equalFields as bs
  | _, _ => false
termination_by structural as => as

end

mutual

theorem equal_iff : ∀ a b : Value, a.equal b = true ↔ a = b
  | .int _, b => by cases b <;> simp [equal]
  | .bool _, b => by cases b <;> simp [equal]
  | .text _, b => by cases b <;> simp [equal]
  | .list ⟨a⟩, b => by
    cases b with
    | list items => obtain ⟨b⟩ := items; simp [equal, equalItems_iff a b]
    | _ => simp [equal]
  | .map a, b => by
    cases b with
    | map b => simp [equal, equalCells_iff a b]
    | _ => simp [equal]
  | .object a, b => by
    cases b with
    | object b => simp [equal, equalFields_iff a b]
    | _ => simp [equal]
  | .routine _, b => by cases b <;> simp [equal]
  | .absent, b => by cases b <;> simp [equal]
termination_by structural a => a

theorem equalItems_iff : ∀ as bs : List Value, equalItems as bs = true ↔ as = bs
  | [], bs => by cases bs <;> simp [equalItems]
  | a :: as, bs => by
    cases bs with
    | nil => simp [equalItems]
    | cons b bs => simp [equalItems, equal_iff a b, equalItems_iff as bs]
termination_by structural as => as

theorem equalCells_iff {bound : Option Word} :
    ∀ as bs : Entries Word Value bound, equalCells as bs = true ↔ as = bs
  | .nil, bs => by cases bs <;> simp [equalCells]
  | .cons j _ a as, bs => by
    cases bs with
    | nil => simp [equalCells]
    | cons k above b bs =>
      by_cases same : j = k
      · subst same
        simp [equalCells, equal_iff a b, equalCells_iff as bs]
      · simp [equalCells, same]
termination_by structural as => as

theorem equalFields_iff {bound : Option String} :
    ∀ as bs : Entries String Value bound, equalFields as bs = true ↔ as = bs
  | .nil, bs => by cases bs <;> simp [equalFields]
  | .cons j _ a as, bs => by
    cases bs with
    | nil => simp [equalFields]
    | cons k above b bs =>
      by_cases same : j = k
      · subst same
        simp [equalFields, equal_iff a b, equalFields_iff as bs]
      · simp [equalFields, same]
termination_by structural as => as

end

instance : DecidableEq Value := fun a b => decidable_of_iff _ (equal_iff a b)

end Value

end UrclDebugger
