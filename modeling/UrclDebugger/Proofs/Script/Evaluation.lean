import UrclDebugger.FiniteMap.Lemmas
import UrclDebugger.Script.Evaluation

/-!
# What the value of an expression depends on

An expression is evaluated in a scope, but only the variables that it names are looked at. The name
of a called function is no variable, so a variable called `len` does not take the place of the
function (`evaluate_congr`).
-/

namespace UrclDebugger.Expr

section Equations

variable (scope : Scope) (expression : Expr)

/-- `len` gives the number of items, cells or characters of its argument. -/
theorem evaluate_len : (call "len" [expression]).evaluate scope =
    (expression.evaluate scope).bind fun value =>
      value.length.map fun count => .int (Int64.ofNat count) := by
  simp only [evaluate, evaluateAll]
  cases expression.evaluate scope <;> rfl

/-- `str` gives the text of its argument. -/
theorem evaluate_str : (call "str" [expression]).evaluate scope =
    (expression.evaluate scope).map fun value => .text value.render := by
  simp only [evaluate, evaluateAll]
  cases expression.evaluate scope <;> rfl

/-- A literal position selects an item. -/
theorem evaluate_index_literal (position : Word) :
    (index expression (.literal (.int position))).evaluate scope =
      (expression.evaluate scope).bind (·.item position) := by
  simp only [evaluate]
  rfl

theorem evaluate_field (name : String) : (field expression name).evaluate scope =
    (expression.evaluate scope).bind (·.field name) := by
  simp only [evaluate]
  rfl

theorem evaluate_name_of_bound {scope : Scope} {name : String} {value : Value}
    (bound : scope.get? name = some value) : (Expr.name name).evaluate scope = .ok value := by
  rw [evaluate, bound]

end Equations

mutual

/-- The variables that an expression names. -/
def names : Expr → List String
  | .literal _ => []
  | .name wanted => [wanted]
  | .list items => namesOfAll items
  | .map entries => namesOfEntries entries
  | .index base place => place.names ++ base.names
  | .field base _ => base.names
  | .call _ arguments => namesOfAll arguments
  | .negate operand => operand.names
termination_by structural expression => expression

/-- The variables that expressions name. -/
def namesOfAll : List Expr → List String
  | [] => []
  | expression :: rest => expression.names ++ namesOfAll rest
termination_by structural expressions => expressions

/-- The variables that keys and values of entries name. -/
def namesOfEntries : List (Expr × Expr) → List String
  | [] => []
  | (key, value) :: rest => key.names ++ value.names ++ namesOfEntries rest
termination_by structural entries => entries

end

section Agreement

variable {one other : Scope}

mutual

/-- Scopes that agree on the variables of an expression give it the same value or the same error. -/
theorem evaluate_congr : ∀ expression : Expr,
    (∀ name ∈ expression.names, one.get? name = other.get? name) →
      expression.evaluate one = expression.evaluate other
  | .literal _, _ => rfl
  | .name wanted, agree => by
    rw [evaluate, evaluate, agree wanted (by simp [names])]
  | .list items, agree => by
    rw [evaluate, evaluate, evaluateAll_congr items (by simpa only [names] using agree)]
  | .map entries, agree => by
    rw [evaluate, evaluate, evaluateEntries_congr entries (by simpa only [names] using agree)]
  | .index base place, agree => by
    simp only [names, List.mem_append] at agree
    rw [evaluate, evaluate, evaluate_congr place fun name named => agree name (.inl named),
      evaluate_congr base fun name named => agree name (.inr named)]
  | .field base _, agree => by
    rw [evaluate, evaluate, evaluate_congr base (by simpa only [names] using agree)]
  | .call _ arguments, agree => by
    rw [evaluate, evaluate, evaluateAll_congr arguments (by simpa only [names] using agree)]
  | .negate operand, agree => by
    rw [evaluate, evaluate, evaluate_congr operand (by simpa only [names] using agree)]
termination_by structural expression => expression

theorem evaluateAll_congr : ∀ expressions : List Expr,
    (∀ name ∈ namesOfAll expressions, one.get? name = other.get? name) →
      evaluateAll one expressions = evaluateAll other expressions
  | [], _ => rfl
  | expression :: rest, agree => by
    simp only [namesOfAll, List.mem_append] at agree
    rw [evaluateAll, evaluateAll,
      evaluate_congr expression fun name named => agree name (.inl named),
      evaluateAll_congr rest fun name named => agree name (.inr named)]
termination_by structural expressions => expressions

theorem evaluateEntries_congr : ∀ (entries : List (Expr × Expr))
    (_ : ∀ name ∈ namesOfEntries entries, one.get? name = other.get? name)
    (built : FiniteMap Word Value),
      evaluateEntries one built entries = evaluateEntries other built entries
  | [], _, _ => rfl
  | (key, value) :: rest, agree, built => by
    simp only [namesOfEntries, List.mem_append] at agree
    rw [evaluateEntries, evaluateEntries,
      evaluate_congr key fun name named => agree name (.inl (.inl named)),
      evaluate_congr value fun name named => agree name (.inl (.inr named))]
    simp only [evaluateEntries_congr rest fun name named => agree name (.inr named)]
termination_by structural entries => entries

end

/-- Scopes that agree on the variables of the expression that a text is give the text the same
value or the same error. -/
theorem evaluateText_congr {text : String} {expression : Expr}
    (parsed : Expr.parse text = .ok expression)
    (agree : ∀ name ∈ expression.names, one.get? name = other.get? name) :
    evaluateText one text = evaluateText other text := by
  simp only [evaluateText, parsed]
  exact evaluate_congr expression agree

end Agreement

end UrclDebugger.Expr
