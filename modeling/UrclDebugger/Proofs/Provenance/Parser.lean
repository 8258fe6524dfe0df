import UrclDebugger.Proofs.Provenance.Value
import UrclDebugger.Script.Parser

/-!
# Literals of parsed expressions

An expression is genuine when all of its literals are. A text can not write an object, so every
expression and every statement that is read from one is genuine. The proof follows the recursive
descent: each reading function keeps what it builds from genuine parts genuine.
-/

namespace UrclDebugger

/-- All literals of an expression are genuine values. -/
inductive Expr.Genuine : Expr → Prop where
  | literal {value : Value} (genuine : value.Genuine) : Genuine (.literal value)
  | name (name : String) : Genuine (.name name)
  | list {items : List Expr} (each : ∀ item ∈ items, Genuine item) : Genuine (.list items)
  | map {entries : List (Expr × Expr)} (keys : ∀ entry ∈ entries, Genuine entry.1)
      (values : ∀ entry ∈ entries, Genuine entry.2) : Genuine (.map entries)
  | index {base position : Expr} (genuineBase : Genuine base) (genuinePosition : Genuine position) :
      Genuine (.index base position)
  | field {base : Expr} (genuine : Genuine base) (field : String) : Genuine (.field base field)
  | call (function : String) {arguments : List Expr} (each : ∀ item ∈ arguments, Genuine item) :
      Genuine (.call function arguments)
  | negate {operand : Expr} (genuine : Genuine operand) : Genuine (.negate operand)

/-- All literals of a statement are genuine values. -/
inductive Statement.Genuine : Statement → Prop where
  | assign (name : String) {position : Option Expr} {value : Expr}
      (genuinePosition : ∀ place ∈ position, place.Genuine) (genuineValue : value.Genuine) :
      Genuine (.assign name position value)
  | expression {expression : Expr} (genuine : expression.Genuine) :
      Genuine (.expression expression)

namespace Parser

theorem genuine_ofName (name : String) : (ofName name).Genuine := by
  unfold ofName
  split
  · rename_i value reserved
    unfold reserved? at reserved
    refine .literal ?_
    split at reserved
    · obtain rfl := Option.some.inj reserved
      exact .bool true
    split at reserved
    · obtain rfl := Option.some.inj reserved
      exact .bool false
    split at reserved
    · obtain rfl := Option.some.inj reserved
      exact .absent
    · contradiction
  · exact .name name

/-- What is read has a property, if anything is read. -/
def Yields {α : Type} {fits : α × Cursor → Prop} (property : α → Prop) :
    Except ParseError { read : α × Cursor // fits read } → Prop
  | .ok read => property read.1.1
  | .error _ => True

mutual

theorem genuine_expression (cursor : Cursor) :
    Yields Expr.Genuine (expression cursor) := by
  obtain ⟨tokens, depth⟩ := cursor
  unfold expression
  split
  · trivial
  dsimp only
  split
  · rename_i rest state
    have inner := genuine_expression ⟨rest, depth + 1⟩
    split
    · trivial
    · rename_i operand after shorter same
      rw [same] at inner
      exact .negate inner
  · have first := genuine_primary (Cursor.descend ⟨tokens, depth⟩)
    split
    · trivial
    · rename_i head middle shorter same
      rw [same] at first
      have chained := genuine_suffixes head 0 middle first
      split
      · trivial
      · rename_i chain after notLonger sameRest
        rw [sameRest] at chained
        exact chained
termination_by (cursor.rest.length, 2)
decreasing_by all_goals (rw [Prod.lex_def]; grind [Cursor.descend])

/-- Suffixes keep what they apply to genuine. -/
theorem genuine_suffixes (head : Expr) (raised : Nat) (cursor : Cursor) (genuine : head.Genuine) :
    Yields Expr.Genuine (suffixes head raised cursor) := by
  obtain ⟨tokens, depth⟩ := cursor
  unfold suffixes
  dsimp only
  split
  · -- a subscript
    rename_i rest
    split
    · trivial
    have place := genuine_expression ⟨rest, depth + 1⟩
    split
    · trivial
    rename_i position inner shorter same
    rw [same] at place
    split
    · trivial
    rename_i middle closed _
    have chained := genuine_suffixes (.index head position) (raised + 1) middle
      (.index genuine place)
    split
    · trivial
    rename_i read notLonger sameRest
    rw [sameRest] at chained
    exact chained
  · -- a field
    split
    · trivial
    split
    · rename_i field following _ _
      have chained := genuine_suffixes (.field head field) (raised + 1) ⟨following, depth + 1⟩
        (.field genuine field)
      split
      · trivial
      rename_i read notLonger sameRest
      rw [sameRest] at chained
      exact chained
    · trivial
  · -- the arguments of a call, for which the head must be a name
    rename_i rest
    split
    · rename_i function
      have listed := genuine_sequence .closeParen ⟨rest, depth⟩
      split
      · trivial
      rename_i arguments middle shorter same
      rw [same] at listed
      have chained := genuine_suffixes (.call function arguments) raised middle
        (.call function listed)
      split
      · trivial
      rename_i read notLonger sameRest
      rw [sameRest] at chained
      exact chained
    · trivial
  · exact genuine
termination_by (cursor.rest.length, 0)
decreasing_by all_goals (rw [Prod.lex_def]; grind)

theorem genuine_primary (cursor : Cursor) : Yields Expr.Genuine (primary cursor) := by
  obtain ⟨tokens, depth⟩ := cursor
  unfold primary
  dsimp only
  split
  · exact .literal (.int _)
  · exact .literal (.text _)
  · exact genuine_ofName _
  · rename_i rest
    have inner := genuine_expression ⟨rest, depth⟩
    split
    · trivial
    rename_i read middle shorter same
    rw [same] at inner
    split
    · trivial
    · exact inner
  · rename_i rest
    have listed := genuine_sequence .closeBracket ⟨rest, depth⟩
    split
    · trivial
    rename_i items after shorter same
    rw [same] at listed
    exact .list listed
  · rename_i rest
    have listed := genuine_entries ⟨rest, depth⟩
    split
    · trivial
    rename_i read after shorter same
    rw [same] at listed
    exact .map (fun entry member => (listed entry member).1) fun entry member =>
      (listed entry member).2
  · trivial
termination_by (cursor.rest.length, 1)
decreasing_by all_goals (rw [Prod.lex_def]; grind)

theorem genuine_sequence (close : Token) (cursor : Cursor) :
    Yields (fun items => ∀ item ∈ items, item.Genuine) (sequence close cursor) := by
  unfold sequence
  split
  · split
    · trivial
    · exact nofun
  have first := genuine_expression cursor
  split
  · trivial
  rename_i item middle shorter same
  rw [same] at first
  obtain ⟨tokens, depth⟩ := middle
  dsimp only
  split
  · rename_i rest
    have listed := genuine_sequence close ⟨rest, depth⟩
    split
    · trivial
    rename_i items after closed sameRest
    rw [sameRest] at listed
    exact List.forall_mem_cons.mpr ⟨first, listed⟩
  · split
    · trivial
    · exact List.forall_mem_singleton.mpr first
termination_by (cursor.rest.length, 3)
decreasing_by all_goals (rw [Prod.lex_def]; grind)

theorem genuine_entries (cursor : Cursor) :
    Yields (fun entries => ∀ entry ∈ entries, entry.1.Genuine ∧ entry.2.Genuine)
      (entries cursor) := by
  unfold entries
  split
  · split
    · trivial
    · exact nofun
  have key := genuine_expression cursor
  split
  · trivial
  rename_i first second keyShorter sameKey
  rw [sameKey] at key
  split
  · trivial
  rename_i second colon _
  have value := genuine_expression second
  split
  · trivial
  rename_i read middle valueShorter sameValue
  rw [sameValue] at value
  obtain ⟨tokens, depth⟩ := middle
  dsimp only
  split
  · rename_i rest
    have listed := genuine_entries ⟨rest, depth⟩
    split
    · trivial
    rename_i others after closed sameRest
    rw [sameRest] at listed
    exact List.forall_mem_cons.mpr ⟨⟨key, value⟩, listed⟩
  · split
    · trivial
    · exact List.forall_mem_singleton.mpr ⟨key, value⟩
termination_by (cursor.rest.length, 3)
decreasing_by all_goals (rw [Prod.lex_def]; grind)

end

/-- The position in what an assignment assigns is part of the expression on its left. -/
theorem genuine_target? {left : Expr} (genuine : left.Genuine) {name : String}
    {position : Option Expr} (target : target? left = some (name, position)) :
    ∀ place ∈ position, place.Genuine := by
  unfold target? at target
  split at target
  · obtain ⟨rfl, rfl⟩ := Prod.mk.inj (Option.some.inj target)
    exact nofun
  · obtain ⟨rfl, rfl⟩ := Prod.mk.inj (Option.some.inj target)
    cases genuine with
    | index _ genuinePosition =>
      rintro place member
      obtain rfl := Option.mem_some.mp member
      exact genuinePosition
  · contradiction

theorem genuine_statement {cursor after : Cursor} {read : Statement}
    (parsed : statement cursor = .ok (read, after)) : read.Genuine := by
  unfold statement at parsed
  have first := genuine_expression cursor
  split at parsed
  · contradiction
  rename_i left middle _ same
  rw [same] at first
  split at parsed
  · rename_i rest _
    have second := genuine_expression { middle with rest := rest }
    split at parsed
    · contradiction
    rename_i value _ _ sameValue
    rw [sameValue] at second
    split at parsed
    · rename_i name position target
      obtain ⟨rfl, _⟩ := Prod.mk.inj (Except.ok.inj parsed)
      exact .assign name (genuine_target? first target) second
    · contradiction
  · obtain ⟨rfl, _⟩ := Prod.mk.inj (Except.ok.inj parsed)
    exact .expression first

end Parser

/-- A statement that a text is has no literal but words, texts, flags and the absent value. -/
theorem Statement.genuine_of_parse {text : String} {statement : Statement}
    (parsed : parse text = .ok (some statement)) : statement.Genuine := by
  unfold parse at parsed
  split at parsed
  · contradiction
  · exact nomatch Except.ok.inj parsed
  split at parsed
  · contradiction
  rename_i read after found
  split at parsed
  · obtain rfl := Option.some.inj (Except.ok.inj parsed)
    exact Parser.genuine_statement found
  · contradiction

end UrclDebugger
