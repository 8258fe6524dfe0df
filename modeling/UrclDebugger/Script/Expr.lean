import UrclDebugger.Value

/-!
# Expressions

An expression denotes a value in a scope: a literal, a variable, a list or map built from
expressions, an item, a field, a call of a built-in function, or a negation.
-/

namespace UrclDebugger

/-- An expression of the script language. -/
inductive Expr where
  | literal (value : Value)
  | name (name : String)
  | list (items : List Expr)
  /-- Key and value of every entry in the order in which they are written. -/
  | map (entries : List (Expr × Expr))
  | index (base : Expr) (position : Expr)
  | field (base : Expr) (field : String)
  | call (function : String) (arguments : List Expr)
  | negate (operand : Expr)

instance : Inhabited Expr := ⟨.literal .absent⟩

/-- A statement: an assignment to a variable or to one of its items, or an expression whose value
is dropped. -/
inductive Statement where
  | assign (name : String) (position : Option Expr) (value : Expr)
  | expression (expression : Expr)

end UrclDebugger
