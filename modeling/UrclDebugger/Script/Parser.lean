import UrclDebugger.Script.Expr
import UrclDebugger.Script.Token

/-!
# Reading expressions and statements

A recursive descent over tokens. A minus sign negates everything behind it, an item, a field or a
call follows what it applies to, and only a bare name can be called. The reader counts how deep it
is: one level for every expression it is inside of and one for every item or field suffix of the
chain it is reading. No expression goes deeper than `nestingLimit` levels.

Every reading function returns the cursor behind what it read with a proof that tokens were used
up, which is why reading ends.
-/

namespace UrclDebugger

/-- Why a text is no expression or no statement. -/
inductive ParseError where
  | lexical (error : LexicalError)
  | expected (token : Token) (found : Option Token)
  | expectedField (found : Option Token)
  /-- Something other than a bare name is called. -/
  | notCallable
  | unexpected (found : Option Token)
  | afterExpression (found : Token)
  | afterStatement (found : Token)
  /-- The left side of an assignment is neither a name nor an item of a name. -/
  | notAssignable
  | tooDeep
  deriving DecidableEq

/-- The deepest level that an expression may reach. -/
def nestingLimit : Nat := 128

/-- The wording of a parse error. -/
def ParseError.message : ParseError → String
  | .lexical error => error.message
  | .expected token found =>
    "expected " ++ token.description ++ ", found " ++ Token.describeNext found
  | .expectedField found => "expected field name, found " ++ Token.describeNext found
  | .notCallable => "only named functions can be called"
  | .unexpected found => "unexpected " ++ Token.describeNext found
  | .afterExpression found => "unexpected " ++ found.description ++ " after expression"
  | .afterStatement found => "unexpected " ++ found.description ++ " after statement"
  | .notAssignable => "can only assign to a name or a name[index]"
  | .tooDeep => "expression nested deeper than " ++ toString nestingLimit ++ " levels"

namespace Parser

/-- A place between two tokens, and the level that reading has reached there. -/
structure Cursor where
  rest : List Token
  depth : Nat

namespace Cursor

/-- One level deeper. -/
def descend (cursor : Cursor) : Cursor := { cursor with depth := cursor.depth + 1 }

/-- The given number of levels back. -/
def ascend (cursor : Cursor) (levels : Nat) : Cursor :=
  { cursor with depth := cursor.depth - levels }

/-- Past the next token, which must be the given one. -/
def expect (cursor : Cursor) (token : Token) :
    Except ParseError { after : Cursor // after.rest.length < cursor.rest.length } :=
  match state : cursor.rest with
  | found :: rest =>
    if found = token then .ok ⟨{ cursor with rest := rest }, by simp⟩
    else .error (.expected token (some found))
  | [] => .error (.expected token none)

end Cursor

/-- The value of a name that is reserved for one. -/
def reserved? (name : String) : Option Value :=
  if name = "true" ∨ name = "True" then some (.bool true)
  else if name = "false" ∨ name = "False" then some (.bool false)
  else if name = "None" then some .absent
  else none

/-- What a name means as an expression. -/
def ofName (name : String) : Expr :=
  match reserved? name with
  | some value => .literal value
  | none => .name name

mutual

/-- Reads an expression: a negation, or a primary expression with its suffixes. -/
def expression (cursor : Cursor) :
    Except ParseError { read : Expr × Cursor // read.2.rest.length < cursor.rest.length } :=
  if nestingLimit < cursor.depth + 1 then .error .tooDeep
  else
    match state : cursor.rest with
    | .minus :: rest =>
      match expression ⟨rest, cursor.depth + 1⟩ with
      | .error error => .error error
      | .ok ⟨(operand, after), shorter⟩ =>
        .ok ⟨(.negate operand, after.ascend 1), by simp_all [Cursor.ascend]; omega⟩
    | _ =>
      match primary cursor.descend with
      | .error error => .error error
      | .ok ⟨(head, middle), shorter⟩ =>
        match suffixes head 0 middle with
        | .error error => .error error
        | .ok ⟨(chain, after), notLonger⟩ =>
          .ok ⟨(chain, after.ascend 1), by
            simp_all [Cursor.ascend, Cursor.descend]; omega⟩
termination_by (cursor.rest.length, 2)
decreasing_by all_goals simp_all [Cursor.descend]; omega

/-- Reads the suffixes of an expression, of which `raised` have raised the level so far. -/
def suffixes (head : Expr) (raised : Nat) (cursor : Cursor) :
    Except ParseError { read : Expr × Cursor // read.2.rest.length ≤ cursor.rest.length } :=
  match state : cursor.rest with
  | .openBracket :: rest =>
    if nestingLimit < cursor.depth + 1 then .error .tooDeep
    else
      match expression ⟨rest, cursor.depth + 1⟩ with
      | .error error => .error error
      | .ok ⟨(position, inner), shorter⟩ =>
        match inner.expect .closeBracket with
        | .error error => .error error
        | .ok ⟨middle, closed⟩ =>
          match suffixes (.index head position) (raised + 1) middle with
          | .error error => .error error
          | .ok ⟨read, notLonger⟩ => .ok ⟨read, by simp_all; omega⟩
  | .dot :: rest =>
    if nestingLimit < cursor.depth + 1 then .error .tooDeep
    else
      match shape : rest with
      | .name field :: following =>
        match suffixes (.field head field) (raised + 1) ⟨following, cursor.depth + 1⟩ with
        | .error error => .error error
        | .ok ⟨read, notLonger⟩ => .ok ⟨read, by simp_all; omega⟩
      | _ => .error (.expectedField rest.head?)
  | .openParen :: rest =>
    match head with
    | .name function =>
      match sequence .closeParen ⟨rest, cursor.depth⟩ with
      | .error error => .error error
      | .ok ⟨(arguments, middle), shorter⟩ =>
        match suffixes (.call function arguments) raised middle with
        | .error error => .error error
        | .ok ⟨read, notLonger⟩ => .ok ⟨read, by simp_all; omega⟩
    | _ => .error .notCallable
  | _ => .ok ⟨(head, cursor.ascend raised), by simp_all [Cursor.ascend]⟩
termination_by (cursor.rest.length, 0)
decreasing_by all_goals simp_all; omega

/-- Reads an expression that no suffix has been applied to yet. -/
def primary (cursor : Cursor) :
    Except ParseError { read : Expr × Cursor // read.2.rest.length < cursor.rest.length } :=
  match state : cursor.rest with
  | .int value :: rest => .ok ⟨(.literal (.int value), { cursor with rest := rest }), by simp_all⟩
  | .text value :: rest =>
    .ok ⟨(.literal (.text value), { cursor with rest := rest }), by simp_all⟩
  | .name name :: rest => .ok ⟨(ofName name, { cursor with rest := rest }), by simp_all⟩
  | .openParen :: rest =>
    match expression { cursor with rest := rest } with
    | .error error => .error error
    | .ok ⟨(inner, middle), shorter⟩ =>
      match middle.expect .closeParen with
      | .error error => .error error
      | .ok ⟨after, closed⟩ => .ok ⟨(inner, after), by simp_all; omega⟩
  | .openBracket :: rest =>
    match sequence .closeBracket { cursor with rest := rest } with
    | .error error => .error error
    | .ok ⟨(items, after), shorter⟩ => .ok ⟨(.list items, after), by simp_all; omega⟩
  | .openBrace :: rest =>
    match entries { cursor with rest := rest } with
    | .error error => .error error
    | .ok ⟨(read, after), shorter⟩ => .ok ⟨(.map read, after), by simp_all; omega⟩
  | other => .error (.unexpected other.head?)
termination_by (cursor.rest.length, 1)
decreasing_by all_goals simp_all; omega

/-- Reads expressions with commas between them, up to and past the closing token. A comma may
stand behind the last one. -/
def sequence (close : Token) (cursor : Cursor) :
    Except ParseError { read : List Expr × Cursor // read.2.rest.length < cursor.rest.length } :=
  if cursor.rest.head? = some close then
    match cursor.expect close with
    | .error error => .error error
    | .ok ⟨after, closed⟩ => .ok ⟨([], after), closed⟩
  else
    match expression cursor with
    | .error error => .error error
    | .ok ⟨(item, middle), shorter⟩ =>
      match state : middle.rest with
      | .comma :: rest =>
        match sequence close { middle with rest := rest } with
        | .error error => .error error
        | .ok ⟨(items, after), closed⟩ => .ok ⟨(item :: items, after), by simp_all; omega⟩
      | _ =>
        match middle.expect close with
        | .error error => .error error
        | .ok ⟨after, closed⟩ => .ok ⟨([item], after), by simp_all; omega⟩
termination_by (cursor.rest.length, 3)
decreasing_by
  · exact Prod.Lex.right _ (by decide)
  · exact Prod.Lex.left _ _ (by simp_all; omega)

/-- Reads the entries of a map, up to and past the closing brace. A comma may stand behind the
last one. -/
def entries (cursor : Cursor) :
    Except ParseError
      { read : List (Expr × Expr) × Cursor // read.2.rest.length < cursor.rest.length } :=
  if cursor.rest.head? = some .closeBrace then
    match cursor.expect .closeBrace with
    | .error error => .error error
    | .ok ⟨after, closed⟩ => .ok ⟨([], after), closed⟩
  else
    match expression cursor with
    | .error error => .error error
    | .ok ⟨(key, first), keyShorter⟩ =>
      match first.expect .colon with
      | .error error => .error error
      | .ok ⟨second, colon⟩ =>
        match expression second with
        | .error error => .error error
        | .ok ⟨(value, middle), valueShorter⟩ =>
          match state : middle.rest with
          | .comma :: rest =>
            match entries { middle with rest := rest } with
            | .error error => .error error
            | .ok ⟨(others, after), closed⟩ =>
              .ok ⟨((key, value) :: others, after), by simp_all; omega⟩
          | _ =>
            match middle.expect .closeBrace with
            | .error error => .error error
            | .ok ⟨after, closed⟩ => .ok ⟨([(key, value)], after), by simp_all; omega⟩
termination_by (cursor.rest.length, 3)
decreasing_by
  · exact Prod.Lex.right _ (by decide)
  · exact Prod.Lex.left _ _ (by simp_all; omega)
  · exact Prod.Lex.left _ _ (by simp_all; omega)

end

/-- What the left side of an assignment assigns. -/
def target? : Expr → Option (String × Option Expr)
  | .name name => some (name, none)
  | .index (.name name) position => some (name, some position)
  | _ => none

/-- Reads a statement. -/
def statement (cursor : Cursor) : Except ParseError (Statement × Cursor) :=
  match expression cursor with
  | .error error => .error error
  | .ok ⟨(left, middle), _⟩ =>
    match middle.rest with
    | .equals :: rest =>
      match expression { middle with rest := rest } with
      | .error error => .error error
      | .ok ⟨(value, after), _⟩ =>
        match target? left with
        | some (name, position) => .ok (.assign name position value, after)
        | none => .error .notAssignable
    | _ => .ok (.expression left, middle)

end Parser

/-- The tokens of a text, or why it has none. -/
def Token.ofText (text : String) : Except ParseError (List Token) :=
  (Token.scan text.toList).mapError .lexical

/-- The expression that a text is. -/
def Expr.parse (text : String) : Except ParseError Expr :=
  match Token.ofText text with
  | .error error => .error error
  | .ok tokens =>
    match Parser.expression ⟨tokens, 0⟩ with
    | .error error => .error error
    | .ok ⟨(expression, after), _⟩ =>
      match after.rest with
      | [] => .ok expression
      | found :: _ => .error (.afterExpression found)

/-- The statement that a text is; nothing for a text without tokens. -/
def Statement.parse (text : String) : Except ParseError (Option Statement) :=
  match Token.ofText text with
  | .error error => .error error
  | .ok [] => .ok none
  | .ok tokens =>
    match Parser.statement ⟨tokens, 0⟩ with
    | .error error => .error error
    | .ok (statement, after) =>
      match after.rest with
      | [] => .ok (some statement)
      | found :: _ => .error (.afterStatement found)

end UrclDebugger
