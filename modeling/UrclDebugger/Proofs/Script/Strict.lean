import UrclDebugger.Proofs.Script.Acceptance

/-!
# Strict reading

The strict reader stands at a place in the tokens and takes nothing for granted. It gives up when it
would go back more levels than it has gone down, and when it would call itself more often, one call
inside of the other, than it was allowed to; a place can be neither behind the last token nor deeper
than the limit. Four calls for each token that is left, and a few more for the function that is
called, are always enough, and with so many the strict reader reads what the reader reads
(`Parser.agreesWithin`).
-/

namespace UrclDebugger

open Grammar

namespace Parser

/-- Why strict reading has ended without a result. -/
inductive Stop where
  | wrong (error : ParseError)
  /-- More calls are needed than are allowed. -/
  | exhausted
  /-- More levels would be gone back than down. -/
  | unbalanced

/-- A place in the tokens, and the level that reading has reached there. -/
structure Place (tokens : List Token) where
  position : Nat
  depth : Nat
  inside : position ≤ tokens.length
  shallow : depth ≤ nestingLimit

namespace Place

/-- The place before the first token. -/
def start (tokens : List Token) : Place tokens := ⟨0, 0, Nat.zero_le _, Nat.zero_le _⟩

variable {tokens : List Token} (place : Place tokens)

/-- The next token. -/
def peek : Option Token := tokens[place.position]?

/-- Past the next token, if there is one. -/
def advance : Place tokens :=
  if more : place.position < tokens.length then
    { place with position := place.position + 1, inside := more }
  else place

/-- Past the next token, which must be the given one. -/
def expect (token : Token) : Except Stop (Place tokens) :=
  if place.peek = some token then .ok place.advance
  else .error (.wrong (.expected token place.peek))

/-- One level deeper. -/
def descend : Except Stop (Place tokens) :=
  if room : place.depth + 1 ≤ nestingLimit then
    .ok { place with depth := place.depth + 1, shallow := room }
  else .error (.wrong .tooDeep)

/-- The given number of levels back. -/
def ascend (levels : Nat) : Except Stop (Place tokens) :=
  if levels ≤ place.depth then
    .ok { place with
      depth := place.depth - levels
      shallow := Nat.le_trans (Nat.sub_le _ _) place.shallow }
  else .error .unbalanced

/-- A list with its first item read: the others follow a comma, or the closing token does. -/
def restOfList {α : Type} (close : Token) (first : α)
    (others : Place tokens → Except Stop (List α × Place tokens)) :
    Except Stop (List α × Place tokens) :=
  match place.peek with
  | some .comma => do
    let (read, after) ← others place.advance
    return (first :: read, after)
  | _ => do
    let after ← place.expect close
    return ([first], after)

end Place

namespace Strict

variable {tokens : List Token}

mutual

/-- Reads an expression. -/
def expression : Nat → Place tokens → Except Stop (Expr × Place tokens)
  | 0, _ => .error .exhausted
  | calls + 1, place => do
    let inner ← place.descend
    match inner.peek with
    | some .minus => do
      let (operand, behind) ← expression calls inner.advance
      let after ← behind.ascend 1
      return (.negate operand, after)
    | _ => do
      let (found, behind) ← chain calls inner
      let after ← behind.ascend 1
      return (found, after)

/-- Reads a primary expression with its suffixes. -/
def chain : Nat → Place tokens → Except Stop (Expr × Place tokens)
  | 0, _ => .error .exhausted
  | calls + 1, place => do
    let (head, middle) ← primary calls place
    suffixes calls head 0 middle

/-- Reads the suffixes of an expression, of which `raised` have raised the level so far. -/
def suffixes : Nat → Expr → Nat → Place tokens → Except Stop (Expr × Place tokens)
  | 0, _, _, _ => .error .exhausted
  | calls + 1, head, raised, place =>
    match place.peek with
    | some .openBracket => do
      let inner ← place.descend
      let (position, behind) ← expression calls inner.advance
      let middle ← behind.expect .closeBracket
      suffixes calls (.index head position) (raised + 1) middle
    | some .dot => do
      let inner ← place.descend
      match inner.advance.peek with
      | some (.name field) =>
        suffixes calls (.field head field) (raised + 1) inner.advance.advance
      | found => .error (.wrong (.expectedField found))
    | some .openParen =>
      match head with
      | .name function => do
        let (arguments, middle) ← sequence calls .closeParen place.advance
        suffixes calls (.call function arguments) raised middle
      | _ => .error (.wrong .notCallable)
    | _ => do
      let after ← place.ascend raised
      return (head, after)

/-- Reads an expression that no suffix has been applied to yet. -/
def primary : Nat → Place tokens → Except Stop (Expr × Place tokens)
  | 0, _ => .error .exhausted
  | calls + 1, place =>
    match place.peek with
    | some (.int value) => .ok (.literal (.int value), place.advance)
    | some (.text value) => .ok (.literal (.text value), place.advance)
    | some (.name name) => .ok (ofName name, place.advance)
    | some .openParen => do
      let (inner, middle) ← expression calls place.advance
      let after ← middle.expect .closeParen
      return (inner, after)
    | some .openBracket => do
      let (items, after) ← sequence calls .closeBracket place.advance
      return (.list items, after)
    | some .openBrace => do
      let (read, after) ← entries calls place.advance
      return (.map read, after)
    | found => .error (.wrong (.unexpected found))

/-- Reads expressions with commas between them, up to and past the closing token. -/
def sequence : Nat → Token → Place tokens → Except Stop (List Expr × Place tokens)
  | 0, _, _ => .error .exhausted
  | calls + 1, close, place =>
    if place.peek = some close then do
      let after ← place.expect close
      return ([], after)
    else do
      let (item, middle) ← expression calls place
      middle.restOfList close item fun following => sequence calls close following

/-- Reads the entries of a map, up to and past the closing brace. -/
def entries : Nat → Place tokens → Except Stop (List (Expr × Expr) × Place tokens)
  | 0, _ => .error .exhausted
  | calls + 1, place =>
    if place.peek = some .closeBrace then do
      let after ← place.expect .closeBrace
      return ([], after)
    else do
      let (key, first) ← expression calls place
      let second ← first.expect .colon
      let (value, middle) ← expression calls second
      middle.restOfList .closeBrace (key, value) fun following => entries calls following

end

/-- What reading starts with, one call deeper, is told by the next token. -/
theorem primary_succ (calls : Nat) (place : Place tokens) :
    primary (calls + 1) place =
      match place.peek with
      | some (.int value) => .ok (.literal (.int value), place.advance)
      | some (.text value) => .ok (.literal (.text value), place.advance)
      | some (.name name) => .ok (ofName name, place.advance)
      | some .openParen => do
        let (inner, middle) ← expression calls place.advance
        let after ← middle.expect .closeParen
        return (inner, after)
      | some .openBracket => do
        let (items, after) ← sequence calls .closeBracket place.advance
        return (.list items, after)
      | some .openBrace => do
        let (read, after) ← entries calls place.advance
        return (.map read, after)
      | found => .error (.wrong (.unexpected found)) := rfl

/-- Reads a statement. -/
def statement (calls : Nat) (place : Place tokens) : Except Stop (Statement × Place tokens) := do
  let (left, middle) ← expression calls place
  match middle.peek with
  | some .equals => do
    let (value, after) ← expression calls middle.advance
    match target? left with
    | some (name, position) => return (.assign name position value, after)
    | none => .error (.wrong .notAssignable)
  | _ => return (.expression left, middle)

/-- As many calls as a text of the tokens is read with. -/
def callsFor (tokens : List Token) : Nat := 4 * tokens.length + 4

/-- The expression that a text is. -/
def parseExpression (text : String) : Except Stop Expr := do
  let tokens ← (Token.ofText text).mapError .wrong
  let (found, after) ← expression (callsFor tokens) (Place.start tokens)
  match after.peek with
  | none => .ok found
  | some token => .error (.wrong (.afterExpression token))

/-- The statement that a text is; nothing for a text without tokens. -/
def parseStatement (text : String) : Except Stop (Option Statement) := do
  let tokens ← (Token.ofText text).mapError .wrong
  if tokens = [] then return none
  let (found, after) ← statement (callsFor tokens) (Place.start tokens)
  match after.peek with
  | none => return some found
  | some token => .error (.wrong (.afterStatement token))

end Strict

/-- Reads a primary expression with its suffixes. -/
def chain (cursor : Cursor) : Except ParseError (Expr × Cursor) := do
  let (head, middle) ← plain (primary cursor)
  plain (suffixes head 0 middle)

/-- An expression that is no negation is a chain one level deeper. -/
theorem plain_of_chain {tokens : List Token} (noMinus : tokens.head? ≠ some .minus) (depth : Nat) :
    plain (expression ⟨tokens, depth⟩) = levelLeft depth (do
      let (found, inner) ← chain ⟨tokens, depth + 1⟩
      return (found, inner.ascend 1)) := by
  rw [plain_chain depth noMinus, chain, bind_assoc]

section Balance

variable {cursor after : Cursor} {found : Expr}

theorem Derived.depth_eq {α : Type} {derives : List Token → α → Nat → Prop} {tokens : List Token}
    {depth depthAfter : Nat} {found : α} {after : Cursor}
    (derived : Derived derives tokens depth found after depthAfter) : after.depth = depthAfter := by
  obtain ⟨_, _, _, _, _, _, rfl⟩ := derived
  rfl

/-- Reading goes on where it began in depth, and with fewer tokens. -/
structure Cursor.Behind (cursor after : Cursor) : Prop where
  depth : after.depth = cursor.depth
  fewer : after.rest.length < cursor.rest.length

theorem behind_expression (parsed : plain (expression cursor) = .ok (found, after)) :
    cursor.Behind after := by
  obtain ⟨fewer, _⟩ := plain_eq_ok_iff.mp parsed
  exact ⟨(derived_expression (derivedBelow _) parsed).depth_eq, fewer⟩

theorem behind_primary (parsed : plain (primary cursor) = .ok (found, after)) :
    cursor.Behind after := by
  obtain ⟨fewer, _⟩ := plain_eq_ok_iff.mp parsed
  exact ⟨(derived_primary (derivedBelow _) parsed).depth_eq, fewer⟩

theorem behind_chain (parsed : chain cursor = .ok (found, after)) : cursor.Behind after := by
  obtain ⟨⟨head, middle⟩, readHead, readSuffixes⟩ := exists_of_bind_eq_ok parsed
  have behind := behind_primary readHead
  obtain ⟨notLonger, _⟩ := plain_eq_ok_iff.mp readSuffixes
  have goesOn := (derived_suffixes (derivedBelow _) readSuffixes).depth_eq
  exact ⟨goesOn.trans behind.depth, Nat.lt_of_le_of_lt notLonger behind.fewer⟩

theorem behind_sequence {close : Token} {items : List Expr}
    (parsed : plain (sequence close cursor) = .ok (items, after)) : cursor.Behind after := by
  obtain ⟨fewer, _⟩ := plain_eq_ok_iff.mp parsed
  exact ⟨(derived_sequence (derivedBelow _) parsed).depth_eq, fewer⟩

theorem behind_entries {items : List (Expr × Expr)}
    (parsed : plain (entries cursor) = .ok (items, after)) : cursor.Behind after := by
  obtain ⟨fewer, _⟩ := plain_eq_ok_iff.mp parsed
  exact ⟨(derived_entries (derivedBelow _) parsed).depth_eq, fewer⟩

theorem behind_expect {token : Token} (parsed : plain (cursor.expect token) = .ok after) :
    cursor.Behind after := by
  obtain ⟨rest, same, rfl⟩ := plain_expect_eq_ok_iff.mp parsed
  exact ⟨rfl, by rw [same]; exact Nat.lt_succ_self _⟩

end Balance

namespace Place

variable {tokens : List Token} (place : Place tokens)

/-- A place without the tokens before it. -/
def cursor : Cursor := ⟨tokens.drop place.position, place.depth⟩

/-- The number of tokens that are left. -/
def remaining : Nat := tokens.length - place.position

/-- What is read up to a place, without the tokens before it. -/
def seen {α : Type} (read : α × Place tokens) : α × Cursor := (read.1, read.2.cursor)

theorem length_rest : place.cursor.rest.length = place.remaining := List.length_drop

variable {place}

theorem cursor_of_rest {rest : List Token} (next : place.cursor.rest = rest) :
    place.cursor = ⟨rest, place.depth⟩ := by
  subst next
  rfl

theorem peek_of_rest {rest : List Token} (next : place.cursor.rest = rest) :
    place.peek = rest.head? := by
  unfold peek
  rw [← List.head?_drop]
  exact congrArg List.head? next

theorem cursor_advance {token : Token} {rest : List Token}
    (next : place.cursor.rest = token :: rest) : place.advance.cursor = ⟨rest, place.depth⟩ := by
  have more : place.position < tokens.length := by
    have := place.length_rest
    rw [next] at this
    unfold remaining at this
    simp only [List.length_cons] at this
    omega
  unfold advance
  rw [dif_pos more]
  unfold cursor at next ⊢
  rw [List.drop_eq_getElem_cons more] at next
  exact congrArg (Cursor.mk · place.depth) (List.cons.inj next).2

theorem remaining_lt_of_behind {first second : Place tokens}
    (behind : first.cursor.Behind second.cursor) : second.remaining < first.remaining := by
  rw [← length_rest, ← length_rest]
  exact behind.fewer

theorem remaining_advance {token : Token} {rest : List Token}
    (next : place.cursor.rest = token :: rest) : place.advance.remaining < place.remaining := by
  rw [← length_rest, ← length_rest, cursor_advance next, next]
  exact Nat.lt_succ_self _

/-- The depth does not matter for how many tokens are left. -/
theorem remaining_of_lower {inner : Place tokens} {depth : Nat}
    (lower : inner.cursor = ⟨place.cursor.rest, depth⟩) : inner.remaining = place.remaining := by
  rw [← length_rest, ← length_rest, lower]

theorem ascend_of_le {levels : Nat} (enough : levels ≤ place.depth) :
    ∃ after, place.ascend levels = .ok after ∧ after.cursor = place.cursor.ascend levels := by
  unfold ascend
  rw [if_pos enough]
  exact ⟨_, rfl, rfl⟩

end Place

/-- A strict result is what reading gives, as far as it is seen. -/
def Agrees {α β : Type} (view : α → β) (strict : Except Stop α) (running : Except ParseError β) :
    Prop :=
  strict.map view = running.mapError .wrong

section Agrees

variable {α β γ δ : Type} {view : α → β} {further : γ → δ} {tokens : List Token}

/-- Parts that agree one after another agree together. -/
theorem Agrees.bind {strict : Except Stop α} {running : Except ParseError β}
    {next : α → Except Stop γ} {following : β → Except ParseError δ}
    (first : Agrees view strict running)
    (rest : ∀ found, running = .ok (view found) →
      Agrees further (next found) (following (view found))) :
    Agrees further (strict >>= next) (running >>= following) := by
  cases strict with
  | error stop =>
    cases running with
    | error error =>
      obtain rfl := Except.error.inj first
      rfl
    | ok result => contradiction
  | ok found =>
    cases running with
    | error error => contradiction
    | ok result =>
      obtain rfl := Except.ok.inj first
      exact rest found rfl

theorem agrees_ok {found : α} {result : β} (same : view found = result) :
    Agrees view (.ok found) (.ok result) :=
  congrArg Except.ok same

theorem agrees_wrong (error : ParseError) :
    Agrees view (.error (.wrong error)) (.error error) := rfl

theorem agrees_descend (place : Place tokens) {next : Place tokens → Except Stop γ}
    {running : Except ParseError δ}
    (deeper : ∀ inner : Place tokens, inner.cursor = ⟨place.cursor.rest, place.depth + 1⟩ →
      Agrees further (next inner) running) :
    Agrees further (place.descend >>= next) (levelLeft place.depth running) := by
  unfold Place.descend levelLeft
  by_cases room : place.depth + 1 ≤ nestingLimit
  · rw [dif_pos room, if_neg (Nat.not_lt.mpr room)]
    exact deeper _ rfl
  · rw [dif_neg room, if_pos (Nat.not_le.mp room)]
    rfl

theorem agrees_expect (place : Place tokens) (token : Token) :
    Agrees Place.cursor (place.expect token) (plain (place.cursor.expect token)) := by
  unfold Place.expect Cursor.expect
  cases next : place.cursor.rest with
  | nil =>
    rw [Place.peek_of_rest next]
    rfl
  | cons found rest =>
    rw [Place.peek_of_rest next, List.head?_cons]
    by_cases same : found = token
    · rw [if_pos (congrArg some same)]
      dsimp only
      rw [if_pos same]
      exact agrees_ok (Place.cursor_advance next)
    · rw [if_neg fun equal => same (Option.some.inj equal)]
      dsimp only
      rw [if_neg same]
      rfl

/-- Whoever has gone down goes back up. -/
theorem agrees_ascend {place : Place tokens} {levels : Nat} (enough : levels ≤ place.depth)
    (found : α) : Agrees Place.seen
      (do
        let after ← place.ascend levels
        return (found, after))
      (.ok (found, place.cursor.ascend levels)) := by
  obtain ⟨after, goesUp, same⟩ := Place.ascend_of_le enough
  rw [goesUp]
  exact agrees_ok (congrArg (found, ·) same)

theorem agrees_restOfList {close : Token} {first : α} (middle : Place tokens)
    {others : Place tokens → Except Stop (List α × Place tokens)}
    {following : Cursor → Except ParseError (List α × Cursor)}
    (more : ∀ rest, middle.cursor.rest = .comma :: rest →
      Agrees Place.seen (others middle.advance) (following ⟨rest, middle.depth⟩)) :
    Agrees Place.seen (middle.restOfList close first others)
      (restOfList close first middle.cursor following) := by
  have closes : Agrees Place.seen
      (do
        let after ← middle.expect close
        return ([first], after))
      (do
        let after ← plain (middle.cursor.expect close)
        return ([first], after)) :=
    (agrees_expect middle close).bind fun after _ => agrees_ok rfl
  unfold Place.restOfList restOfList
  obtain ⟨ahead, next⟩ : ∃ ahead, middle.cursor.rest = ahead := ⟨_, rfl⟩
  rw [Place.peek_of_rest next]
  rw [Place.cursor_of_rest next] at closes ⊢
  cases ahead with
  | nil => exact closes
  | cons token rest =>
    cases token with
    | comma => exact (more rest next).bind fun (read, after) _ => agrees_ok rfl
    | _ => exact closes

end Agrees

/-- Strict reading within a number of calls is reading, as long as there are four calls for each
token that is left and some for the function that is called. -/
structure AgreesWithin (tokens : List Token) (calls : Nat) : Prop where
  expression (place : Place tokens) (enough : 4 * place.remaining + 2 < calls) :
    Agrees Place.seen (Strict.expression calls place) (plain (expression place.cursor))
  chain (place : Place tokens) (enough : 4 * place.remaining + 1 < calls) :
    Agrees Place.seen (Strict.chain calls place) (chain place.cursor)
  suffixes (head : Expr) (raised : Nat) (place : Place tokens) (lowered : raised ≤ place.depth)
    (enough : 4 * place.remaining < calls) :
    Agrees Place.seen (Strict.suffixes calls head raised place)
      (plain (suffixes head raised place.cursor))
  primary (place : Place tokens) (enough : 4 * place.remaining < calls) :
    Agrees Place.seen (Strict.primary calls place) (plain (primary place.cursor))
  sequence (close : Token) (place : Place tokens) (enough : 4 * place.remaining + 3 < calls) :
    Agrees Place.seen (Strict.sequence calls close place) (plain (sequence close place.cursor))
  entries (place : Place tokens) (enough : 4 * place.remaining + 3 < calls) :
    Agrees Place.seen (Strict.entries calls place) (plain (entries place.cursor))

section Step

variable {tokens : List Token} {calls : Nat} (within : AgreesWithin tokens calls)
  (place : Place tokens)

include within

theorem agrees_expression (enough : 4 * place.remaining + 2 < calls + 1) :
    Agrees Place.seen (Strict.expression (calls + 1) place) (plain (expression place.cursor)) := by
  rw [Strict.expression]
  by_cases minus : place.cursor.rest.head? = some .minus
  · obtain ⟨rest, next⟩ := List.head?_eq_some_iff.mp minus
    rw [Place.cursor_of_rest next, plain_negation]
    refine agrees_descend place fun inner lower => ?_
    have nextInner : inner.cursor.rest = .minus :: rest := by rw [lower, next]
    have deeper : inner.depth = place.depth + 1 := congrArg Cursor.depth lower
    have shorter := Place.remaining_advance nextInner
    have same := Place.remaining_of_lower lower
    have read := within.expression inner.advance (by omega)
    rw [Place.cursor_advance nextInner, deeper] at read
    rw [Place.peek_of_rest nextInner]
    refine read.bind fun (operand, behind) parsed => ?_
    have back : behind.depth = place.depth + 1 := (behind_expression parsed).depth
    have lowered : 1 ≤ behind.depth := by omega
    exact agrees_ascend lowered (Expr.negate operand)
  · rw [Place.cursor_of_rest rfl, plain_of_chain minus]
    refine agrees_descend place fun inner lower => ?_
    have same := Place.remaining_of_lower lower
    have noMinus : inner.peek ≠ some .minus := by
      rw [Place.peek_of_rest (congrArg Cursor.rest lower)]
      exact minus
    have read := within.chain inner (by omega)
    rw [lower] at read
    split
    · contradiction
    refine read.bind fun (found, behind) parsed => ?_
    have back : behind.depth = place.depth + 1 := (behind_chain parsed).depth
    have lowered : 1 ≤ behind.depth := by omega
    exact agrees_ascend lowered found

theorem agrees_chain (enough : 4 * place.remaining + 1 < calls + 1) :
    Agrees Place.seen (Strict.chain (calls + 1) place) (chain place.cursor) := by
  rw [Strict.chain, chain]
  refine (within.primary place (by omega)).bind fun (head, middle) parsed => ?_
  have shorter : middle.remaining < place.remaining :=
    Place.remaining_lt_of_behind (behind_primary parsed)
  exact within.suffixes head 0 middle (Nat.zero_le _) (by omega)

theorem agrees_primary (enough : 4 * place.remaining < calls + 1) :
    Agrees Place.seen (Strict.primary (calls + 1) place) (plain (primary place.cursor)) := by
  rw [Strict.primary_succ, Place.cursor_of_rest rfl, plain_primary]
  cases next : place.cursor.rest with
  | nil =>
    rw [Place.peek_of_rest next]
    exact agrees_wrong _
  | cons token rest =>
    have shorter := Place.remaining_advance next
    have past := Place.cursor_advance next
    rw [Place.peek_of_rest next]
    cases token with
    | int value => exact agrees_ok (congrArg (Expr.literal (.int value), ·) past)
    | text value => exact agrees_ok (congrArg (Expr.literal (.text value), ·) past)
    | name name => exact agrees_ok (congrArg (ofName name, ·) past)
    | openParen =>
      have read := within.expression place.advance (by omega)
      rw [past] at read
      refine read.bind fun (inner, middle) _ => ?_
      exact (agrees_expect middle .closeParen).bind fun after _ => agrees_ok rfl
    | openBracket =>
      have read := within.sequence .closeBracket place.advance (by omega)
      rw [past] at read
      exact read.bind fun (items, after) _ => agrees_ok rfl
    | openBrace =>
      have read := within.entries place.advance (by omega)
      rw [past] at read
      exact read.bind fun (entries, after) _ => agrees_ok rfl
    | _ => exact agrees_wrong _

theorem agrees_suffixes (head : Expr) (raised : Nat) (lowered : raised ≤ place.depth)
    (enough : 4 * place.remaining < calls + 1) :
    Agrees Place.seen (Strict.suffixes (calls + 1) head raised place)
      (plain (suffixes head raised place.cursor)) := by
  unfold Strict.suffixes
  obtain ⟨ahead, next⟩ : ∃ ahead, place.cursor.rest = ahead := ⟨_, rfl⟩
  rw [Place.cursor_of_rest next, Place.peek_of_rest next]
  by_cases ends : Ends ahead
  · subst next
    rw [plain_ended _ _ _ ends]
    split
    case h_4 => exact agrees_ascend lowered head
    all_goals
      rename_i opens
      exact absurd (ends _ opens) (by decide)
  cases ahead with
  | nil => exact absurd nofun ends
  | cons token rest =>
  have shorter := Place.remaining_advance next
  have past := Place.cursor_advance next
  cases token with
  | openBracket =>
    rw [plain_item]
    refine agrees_descend place fun inner lower => ?_
    have nextInner : inner.cursor.rest = .openBracket :: rest := by rw [lower, next]
    have deeper : inner.depth = place.depth + 1 := congrArg Cursor.depth lower
    have shorterInner := Place.remaining_advance nextInner
    have same := Place.remaining_of_lower lower
    have read := within.expression inner.advance (by omega)
    have pastInner := Place.cursor_advance nextInner
    rw [pastInner, deeper] at read
    refine read.bind fun (position, behind) parsed => ?_
    have behindPosition := behind_expression parsed
    refine (agrees_expect behind .closeBracket).bind fun middle closed => ?_
    have behindBracket := behind_expect closed
    have depth : middle.depth = place.depth + 1 := behindBracket.depth.trans behindPosition.depth
    have fewer : behind.cursor.rest.length < rest.length := behindPosition.fewer
    have left : middle.remaining < place.remaining := by
      rw [← middle.length_rest, ← place.length_rest, next]
      exact Nat.lt_succ_of_lt (Nat.lt_trans behindBracket.fewer fewer)
    exact within.suffixes _ _ middle (by omega) (by omega)
  | dot =>
    rw [plain_field]
    refine agrees_descend place fun inner lower => ?_
    have nextInner : inner.cursor.rest = .dot :: rest := by rw [lower, next]
    have deeper : inner.depth = place.depth + 1 := congrArg Cursor.depth lower
    have shorterInner := Place.remaining_advance nextInner
    have same := Place.remaining_of_lower lower
    have pastInner := Place.cursor_advance nextInner
    rw [Place.peek_of_rest (congrArg Cursor.rest pastInner)]
    cases rest with
    | nil => exact agrees_wrong _
    | cons found rest =>
      have following : inner.advance.cursor.rest = found :: rest := congrArg Cursor.rest pastInner
      have shorterField := Place.remaining_advance following
      have pastField := Place.cursor_advance following
      cases found with
      | name field =>
        have depth : inner.advance.depth = place.depth + 1 :=
          (congrArg Cursor.depth pastInner).trans deeper
        have deepest : inner.advance.advance.depth = place.depth + 1 :=
          (congrArg Cursor.depth pastField).trans depth
        have read := within.suffixes (.field head field) (raised + 1) inner.advance.advance
          (by omega) (by omega)
        rw [pastField, depth] at read
        exact read
      | _ => exact agrees_wrong _
  | openParen =>
    rw [plain_call]
    cases head with
    | name function =>
      have read := within.sequence .closeParen place.advance (by omega)
      rw [past] at read
      refine read.bind fun (arguments, middle) parsed => ?_
      have behind := behind_sequence parsed
      have depth : middle.depth = place.depth := behind.depth
      have left : middle.remaining < place.remaining := by
        rw [← middle.length_rest, ← place.length_rest, next]
        exact Nat.lt_succ_of_lt behind.fewer
      exact within.suffixes _ _ middle (by omega) (by omega)
    | _ => exact agrees_wrong _
  | _ => exact absurd (ends_cons rfl _) ends

theorem agrees_sequence (close : Token) (enough : 4 * place.remaining + 3 < calls + 1) :
    Agrees Place.seen (Strict.sequence (calls + 1) close place)
      (plain (sequence close place.cursor)) := by
  rw [Strict.sequence, Place.cursor_of_rest rfl, plain_sequence, Place.peek_of_rest rfl]
  split
  · exact (agrees_expect place close).bind fun after _ => agrees_ok rfl
  · refine (within.expression place (by omega)).bind fun (item, middle) parsed => ?_
    have shorter : middle.remaining < place.remaining :=
      Place.remaining_lt_of_behind (behind_expression parsed)
    refine agrees_restOfList middle fun rest next => ?_
    have shorterStill := Place.remaining_advance next
    have read := within.sequence close middle.advance (by omega)
    rw [Place.cursor_advance next] at read
    exact read

theorem agrees_entries (enough : 4 * place.remaining + 3 < calls + 1) :
    Agrees Place.seen (Strict.entries (calls + 1) place) (plain (entries place.cursor)) := by
  rw [Strict.entries, Place.cursor_of_rest rfl, plain_entries, Place.peek_of_rest rfl]
  split
  · exact (agrees_expect place .closeBrace).bind fun after _ => agrees_ok rfl
  · refine (within.expression place (by omega)).bind fun (key, first) readKey => ?_
    refine (agrees_expect first .colon).bind fun second colon => ?_
    have behindKey : first.remaining < place.remaining :=
      Place.remaining_lt_of_behind (behind_expression readKey)
    have behindColon : second.remaining < first.remaining :=
      Place.remaining_lt_of_behind (behind_expect colon)
    refine (within.expression second (by omega)).bind fun (value, middle) readValue => ?_
    have behindValue : middle.remaining < second.remaining :=
      Place.remaining_lt_of_behind (behind_expression readValue)
    refine agrees_restOfList middle fun rest next => ?_
    have shorter := Place.remaining_advance next
    have read := within.entries middle.advance (by omega)
    rw [Place.cursor_advance next] at read
    exact read

end Step

/-- By induction on the calls: each function is called with fewer tokens left, or with as many and
calls fewer functions itself. -/
theorem agreesWithin (tokens : List Token) (calls : Nat) : AgreesWithin tokens calls := by
  induction calls with
  | zero =>
    constructor <;> intros <;> contradiction
  | succ calls within =>
    exact ⟨agrees_expression within, agrees_chain within,
      fun head raised place => agrees_suffixes within place head raised, agrees_primary within,
      fun close place => agrees_sequence within place close, agrees_entries within⟩

end Parser

end UrclDebugger
