import UrclDebugger.Proofs.Script.Strict

/-!
# Levels are counted in balance

Strict reading and reading come to the same from every place, so the reader goes back just as many
levels as it has gone down, and it ends within a number of calls that the tokens tell. As every item
leaves the depth as it was, what comes behind it is read as if the item were not there
(`Parser.levels_balance`).
-/

namespace UrclDebugger

open Grammar

namespace Parser

section Texts

theorem statement_eq (cursor : Cursor) : statement cursor = (do
    let (left, middle) ← plain (expression cursor)
    match middle.rest with
    | .equals :: rest => do
      let (value, after) ← plain (expression ⟨rest, middle.depth⟩)
      match target? left with
      | some (name, position) => return (.assign name position value, after)
      | none => .error .notAssignable
    | _ => return (.expression left, middle)) := by
  unfold statement
  rcases expression cursor with error | ⟨⟨left, middle⟩, shorter⟩
  · rfl
  rcases middle with ⟨_ | ⟨token, rest⟩, depth⟩
  · rfl
  cases token with
  | equals =>
    dsimp only [plain, bind, Except.bind, Except.map]
    rcases expression ⟨rest, depth⟩ with error | ⟨⟨value, after⟩, shorterStill⟩
    · rfl
    · dsimp only
      cases target? left <;> rfl
  | _ => rfl

theorem agrees_statement {tokens : List Token} {calls : Nat} (place : Place tokens)
    (enough : 4 * place.remaining + 2 < calls) :
    Agrees Place.seen (Strict.statement calls place) (statement place.cursor) := by
  have within := agreesWithin tokens calls
  rw [statement_eq]
  refine (within.expression place enough).bind fun (left, middle) readLeft => ?_
  have shorter : middle.remaining < place.remaining :=
    Place.remaining_lt_of_behind (behind_expression readLeft)
  obtain ⟨ahead, next⟩ : ∃ ahead, middle.cursor.rest = ahead := ⟨_, rfl⟩
  dsimp only [Place.seen]
  rw [Place.peek_of_rest next, Place.cursor_of_rest next]
  have alone : Place.seen (Statement.expression left, middle) =
      (.expression left, ⟨ahead, middle.depth⟩) :=
    congrArg (Statement.expression left, ·) (Place.cursor_of_rest next)
  cases ahead with
  | nil => exact agrees_ok alone
  | cons token rest =>
    cases token with
    | equals =>
      have shorterStill := Place.remaining_advance next
      have read := within.expression middle.advance (by omega)
      rw [Place.cursor_advance next] at read
      refine read.bind fun (value, after) _ => ?_
      cases target? left with
      | none => exact agrees_wrong _
      | some target => exact agrees_ok rfl
    | _ => exact agrees_ok alone

theorem agrees_mapError {α : Type} (result : Except ParseError α) :
    Agrees id (result.mapError .wrong) result := by
  cases result <;> rfl

theorem Agrees.eq {α : Type} {strict : Except Stop α} {running : Except ParseError α}
    (agrees : Agrees id strict running) : strict = running.mapError .wrong := by
  rw [← agrees]
  cases strict <;> rfl

theorem parse_eq (text : String) : Expr.parse text = (do
    let tokens ← Token.ofText text
    let (found, after) ← plain (expression ⟨tokens, 0⟩)
    match after.rest with
    | [] => .ok found
    | token :: _ => .error (.afterExpression token)) := by
  unfold Expr.parse
  cases Token.ofText text with
  | error error => rfl
  | ok tokens =>
    dsimp only [ok_bind]
    rcases expression ⟨tokens, 0⟩ with error | ⟨⟨found, after⟩, shorter⟩ <;> rfl

theorem parseExpression_eq (text : String) :
    Strict.parseExpression text = (Expr.parse text).mapError .wrong := by
  refine Agrees.eq ?_
  rw [Strict.parseExpression, parse_eq]
  refine (agrees_mapError (Token.ofText text)).bind fun tokens _ => ?_
  have within := agreesWithin tokens (Strict.callsFor tokens)
  have enough : 4 * (Place.start tokens).remaining + 2 < Strict.callsFor tokens :=
    Nat.add_lt_add_left (by decide) _
  refine (within.expression _ enough).bind fun (found, after) _ => ?_
  obtain ⟨ahead, next⟩ : ∃ ahead, after.cursor.rest = ahead := ⟨_, rfl⟩
  dsimp only [Place.seen]
  rw [Place.peek_of_rest next, next]
  cases ahead <;> rfl

theorem parse_statement_eq (text : String) : Statement.parse text = (do
    let tokens ← Token.ofText text
    if tokens = [] then return none
    let (found, after) ← statement ⟨tokens, 0⟩
    match after.rest with
    | [] => return some found
    | token :: _ => .error (.afterStatement token)) := by
  unfold Statement.parse
  rcases Token.ofText text with error | _ | ⟨first, rest⟩
  · rfl
  · rfl
  · dsimp only [ok_bind]
    rw [if_neg (List.cons_ne_nil _ _)]
    rcases statement ⟨first :: rest, 0⟩ with error | ⟨found, after⟩ <;> rfl

theorem parseStatement_eq (text : String) :
    Strict.parseStatement text = (Statement.parse text).mapError .wrong := by
  refine Agrees.eq ?_
  rw [Strict.parseStatement, parse_statement_eq]
  refine (agrees_mapError (Token.ofText text)).bind fun tokens _ => ?_
  dsimp only [id]
  by_cases blank : tokens = []
  · rw [if_pos blank, if_pos blank]
    rfl
  rw [if_neg blank, if_neg blank]
  have enough : 4 * (Place.start tokens).remaining + 2 < Strict.callsFor tokens :=
    Nat.add_lt_add_left (by decide) _
  refine (agrees_statement _ enough).bind fun (found, after) _ => ?_
  obtain ⟨ahead, next⟩ : ∃ ahead, after.cursor.rest = ahead := ⟨_, rfl⟩
  dsimp only [Place.seen]
  rw [Place.peek_of_rest next, next]
  cases ahead <;> rfl

end Texts

section Siblings

/-- The tokens go on with an expression that is read at the depth, up to the rest. -/
def ReadsItem (depth : Nat) (tokens : List Token) (item : Expr) (rest : List Token) : Prop :=
  plain (expression ⟨tokens, depth⟩) = .ok (item, ⟨rest, depth⟩)

/-- The tokens go on with a key, a colon and a value that are read at the depth, up to the rest. -/
def ReadsPair (depth : Nat) (tokens : List Token) (pair : Expr × Expr) (rest : List Token) : Prop :=
  ∃ middle, ReadsItem depth tokens pair.1 (.colon :: middle) ∧ ReadsItem depth middle pair.2 rest

/-- The tokens go on with items that are read, a comma behind each of them, up to the rest. -/
inductive Siblings {α : Type} (reads : List Token → α → List Token → Prop) :
    List Token → List α → List Token → Prop where
  | none (tokens : List Token) : Siblings reads tokens [] tokens
  | more {tokens middle rest : List Token} {item : α} {items : List α}
      (first : reads tokens item (.comma :: middle)) (others : Siblings reads middle items rest) :
      Siblings reads tokens (item :: items) rest

/-- What is read of a list, with the items before it. -/
def prepend {α : Type} (items : List α) (read : List α × Cursor) : List α × Cursor :=
  (items ++ read.1, read.2)

variable {depth : Nat} {tokens rest : List Token}

/-- No expression begins with a closing token. -/
theorem ReadsItem.head?_ne {item : Expr} (reads : ReadsItem depth tokens item rest) {close : Token}
    (closing : close.closes = true) : tokens.head? ≠ some close := by
  obtain ⟨read, levels, others, rfl, phrase, _, _⟩ := derived_expression (derivedBelow _) reads
  exact head?_ne_of_closes closing phrase.not_closes

theorem restOfList_comma {α : Type} (close : Token) (first : α)
    (others : Cursor → Except ParseError (List α × Cursor)) :
    restOfList close first ⟨.comma :: rest, depth⟩ others =
      (others ⟨rest, depth⟩).map (prepend [first]) := by
  unfold restOfList
  dsimp only
  cases others ⟨rest, depth⟩ <;> rfl

theorem map_prepend_prepend {α : Type} (item : α) (items : List α)
    (read : Except ParseError (List α × Cursor)) :
    (read.map (prepend items)).map (prepend [item]) = read.map (prepend (item :: items)) := by
  cases read <;> rfl

/-- Reading a list goes on behind items as if they were not there. By induction on the items. -/
theorem sequence_of_siblings {close : Token} (closing : close.closes = true) {items : List Expr}
    (siblings : Siblings (ReadsItem depth) tokens items rest) :
    plain (sequence close ⟨tokens, depth⟩) =
      (plain (sequence close ⟨rest, depth⟩)).map (prepend items) := by
  induction siblings with
  | none tokens => cases plain (sequence close ⟨tokens, depth⟩) <;> rfl
  | more first others ih =>
    rw [plain_sequence, if_neg (first.head?_ne closing), first, ok_bind]
    dsimp only
    rw [restOfList_comma, ih, map_prepend_prepend]

/-- Reading a map goes on behind entries as if they were not there. -/
theorem entries_of_siblings {items : List (Expr × Expr)}
    (siblings : Siblings (ReadsPair depth) tokens items rest) :
    plain (entries ⟨tokens, depth⟩) =
      (plain (entries ⟨rest, depth⟩)).map (prepend items) := by
  induction siblings with
  | none tokens => cases plain (entries ⟨tokens, depth⟩) <;> rfl
  | more first others ih =>
    obtain ⟨middle, key, value⟩ := first
    rw [plain_entries, if_neg (key.head?_ne rfl), key, ok_bind]
    dsimp only
    rw [plain_expect_self, ok_bind, value, ok_bind]
    dsimp only
    rw [restOfList_comma, ih, map_prepend_prepend]

/-- The right side of an assignment is read as if it stood alone. -/
theorem statement_of_target {left : Expr} {right : List Token}
    (reads : ReadsItem depth tokens left (.equals :: right)) :
    statement ⟨tokens, depth⟩ = (do
      let (value, after) ← plain (expression ⟨right, depth⟩)
      match target? left with
      | some (name, position) => return (.assign name position value, after)
      | none => .error .notAssignable) := by
  rw [statement_eq, reads]
  rfl

end Siblings

/-- What strict reading comes to from a place: it is what reading comes to, and reading goes on
further behind, at the depth of the place. -/
structure Balanced {tokens : List Token} {α : Type} (place : Place tokens)
    (strict : Except Stop (α × Place tokens)) (running : Except ParseError (α × Cursor)) :
    Prop where
  agrees : strict.map Place.seen = running.mapError .wrong
  goesOn : ∀ found after, strict = .ok (found, after) →
    after.depth = place.depth ∧ place.position < after.position

theorem Agrees.balanced {tokens : List Token} {α : Type} {place : Place tokens}
    {strict : Except Stop (α × Place tokens)} {running : Except ParseError (α × Cursor)}
    (agrees : Agrees Place.seen strict running)
    (behind : ∀ {found after}, running = .ok (found, after) → place.cursor.Behind after) :
    Balanced place strict running where
  agrees := agrees
  goesOn := by
    rintro found after rfl
    cases running with
    | error error => contradiction
    | ok result =>
      obtain rfl := Except.ok.inj agrees
      have ended : place.cursor.Behind after.cursor := behind rfl
      have fewer := Place.remaining_lt_of_behind ended
      unfold Place.remaining at fewer
      exact ⟨ended.depth, by omega⟩

/-- Levels are counted in balance, and reading ends. From any place, four calls inside of each other
for every token that is left, and four more, are enough for each of the reading functions: strict
reading then never goes back more levels than it has gone down, and its result is that of reading. A
function that ends well leaves the depth as it was, with tokens used up. So every text is read
within a number of calls that its tokens tell. And what comes behind other items of a list or
arguments of a call, behind other entries of a map, or behind the left side of an assignment is read
as if they were not there, so that it is not too deep on account of them. -/
theorem levels_balance :
    (∀ (tokens : List Token) (place : Place tokens) (calls : Nat),
      4 * place.remaining + 3 < calls →
        Balanced place (Strict.expression calls place) (plain (expression place.cursor)) ∧
        Balanced place (Strict.chain calls place) (chain place.cursor) ∧
        Balanced place (Strict.primary calls place) (plain (primary place.cursor)) ∧
        (∀ close, Balanced place (Strict.sequence calls close place)
          (plain (sequence close place.cursor))) ∧
        Balanced place (Strict.entries calls place) (plain (entries place.cursor))) ∧
    (∀ text, Strict.parseExpression text = (Expr.parse text).mapError .wrong ∧
      Strict.parseStatement text = (Statement.parse text).mapError .wrong) ∧
    (∀ depth tokens rest items close, close.closes = true →
      Siblings (ReadsItem depth) tokens items rest →
        plain (sequence close ⟨tokens, depth⟩) =
          (plain (sequence close ⟨rest, depth⟩)).map (prepend items)) ∧
    (∀ depth tokens rest items, Siblings (ReadsPair depth) tokens items rest →
      plain (entries ⟨tokens, depth⟩) = (plain (entries ⟨rest, depth⟩)).map (prepend items)) ∧
    ∀ depth tokens left right, ReadsItem depth tokens left (.equals :: right) →
      statement ⟨tokens, depth⟩ = (do
        let (value, after) ← plain (expression ⟨right, depth⟩)
        match target? left with
        | some (name, position) => return (.assign name position value, after)
        | none => .error .notAssignable) := by
  refine ⟨?_, fun text => ⟨parseExpression_eq text, parseStatement_eq text⟩, ?_, ?_, ?_⟩
  · intro tokens place calls enough
    have within := agreesWithin tokens calls
    exact ⟨(within.expression place (by omega)).balanced behind_expression,
      (within.chain place (by omega)).balanced behind_chain,
      (within.primary place (by omega)).balanced behind_primary,
      fun close => (within.sequence close place enough).balanced behind_sequence,
      (within.entries place enough).balanced behind_entries⟩
  · exact fun depth tokens rest items close closing siblings =>
      sequence_of_siblings closing siblings
  · exact fun depth tokens rest items siblings => entries_of_siblings siblings
  · exact fun depth tokens left right reads => statement_of_target reads

/-- A list of two items is read strictly, and one level below the limit the second item is read as
if the first one were not there. -/
theorem levels_balance_list :
    let rest : List Token := [.minus, .int 2, .closeBracket]
    let tokens := .int 1 :: .comma :: rest
    let place := Place.start tokens
    4 * place.remaining + 3 < 24 ∧
      Balanced place (Strict.sequence 24 .closeBracket place)
        (plain (sequence .closeBracket place.cursor)) ∧
      Siblings (ReadsItem 126) tokens [.literal (.int 1)] rest ∧
      plain (sequence .closeBracket ⟨tokens, 126⟩) =
        (plain (sequence .closeBracket ⟨rest, 126⟩)).map (prepend [.literal (.int 1)]) := by
  intro rest tokens place
  have enough : 4 * place.remaining + 3 < 24 := by decide
  have one : Phrase [.int 1] (.literal (.int 1)) 1 := .chain (.int 1) (.none _)
  have reads : ReadsItem 126 tokens (.literal (.int 1)) (.comma :: rest) :=
    expression_of_phrase one (by decide) (ends_cons rfl rest)
  have siblings : Siblings (ReadsItem 126) tokens [.literal (.int 1)] rest :=
    .more reads (.none rest)
  exact ⟨enough, (levels_balance.1 tokens place 24 enough).2.2.2.1 .closeBracket, siblings,
    levels_balance.2.2.1 126 tokens rest _ .closeBracket rfl siblings⟩

end Parser

end UrclDebugger
