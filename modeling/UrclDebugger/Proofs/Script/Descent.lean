import UrclDebugger.Proofs.Script.Grammar
import UrclDebugger.Script.Parser

/-!
# Reading follows the grammar

The reading functions carry a proof that tokens are used up, which only matters for their own
termination. Without it each of them has one equation (`Parser.plain`), and the equations are all
that is used of their definitions from here on.

Whatever is read is derived from the grammar within the levels that are left, and reading goes on at
the level where it began (`Parser.Derived`). The other way around, tokens that are derived within
the levels that are left are read up to their end, if nothing follows that would go on with them.
-/

namespace UrclDebugger

section Except

variable {ε α β : Type}

/-- A sequence that ends well has gone through a result of its first part. -/
theorem exists_of_bind_eq_ok {first : Except ε α} {rest : α → Except ε β} {result : β}
    (ended : (first >>= rest) = .ok result) :
    ∃ middle, first = .ok middle ∧ rest middle = .ok result := by
  cases first with
  | error error => contradiction
  | ok middle => exact ⟨middle, rfl, ended⟩

theorem ok_bind (result : α) (rest : α → Except ε β) :
    (Except.ok result >>= rest) = rest result := rfl

theorem exists_of_map_eq_ok {f : α → β} {first : Except ε α} {result : β}
    (ended : first.map f = .ok result) : ∃ middle, first = .ok middle ∧ f middle = result := by
  cases first with
  | error error => contradiction
  | ok middle => exact ⟨middle, rfl, Except.ok.inj ended⟩

end Except

namespace Parser

/-- A result without the proof that tokens were used up. -/
def plain {α : Type} {shape : α → Prop} (result : Except ParseError { read : α // shape read }) :
    Except ParseError α := result.map Subtype.val

/-- A result, if there is a level left at this depth. -/
def levelLeft {α : Type} (depth : Nat) (result : Except ParseError α) : Except ParseError α :=
  if nestingLimit < depth + 1 then .error .tooDeep else result

/-- A list with its first item read: the others follow a comma, or the closing token does. -/
def restOfList {α : Type} (close : Token) (first : α) (middle : Cursor)
    (others : Cursor → Except ParseError (List α × Cursor)) :
    Except ParseError (List α × Cursor) :=
  match middle.rest with
  | .comma :: rest => do
    let (read, after) ← others ⟨rest, middle.depth⟩
    return (first :: read, after)
  | _ => do
    let after ← plain (middle.expect close)
    return ([first], after)

section Equations

variable (tokens : List Token) (depth raised : Nat) (head : Expr)

theorem plain_negation : plain (expression ⟨.minus :: tokens, depth⟩) = levelLeft depth (do
    let (operand, inner) ← plain (expression ⟨tokens, depth + 1⟩)
    return (.negate operand, inner.ascend 1)) := by
  rw [expression, levelLeft]
  dsimp only
  split
  · rfl
  · rcases expression ⟨tokens, depth + 1⟩ with error | read <;> rfl

theorem plain_chain {tokens : List Token} (noMinus : tokens.head? ≠ some .minus) :
    plain (expression ⟨tokens, depth⟩) = levelLeft depth (do
      let (head, middle) ← plain (primary ⟨tokens, depth + 1⟩)
      let (chain, inner) ← plain (suffixes head 0 middle)
      return (chain, inner.ascend 1)) := by
  rw [expression, levelLeft]
  dsimp only
  split
  · rfl
  · split
    · contradiction
    · dsimp only [Cursor.descend]
      rcases primary ⟨tokens, depth + 1⟩ with error | ⟨⟨head, middle⟩, shorter⟩
      · rfl
      · dsimp only [plain, bind, Except.bind, Except.map]
        rcases suffixes head 0 middle with error | read <;> rfl

theorem plain_item : plain (suffixes head raised ⟨.openBracket :: tokens, depth⟩) =
    levelLeft depth (do
      let (position, inner) ← plain (expression ⟨tokens, depth + 1⟩)
      let middle ← plain (inner.expect .closeBracket)
      plain (suffixes (.index head position) (raised + 1) middle)) := by
  rw [suffixes, levelLeft]
  dsimp only
  split
  · rfl
  · rcases expression ⟨tokens, depth + 1⟩ with error | ⟨⟨position, inner⟩, shorter⟩
    · rfl
    · dsimp only [plain, bind, Except.bind, Except.map]
      rcases inner.expect .closeBracket with error | ⟨middle, closed⟩
      · rfl
      · dsimp only
        rcases suffixes (.index head position) (raised + 1) middle with error | read <;> rfl

theorem plain_field : plain (suffixes head raised ⟨.dot :: tokens, depth⟩) =
    levelLeft depth (match tokens with
      | .name field :: rest => plain (suffixes (.field head field) (raised + 1) ⟨rest, depth + 1⟩)
      | _ => .error (.expectedField tokens.head?)) := by
  rw [suffixes, levelLeft]
  dsimp only
  split
  · rfl
  · cases tokens with
    | nil => rfl
    | cons first rest =>
      cases first with
      | name field =>
        dsimp only
        rcases suffixes (.field head field) (raised + 1) ⟨rest, depth + 1⟩ with error | read <;> rfl
      | _ => rfl

theorem plain_call : plain (suffixes head raised ⟨.openParen :: tokens, depth⟩) =
    match head with
    | .name function => do
      let (arguments, middle) ← plain (sequence .closeParen ⟨tokens, depth⟩)
      plain (suffixes (.call function arguments) raised middle)
    | _ => .error .notCallable := by
  rw [suffixes]
  cases head with
  | name function =>
    dsimp only
    rcases sequence .closeParen ⟨tokens, depth⟩ with error | ⟨⟨arguments, middle⟩, shorter⟩
    · rfl
    · dsimp only [plain, bind, Except.bind, Except.map]
      rcases suffixes (.call function arguments) raised middle with error | read <;> rfl
  | _ => rfl

theorem plain_ended {tokens : List Token} (ends : Grammar.Ends tokens) :
    plain (suffixes head raised ⟨tokens, depth⟩) = .ok (head, ⟨tokens, depth - raised⟩) := by
  rw [suffixes]
  cases tokens with
  | nil => rfl
  | cons first rest =>
    have noSuffix := ends first rfl
    cases first <;> first | rfl | contradiction

theorem plain_primary : plain (primary ⟨tokens, depth⟩) =
    match tokens with
    | .int value :: rest => .ok (.literal (.int value), ⟨rest, depth⟩)
    | .text value :: rest => .ok (.literal (.text value), ⟨rest, depth⟩)
    | .name name :: rest => .ok (ofName name, ⟨rest, depth⟩)
    | .openParen :: rest => do
      let (inner, middle) ← plain (expression ⟨rest, depth⟩)
      let after ← plain (middle.expect .closeParen)
      return (inner, after)
    | .openBracket :: rest => do
      let (items, after) ← plain (sequence .closeBracket ⟨rest, depth⟩)
      return (.list items, after)
    | .openBrace :: rest => do
      let (read, after) ← plain (entries ⟨rest, depth⟩)
      return (.map read, after)
    | other => .error (.unexpected other.head?) := by
  rw [primary]
  cases tokens with
  | nil => rfl
  | cons first rest =>
    cases first with
    | openParen =>
      dsimp only
      rcases expression ⟨rest, depth⟩ with error | ⟨⟨inner, middle⟩, shorter⟩
      · rfl
      · dsimp only [plain, bind, Except.bind, Except.map]
        rcases middle.expect .closeParen with error | after <;> rfl
    | openBracket =>
      dsimp only
      rcases sequence .closeBracket ⟨rest, depth⟩ with error | read <;> rfl
    | openBrace =>
      dsimp only
      rcases entries ⟨rest, depth⟩ with error | read <;> rfl
    | _ => rfl

theorem plain_sequence (close : Token) : plain (sequence close ⟨tokens, depth⟩) =
    (if tokens.head? = some close then do
      let after ← plain (Cursor.expect ⟨tokens, depth⟩ close)
      return ([], after)
    else do
      let (item, middle) ← plain (expression ⟨tokens, depth⟩)
      restOfList close item middle fun cursor => plain (sequence close cursor)) := by
  rw [sequence]
  dsimp only
  split
  · rcases Cursor.expect ⟨tokens, depth⟩ close with error | after <;> rfl
  · rcases expression ⟨tokens, depth⟩ with error | ⟨⟨item, middle⟩, shorter⟩
    · rfl
    · rcases middle with ⟨_ | ⟨first, rest⟩, deeper⟩
      · rfl
      cases first with
      | comma =>
        dsimp only [plain, restOfList, bind, Except.bind, Except.map]
        rcases sequence close ⟨rest, deeper⟩ with error | read <;> rfl
      | _ =>
        dsimp only [plain, restOfList, bind, Except.bind, Except.map]
        rcases Cursor.expect ⟨_ :: rest, deeper⟩ close with error | after <;> rfl

theorem plain_entries : plain (entries ⟨tokens, depth⟩) =
    (if tokens.head? = some .closeBrace then do
      let after ← plain (Cursor.expect ⟨tokens, depth⟩ .closeBrace)
      return ([], after)
    else do
      let (key, first) ← plain (expression ⟨tokens, depth⟩)
      let second ← plain (first.expect .colon)
      let (value, middle) ← plain (expression second)
      restOfList .closeBrace (key, value) middle fun cursor => plain (entries cursor)) := by
  rw [entries]
  dsimp only
  split
  · rcases Cursor.expect ⟨tokens, depth⟩ .closeBrace with error | after <;> rfl
  · rcases expression ⟨tokens, depth⟩ with error | ⟨⟨key, first⟩, keyShorter⟩
    · rfl
    dsimp only [plain, bind, Except.bind, Except.map]
    rcases first.expect .colon with error | ⟨second, colon⟩
    · rfl
    dsimp only
    rcases expression second with error | ⟨⟨value, middle⟩, valueShorter⟩
    · rfl
    rcases middle with ⟨_ | ⟨next, rest⟩, deeper⟩
    · rfl
    cases next with
    | comma =>
      dsimp only [plain, restOfList, bind, Except.bind, Except.map]
      rcases entries ⟨rest, deeper⟩ with error | read <;> rfl
    | _ =>
      dsimp only [plain, restOfList, bind, Except.bind, Except.map]
      rcases Cursor.expect ⟨_ :: rest, deeper⟩ .closeBrace with error | after <;> rfl

end Equations

section Steps

variable {α : Type} {tokens : List Token} {depth : Nat}

theorem levelLeft_eq_ok_iff {result : Except ParseError α} {found : α} :
    levelLeft depth result = .ok found ↔ depth < nestingLimit ∧ result = .ok found := by
  unfold levelLeft
  split
  · simp only [reduceCtorEq, false_iff, not_and]
    omega
  · simp only [iff_and_self]
    omega

theorem plain_expect_eq_ok_iff {token : Token} {after : Cursor} :
    plain (Cursor.expect ⟨tokens, depth⟩ token) = .ok after ↔
      ∃ rest, tokens = token :: rest ∧ after = ⟨rest, depth⟩ := by
  unfold Cursor.expect
  cases tokens with
  | nil => simp [plain, Except.map]
  | cons first rest =>
    by_cases same : first = token
    · simp [plain, same, Except.map, eq_comm]
    · simp [plain, same, Except.map]

/-- The first item of a list is followed by a comma, and others after it, or by the closing
token. -/
theorem restOfList_eq_ok {close : Token} {first : α}
    {others : Cursor → Except ParseError (List α × Cursor)} {found : List α} {after : Cursor}
    (ended : restOfList close first ⟨tokens, depth⟩ others = .ok (found, after)) :
    (∃ rest read, tokens = .comma :: rest ∧ others ⟨rest, depth⟩ = .ok (read, after) ∧
        found = first :: read) ∨
      ∃ rest, tokens = close :: rest ∧ after = ⟨rest, depth⟩ ∧ found = [first] := by
  unfold restOfList at ended
  split at ended
  · rename_i rest same
    obtain ⟨⟨read, behind⟩, readOthers, ended⟩ := exists_of_bind_eq_ok ended
    obtain ⟨rfl, rfl⟩ := Prod.mk.inj (Except.ok.inj ended)
    exact .inl ⟨rest, read, same, readOthers, rfl⟩
  · obtain ⟨behind, closed, ended⟩ := exists_of_bind_eq_ok ended
    obtain ⟨rfl, rfl⟩ := Prod.mk.inj (Except.ok.inj ended)
    obtain ⟨rest, same, rfl⟩ := plain_expect_eq_ok_iff.mp closed
    exact .inr ⟨rest, same, rfl, rfl⟩

end Steps

theorem ofName_of_reserved {name : String} {value : Value}
    (listed : (name, value) ∈ Grammar.reserved) : ofName name = .literal value := by
  simp only [Grammar.reserved, List.mem_cons, Prod.mk.injEq, List.not_mem_nil, or_false] at listed
  rcases listed with ⟨rfl, rfl⟩ | ⟨rfl, rfl⟩ | ⟨rfl, rfl⟩ | ⟨rfl, rfl⟩ | ⟨rfl, rfl⟩ <;> rfl

theorem ofName_of_free {name : String} (free : ∀ value, (name, value) ∉ Grammar.reserved) :
    ofName name = .name name := by
  have unreserved : reserved? name = none := by
    simp only [Grammar.reserved, List.mem_cons, Prod.mk.injEq, List.not_mem_nil, or_false] at free
    simp only [reserved?]
    grind
  rw [ofName, unreserved]

/-- A name is one primary expression, a literal or a variable. -/
theorem primary_ofName (name : String) : Grammar.Primary [.name name] (ofName name) 0 := by
  by_cases listed : ∃ value, (name, value) ∈ Grammar.reserved
  · obtain ⟨value, here⟩ := listed
    rw [ofName_of_reserved here]
    exact .reserved here
  · have free : ∀ value, (name, value) ∉ Grammar.reserved := fun value here => listed ⟨value, here⟩
    rw [ofName_of_free free]
    exact .name free

open Grammar

section Soundness

/-- What is read at a cursor is derived from the grammar within the levels that are left, and
reading goes on behind it, at a depth that is given. -/
def Derived {α : Type} (derives : List Token → α → Nat → Prop) (tokens : List Token) (depth : Nat)
    (found : α) (after : Cursor) (depthAfter : Nat) : Prop :=
  ∃ read levels rest, tokens = read ++ rest ∧ derives read found levels ∧
    levels ≤ nestingLimit - depth ∧ after = ⟨rest, depthAfter⟩

/-- Whatever is read of fewer than a number of tokens is derived from the grammar. -/
structure DerivedBelow (size : Nat) : Prop where
  expression {tokens : List Token} {depth : Nat} {found : Expr} {after : Cursor}
    (fewer : tokens.length < size)
    (parsed : plain (expression ⟨tokens, depth⟩) = .ok (found, after)) :
    Derived Phrase tokens depth found after depth
  suffixes {head : Expr} {raised : Nat} {tokens : List Token} {depth : Nat} {found : Expr}
    {after : Cursor} (fewer : tokens.length < size)
    (parsed : plain (suffixes head raised ⟨tokens, depth⟩) = .ok (found, after)) :
    Derived (Suffixes head) tokens depth found after (depth - raised)
  sequence {close : Token} {tokens : List Token} {depth : Nat} {found : List Expr} {after : Cursor}
    (fewer : tokens.length < size)
    (parsed : plain (sequence close ⟨tokens, depth⟩) = .ok (found, after)) :
    Derived (fun read items levels => ∃ listed, read = listed ++ [close] ∧
      Items listed items levels) tokens depth found after depth
  entries {tokens : List Token} {depth : Nat} {found : List (Expr × Expr)} {after : Cursor}
    (fewer : tokens.length < size)
    (parsed : plain (entries ⟨tokens, depth⟩) = .ok (found, after)) :
    Derived (fun read items levels => ∃ listed, read = listed ++ [.closeBrace] ∧
      Pairs listed items levels) tokens depth found after depth

variable {head found : Expr} {raised : Nat} {tokens : List Token} {depth : Nat} {after : Cursor}

theorem derived_suffixes (below : DerivedBelow tokens.length)
    (parsed : plain (suffixes head raised ⟨tokens, depth⟩) = .ok (found, after)) :
    Derived (Suffixes head) tokens depth found after (depth - raised) := by
  by_cases ends : Ends tokens
  · rw [plain_ended _ _ _ ends] at parsed
    obtain ⟨rfl, rfl⟩ := Prod.mk.inj (Except.ok.inj parsed)
    exact ⟨[], 0, tokens, rfl, .none head, Nat.zero_le _, rfl⟩
  cases tokens with
  | nil => exact absurd nofun ends
  | cons token tokens =>
  cases token with
  | openBracket =>
    rw [plain_item, levelLeft_eq_ok_iff] at parsed
    obtain ⟨shallow, parsed⟩ := parsed
    obtain ⟨⟨position, inner⟩, readPosition, parsed⟩ := exists_of_bind_eq_ok parsed
    obtain ⟨middle, closed, readRest⟩ := exists_of_bind_eq_ok parsed
    obtain ⟨first, inPosition, others, rfl, phrase, positionFits, rfl⟩ :=
      below.expression (by simp) readPosition
    obtain ⟨others, rfl, rfl⟩ := plain_expect_eq_ok_iff.mp closed
    obtain ⟨second, inRest, rest, rfl, suffixes, restFits, rfl⟩ :=
      below.suffixes (by simp; omega) readRest
    refine ⟨.openBracket :: (first ++ .closeBracket :: second), max inPosition inRest + 1, rest,
      by simp, .item phrase suffixes, by omega, ?_⟩
    rw [Nat.add_sub_add_right]
  | dot =>
    rw [plain_field, levelLeft_eq_ok_iff] at parsed
    obtain ⟨shallow, parsed⟩ := parsed
    split at parsed
    · rename_i field others
      obtain ⟨second, inRest, rest, rfl, suffixes, restFits, rfl⟩ :=
        below.suffixes (by simp only [List.length_cons]; omega) parsed
      refine ⟨.dot :: .name field :: second, inRest + 1, rest, rfl, .field suffixes, by omega, ?_⟩
      rw [Nat.add_sub_add_right]
    · contradiction
  | openParen =>
    rw [plain_call] at parsed
    split at parsed
    · rename_i function
      obtain ⟨⟨arguments, middle⟩, readArguments, readRest⟩ := exists_of_bind_eq_ok parsed
      obtain ⟨_, inArguments, others, rfl, ⟨listed, rfl, items⟩, argumentsFit, rfl⟩ :=
        below.sequence (by simp) readArguments
      obtain ⟨second, inRest, rest, rfl, suffixes, restFits, rfl⟩ :=
        below.suffixes (by simp; omega) readRest
      exact ⟨.openParen :: (listed ++ .closeParen :: second), max inArguments inRest, rest,
        by simp, .call items suffixes, by omega, rfl⟩
    · contradiction
  | _ => exact absurd (ends_cons rfl tokens) ends

theorem derived_primary (below : DerivedBelow tokens.length)
    (parsed : plain (primary ⟨tokens, depth⟩) = .ok (found, after)) :
    Derived Primary tokens depth found after depth := by
  rw [plain_primary] at parsed
  split at parsed
  · rename_i value rest
    obtain ⟨rfl, rfl⟩ := Prod.mk.inj (Except.ok.inj parsed)
    exact ⟨[.int value], 0, rest, rfl, .int value, Nat.zero_le _, rfl⟩
  · rename_i value rest
    obtain ⟨rfl, rfl⟩ := Prod.mk.inj (Except.ok.inj parsed)
    exact ⟨[.text value], 0, rest, rfl, .text value, Nat.zero_le _, rfl⟩
  · rename_i name rest
    obtain ⟨rfl, rfl⟩ := Prod.mk.inj (Except.ok.inj parsed)
    exact ⟨[.name name], 0, rest, rfl, primary_ofName name, Nat.zero_le _, rfl⟩
  · obtain ⟨⟨inner, middle⟩, readInner, parsed⟩ := exists_of_bind_eq_ok parsed
    obtain ⟨behind, closed, parsed⟩ := exists_of_bind_eq_ok parsed
    obtain ⟨rfl, rfl⟩ := Prod.mk.inj (Except.ok.inj parsed)
    obtain ⟨first, levels, others, rfl, phrase, fits, rfl⟩ := below.expression (by simp) readInner
    obtain ⟨rest, rfl, rfl⟩ := plain_expect_eq_ok_iff.mp closed
    exact ⟨.openParen :: (first ++ [.closeParen]), levels, rest, by simp, .paren phrase, fits, rfl⟩
  · obtain ⟨⟨items, behind⟩, readItems, parsed⟩ := exists_of_bind_eq_ok parsed
    obtain ⟨rfl, rfl⟩ := Prod.mk.inj (Except.ok.inj parsed)
    obtain ⟨_, levels, rest, rfl, ⟨listed, rfl, items⟩, fits, rfl⟩ :=
      below.sequence (by simp) readItems
    exact ⟨.openBracket :: (listed ++ [.closeBracket]), levels, rest, rfl, .list items, fits, rfl⟩
  · obtain ⟨⟨read, behind⟩, readEntries, parsed⟩ := exists_of_bind_eq_ok parsed
    obtain ⟨rfl, rfl⟩ := Prod.mk.inj (Except.ok.inj parsed)
    obtain ⟨_, levels, rest, rfl, ⟨listed, rfl, entries⟩, fits, rfl⟩ :=
      below.entries (by simp) readEntries
    exact ⟨.openBrace :: (listed ++ [.closeBrace]), levels, rest, rfl, .map entries, fits, rfl⟩
  · contradiction

theorem DerivedBelow.mono {size larger : Nat} (below : DerivedBelow larger) (le : size ≤ larger) :
    DerivedBelow size where
  expression fewer := below.expression (Nat.lt_of_lt_of_le fewer le)
  suffixes fewer := below.suffixes (Nat.lt_of_lt_of_le fewer le)
  sequence fewer := below.sequence (Nat.lt_of_lt_of_le fewer le)
  entries fewer := below.entries (Nat.lt_of_lt_of_le fewer le)

theorem derived_expression (below : DerivedBelow tokens.length)
    (parsed : plain (expression ⟨tokens, depth⟩) = .ok (found, after)) :
    Derived Phrase tokens depth found after depth := by
  by_cases minus : tokens.head? = some .minus
  · obtain ⟨rest, rfl⟩ := List.head?_eq_some_iff.mp minus
    rw [plain_negation, levelLeft_eq_ok_iff] at parsed
    obtain ⟨shallow, parsed⟩ := parsed
    obtain ⟨⟨operand, inner⟩, readOperand, parsed⟩ := exists_of_bind_eq_ok parsed
    obtain ⟨rfl, rfl⟩ := Prod.mk.inj (Except.ok.inj parsed)
    obtain ⟨read, levels, rest, rfl, phrase, fits, rfl⟩ := below.expression (by simp) readOperand
    exact ⟨.minus :: read, levels + 1, rest, rfl, .negate phrase, by omega, rfl⟩
  · rw [plain_chain _ minus, levelLeft_eq_ok_iff] at parsed
    obtain ⟨shallow, parsed⟩ := parsed
    obtain ⟨⟨head, middle⟩, readHead, parsed⟩ := exists_of_bind_eq_ok parsed
    obtain ⟨⟨chain, inner⟩, readChain, parsed⟩ := exists_of_bind_eq_ok parsed
    obtain ⟨rfl, rfl⟩ := Prod.mk.inj (Except.ok.inj parsed)
    obtain ⟨first, inHead, others, rfl, primary, headFits, rfl⟩ := derived_primary below readHead
    obtain ⟨second, inSuffixes, rest, rfl, suffixes, suffixesFit, rfl⟩ :=
      derived_suffixes (below.mono (by simp)) readChain
    exact ⟨first ++ second, max inHead inSuffixes + 1, rest, (List.append_assoc _ _ _).symm,
      .chain primary suffixes, by omega, rfl⟩

theorem derived_sequence {close : Token} {found : List Expr} (below : DerivedBelow tokens.length)
    (parsed : plain (sequence close ⟨tokens, depth⟩) = .ok (found, after)) :
    Derived (fun read items levels => ∃ listed, read = listed ++ [close] ∧
      Items listed items levels) tokens depth found after depth := by
  rw [plain_sequence] at parsed
  split at parsed
  · obtain ⟨behind, closed, parsed⟩ := exists_of_bind_eq_ok parsed
    obtain ⟨rfl, rfl⟩ := Prod.mk.inj (Except.ok.inj parsed)
    obtain ⟨rest, rfl, rfl⟩ := plain_expect_eq_ok_iff.mp closed
    exact ⟨[close], 0, rest, rfl, ⟨[], rfl, .none⟩, Nat.zero_le _, rfl⟩
  · obtain ⟨⟨item, middle⟩, readItem, parsed⟩ := exists_of_bind_eq_ok parsed
    obtain ⟨first, inItem, others, rfl, phrase, itemFits, rfl⟩ := derived_expression below readItem
    rcases restOfList_eq_ok parsed with
      ⟨others, items, rfl, readOthers, rfl⟩ | ⟨rest, rfl, rfl, rfl⟩
    · obtain ⟨_, inRest, rest, rfl, ⟨listed, rfl, items⟩, restFits, rfl⟩ :=
        below.sequence (by simp; omega) readOthers
      exact ⟨first ++ .comma :: (listed ++ [close]), max inItem inRest, rest, by simp,
        ⟨first ++ .comma :: listed, by simp, .more phrase items⟩, by omega, rfl⟩
    · exact ⟨first ++ [close], inItem, rest, by simp, ⟨first, rfl, .last phrase⟩, itemFits, rfl⟩

theorem derived_entries {found : List (Expr × Expr)} (below : DerivedBelow tokens.length)
    (parsed : plain (entries ⟨tokens, depth⟩) = .ok (found, after)) :
    Derived (fun read items levels => ∃ listed, read = listed ++ [.closeBrace] ∧
      Pairs listed items levels) tokens depth found after depth := by
  rw [plain_entries] at parsed
  split at parsed
  · obtain ⟨behind, closed, parsed⟩ := exists_of_bind_eq_ok parsed
    obtain ⟨rfl, rfl⟩ := Prod.mk.inj (Except.ok.inj parsed)
    obtain ⟨rest, rfl, rfl⟩ := plain_expect_eq_ok_iff.mp closed
    exact ⟨[.closeBrace], 0, rest, rfl, ⟨[], rfl, .none⟩, Nat.zero_le _, rfl⟩
  · obtain ⟨⟨key, middle⟩, readKey, parsed⟩ := exists_of_bind_eq_ok parsed
    obtain ⟨behind, colon, parsed⟩ := exists_of_bind_eq_ok parsed
    obtain ⟨⟨value, middle⟩, readValue, parsed⟩ := exists_of_bind_eq_ok parsed
    obtain ⟨first, inKey, others, rfl, keyPhrase, keyFits, rfl⟩ := derived_expression below readKey
    obtain ⟨others, rfl, rfl⟩ := plain_expect_eq_ok_iff.mp colon
    obtain ⟨second, inValue, others, rfl, valuePhrase, valueFits, rfl⟩ :=
      below.expression (by simp; omega) readValue
    have pair : Pair (first ++ .colon :: second) (key, value) (max inKey inValue) :=
      .keyed keyPhrase valuePhrase
    rcases restOfList_eq_ok parsed with
      ⟨others, items, rfl, readOthers, rfl⟩ | ⟨rest, rfl, rfl, rfl⟩
    · obtain ⟨_, inRest, rest, rfl, ⟨listed, rfl, items⟩, restFits, rfl⟩ :=
        below.entries (by simp; omega) readOthers
      exact ⟨first ++ .colon :: second ++ .comma :: (listed ++ [.closeBrace]),
        max (max inKey inValue) inRest, rest, by simp,
        ⟨first ++ .colon :: second ++ .comma :: listed, by simp, .more pair items⟩, by omega, rfl⟩
    · exact ⟨first ++ .colon :: second ++ [.closeBrace], max inKey inValue, rest, by simp,
        ⟨first ++ .colon :: second, rfl, .last pair⟩, by omega, rfl⟩

/-- By induction on the number of tokens: each function reads fewer of them before it calls itself
again. -/
theorem derivedBelow (size : Nat) : DerivedBelow size := by
  induction size with
  | zero => exact ⟨nofun, nofun, nofun, nofun⟩
  | succ size ih =>
    constructor
    · exact fun fewer => derived_expression (ih.mono (Nat.le_of_lt_succ fewer))
    · exact fun fewer => derived_suffixes (ih.mono (Nat.le_of_lt_succ fewer))
    · exact fun fewer => derived_sequence (ih.mono (Nat.le_of_lt_succ fewer))
    · exact fun fewer => derived_entries (ih.mono (Nat.le_of_lt_succ fewer))

end Soundness

section Completeness

theorem levelLeft_of_lt {α : Type} {depth : Nat} (shallow : depth < nestingLimit)
    (result : Except ParseError α) : levelLeft depth result = result :=
  if_neg (Nat.not_lt.mpr shallow)

theorem plain_expect_self (token : Token) (rest : List Token) (depth : Nat) :
    plain (Cursor.expect ⟨token :: rest, depth⟩ token) = .ok ⟨rest, depth⟩ :=
  plain_expect_eq_ok_iff.mpr ⟨rest, rfl, rfl⟩

theorem restOfList_closed {α : Type} {close : Token} (closing : close.closes = true) (first : α)
    (rest : List Token) (depth : Nat) (others : Cursor → Except ParseError (List α × Cursor)) :
    restOfList close first ⟨close :: rest, depth⟩ others = .ok ([first], ⟨rest, depth⟩) := by
  unfold restOfList
  rw [plain_expect_self]
  cases close <;> first | rfl | contradiction

theorem head?_ne_of_closes {close : Token} (closing : close.closes = true) {tokens : List Token}
    (goesOn : ¬ Closes tokens) : tokens.head? ≠ some close :=
  fun here => goesOn ⟨close, here, closing⟩

mutual

theorem expression_of_phrase {read : List Token} {e : Expr} {levels : Nat}
    (phrase : Phrase read e levels) {depth : Nat} (fits : levels ≤ nestingLimit - depth)
    {rest : List Token} (ends : Ends rest) :
    plain (expression ⟨read ++ rest, depth⟩) = .ok (e, ⟨rest, depth⟩) := by
  match phrase with
  | .negate inner =>
    rw [List.cons_append, plain_negation, levelLeft_of_lt (by omega),
      expression_of_phrase inner (by omega) ends]
    rfl
  | .chain primary suffixes =>
    rw [List.append_assoc, plain_chain _ primary.head?_ne_minus, levelLeft_of_lt (by omega),
      primary_of_derived primary (by omega)]
    simp only [ok_bind]
    rw [suffixes_of_derived suffixes (by omega) ends]
    rfl
termination_by structural phrase

theorem suffixes_of_derived {head : Expr} {read : List Token} {e : Expr} {levels : Nat}
    (derived : Suffixes head read e levels) {depth raised : Nat}
    (fits : levels ≤ nestingLimit - depth) {rest : List Token} (ends : Ends rest) :
    plain (suffixes head raised ⟨read ++ rest, depth⟩) = .ok (e, ⟨rest, depth - raised⟩) := by
  match derived with
  | .none _ => exact plain_ended _ _ _ ends
  | .item phrase others =>
    rw [List.cons_append, List.append_assoc, List.cons_append, plain_item,
      levelLeft_of_lt (by omega),
      expression_of_phrase phrase (by omega) (ends_cons rfl _)]
    simp only [ok_bind, plain_expect_self]
    rw [suffixes_of_derived others (by omega) ends, Nat.add_sub_add_right]
  | .field others =>
    rw [List.cons_append, plain_field, levelLeft_of_lt (by omega)]
    simp only [List.cons_append]
    rw [suffixes_of_derived others (by omega) ends, Nat.add_sub_add_right]
  | .call listed others =>
    rw [List.cons_append, List.append_assoc, List.cons_append, plain_call,
      sequence_of_items listed (by omega) rfl]
    exact suffixes_of_derived others (by omega) ends
termination_by structural derived

theorem primary_of_derived {read : List Token} {e : Expr} {levels : Nat}
    (derived : Primary read e levels) {depth : Nat} (fits : levels ≤ nestingLimit - depth)
    {rest : List Token} :
    plain (primary ⟨read ++ rest, depth⟩) = .ok (e, ⟨rest, depth⟩) := by
  rw [plain_primary]
  match derived with
  | .int value => rfl
  | .text value => rfl
  | .reserved listed =>
    simp only [List.cons_append, List.nil_append, ofName_of_reserved listed]
  | .name free => simp only [List.cons_append, List.nil_append, ofName_of_free free]
  | .paren phrase =>
    simp only [List.cons_append, List.append_assoc, List.nil_append]
    rw [expression_of_phrase phrase fits (ends_cons rfl _)]
    simp only [ok_bind, plain_expect_self]
    rfl
  | .list listed =>
    simp only [List.cons_append, List.append_assoc, List.nil_append]
    rw [sequence_of_items listed fits rfl]
    rfl
  | .map listed =>
    simp only [List.cons_append, List.append_assoc, List.nil_append]
    rw [entries_of_pairs listed fits]
    rfl
termination_by structural derived

theorem sequence_of_items {read : List Token} {items : List Expr} {levels : Nat}
    (listed : Items read items levels) {depth : Nat} (fits : levels ≤ nestingLimit - depth)
    {close : Token} (closing : close.closes = true) {rest : List Token} :
    plain (sequence close ⟨read ++ close :: rest, depth⟩) = .ok (items, ⟨rest, depth⟩) := by
  rw [plain_sequence]
  have closed : Ends (close :: rest) := (closes_cons closing rest).ends
  match listed with
  | .none => rw [List.nil_append, if_pos (List.head?_cons), plain_expect_self]; rfl
  | .last phrase =>
    rw [if_neg (head?_ne_of_closes closing phrase.not_closes),
      expression_of_phrase phrase fits closed]
    simp only [ok_bind, restOfList_closed closing]
  | .more phrase others =>
    rw [List.append_assoc, List.cons_append, if_neg (head?_ne_of_closes closing phrase.not_closes),
      expression_of_phrase phrase (by omega) (ends_cons rfl _)]
    simp only [ok_bind, restOfList]
    rw [sequence_of_items others (by omega) closing]
    rfl
termination_by structural listed

theorem entries_of_pairs {read : List Token} {items : List (Expr × Expr)} {levels : Nat}
    (listed : Pairs read items levels) {depth : Nat} (fits : levels ≤ nestingLimit - depth)
    {rest : List Token} :
    plain (entries ⟨read ++ .closeBrace :: rest, depth⟩) = .ok (items, ⟨rest, depth⟩) := by
  rw [plain_entries]
  have closing : Token.closes .closeBrace = true := rfl
  match listed with
  | .none => rw [List.nil_append, if_pos (List.head?_cons), plain_expect_self]; rfl
  | .last (.keyed key value) =>
    rw [List.append_assoc, List.cons_append, if_neg (head?_ne_of_closes rfl key.not_closes),
      expression_of_phrase key (by omega) (ends_cons rfl _)]
    simp only [ok_bind, plain_expect_self]
    rw [expression_of_phrase value (by omega) (ends_cons rfl rest)]
    simp only [ok_bind, restOfList_closed closing]
  | .more (.keyed key value) others =>
    rw [List.append_assoc, List.append_assoc, List.cons_append, List.cons_append,
      if_neg (head?_ne_of_closes rfl key.not_closes),
      expression_of_phrase key (by omega) (ends_cons rfl _)]
    simp only [ok_bind, plain_expect_self]
    rw [expression_of_phrase value (by omega) (ends_cons rfl _)]
    simp only [ok_bind, restOfList]
    rw [entries_of_pairs others (by omega)]
    rfl
termination_by structural listed

end

end Completeness

end Parser

end UrclDebugger
