import UrclDebugger.Script.Expr
import UrclDebugger.Script.Token

/-!
# The grammar of expressions

Which tokens are an expression, and which one, is said here without reading them. An expression is
a negation or a chain: a primary expression and the suffixes behind it. Every derivation takes a
number of levels: one for each expression, and one for each item or field suffix, which counts for
all that comes behind it in its chain. Parentheses, lists, maps and calls take no level for
themselves.

A chain goes on for as long as suffixes follow, and everything else in the grammar says where it
ends. So a text that starts with an expression has one place only where the expression ends, and
one expression that it is (`Grammar.Phrase.unique`).
-/

namespace UrclDebugger

namespace Token

/-- Whether the token begins a suffix. -/
def opensSuffix : Token → Bool
  | .openBracket | .dot | .openParen => true
  | _ => false

/-- Whether the token begins a primary expression. -/
def opensPrimary : Token → Bool
  | .int _ | .text _ | .name _ | .openParen | .openBracket | .openBrace => true
  | _ => false

/-- Whether the token ends what a bracket has begun. -/
def closes : Token → Bool
  | .closeParen | .closeBracket | .closeBrace => true
  | _ => false

end Token

namespace Grammar

/-- The names that are literals. -/
def reserved : List (String × Value) :=
  [("true", .bool true), ("True", .bool true), ("false", .bool false), ("False", .bool false),
    ("None", .absent)]

mutual

/-- The tokens are an expression, which takes a number of levels. -/
inductive Phrase : List Token → Expr → Nat → Prop where
  | negate {tokens : List Token} {operand : Expr} {levels : Nat}
      (inner : Phrase tokens operand levels) :
      Phrase (.minus :: tokens) (.negate operand) (levels + 1)
  | chain {first rest : List Token} {head chain : Expr} {inHead inSuffixes : Nat}
      (primary : Primary first head inHead) (suffixes : Suffixes head rest chain inSuffixes) :
      Phrase (first ++ rest) chain (max inHead inSuffixes + 1)

/-- The tokens are a primary expression. -/
inductive Primary : List Token → Expr → Nat → Prop where
  | int (value : Word) : Primary [.int value] (.literal (.int value)) 0
  | text (value : String) : Primary [.text value] (.literal (.text value)) 0
  | reserved {name : String} {value : Value} (listed : (name, value) ∈ reserved) :
      Primary [.name name] (.literal value) 0
  | name {name : String} (free : ∀ value, (name, value) ∉ Grammar.reserved) :
      Primary [.name name] (.name name) 0
  | paren {tokens : List Token} {inner : Expr} {levels : Nat}
      (phrase : Phrase tokens inner levels) :
      Primary (.openParen :: (tokens ++ [.closeParen])) inner levels
  | list {tokens : List Token} {items : List Expr} {levels : Nat}
      (listed : Items tokens items levels) :
      Primary (.openBracket :: (tokens ++ [.closeBracket])) (.list items) levels
  | map {tokens : List Token} {entries : List (Expr × Expr)} {levels : Nat}
      (listed : Pairs tokens entries levels) :
      Primary (.openBrace :: (tokens ++ [.closeBrace])) (.map entries) levels

/-- The tokens are suffixes that make a chain of an expression. Only a bare name is called. -/
inductive Suffixes : Expr → List Token → Expr → Nat → Prop where
  | none (head : Expr) : Suffixes head [] head 0
  | item {head position chain : Expr} {tokens rest : List Token} {inPosition inRest : Nat}
      (phrase : Phrase tokens position inPosition)
      (others : Suffixes (.index head position) rest chain inRest) :
      Suffixes head (.openBracket :: (tokens ++ .closeBracket :: rest)) chain
        (max inPosition inRest + 1)
  | field {head chain : Expr} {field : String} {rest : List Token} {inRest : Nat}
      (others : Suffixes (.field head field) rest chain inRest) :
      Suffixes head (.dot :: .name field :: rest) chain (inRest + 1)
  | call {function : String} {arguments : List Expr} {chain : Expr} {tokens rest : List Token}
      {inArguments inRest : Nat} (listed : Items tokens arguments inArguments)
      (others : Suffixes (.call function arguments) rest chain inRest) :
      Suffixes (.name function) (.openParen :: (tokens ++ .closeParen :: rest)) chain
        (max inArguments inRest)

/-- The tokens are expressions with commas between them. A comma may stand behind the last one. -/
inductive Items : List Token → List Expr → Nat → Prop where
  | none : Items [] [] 0
  | last {tokens : List Token} {item : Expr} {levels : Nat} (phrase : Phrase tokens item levels) :
      Items tokens [item] levels
  | more {tokens rest : List Token} {item : Expr} {items : List Expr} {inItem inRest : Nat}
      (phrase : Phrase tokens item inItem) (others : Items rest items inRest) :
      Items (tokens ++ .comma :: rest) (item :: items) (max inItem inRest)

/-- The tokens are a key and its value. -/
inductive Pair : List Token → Expr × Expr → Nat → Prop where
  | keyed {tokens others : List Token} {key value : Expr} {inKey inValue : Nat}
      (keyPhrase : Phrase tokens key inKey) (valuePhrase : Phrase others value inValue) :
      Pair (tokens ++ .colon :: others) (key, value) (max inKey inValue)

/-- The tokens are keys and values with commas between them. A comma may stand behind the last
one. -/
inductive Pairs : List Token → List (Expr × Expr) → Nat → Prop where
  | none : Pairs [] [] 0
  | last {tokens : List Token} {entry : Expr × Expr} {levels : Nat}
      (pair : Pair tokens entry levels) : Pairs tokens [entry] levels
  | more {tokens rest : List Token} {entry : Expr × Expr} {entries : List (Expr × Expr)}
      {inPair inRest : Nat} (pair : Pair tokens entry inPair)
      (others : Pairs rest entries inRest) :
      Pairs (tokens ++ .comma :: rest) (entry :: entries) (max inPair inRest)

end

/-- What follows does not go on with a chain. -/
def Ends (rest : List Token) : Prop := ∀ token ∈ rest.head?, token.opensSuffix = false

/-- What follows closes a bracket. -/
def Closes (rest : List Token) : Prop := ∃ token ∈ rest.head?, token.closes = true

theorem ends_cons {token : Token} (plain : token.opensSuffix = false) (rest : List Token) :
    Ends (token :: rest) := by
  intro first same
  obtain rfl := Option.some.inj same
  exact plain

theorem closes_cons {token : Token} (closing : token.closes = true) (rest : List Token) :
    Closes (token :: rest) := ⟨token, rfl, closing⟩

theorem Closes.ends {rest : List Token} (closes : Closes rest) : Ends rest := by
  obtain ⟨token, here, closing⟩ := closes
  intro first same
  obtain rfl := Option.mem_unique here same
  cases token <;> first | rfl | contradiction

theorem not_closes_cons {token : Token} (going : token.closes = false) (rest : List Token) :
    ¬ Closes (token :: rest) := by
  rintro ⟨first, same, closing⟩
  obtain rfl := Option.some.inj same
  exact Bool.false_ne_true (going.symm.trans closing)

section Opening

variable {tokens rest : List Token} {e : Expr} {levels : Nat}

theorem Primary.exists_cons (primary : Primary tokens e levels) :
    ∃ first others, tokens = first :: others ∧ first.opensPrimary = true := by
  cases primary <;> exact ⟨_, _, rfl, rfl⟩

theorem Phrase.exists_cons (phrase : Phrase tokens e levels) :
    ∃ first others, tokens = first :: others ∧ (first = .minus ∨ first.opensPrimary = true) := by
  cases phrase with
  | negate inner => exact ⟨_, _, rfl, .inl rfl⟩
  | chain primary suffixes =>
    obtain ⟨first, others, rfl, opens⟩ := primary.exists_cons
    exact ⟨_, _, rfl, .inr opens⟩

theorem Primary.head?_ne_minus (primary : Primary tokens e levels) :
    (tokens ++ rest).head? ≠ some .minus := by
  obtain ⟨first, others, rfl, opens⟩ := primary.exists_cons
  rintro ⟨⟩
  contradiction

/-- An expression does not begin with what closes a bracket. -/
theorem Phrase.not_closes (phrase : Phrase tokens e levels) : ¬ Closes (tokens ++ rest) := by
  obtain ⟨first, others, rfl, opens⟩ := phrase.exists_cons
  refine not_closes_cons ?_ _
  rcases opens with rfl | opens
  · rfl
  · cases first <;> first | rfl | contradiction

theorem Pair.not_closes {entry : Expr × Expr} (pair : Pair tokens entry levels) :
    ¬ Closes (tokens ++ rest) := by
  cases pair with
  | keyed key value =>
    rw [List.append_assoc]
    exact key.not_closes

end Opening

/-- No name is listed twice. -/
theorem reserved_unique {name : String} {one other : Value} (first : (name, one) ∈ reserved)
    (second : (name, other) ∈ reserved) : one = other := by
  simp only [reserved, List.mem_cons, Prod.mk.injEq, List.not_mem_nil, or_false] at first second
  grind

mutual

theorem Phrase.unique {one other : List Token} {e f : Expr} {n m : Nat} (first : Phrase one e n)
    (second : Phrase other f m) {rest after : List Token} (same : one ++ rest = other ++ after)
    (ends : Ends rest) (endsAfter : Ends after) : one = other ∧ e = f ∧ n = m := by
  match first with
  | .negate inner =>
    cases second with
    | negate again =>
      obtain ⟨_, tail⟩ := List.cons.inj same
      obtain ⟨rfl, rfl, rfl⟩ := Phrase.unique inner again tail ends endsAfter
      exact ⟨rfl, rfl, rfl⟩
    | chain primary suffixes =>
      obtain ⟨token, others, rfl, opens⟩ := primary.exists_cons
      obtain ⟨rfl, _⟩ := List.cons.inj same
      contradiction
  | .chain primary suffixes =>
    cases second with
    | negate again =>
      obtain ⟨token, others, rfl, opens⟩ := primary.exists_cons
      obtain ⟨rfl, _⟩ := List.cons.inj same
      contradiction
    | chain primaryAgain suffixesAgain =>
      rw [List.append_assoc, List.append_assoc] at same
      obtain ⟨rfl, rfl, rfl⟩ := Primary.unique primary primaryAgain same
      obtain ⟨rfl, rfl, rfl⟩ := Suffixes.unique suffixes suffixesAgain
        (List.append_cancel_left same) ends endsAfter
      exact ⟨rfl, rfl, rfl⟩
termination_by structural first

/-- A primary expression says itself where it ends. -/
theorem Primary.unique {one other : List Token} {e f : Expr} {n m : Nat} (first : Primary one e n)
    (second : Primary other f m) {rest after : List Token}
    (same : one ++ rest = other ++ after) : one = other ∧ e = f ∧ n = m := by
  match first with
  | .int value => cases second <;> simp_all
  | .text value => cases second <;> simp_all
  | .reserved listed =>
    cases second with
    | reserved again =>
      obtain ⟨sameName, _⟩ := List.cons.inj same
      obtain rfl := Token.name.inj sameName
      obtain rfl := reserved_unique listed again
      exact ⟨rfl, rfl, rfl⟩
    | _ => simp_all
  | .name free => cases second <;> simp_all
  | .paren phrase =>
    cases second with
    | paren again =>
      simp only [List.cons_append, List.append_assoc, List.cons.injEq, true_and] at same
      have closed {others : List Token} : Ends ([.closeParen] ++ others) := ends_cons rfl _
      obtain ⟨rfl, rfl, rfl⟩ := Phrase.unique phrase again same closed closed
      exact ⟨rfl, rfl, rfl⟩
    | _ => simp at same
  | .list listed =>
    cases second with
    | list again =>
      simp only [List.cons_append, List.append_assoc, List.cons.injEq, true_and] at same
      have closed {others : List Token} : Closes ([.closeBracket] ++ others) := closes_cons rfl _
      obtain ⟨rfl, rfl, rfl⟩ := Items.unique listed again same closed closed
      exact ⟨rfl, rfl, rfl⟩
    | _ => simp at same
  | .map listed =>
    cases second with
    | map again =>
      simp only [List.cons_append, List.append_assoc, List.cons.injEq, true_and] at same
      have closed {others : List Token} : Closes ([.closeBrace] ++ others) := closes_cons rfl _
      obtain ⟨rfl, rfl, rfl⟩ := Pairs.unique listed again same closed closed
      exact ⟨rfl, rfl, rfl⟩
    | _ => simp at same
termination_by structural first

theorem Suffixes.unique {head : Expr} {one other : List Token} {e f : Expr} {n m : Nat}
    (first : Suffixes head one e n) (second : Suffixes head other f m) {rest after : List Token}
    (same : one ++ rest = other ++ after) (ends : Ends rest) (endsAfter : Ends after) :
    one = other ∧ e = f ∧ n = m := by
  match first with
  | .none _ =>
    cases second with
    | none => exact ⟨rfl, rfl, rfl⟩
    | _ =>
      obtain rfl : rest = _ := same
      exact absurd (ends _ rfl) (by decide)
  | .item phrase others =>
    cases second with
    | none =>
      obtain rfl : after = _ := same.symm
      exact absurd (endsAfter _ rfl) (by decide)
    | item phraseAgain othersAgain =>
      simp only [List.cons_append, List.append_assoc, List.cons.injEq, true_and] at same
      obtain ⟨rfl, rfl, rfl⟩ :=
        Phrase.unique phrase phraseAgain same (ends_cons rfl _) (ends_cons rfl _)
      have tail := (List.cons.inj (List.append_cancel_left same)).2
      obtain ⟨rfl, rfl, rfl⟩ := Suffixes.unique others othersAgain tail ends endsAfter
      exact ⟨rfl, rfl, rfl⟩
    | _ => simp at same
  | .field others =>
    cases second with
    | none =>
      obtain rfl : after = _ := same.symm
      exact absurd (endsAfter _ rfl) (by decide)
    | field othersAgain =>
      simp only [List.cons_append, List.cons.injEq, true_and, Token.name.injEq] at same
      obtain ⟨rfl, tail⟩ := same
      obtain ⟨rfl, rfl, rfl⟩ := Suffixes.unique others othersAgain tail ends endsAfter
      exact ⟨rfl, rfl, rfl⟩
    | _ => simp at same
  | .call listed others =>
    cases second with
    | none =>
      obtain rfl : after = _ := same.symm
      exact absurd (endsAfter _ rfl) (by decide)
    | call listedAgain othersAgain =>
      simp only [List.cons_append, List.append_assoc, List.cons.injEq, true_and] at same
      obtain ⟨rfl, rfl, rfl⟩ :=
        Items.unique listed listedAgain same (closes_cons rfl _) (closes_cons rfl _)
      have tail := (List.cons.inj (List.append_cancel_left same)).2
      obtain ⟨rfl, rfl, rfl⟩ := Suffixes.unique others othersAgain tail ends endsAfter
      exact ⟨rfl, rfl, rfl⟩
    | _ => simp at same
termination_by structural first

theorem Items.unique {one other : List Token} {items again : List Expr} {n m : Nat}
    (first : Items one items n) (second : Items other again m) {rest after : List Token}
    (same : one ++ rest = other ++ after) (closes : Closes rest) (closesAfter : Closes after) :
    one = other ∧ items = again ∧ n = m := by
  match first with
  | .none =>
    rw [List.nil_append] at same
    cases second with
    | none => exact ⟨rfl, rfl, rfl⟩
    | last phrase => exact (phrase.not_closes (same ▸ closes)).elim
    | more phrase =>
      rw [List.append_assoc] at same
      exact (phrase.not_closes (same ▸ closes)).elim
  | .last phrase =>
    cases second with
    | none =>
      rw [List.nil_append] at same
      exact (phrase.not_closes (same ▸ closesAfter)).elim
    | last phraseAgain =>
      obtain ⟨rfl, rfl, rfl⟩ := Phrase.unique phrase phraseAgain same closes.ends closesAfter.ends
      exact ⟨rfl, rfl, rfl⟩
    | more phraseAgain =>
      rw [List.append_assoc] at same
      obtain ⟨rfl, _⟩ := Phrase.unique phrase phraseAgain same closes.ends (ends_cons rfl _)
      rw [List.append_cancel_left same] at closes
      exact (not_closes_cons rfl _ closes).elim
  | .more phrase others =>
    rw [List.append_assoc] at same
    cases second with
    | none =>
      rw [List.nil_append] at same
      exact (phrase.not_closes (same ▸ closesAfter)).elim
    | last phraseAgain =>
      obtain ⟨rfl, _⟩ := Phrase.unique phrase phraseAgain same (ends_cons rfl _) closesAfter.ends
      rw [← List.append_cancel_left same] at closesAfter
      exact (not_closes_cons rfl _ closesAfter).elim
    | more phraseAgain othersAgain =>
      rw [List.append_assoc] at same
      obtain ⟨rfl, rfl, rfl⟩ :=
        Phrase.unique phrase phraseAgain same (ends_cons rfl _) (ends_cons rfl _)
      have tail := (List.cons.inj (List.append_cancel_left same)).2
      obtain ⟨rfl, rfl, rfl⟩ := Items.unique others othersAgain tail closes closesAfter
      exact ⟨rfl, rfl, rfl⟩
termination_by structural first

theorem Pair.unique {one other : List Token} {entry again : Expr × Expr} {n m : Nat}
    (first : Pair one entry n) (second : Pair other again m) {rest after : List Token}
    (same : one ++ rest = other ++ after) (ends : Ends rest) (endsAfter : Ends after) :
    one = other ∧ entry = again ∧ n = m := by
  match first with
  | .keyed key value =>
    cases second with
    | keyed keyAgain valueAgain =>
      rw [List.append_assoc, List.append_assoc] at same
      obtain ⟨rfl, rfl, rfl⟩ := Phrase.unique key keyAgain same (ends_cons rfl _) (ends_cons rfl _)
      have tail := (List.cons.inj (List.append_cancel_left same)).2
      obtain ⟨rfl, rfl, rfl⟩ := Phrase.unique value valueAgain tail ends endsAfter
      exact ⟨rfl, rfl, rfl⟩
termination_by structural first

theorem Pairs.unique {one other : List Token} {entries again : List (Expr × Expr)} {n m : Nat}
    (first : Pairs one entries n) (second : Pairs other again m) {rest after : List Token}
    (same : one ++ rest = other ++ after) (closes : Closes rest) (closesAfter : Closes after) :
    one = other ∧ entries = again ∧ n = m := by
  match first with
  | .none =>
    rw [List.nil_append] at same
    cases second with
    | none => exact ⟨rfl, rfl, rfl⟩
    | last pair => exact (pair.not_closes (same ▸ closes)).elim
    | more pair =>
      rw [List.append_assoc] at same
      exact (pair.not_closes (same ▸ closes)).elim
  | .last pair =>
    cases second with
    | none =>
      rw [List.nil_append] at same
      exact (pair.not_closes (same ▸ closesAfter)).elim
    | last pairAgain =>
      obtain ⟨rfl, rfl, rfl⟩ := Pair.unique pair pairAgain same closes.ends closesAfter.ends
      exact ⟨rfl, rfl, rfl⟩
    | more pairAgain =>
      rw [List.append_assoc] at same
      obtain ⟨rfl, _⟩ := Pair.unique pair pairAgain same closes.ends (ends_cons rfl _)
      rw [List.append_cancel_left same] at closes
      exact (not_closes_cons rfl _ closes).elim
  | .more pair others =>
    rw [List.append_assoc] at same
    cases second with
    | none =>
      rw [List.nil_append] at same
      exact (pair.not_closes (same ▸ closesAfter)).elim
    | last pairAgain =>
      obtain ⟨rfl, _⟩ := Pair.unique pair pairAgain same (ends_cons rfl _) closesAfter.ends
      rw [← List.append_cancel_left same] at closesAfter
      exact (not_closes_cons rfl _ closesAfter).elim
    | more pairAgain othersAgain =>
      rw [List.append_assoc] at same
      obtain ⟨rfl, rfl, rfl⟩ := Pair.unique pair pairAgain same (ends_cons rfl _)
        (ends_cons rfl _)
      have tail := (List.cons.inj (List.append_cancel_left same)).2
      obtain ⟨rfl, rfl, rfl⟩ := Pairs.unique others othersAgain tail closes closesAfter
      exact ⟨rfl, rfl, rfl⟩
termination_by structural first

end

end Grammar

end UrclDebugger
