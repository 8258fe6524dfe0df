import UrclDebugger.Proofs.Script.Descent

/-!
# Texts that are expressions or statements

A text is an expression exactly when its tokens are derived from the grammar within the nesting
limit, and a statement exactly when they are one expression or two with an equals sign between them,
of which the left one is a name or an item of a name. The grammar is unambiguous, also beyond the
limit, so nothing depends on how a text is read.
-/

namespace UrclDebugger

namespace Grammar

/-- The tokens are an expression that keeps within the nesting limit. -/
def Denotes (tokens : List Token) (e : Expr) : Prop :=
  ∃ levels, Phrase tokens e levels ∧ levels ≤ nestingLimit

/-- The tokens are a statement, or there are none. -/
inductive Sentence : List Token → Option Statement → Prop where
  | blank : Sentence [] none
  | expression {tokens : List Token} {e : Expr} (denotes : Denotes tokens e) :
      Sentence tokens (some (.expression e))
  | assign {left right : List Token} {name : String} {value : Expr}
      (target : Denotes left (.name name)) (assigned : Denotes right value) :
      Sentence (left ++ .equals :: right) (some (.assign name none value))
  | assignItem {left right : List Token} {name : String} {position value : Expr}
      (target : Denotes left (.index (.name name) position)) (assigned : Denotes right value) :
      Sentence (left ++ .equals :: right) (some (.assign name (some position) value))

end Grammar

open Grammar

namespace Parser

theorem plain_eq_ok_iff {α : Type} {shape : α → Prop}
    {result : Except ParseError { read : α // shape read }} {found : α} :
    plain result = .ok found ↔ ∃ shorter, result = .ok ⟨found, shorter⟩ := by
  constructor
  · intro parsed
    obtain ⟨⟨read, shorter⟩, same, rfl⟩ := exists_of_map_eq_ok parsed
    exact ⟨shorter, same⟩
  · rintro ⟨shorter, rfl⟩
    rfl

variable {tokens : List Token} {e : Expr}

theorem denotes_of_expression {after : Cursor}
    (parsed : plain (expression ⟨tokens, 0⟩) = .ok (e, after)) :
    ∃ read, tokens = read ++ after.rest ∧ Denotes read e ∧ after.depth = 0 := by
  obtain ⟨read, levels, rest, same, phrase, fits, rfl⟩ :=
    derived_expression (derivedBelow tokens.length) parsed
  exact ⟨read, same, ⟨levels, phrase, fits⟩, rfl⟩

theorem expression_of_denotes (denotes : Denotes tokens e) (rest : List Token) (ends : Ends rest) :
    plain (expression ⟨tokens ++ rest, 0⟩) = .ok (e, ⟨rest, 0⟩) := by
  obtain ⟨levels, phrase, fits⟩ := denotes
  exact expression_of_phrase phrase fits ends

theorem expression_of_denotes_all (denotes : Denotes tokens e) :
    ∃ shorter, expression ⟨tokens, 0⟩ = .ok ⟨(e, ⟨[], 0⟩), shorter⟩ := by
  have read := expression_of_denotes denotes [] nofun
  rw [List.append_nil] at read
  exact plain_eq_ok_iff.mp read

/-- What can be assigned to is a name or an item of a name. -/
theorem target?_eq_some {left : Expr} {name : String} {position : Option Expr}
    (assignable : target? left = some (name, position)) :
    left = .name name ∧ position = none ∨
      ∃ index, left = .index (.name name) index ∧ position = some index := by
  unfold target? at assignable
  split at assignable
  · obtain ⟨rfl, rfl⟩ := Prod.mk.inj (Option.some.inj assignable)
    exact .inl ⟨rfl, rfl⟩
  · obtain ⟨rfl, rfl⟩ := Prod.mk.inj (Option.some.inj assignable)
    exact .inr ⟨_, rfl, rfl⟩
  · contradiction

/-- A statement that is read up to the last token is derived from all the tokens. -/
theorem sentence_of_statement {found : Statement} {after : Cursor}
    (parsed : statement ⟨tokens, 0⟩ = .ok (found, after)) (ended : after.rest = []) :
    Sentence tokens (some found) := by
  unfold statement at parsed
  split at parsed
  · contradiction
  rename_i left middle shorter readLeft
  obtain ⟨first, rfl, denotesLeft, surface⟩ :=
    denotes_of_expression (plain_eq_ok_iff.mpr ⟨shorter, readLeft⟩)
  split at parsed
  · rename_i rest equals
    split at parsed
    · contradiction
    rename_i value behind shorter readValue
    rw [surface] at readValue
    obtain ⟨second, rfl, denotesValue, _⟩ :=
      denotes_of_expression (plain_eq_ok_iff.mpr ⟨shorter, readValue⟩)
    split at parsed
    · rename_i name position assignable
      obtain ⟨rfl, rfl⟩ := Prod.mk.inj (Except.ok.inj parsed)
      rw [equals, ended, List.append_nil]
      rcases target?_eq_some assignable with ⟨rfl, rfl⟩ | ⟨index, rfl, rfl⟩
      · exact .assign denotesLeft denotesValue
      · exact .assignItem denotesLeft denotesValue
    · contradiction
  · obtain ⟨rfl, rfl⟩ := Prod.mk.inj (Except.ok.inj parsed)
    rw [ended, List.append_nil]
    exact .expression denotesLeft

/-- An assignment is read as what its left side assigns. -/
theorem statement_of_assignment {left right : List Token} {target value : Expr} {name : String}
    {position : Option Expr} (denotesTarget : Denotes left target)
    (denotesValue : Denotes right value) (assignable : target? target = some (name, position)) :
    statement ⟨left ++ .equals :: right, 0⟩ = .ok (.assign name position value, ⟨[], 0⟩) := by
  have ends : Ends (.equals :: right) := ends_cons rfl right
  obtain ⟨shorter, readTarget⟩ :=
    plain_eq_ok_iff.mp (expression_of_denotes denotesTarget _ ends)
  obtain ⟨shorter, readValue⟩ := expression_of_denotes_all denotesValue
  simp only [statement, readTarget, readValue, assignable]

theorem statement_of_denotes (denotes : Denotes tokens e) :
    statement ⟨tokens, 0⟩ = .ok (.expression e, ⟨[], 0⟩) := by
  obtain ⟨shorter, read⟩ := expression_of_denotes_all denotes
  simp only [statement, read]

theorem statement_of_sentence {found : Statement} (sentence : Sentence tokens (some found)) :
    statement ⟨tokens, 0⟩ = .ok (found, ⟨[], 0⟩) := by
  cases sentence with
  | expression denotes => exact statement_of_denotes denotes
  | assign target assigned => exact statement_of_assignment target assigned rfl
  | assignItem target assigned => exact statement_of_assignment target assigned rfl

end Parser

theorem Expr.parse_eq_ok_iff {text : String} {e : Expr} :
    Expr.parse text = .ok e ↔ ∃ tokens, Token.ofText text = .ok tokens ∧ Denotes tokens e := by
  unfold Expr.parse
  constructor
  · intro parsed
    split at parsed
    · contradiction
    rename_i tokens cut
    split at parsed
    · contradiction
    rename_i found after shorter read
    obtain ⟨first, rfl, denotes, _⟩ :=
      Parser.denotes_of_expression (Parser.plain_eq_ok_iff.mpr ⟨shorter, read⟩)
    split at parsed
    · rename_i ended
      obtain rfl := Except.ok.inj parsed
      rw [ended, List.append_nil] at cut
      exact ⟨first, cut, denotes⟩
    · contradiction
  · rintro ⟨tokens, cut, denotes⟩
    obtain ⟨shorter, read⟩ := Parser.expression_of_denotes_all denotes
    simp only [cut, read]

theorem Grammar.Sentence.ne_nil {tokens : List Token} {found : Statement}
    (sentence : Sentence tokens (some found)) : tokens ≠ [] := by
  cases sentence with
  | expression denotes =>
    obtain ⟨levels, phrase, _⟩ := denotes
    obtain ⟨first, others, rfl, _⟩ := phrase.exists_cons
    exact List.cons_ne_nil _ _
  | assign => exact List.append_ne_nil_of_right_ne_nil _ (List.cons_ne_nil _ _)
  | assignItem => exact List.append_ne_nil_of_right_ne_nil _ (List.cons_ne_nil _ _)

theorem Statement.parse_eq_ok_iff {text : String} {found : Option Statement} :
    Statement.parse text = .ok found ↔
      ∃ tokens, Token.ofText text = .ok tokens ∧ Sentence tokens found := by
  unfold Statement.parse
  constructor
  · intro parsed
    split at parsed
    · contradiction
    · rename_i cut
      obtain rfl := Except.ok.inj parsed
      exact ⟨[], cut, .blank⟩
    rename_i tokens _ cut
    split at parsed
    · contradiction
    rename_i statement after read
    split at parsed
    · rename_i ended
      obtain rfl := Except.ok.inj parsed
      exact ⟨tokens, cut, Parser.sentence_of_statement read ended⟩
    · contradiction
  · rintro ⟨tokens, cut, sentence⟩
    rw [cut]
    cases found with
    | none =>
      cases sentence
      rfl
    | some statement =>
      have read := Parser.statement_of_sentence sentence
      cases tokens with
      | nil => exact absurd rfl sentence.ne_nil
      | cons first others => simp only [read]

/-- A text is an expression exactly when its tokens are derived as one, within the nesting limit,
and it is the statement that its tokens are derived as; any other text has an error. No tokens are
derived as two expressions, or on two numbers of levels. -/
theorem parse_follows_grammar (text : String) :
    (∀ e, Expr.parse text = .ok e ↔ ∃ tokens levels, Token.ofText text = .ok tokens ∧
      Phrase tokens e levels ∧ levels ≤ nestingLimit) ∧
    (∀ tokens e f n m, Phrase tokens e n → Phrase tokens f m → e = f ∧ n = m) ∧
    (∀ found, Statement.parse text = .ok found ↔
      ∃ tokens, Token.ofText text = .ok tokens ∧ Sentence tokens found) ∧
    ((∃ error, Statement.parse text = .error error) ↔
      ¬ ∃ tokens found, Token.ofText text = .ok tokens ∧ Sentence tokens found) := by
  refine ⟨fun e => ?_, fun tokens e f n m one other => ?_, fun found => ?_, ?_⟩
  · rw [Expr.parse_eq_ok_iff]
    constructor
    · rintro ⟨tokens, cut, levels, phrase, fits⟩
      exact ⟨tokens, levels, cut, phrase, fits⟩
    · rintro ⟨tokens, levels, cut, phrase, fits⟩
      exact ⟨tokens, cut, levels, phrase, fits⟩
  · have same : tokens ++ [] = tokens ++ [] := rfl
    exact (Phrase.unique one other same nofun nofun).2
  · exact Statement.parse_eq_ok_iff
  · constructor
    · rintro ⟨error, failed⟩ ⟨tokens, found, derived⟩
      have read := Statement.parse_eq_ok_iff.mpr ⟨tokens, derived⟩
      rw [failed] at read
      contradiction
    · intro underived
      cases parsed : Statement.parse text with
      | error error => exact ⟨error, rfl⟩
      | ok found =>
        obtain ⟨tokens, derived⟩ := Statement.parse_eq_ok_iff.mp parsed
        exact absurd ⟨tokens, found, derived⟩ underived

end UrclDebugger
