import UrclDebugger.Proofs.Script.Decimal
import UrclDebugger.Script.Parser
import UrclDebugger.Snapshot.Extract

/-!
# Reading the expressions of a snapshot

The parts of a snapshot are asked for by expressions that are put together as texts. A text is cut
into tokens piece by piece: a name and a number reach as far as characters that continue them, and
every other token is one character. The expressions for a length and for an item are therefore read
back as what they were written for, whatever the position of the item is.
-/

namespace UrclDebugger

section Span

variable {p : Char → Bool} {body rest : List Char}

/-- The characters that pass a test end where one does not. -/
theorem takeWhile_append_of_ends (inside : ∀ c ∈ body, p c = true)
    (ends : ∀ c ∈ rest.head?, p c = false) : (body ++ rest).takeWhile p = body := by
  have stop : rest.takeWhile p = [] := by
    cases rest with
    | nil => rfl
    | cons c others => rw [List.takeWhile_cons, if_neg (Bool.eq_false_iff.mp (ends c rfl))]
  rw [List.takeWhile_append_of_pos inside, stop, List.append_nil]

theorem dropWhile_append_of_ends (inside : ∀ c ∈ body, p c = true)
    (ends : ∀ c ∈ rest.head?, p c = false) : (body ++ rest).dropWhile p = rest := by
  rw [List.dropWhile_append_of_pos inside]
  cases rest with
  | nil => rfl
  | cons c others => rw [List.dropWhile_cons, if_neg (Bool.eq_false_iff.mp (ends c rfl))]

/-- Where a character stands that fails a test, no character that passes it follows. -/
theorem ends_of_cons {c : Char} (stops : p c = false) :
    ∀ first ∈ (c :: rest).head?, p first = false := by
  intro first same
  obtain rfl := Option.some.inj same
  exact stops

end Span

namespace Token

/-- A character that is a token by itself. -/
theorem scan_punctuation {c : Char} {token : Token} (written : punctuation? c = some token)
    (rest : List Char) : scan (c :: rest) = (scan rest).map (token :: ·) := by
  have plain : isGap c = false ∧ startsComment (c :: rest) = false := by
    unfold punctuation? at written
    split at written <;> first | exact ⟨rfl, rfl⟩ | contradiction
  rw [scan, plain.1, plain.2]
  simp only [Bool.false_eq_true, ↓reduceIte, written]

/-- Whether the characters are read as one name: the first one starts a name and nothing else. -/
def spellsName : List Char → Bool
  | [] => false
  | first :: others =>
    startsName first && !isGap first && first != '#' && first != '/' &&
      (punctuation? first).isNone && first != '"' && !first.isDigit && others.all continuesName

/-- A name ends where no character continues it. -/
theorem scan_name {name rest : List Char} (spells : spellsName name = true)
    (ends : ∀ c ∈ rest.head?, continuesName c = false) :
    scan (name ++ rest) = (scan rest).map (.name (String.ofList name) :: ·) := by
  cases name with
  | nil => contradiction
  | cons first others =>
    simp only [spellsName, Bool.and_eq_true, Bool.not_eq_true', bne_iff_ne, ne_eq,
      Option.isNone_iff_eq_none, List.all_eq_true] at spells
    obtain ⟨⟨⟨⟨⟨⟨⟨starts, noGap⟩, noHash⟩, noSlash⟩, noPunctuation⟩, noQuote⟩, noDigit⟩, inside⟩ :=
      spells
    have noComment : startsComment (first :: (others ++ rest)) = false := by
      unfold startsComment
      split <;> simp_all
    rw [List.cons_append, scan, noGap, noComment]
    simp only [Bool.false_eq_true, ↓reduceIte, noPunctuation, noQuote, noDigit, starts,
      takeWhile_append_of_ends inside ends, dropWhile_append_of_ends inside ends]

/-- A decimal is read as its number where no character continues it. -/
theorem scan_decimal {number : Nat} (fits : number < Word.positions) {rest : List Char}
    (ends : ∀ c ∈ rest.head?, continuesNumber c = false) :
    scan (Nat.toDigits 10 number ++ rest) = (scan rest).map (.int (Int64.ofNat number) :: ·) := by
  have read := Numeral.parse?_toDigits fits
  have digits : ∀ c ∈ Nat.toDigits 10 number, c.isDigit = true := fun _ => isDigit_of_mem_toDigits
  generalize Nat.toDigits 10 number = written at read digits ⊢
  cases written with
  | nil => contradiction
  | cons first others =>
    have digit := digits first List.mem_cons_self
    have inside : ∀ c ∈ others, continuesNumber c = true := by
      intro c later
      have numeral := digits c (List.mem_cons_of_mem first later)
      simp [continuesNumber, Char.isAlphanum, numeral]
    have different {c : Char} (undigital : c.isDigit = false) : first ≠ c := by
      rintro rfl
      rw [digit] at undigital
      contradiction
    have noGap : isGap first = false := by
      simp [isGap, different (c := ' ') rfl, different (c := '\t') rfl, different (c := '\r') rfl,
        different (c := '\n') rfl]
    have noComment : startsComment (first :: (others ++ rest)) = false := by
      unfold startsComment
      split <;> simp_all
    have noPunctuation : punctuation? first = none := by
      unfold punctuation?
      split <;> first | rfl | contradiction
    rw [List.cons_append, scan, noGap, noComment]
    simp only [Bool.false_eq_true, ↓reduceIte, noPunctuation, different (c := '"') rfl, digit,
      takeWhile_append_of_ends inside ends, dropWhile_append_of_ends inside ends]
    rw [read]

/-- What closes the expression for an item, after the suffix that selects a part of it. -/
def closing (suffix : String) : List Char := suffix.toList ++ [')']

theorem scan_closeParen : scan [')'] = .ok [.closeParen] := by
  rw [scan_punctuation rfl, scan]
  rfl

/-- The tokens of the expression for a length. -/
theorem scan_lengthExpression {name : String} (spells : spellsName name.toList = true) :
    scan (Snapshot.lengthExpression name).toList =
      .ok [.name "len", .openParen, .name name, .closeParen] := by
  have pieces : (Snapshot.lengthExpression name).toList =
      ['l', 'e', 'n'] ++ '(' :: (name.toList ++ [')']) := by
    simp [Snapshot.lengthExpression]
  rw [pieces, scan_name (by decide) (ends_of_cons rfl), scan_punctuation rfl,
    scan_name spells (ends_of_cons rfl), scan_closeParen, String.ofList_toList]
  rfl

/-- The tokens of the expression for an item. -/
theorem scan_itemExpression {name : String} (spells : spellsName name.toList = true) {index : Nat}
    (fits : index < Word.positions) {suffix : String} {closed : List Token}
    (closes : scan (closing suffix) = .ok closed) :
    scan (Snapshot.itemExpression name suffix index).toList =
      .ok ([.name "str", .openParen, .name name, .openBracket, .int (Int64.ofNat index),
        .closeBracket] ++ closed) := by
  have pieces : (Snapshot.itemExpression name suffix index).toList =
      ['s', 't', 'r'] ++ '(' :: (name.toList ++ '[' :: (Nat.toDigits 10 index ++
        ']' :: closing suffix)) := by
    simp [Snapshot.itemExpression, closing]
  rw [pieces, scan_name (by decide) (ends_of_cons rfl), scan_punctuation rfl,
    scan_name spells (ends_of_cons rfl), scan_punctuation rfl,
    scan_decimal fits (ends_of_cons rfl), scan_punctuation rfl, closes, String.ofList_toList]
  rfl

theorem scan_closing_empty : scan (closing "") = .ok [.closeParen] := scan_closeParen

theorem scan_closing_source :
    scan (closing ".Source") = .ok [.dot, .name "Source", .closeParen] := by
  have pieces : closing ".Source" = '.' :: (['S', 'o', 'u', 'r', 'c', 'e'] ++ [')']) := rfl
  rw [pieces, scan_punctuation rfl, scan_name (by decide) (ends_of_cons rfl), scan_closeParen]
  rfl

end Token

namespace Expr

/-- What an expression for a text is, given its tokens and that they are read to the end. -/
theorem parse_of_tokens {text : String} {tokens : List Token} {expression : Expr}
    (scanned : Token.scan text.toList = .ok tokens)
    (read : (Parser.expression ⟨tokens, 0⟩).map Subtype.val = .ok (expression, ⟨[], 0⟩)) :
    Expr.parse text = .ok expression := by
  have cut : Token.ofText text = .ok tokens := by
    rw [Token.ofText, scanned]
    rfl
  unfold Expr.parse
  simp only [cut]
  cases parsed : Parser.expression ⟨tokens, 0⟩ with
  | error error =>
    rw [parsed] at read
    contradiction
  | ok result =>
    rw [parsed] at read
    have same : result.val = (expression, ⟨[], 0⟩) := Except.ok.inj read
    obtain ⟨⟨found, after⟩, shorter⟩ := result
    obtain ⟨rfl, rfl⟩ := Prod.mk.inj same
    rfl

variable {name : String} (unreserved : Parser.reserved? name = none)
include unreserved

theorem parse_lengthExpression (spells : Token.spellsName name.toList = true) :
    Expr.parse (Snapshot.lengthExpression name) = .ok (.call "len" [.name name]) := by
  have plain : Parser.ofName name = .name name := by rw [Parser.ofName, unreserved]
  have builtin : Parser.ofName "len" = .name "len" := rfl
  apply parse_of_tokens (Token.scan_lengthExpression spells)
  simp only [Parser.expression, Parser.primary, Parser.suffixes, Parser.sequence, nestingLimit,
    Parser.Cursor.descend, Parser.Cursor.ascend, Parser.Cursor.expect, plain, builtin, Except.map,
    List.head?_cons, Option.some.injEq, reduceCtorEq, ↓reduceIte, Nat.reduceAdd, Nat.reduceSub,
    Nat.reduceLT]

variable (spells : Token.spellsName name.toList = true) {index : Nat}
  (fits : index < Word.positions)
include spells fits

theorem parse_itemExpression :
    Expr.parse (Snapshot.itemExpression name "" index) =
      .ok (.call "str" [.index (.name name) (.literal (.int (Int64.ofNat index)))]) := by
  have plain : Parser.ofName name = .name name := by rw [Parser.ofName, unreserved]
  have builtin : Parser.ofName "str" = .name "str" := rfl
  apply parse_of_tokens (Token.scan_itemExpression spells fits Token.scan_closing_empty)
  simp only [Parser.expression, Parser.primary, Parser.suffixes, Parser.sequence, nestingLimit,
    Parser.Cursor.descend, Parser.Cursor.ascend, Parser.Cursor.expect, plain, builtin, Except.map,
    List.cons_append, List.nil_append, List.head?_cons, Option.some.injEq, reduceCtorEq, ↓reduceIte,
    Nat.reduceAdd, Nat.reduceSub, Nat.reduceLT]

theorem parse_sourceExpression :
    Expr.parse (Snapshot.itemExpression name ".Source" index) =
      .ok (.call "str" [.field (.index (.name name) (.literal (.int (Int64.ofNat index))))
        "Source"]) := by
  have plain : Parser.ofName name = .name name := by rw [Parser.ofName, unreserved]
  have builtin : Parser.ofName "str" = .name "str" := rfl
  apply parse_of_tokens (Token.scan_itemExpression spells fits Token.scan_closing_source)
  simp only [Parser.expression, Parser.primary, Parser.suffixes, Parser.sequence, nestingLimit,
    Parser.Cursor.descend, Parser.Cursor.ascend, Parser.Cursor.expect, plain, builtin, Except.map,
    List.cons_append, List.nil_append, List.head?_cons, Option.some.injEq, reduceCtorEq, ↓reduceIte,
    Nat.reduceAdd, Nat.reduceSub, Nat.reduceLT]

end Expr

end UrclDebugger
