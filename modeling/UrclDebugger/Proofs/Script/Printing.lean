import UrclDebugger.Proofs.Script.Reading

/-!
# Printing tokens

A token has a printed form: a decimal, a quoted string in which four characters are escaped, a name
as it stands, or one character of punctuation. A text that consists of printed tokens with blanks
between them and perhaps a comment behind them is cut into these tokens again (`ofText_printed`),
whatever a string contains.
-/

namespace UrclDebugger

namespace Token

/-- How a character is written between quotes. -/
def escape (c : Char) : List Char :=
  if c = '\\' then ['\\', '\\']
  else if c = '"' then ['\\', '"']
  else if c = '\n' then ['\\', 'n']
  else if c = '\t' then ['\\', 't']
  else [c]

/-- The printed form of a token. -/
def print : Token → List Char
  | .int value => value.toDecimal.toList
  | .text value => '"' :: (value.toList.flatMap escape ++ ['"'])
  | .name value => value.toList
  | .openParen => ['(']
  | .closeParen => [')']
  | .openBracket => ['[']
  | .closeBracket => [']']
  | .openBrace => ['\x7b']
  | .closeBrace => ['\x7d']
  | .comma => [',']
  | .colon => [':']
  | .dot => ['.']
  | .equals => ['=']
  | .minus => ['-']

/-- The characters are a letter or an underscore and then letters, numerals and underscores. -/
def IsName : List Char → Prop
  | [] => False
  | first :: others =>
    startsName first = true ∧ ∀ c ∈ others, continuesName c = true

/-- The tokens that texts consist of: integers have no sign, and names are spelled like names. -/
def IsPrintable : Token → Prop
  | .int value => 0 ≤ value.toInt
  | .name value => IsName value.toList
  | _ => True

/-- The characters that may stand between tokens. -/
def blanks : List Char := [' ', '\t', '\r', '\n']

/-- Nothing, or a comment. -/
inductive Ending : List Char → Prop where
  | nothing : Ending []
  | hash (comment : List Char) : Ending ('#' :: comment)
  | slashes (comment : List Char) : Ending ('/' :: '/' :: comment)

/-- The text is the tokens in their printed form, with blanks anywhere between them and at least
one between neighbours, and an ending. -/
inductive Printed : List Token → List Char → Prop where
  | ending {rest : List Char} (ends : Ending rest) : Printed [] rest
  | blank {tokens : List Token} {c : Char} {rest : List Char} (isBlank : c ∈ blanks)
      (following : Printed tokens rest) : Printed tokens (c :: rest)
  | token {token : Token} {tokens : List Token} {rest : List Char}
      (apart : tokens ≠ [] → ∃ c ∈ blanks, rest.head? = some c)
      (following : Printed tokens rest) : Printed (token :: tokens) (token.print ++ rest)

section Strings

/-- What is written for a character between quotes is read as that character. -/
theorem stringBody_escape (c : Char) (rest : List Char) :
    stringBody (escape c ++ rest) =
      (stringBody rest).map fun (content, following) => (c :: content, following) := by
  unfold escape
  by_cases backslash : c = '\\'
  · subst backslash
    rfl
  by_cases quote : c = '"'
  · subst quote
    rfl
  by_cases lineFeed : c = '\n'
  · subst lineFeed
    rfl
  by_cases tab : c = '\t'
  · subst tab
    rfl
  simp only [backslash, quote, lineFeed, tab, ↓reduceIte, List.cons_append, List.nil_append]
  rw [stringBody]
  · exact quote
  · exact fun _ _ same _ => backslash same
  · exact fun same _ => backslash same

/-- The content of a string is read back, and the text goes on behind its closing quote. -/
theorem stringBody_escaped (content rest : List Char) :
    stringBody (content.flatMap escape ++ '"' :: rest) = some (content, rest) := by
  induction content with
  | nil => rfl
  | cons c content ih =>
    rw [List.flatMap_cons, List.append_assoc, stringBody_escape, ih]
    rfl

theorem scan_quoted (content rest : List Char) :
    scan ('"' :: (content.flatMap escape ++ '"' :: rest)) =
      (scan rest).map (.text (String.ofList content) :: ·) := by
  have read := stringBody_escaped content rest
  have noGap : isGap '"' = false := rfl
  have noComment : startsComment ('"' :: (content.flatMap escape ++ '"' :: rest)) = false := rfl
  have noPunctuation : punctuation? '"' = none := rfl
  rw [scan, noGap, noComment, noPunctuation]
  simp only [Bool.false_eq_true, ↓reduceIte]
  split
  · rename_i unread
    rw [read] at unread
    contradiction
  · rename_i found following here
    rw [read] at here
    obtain ⟨rfl, rfl⟩ := Prod.mk.inj (Option.some.inj here)
    rfl

end Strings

section Names

/-- What starts a name starts no other token. Of the one-byte characters all are looked at; the
characters of other tokens are one-byte characters. -/
theorem plain_of_startsName {c : Char} (starts : startsName c = true) :
    isGap c = false ∧ c ≠ '#' ∧ c ≠ '/' ∧ punctuation? c = none ∧ c ≠ '"' ∧ c.isDigit = false := by
  have table : ∀ code < 128, startsName (Char.ofNat code) = true →
      isGap (Char.ofNat code) = false ∧ Char.ofNat code ≠ '#' ∧ Char.ofNat code ≠ '/' ∧
        punctuation? (Char.ofNat code) = none ∧ Char.ofNat code ≠ '"' ∧
          (Char.ofNat code).isDigit = false := by decide +kernel
  by_cases small : c.toNat < 128
  · have row := table c.toNat small
    rw [Char.ofNat_toNat] at row
    exact row starts
  · have different (other : Char) (short : other.toNat < 128) : c ≠ other := by
      rintro rfl
      exact small short
    have noDigit : c.isDigit = false := by
      rw [Bool.eq_false_iff]
      intro digit
      have : c.toNat ≤ 57 := (by simpa [Char.isDigit, UInt32.le_iff_toNat_le] using digit :
        48 ≤ c.toNat ∧ c.toNat ≤ 57).2
      omega
    refine ⟨?_, different _ (by decide), different _ (by decide), ?_, different _ (by decide),
      noDigit⟩
    · simp only [isGap, beq_eq_false_iff_ne.mpr (different ' ' (by decide)),
        beq_eq_false_iff_ne.mpr (different '\t' (by decide)),
        beq_eq_false_iff_ne.mpr (different '\r' (by decide)),
        beq_eq_false_iff_ne.mpr (different '\n' (by decide)), Bool.or_self]
    · unfold punctuation?
      split <;> first | rfl | exact absurd rfl (different _ (by decide))

theorem spellsName_of_isName {name : List Char} (spelled : IsName name) :
    spellsName name = true := by
  cases name with
  | nil => exact spelled.elim
  | cons first others =>
    have plain := plain_of_startsName spelled.1
    have inside : others.all continuesName = true := List.all_eq_true.mpr spelled.2
    simp [spellsName, spelled.1, plain, inside]

end Names

section Texts

variable {tokens : List Token} {rest : List Char}

theorem scan_blank {c : Char} (isBlank : c ∈ blanks) (rest : List Char) :
    scan (c :: rest) = scan rest := by
  have gaps : blanks.all isGap = true := by decide
  rw [scan, if_pos (List.all_eq_true.mp gaps c isBlank)]

theorem scan_ending (ends : Ending rest) : scan rest = .ok [] := by
  cases ends with
  | nothing => rw [scan]
  | hash comment =>
    have starts : startsComment ('#' :: comment) = true := rfl
    have noGap : isGap '#' = false := rfl
    rw [scan, noGap, starts]
    rfl
  | slashes comment =>
    have starts : startsComment ('/' :: '/' :: comment) = true := rfl
    have noGap : isGap '/' = false := rfl
    rw [scan, noGap, starts]
    rfl

/-- Behind a token stands a character that continues neither a number nor a name. -/
theorem ends_of_apart (printed : Printed tokens rest)
    (apart : tokens ≠ [] → ∃ c ∈ blanks, rest.head? = some c) :
    ∀ c ∈ rest.head?, continuesNumber c = false ∧ continuesName c = false := by
  have stops : ∀ c ∈ '#' :: '/' :: blanks, continuesNumber c = false ∧ continuesName c = false := by
    simp only [blanks, List.forall_mem_cons, List.not_mem_nil, false_implies, implies_true]
    decide
  intro c first
  apply stops
  by_cases last : tokens = []
  · subst last
    cases printed with
    | ending ends =>
      cases ends with
      | nothing => exact nomatch first
      | hash => exact Option.some.inj first ▸ List.mem_cons_self
      | slashes => exact Option.some.inj first ▸ List.mem_cons_of_mem _ List.mem_cons_self
    | blank isBlank =>
      obtain rfl := Option.some.inj first
      exact List.mem_cons_of_mem _ (List.mem_cons_of_mem _ isBlank)
  · obtain ⟨blank, isBlank, here⟩ := apart last
    obtain rfl := Option.some.inj (here.symm.trans first)
    exact List.mem_cons_of_mem _ (List.mem_cons_of_mem _ isBlank)

/-- A printed token is read as the token where nothing continues it. -/
theorem scan_print {token : Token} (printable : token.IsPrintable)
    (ends : ∀ c ∈ rest.head?, continuesNumber c = false ∧ continuesName c = false) :
    scan (token.print ++ rest) = (scan rest).map (token :: ·) := by
  cases token with
  | int value =>
    have natural : 0 ≤ value.toInt := printable
    have fits : value.toInt.toNat < Word.positions := by
      have := Int64.toInt_lt value
      rw [Word.positions]
      omega
    have same : Int64.ofNat value.toInt.toNat = value := by
      rw [← Int64.toInt_inj, Word.toInt_position fits, Int.toNat_of_nonneg natural]
    rw [print, Word.toList_toDecimal, if_pos natural,
      scan_decimal fits fun c first => (ends c first).1, same]
  | text value =>
    have quoted := scan_quoted value.toList rest
    rw [String.ofList_toList] at quoted
    rw [print, List.cons_append, List.append_assoc]
    exact quoted
  | name value =>
    have spelled := spellsName_of_isName printable
    rw [print, scan_name spelled fun c first => (ends c first).2, String.ofList_toList]
  | openParen => exact scan_punctuation rfl rest
  | closeParen => exact scan_punctuation rfl rest
  | openBracket => exact scan_punctuation rfl rest
  | closeBracket => exact scan_punctuation rfl rest
  | openBrace => exact scan_punctuation rfl rest
  | closeBrace => exact scan_punctuation rfl rest
  | comma => exact scan_punctuation rfl rest
  | colon => exact scan_punctuation rfl rest
  | dot => exact scan_punctuation rfl rest
  | equals => exact scan_punctuation rfl rest
  | minus => exact scan_punctuation rfl rest

theorem scan_printed {text : List Char} (printed : Printed tokens text)
    (printable : ∀ token ∈ tokens, token.IsPrintable) : scan text = .ok tokens := by
  induction printed with
  | ending ends => exact scan_ending ends
  | blank isBlank _ ih =>
    rw [scan_blank isBlank]
    exact ih printable
  | token apart following ih =>
    obtain ⟨here, later⟩ := List.forall_mem_cons.mp printable
    rw [scan_print here (ends_of_apart following apart), ih later]
    rfl

end Texts

/-- A text that is printed from tokens has these tokens. -/
theorem ofText_printed {tokens : List Token} {text : String}
    (printable : ∀ token ∈ tokens, token.IsPrintable) (printed : Printed tokens text.toList) :
    Token.ofText text = .ok tokens := by
  rw [Token.ofText, scan_printed printed printable]
  rfl

/-- A string that holds a quote, what looks like a comment, and a backslash, before a comment. -/
theorem ofText_printed_deceptive :
    Printed [.name "x", .equals, .text "\"#//\\"] "x\t= \"\\\"#//\\\\\"// \"".toList ∧
      Token.ofText "x\t= \"\\\"#//\\\\\"// \"" = .ok [.name "x", .equals, .text "\"#//\\"] := by
  have printed : Printed [.name "x", .equals, .text "\"#//\\"]
      "x\t= \"\\\"#//\\\\\"// \"".toList :=
    .token (fun _ => ⟨'\t', by decide, rfl⟩) <| .blank (by decide) <|
      .token (fun _ => ⟨' ', by decide, rfl⟩) <| .blank (by decide) <|
        .token (fun present => absurd rfl present) <| .ending (.slashes _)
  have printable : ∀ token ∈ [.name "x", .equals, .text "\"#//\\"], IsPrintable token := by
    intro token member
    simp only [List.mem_cons, List.not_mem_nil, or_false] at member
    rcases member with rfl | rfl | rfl
    · exact ⟨by decide, nofun⟩
    · trivial
    · trivial
  exact ⟨printed, ofText_printed printable printed⟩

end Token

end UrclDebugger
