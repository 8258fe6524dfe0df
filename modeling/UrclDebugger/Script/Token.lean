import UrclDebugger.Numeral
import UrclDebugger.Text.Letter
import UrclDebugger.Text.Quoted

/-!
# Tokens of the script language

A text is cut into integers, quoted strings, names and punctuation. Spaces, tabs and the two line
characters separate; `#` and `//` start a comment that runs to the end of the text. The first part
that is no token makes the whole text unreadable, even if a shorter text would do.
-/

namespace UrclDebugger

/-- A token of the script language. -/
inductive Token where
  | int (value : Word)
  | text (value : String)
  | name (value : String)
  | openParen
  | closeParen
  | openBracket
  | closeBracket
  | openBrace
  | closeBrace
  | comma
  | colon
  | dot
  | equals
  | minus
  deriving DecidableEq

/-- Why a text can not be cut into tokens. -/
inductive LexicalError where
  | unterminatedString
  | invalidNumber (literal : String)
  | unexpectedCharacter (character : Char)
  deriving DecidableEq

/-- The wording of a lexical error. -/
def LexicalError.message : LexicalError → String
  | .unterminatedString => "unterminated string"
  | .invalidNumber literal => "invalid number \"" ++ literal ++ "\""
  | .unexpectedCharacter c => "unexpected character '" ++ String.singleton c ++ "'"

namespace Token

/-- A token in messages. -/
def description : Token → String
  | .int value => "Int(" ++ value.toDecimal ++ ")"
  | .text value => "Str(" ++ Text.quote value ++ ")"
  | .name value => "Ident(" ++ Text.quote value ++ ")"
  | .openParen => "LParen"
  | .closeParen => "RParen"
  | .openBracket => "LBracket"
  | .closeBracket => "RBracket"
  | .openBrace => "LBrace"
  | .closeBrace => "RBrace"
  | .comma => "Comma"
  | .colon => "Colon"
  | .dot => "Dot"
  | .equals => "Eq"
  | .minus => "Minus"

/-- The next token in messages; behind the last one comes the end of the text. -/
def describeNext : Option Token → String
  | some token => token.description
  | none => "Eof"

/-- The token written by a punctuation character. -/
def punctuation? : Char → Option Token
  | '(' => some .openParen
  | ')' => some .closeParen
  | '[' => some .openBracket
  | ']' => some .closeBracket
  | '\x7b' => some .openBrace
  | '\x7d' => some .closeBrace
  | ',' => some .comma
  | ':' => some .colon
  | '.' => some .dot
  | '=' => some .equals
  | '-' => some .minus
  | _ => none

/-- A character that only separates tokens. -/
def isGap (c : Char) : Bool := c == ' ' || c == '\t' || c == '\r' || c == '\n'

/-- Whether a comment starts here. -/
def startsComment : List Char → Bool
  | '#' :: _ => true
  | '/' :: '/' :: _ => true
  | _ => false

/-- A character that continues a number, valid or not. -/
def continuesNumber (c : Char) : Bool := c.isAlphanum || c == '_'

/-- A character that starts a name. -/
def startsName (c : Char) : Bool := Text.isLetter c || c == '_'

/-- A character that continues a name. -/
def continuesName (c : Char) : Bool := Text.isLetterOrNumeral c || c == '_'

/-- The character that a backslash and `c` stand for. -/
def unescape (c : Char) : Char :=
  if c = 'n' then '\n' else if c = 't' then '\t' else c

/-- The content of a string from behind its opening quote, and what follows its closing quote. -/
def stringBody : List Char → Option (List Char × List Char)
  | [] => none
  | '"' :: rest => some ([], rest)
  | '\\' :: c :: rest =>
    (stringBody rest).map fun (content, following) => (unescape c :: content, following)
  | ['\\'] => none
  | c :: rest => (stringBody rest).map fun (content, following) => (c :: content, following)

theorem stringBody_length {cs content following : List Char}
    (found : stringBody cs = some (content, following)) : following.length ≤ cs.length := by
  fun_induction stringBody cs generalizing content with
  | case1 => simp at found
  | case2 rest => simp_all
  | case3 c rest ih =>
    obtain ⟨⟨inner, after⟩, read, same⟩ := Option.map_eq_some_iff.mp found
    obtain ⟨_, rfl⟩ := Prod.mk.inj same
    have := ih read
    simp only [List.length_cons]
    omega
  | case4 => simp at found
  | case5 c rest _ _ _ ih =>
    obtain ⟨⟨inner, after⟩, read, same⟩ := Option.map_eq_some_iff.mp found
    obtain ⟨_, rfl⟩ := Prod.mk.inj same
    have := ih read
    simp only [List.length_cons]
    omega

theorem length_dropWhile_le (p : Char → Bool) (cs : List Char) :
    (cs.dropWhile p).length ≤ cs.length :=
  (List.dropWhile_sublist p).length_le

/-- The tokens of a text. -/
def scan : List Char → Except LexicalError (List Token)
  | [] => .ok []
  | c :: rest =>
    if isGap c then scan rest
    else if startsComment (c :: rest) then .ok []
    else
      match punctuation? c with
      | some token => (scan rest).map (token :: ·)
      | none =>
        if c = '"' then
          match read : stringBody rest with
          | none => .error .unterminatedString
          | some (content, following) =>
            have := stringBody_length read
            (scan following).map (.text (String.ofList content) :: ·)
        else if c.isDigit then
          match Numeral.parse? (c :: rest.takeWhile continuesNumber) with
          | none =>
            .error (.invalidNumber (String.ofList (c :: rest.takeWhile continuesNumber)))
          | some value =>
            have := length_dropWhile_le continuesNumber rest
            (scan (rest.dropWhile continuesNumber)).map (.int value :: ·)
        else if startsName c then
          have := length_dropWhile_le continuesName rest
          (scan (rest.dropWhile continuesName)).map
            (.name (String.ofList (c :: rest.takeWhile continuesName)) :: ·)
        else .error (.unexpectedCharacter c)
termination_by cs => cs.length

end Token

end UrclDebugger
