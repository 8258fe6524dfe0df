/-!
# Lines of a text

A line ends at a line feed or at a carriage return followed by a line feed; neither belongs to the
line. What follows the last line end is a line only if it is not empty, and a carriage return that
no line feed follows is an ordinary character.
-/

namespace UrclDebugger.Text

/-- The lines of a text, without their ends. -/
def lines : List Char → List (List Char)
  | [] => []
  | '\n' :: rest => [] :: lines rest
  | '\r' :: '\n' :: rest => [] :: lines rest
  | c :: rest =>
    match lines rest with
    | [] => [[c]]
    | line :: others => (c :: line) :: others

@[simp] theorem lines_nil : lines [] = [] := rfl

@[simp] theorem lines_lineFeed (rest : List Char) : lines ('\n' :: rest) = [] :: lines rest := rfl

@[simp] theorem lines_return_lineFeed (rest : List Char) :
    lines ('\r' :: '\n' :: rest) = [] :: lines rest := rfl

/-- A character that no line end starts with belongs to the first line. -/
theorem lines_cons {c : Char} {rest : List Char} (noFeed : c ≠ '\n')
    (noReturn : ∀ following, c = '\r' → rest ≠ '\n' :: following) :
    lines (c :: rest) =
      match lines rest with
      | [] => [[c]]
      | line :: others => (c :: line) :: others := by
  rw [lines]
  · exact noFeed
  · intro following isReturn isFeed
    exact noReturn following isReturn isFeed

/-- Only the empty text has no line. -/
theorem lines_eq_nil_iff {text : List Char} : lines text = [] ↔ text = [] := by
  fun_cases lines text <;> simp_all

/-- A line takes at least one character, its end or one of its own. -/
theorem length_lines_le (text : List Char) : (lines text).length ≤ text.length := by
  fun_induction lines text with
  | case1 => exact Nat.le_refl 0
  | case2 rest ih => exact Nat.succ_le_succ ih
  | case3 rest ih => exact Nat.le_succ_of_le (Nat.succ_le_succ ih)
  | case4 c rest _ _ none ih => exact Nat.succ_le_succ (Nat.zero_le _)
  | case5 c rest _ _ line others some ih =>
    rw [some] at ih
    exact Nat.le_succ_of_le ih

/-- Text behind a line feed has its own lines. -/
theorem lines_append_lineFeed (front rest : List Char) :
    lines (front ++ '\n' :: rest) = lines (front ++ ['\n']) ++ lines rest := by
  fun_induction lines front with
  | case1 => simp
  | case2 following ih => simpa using ih
  | case3 following ih => simpa using ih
  | case4 c following noFeed noReturn _ ih | case5 c following noFeed noReturn _ _ _ ih =>
    by_cases alone : c = '\r' ∧ following = []
    · obtain ⟨rfl, rfl⟩ := alone
      simp
    · have stays : ∀ tail after, c = '\r' → following ++ '\n' :: tail ≠ '\n' :: after := by
        intro tail after isReturn
        cases following with
        | nil => exact absurd ⟨isReturn, rfl⟩ alone
        | cons next others =>
          intro same
          exact noReturn others isReturn (by rw [(List.cons.inj same).1])
      simp only [List.cons_append]
      rw [lines_cons noFeed (stays rest), lines_cons noFeed (stays []), ih]
      cases ended : lines (following ++ ['\n']) with
      | nil => exact absurd (lines_eq_nil_iff.mp ended) (by simp)
      | cons line others => rfl

end UrclDebugger.Text
