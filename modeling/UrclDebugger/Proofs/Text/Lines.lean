import UrclDebugger.Text.Lines

/-!
# Texts in parts

A text that is cut behind the end of a line has the lines of its two parts, one after another
(`lines_append`), and in front of each of its lines it can be cut in this way
(`exists_front_of_lines`).
-/

namespace UrclDebugger

namespace Text

/-- The text is empty or ends with a line feed. -/
def EndsLine (text : List Char) : Prop := text = [] ∨ ∃ body, text = body ++ ['\n']

theorem EndsLine.cons {text : List Char} (ends : EndsLine text) (present : text ≠ []) (c : Char) :
    EndsLine (c :: text) := by
  obtain ⟨body, rfl⟩ := ends.resolve_left present
  exact .inr ⟨c :: body, rfl⟩

theorem EndsLine.feed {text : List Char} (ends : EndsLine text) : EndsLine ('\n' :: text) := by
  by_cases empty : text = []
  · subst empty
    exact .inr ⟨[], rfl⟩
  · exact ends.cons empty '\n'

/-- Behind the end of a line other lines start. -/
theorem lines_append {front : List Char} (ends : EndsLine front) (rest : List Char) :
    lines (front ++ rest) = lines front ++ lines rest := by
  rcases ends with rfl | ⟨body, rfl⟩
  · rfl
  · rw [List.append_assoc]
    exact lines_append_lineFeed body rest

/-- The lines before a line are those of the text in front of it. -/
theorem exists_front_of_lines {text : List Char} {count : Nat}
    (inside : count < (lines text).length) :
    ∃ front rest, text = front ++ rest ∧ EndsLine front ∧
      lines front = (lines text).take count := by
  fun_induction lines text generalizing count with
  | case1 => exact absurd inside (Nat.not_lt_zero _)
  | case2 rest ih =>
    cases count with
    | zero => exact ⟨[], _, rfl, .inl rfl, rfl⟩
    | succ count =>
      obtain ⟨front, after, rfl, ends, split⟩ := ih (Nat.lt_of_succ_lt_succ inside)
      refine ⟨'\n' :: front, after, rfl, ends.feed, ?_⟩
      rw [lines_lineFeed, split, List.take_succ_cons]
  | case3 rest ih =>
    cases count with
    | zero => exact ⟨[], _, rfl, .inl rfl, rfl⟩
    | succ count =>
      obtain ⟨front, after, rfl, ends, split⟩ := ih (Nat.lt_of_succ_lt_succ inside)
      refine ⟨'\r' :: '\n' :: front, after, rfl, ends.feed.cons (List.cons_ne_nil _ _) _, ?_⟩
      rw [lines_return_lineFeed, split, List.take_succ_cons]
  | case4 c rest noFeed noReturn empty ih =>
    obtain rfl : count = 0 := Nat.lt_one_iff.mp inside
    exact ⟨[], _, rfl, .inl rfl, rfl⟩
  | case5 c rest noFeed noReturn line others here ih =>
    cases count with
    | zero => exact ⟨[], _, rfl, .inl rfl, rfl⟩
    | succ count =>
      rw [here] at ih
      obtain ⟨front, after, rfl, ends, split⟩ := ih inside
      -- The front ends the line that starts here, so it is not empty.
      have present : front ≠ [] := by
        rintro rfl
        exact absurd split (by simp)
      have stays : ∀ following, c = '\r' → front ≠ '\n' :: following := by
        rintro following isReturn rfl
        exact noReturn _ isReturn rfl
      refine ⟨c :: front, after, rfl, ends.cons present c, ?_⟩
      rw [lines_cons noFeed stays, split]
      rfl

end Text

end UrclDebugger
