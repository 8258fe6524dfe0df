/-!
# Character classes as tables of code-point ranges

A Unicode property is data: a list of inclusive ranges of code points in ascending order.
-/

namespace UrclDebugger.Text

/-- Whether one of the inclusive ranges holds the character. -/
def inRanges (ranges : List (Nat × Nat)) (c : Char) : Bool :=
  ranges.any fun range => range.1 ≤ c.toNat && c.toNat ≤ range.2

end UrclDebugger.Text
