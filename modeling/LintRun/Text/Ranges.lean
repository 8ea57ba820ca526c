/-!
# Sets of characters given by ranges of code points

A property of characters is stored as a list of closed ranges of code points in ascending order.
`inRanges` decides membership. The tables for single properties are in the modules named for them.
-/

namespace LintRun.Text

/-- Whether the code point of `c` lies in one of the closed ranges of `table`. -/
def inRanges (table : List (Nat × Nat)) (c : Char) : Bool :=
  table.any fun range => range.1 ≤ c.toNat && c.toNat ≤ range.2

end LintRun.Text
