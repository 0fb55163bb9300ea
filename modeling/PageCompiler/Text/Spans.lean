/-!
# Spans of code points

A property of characters that a standard tabulates is kept as a list of closed intervals of code
points. `Spans.mem` looks a character up. Spans lie in ascending order and do not touch, but no
statement here needs it: membership in the union of the intervals is all that is asked.
-/

namespace PageCompiler.Text

/-- Closed intervals of code points. -/
abbrev Spans := List (Nat × Nat)

/-- A character is in the spans when its code point lies in one of the intervals. -/
def Spans.mem (spans : Spans) (c : Char) : Bool :=
  spans.any fun span => span.1 ≤ c.toNat && c.toNat ≤ span.2

theorem Spans.mem_iff (spans : Spans) (c : Char) :
    spans.mem c = true ↔ ∃ span ∈ spans, span.1 ≤ c.toNat ∧ c.toNat ≤ span.2 := by
  simp [Spans.mem]

end PageCompiler.Text
