/-!
# Searching in texts
-/

namespace Conform.Text

/-- Does `s` hold the characters `p`, one after the other, somewhere? -/
def occurs (p : List Char) : List Char → Bool
  | [] => p.isEmpty
  | c :: r => p.isPrefixOf (c :: r) || occurs p r

/-- Is `p` a part of `s`? -/
def holds (s p : String) : Bool := occurs p.toList s.toList

example : holds "unguarded" "guard" = true := by decide
example : holds "unguarded" "gu d" = false := by decide

end Conform.Text
