import Conform.Text.Ranges

/-!
# White space

The characters with the Unicode property `White_Space`.
-/

namespace Conform.Text

/-- The ranges of white space. -/
def blanks : Ranges := [
  (0x9, 0xd), (0x20, 0x20), (0x85, 0x85), (0xa0, 0xa0), (0x1680, 0x1680), (0x2000, 0x200a),
  (0x2028, 0x2029), (0x202f, 0x202f), (0x205f, 0x205f), (0x3000, 0x3000)]

/-- White space, in the sense of Unicode. -/
def isBlank (c : Char) : Bool := blanks.has c

/-- Drops the white space that `cs` starts with. -/
def dropBlank (cs : List Char) : List Char := cs.dropWhile isBlank

/-- Nothing but white space. -/
def allBlank (s : String) : Bool := s.toList.all isBlank

example : "\x20\t\n\r\u00a0\u2003".toList.all isBlank = true := by decide
example : isBlank '\u200b' = false := by decide

end Conform.Text
