/-!
# Patterns

A pattern is a regular expression as a check sees it: its text, and the texts that hold a match for
it. What the text of a regular expression means is the matter of an engine. All that is said about
definitions, checks and replays holds of every engine.
-/

namespace Conform

/-- A regular expression that was read. -/
structure Pattern where
  source : String
  /-- Is there a match anywhere in the text? -/
  finds : String → Bool

/-- An engine for regular expressions. -/
class PatternEngine where
  /-- The texts that hold a match for an expression; or what is wrong with the expression. -/
  compile : String → Except String (String → Bool)

/-- Reads a regular expression. -/
def Pattern.read [PatternEngine] (source : String) : Except String Pattern :=
  (PatternEngine.compile source).map (⟨source, ·⟩)

namespace Pattern

variable [PatternEngine] {source : String}

theorem read_of_ok {f : String → Bool} (h : PatternEngine.compile source = .ok f) :
    read source = .ok ⟨source, f⟩ := by
  rw [read, h]
  rfl

theorem read_of_error {why : String} (h : PatternEngine.compile source = .error why) :
    read source = .error why := by
  rw [read, h]
  rfl

end Pattern

end Conform
