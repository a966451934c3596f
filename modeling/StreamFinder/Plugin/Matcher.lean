import StreamFinder.Pattern.Reader
import StreamFinder.Plugin.Priority
import StreamFinder.Text.Quoted

/-!
# Matchers

A matcher claims the addresses that begin with a match of its pattern. The
pattern is put into a group behind a start anchor before it is read, as
text. So a pattern is anchored as a whole, alternatives included, as long
as it is a pattern by itself; a pattern whose parentheses close the group
of the anchor is read differently, and one whose last line is a comment
hides the end of the group.
-/

namespace StreamFinder.Plugin

open Text

/-- A pattern for addresses, with the priority of its claims. -/
structure Matcher where
  source : String
  pattern : Pattern
  priority : Priority
deriving DecidableEq, Repr

namespace Matcher

/-- The text of a pattern behind a start anchor. -/
def anchored (source : String) : List Char :=
  ['^', '(', '?', ':'] ++ source.toList ++ [')']

/-- The matcher of a pattern, unless the pattern is ill formed. -/
def ofSource? (source : String) (priority : Priority) : Option Matcher :=
  (Pattern.parse (anchored source)).map fun pattern => ⟨source, pattern, priority⟩

/-- Whether the matcher claims an address. -/
def isMatch (m : Matcher) (url : String) : Bool := m.pattern.isMatch url.toList

/-- What the named groups of the pattern have matched. -/
def groups (m : Matcher) (url : String) : List (String × String) := m.pattern.groups url.toList

/-- The record of a matcher. -/
def render (m : Matcher) : String :=
  recorded "Matcher" [("pattern", quoted m.source), ("priority", m.priority.label)]

end Matcher

end StreamFinder.Plugin
