import StreamFinder.Plugin.Matcher

/-!
# Claims

A plugin claims addresses by a list of matchers, or, in the deprecated
way, by a predicate. With several matching matchers the claim is the one
of highest priority, and of those the first in the list. A predicate
claims with the priority that its own function gives, `normal` if it has
none.
-/

namespace StreamFinder.Plugin

open Text

/-- The deprecated way to claim addresses: a test, and perhaps a priority for each address. -/
structure Predicate where
  test : String → Bool
  priority? : Option (String → Priority)

namespace Predicate

/-- The priority of the claim on an address. -/
def priority (p : Predicate) (url : String) : Priority :=
  match p.priority? with
  | none => .normal
  | some f => f url

/-- The record of a predicate. -/
def render (p : Predicate) : String :=
  recorded "LegacyPredicate" [("has_priority_fn", toString p.priority?.isSome)]

end Predicate

/-- A claim on an address. `matcher` is the place of the matcher that makes
it, and absent for a predicate. -/
structure Claim where
  priority : Priority
  matcher : Option Nat
deriving DecidableEq, Repr

/-- How a plugin claims addresses. -/
inductive Strategy where
  | matchers (list : List Matcher)
  | legacy (predicate : Predicate)

namespace Strategy

/-- Whether the plugin claims in the deprecated way. -/
def isLegacy : Strategy → Bool
  | .matchers _ => false
  | .legacy _ => true

/-- The claim of highest priority among those of the matchers from a place
on and the best one before them; of equal ones the first. -/
def bestClaim (url : String) : List Matcher → Nat → Option Claim → Option Claim
  | [], _, best => best
  | m :: ms, index, best =>
    let improves := match best with
      | none => true
      | some b => b.priority.level < m.priority.level
    if m.isMatch url && improves then bestClaim url ms (index + 1) (some ⟨m.priority, some index⟩)
    else bestClaim url ms (index + 1) best

/-- The claim on an address, if there is one. -/
def claim? (s : Strategy) (url : String) : Option Claim :=
  match s with
  | .matchers ms => bestClaim url ms 0 none
  | .legacy p => if p.test url then some ⟨p.priority url, none⟩ else none

/-- Whether the address is claimed. -/
def isMatch (s : Strategy) (url : String) : Bool := (s.claim? url).isSome

/-- The priority of the claim. -/
def priority? (s : Strategy) (url : String) : Option Priority := (s.claim? url).map (·.priority)

/-- The named groups of the matcher at a place; none without a matcher. -/
def groups (s : Strategy) (url : String) (matcher : Option Nat) : List (String × String) :=
  match s, matcher with
  | .matchers ms, some index =>
    match ms[index]? with
    | some m => m.groups url
    | none => []
  | _, _ => []

/-- The record of a strategy. -/
def render : Strategy → String
  | .matchers ms => variant "Matchers" (listed (ms.map Matcher.render))
  | .legacy p => variant "Legacy" p.render

end Strategy

end StreamFinder.Plugin
