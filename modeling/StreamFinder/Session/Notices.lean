import StreamFinder.Report

/-!
# Notices of deprecation

Each plugin that claims in the deprecated way is announced once, when it
first claims an address.
-/

namespace StreamFinder.Session

/-- The names that have been announced, the latest first. -/
structure Notices where
  names : List String
deriving DecidableEq, Repr

namespace Notices

/-- Nothing has been announced. -/
def empty : Notices := ⟨[]⟩

/-- Announce a name unless that has been done, and say what is to be reported. -/
def announce (n : Notices) (name : String) : List Report × Notices :=
  if name ∈ n.names then ([], n) else ([.deprecated name], ⟨name :: n.names⟩)

/-- Put a name before the first one that is not below it. -/
def insertSorted (name : String) : List String → List String
  | [] => [name]
  | other :: rest =>
    if name ≤ other then name :: other :: rest else other :: insertSorted name rest

/-- The announced names in their order as texts. -/
def announced (n : Notices) : List String := n.names.foldr insertSorted []

end Notices

end StreamFinder.Session
