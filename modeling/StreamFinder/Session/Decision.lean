import StreamFinder.Plugin.Registry
import StreamFinder.Session.Notices

/-!
# Decisions: which plugin an address belongs to

Every class may claim an address. The claim of highest priority wins, and
among equal ones that of the class that was registered first. A class that
claims in the deprecated way is announced, whether it wins or not.
-/

namespace StreamFinder.Session

open Plugin

/-- What was decided about an address: the class that gets it, with the
place of the matcher that has claimed it, or that nobody wants it. -/
inductive Decision (P : Type) where
  | resolved (winner : PluginClass P) (url : String) (matcher : Option Nat)
  | noMatch (url : String)

/-- A class with its claim. -/
structure Contender (P : Type) where
  entrant : PluginClass P
  claim : Claim

namespace Contender

variable {P : Type}

/-- The classes that claim an address, in order. -/
def listOf (classes : List (PluginClass P)) (url : String) : List (Contender P) :=
  classes.filterMap fun c => (c.strategy.claim? url).map (⟨c, ·⟩)

/-- The better of two contenders, where the second comes later: it has to be strictly better. -/
def better (a b : Contender P) : Contender P :=
  if a.claim.priority.level < b.claim.priority.level then b else a

/-- The best contender: the first one of highest priority. -/
def best? : List (Contender P) → Option (Contender P)
  | [] => none
  | x :: xs => some (xs.foldl better x)

end Contender

namespace Decision

variable {P : Type}

/-- Announce the contenders that claim in the deprecated way, in order. -/
def announceAll : List (Contender P) → Notices → List Report × Notices
  | [], notices => ([], notices)
  | x :: xs, notices =>
    let (now, notices) :=
      if x.entrant.strategy.isLegacy then notices.announce x.entrant.name else ([], notices)
    let (later, notices) := announceAll xs notices
    (now ++ later, notices)

/-- What is decided about an address. -/
def make (registry : Registry P) (url : String) : Decision P :=
  match Contender.best? (Contender.listOf registry.classes url) with
  | none => .noMatch url
  | some x => .resolved x.entrant url x.claim.matcher

end Decision

end StreamFinder.Session
