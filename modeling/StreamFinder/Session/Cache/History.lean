import Mathlib.Data.Finset.Dedup
import Mathlib.Data.Finset.Card
import StreamFinder.Session.Cache
/-!
# Histories of a cache

A cache is looked into, filled and cleared, in any order. A history holds
what has come of each call, the latest first. From it one can tell, without
looking at the cache, which keys hold a value and which one, and how many
others were used since a key was used last: a look-up uses a key only if it
is a hit.
-/

namespace StreamFinder.Session.Cache

variable {K V : Type} [DecidableEq K]

/-- A call of a cache. -/
inductive Call (K V : Type) where
  | get (key : K)
  | insert (key : K) (value : V)
  | clear

/-- What comes of a call. -/
inductive Deed (K V : Type) where
  | hit (key : K)
  | missed (key : K)
  | stored (key : K) (value : V)
  | cleared

/-- The cache after a call, and what has come of it. -/
def next (c : Cache K V) : Call K V → Cache K V × Deed K V
  | .get key =>
    let (found, c) := c.get key
    (c, if found.isSome then .hit key else .missed key)
  | .insert key value => (c.insert key value, .stored key value)
  | .clear => (c.clear, .cleared)

/-- The cache of a capacity after some calls, and what has come of them,
both the latest first. -/
def play (capacity : Nat) : List (Call K V) → Cache K V × List (Deed K V)
  | [] => (empty capacity, [])
  | a :: earlier =>
    let (c, history) := play capacity earlier
    let (c, d) := c.next a
    (c, d :: history)

/-! ## Looking back -/

namespace Deed

/-- Whether the cache is cleared. -/
def clears : Deed K V → Bool
  | .cleared => true
  | _ => false

/-- Whether a key is looked up. -/
def looksUp : Deed K V → Bool
  | .hit _ => true
  | .missed _ => true
  | _ => false

/-- The key that is used, by a hit or because a value is stored under it. -/
def used? : Deed K V → Option K
  | .hit key => some key
  | .stored key _ => some key
  | _ => none

/-- The key that a value is stored under. -/
def storedKey? : Deed K V → Option K
  | .stored key _ => some key
  | _ => none

/-- The value that is stored under a key. -/
def storedUnder? (key : K) : Deed K V → Option V
  | .stored other value => if other = key then some value else none
  | _ => none

end Deed

/-- What has come of the calls since the cache was last cleared. -/
def sinceClear (history : List (Deed K V)) : List (Deed K V) :=
  history.takeWhile fun d => !d.clears

section

variable (history : List (Deed K V))

/-- How often a key was looked up. -/
def lookUps : Nat := history.countP Deed.looksUp

/-- The keys that were used, with their repetitions. -/
def usedKeys : List K := history.filterMap Deed.used?

/-- The keys that a value was stored under. -/
def storedKeys : Finset K := (history.filterMap Deed.storedKey?).toFinset

/-- The value that was stored under a key last. -/
def latestStored? (key : K) : Option V := history.findSome? (Deed.storedUnder? key)

/-- The other keys that were used since a key was used last. -/
def rivals (key : K) : Finset K := ((usedKeys history).takeWhile (· ≠ key)).toFinset

end

end StreamFinder.Session.Cache
