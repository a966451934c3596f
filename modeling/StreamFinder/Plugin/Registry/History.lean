import StreamFinder.Plugin.Registry
/-!
# Histories of a registry

A registry is changed from call to call, or made anew of a list of classes.
A history holds what has come of the calls, deed by deed, the latest first.
From it one can tell, without looking at the registry, which class a name
stands for: only what was registered under it since it was last removed
counts, the last registration for the class and the first one for the time
at which the name came up.
-/

namespace StreamFinder.Plugin.Registry

variable {P : Type}

/-- A call of a registry. -/
inductive Call (P : Type) where
  | change (c : Change P)
  /-- Make the registry of a list of classes, in place of the one there is. -/
  | collect (classes : List (PluginClass P))

/-- What comes of a call. -/
inductive Deed (P : Type) where
  | registered (c : PluginClass P)
  | removed (name : String)
  | cleared

/-- What comes of a change: of a rename that the class is registered under
its new name, unless there is none. -/
def deeds (r : Registry P) : Change P → List (Deed P)
  | .register c => [.registered c]
  | .unregister name => [.removed name]
  | .rename name new => (r.get? name).toList.map fun c => .registered (c.renamed new)
  | .clear => [.cleared]

/-- The registry after a call, and what has come of it, the latest first. -/
def next (r : Registry P) : Call P → Registry P × List (Deed P)
  | .change c => (r.apply c, r.deeds c)
  | .collect classes => (ofList classes, (Deed.cleared :: classes.map .registered).reverse)

/-- The registry after some calls, which began without classes, and what has
come of them, both the latest first. -/
def play : List (Call P) → Registry P × List (Deed P)
  | [] => (empty, [])
  | a :: earlier =>
    let (r, history) := play earlier
    let (r, latest) := r.next a
    (r, latest ++ history)

/-! ## Looking back -/

namespace Deed

/-- Whether a name is removed, by itself or with all others. -/
def removes (name : String) : Deed P → Bool
  | .registered _ => false
  | .removed other => other = name
  | .cleared => true

/-- The class that is registered under a name. -/
def registeredAs? (name : String) : Deed P → Option (PluginClass P)
  | .registered c => if c.name = name then some c else none
  | _ => none

end Deed

/-- The classes that were registered under a name since it was last removed,
the latest first. -/
def registrations (name : String) (history : List (Deed P)) : List (PluginClass P) :=
  (history.takeWhile fun d => !d.removes name).filterMap (Deed.registeredAs? name)

/-- A name came up when so many deeds were done: that was its first
registration since it was last removed. -/
def CameUp (history : List (Deed P)) (name : String) (time : Nat) : Prop :=
  ∃ later c earlier, history = later ++ .registered c :: earlier ∧ c.name = name ∧
    (∀ d ∈ later, d.removes name = false) ∧ registrations name earlier = [] ∧
    earlier.length = time

/-- One name came up before another one did. -/
def CameBefore (history : List (Deed P)) (a b : String) : Prop :=
  ∃ m n, CameUp history a m ∧ CameUp history b n ∧ m < n

/-- A class was put among those of a registry: in the place of the one of
its name, or else behind all, and nobody else has moved. -/
structure PutAmong (c : PluginClass P) (before after : Registry P) : Prop where
  kept : ∀ (i : Nat) (d : PluginClass P), before.classes[i]? = some d →
    after.classes[i]? = some (if d.name = c.name then c else d)
  added : before.contains c.name = false → after.classes[before.size]? = some c
  size : after.size = if before.contains c.name then before.size else before.size + 1

end StreamFinder.Plugin.Registry
