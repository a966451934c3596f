import StreamFinder.Plugin.Claim

/-!
# The registry of plugin classes

A plugin class has a name, a way to claim addresses, and a way to make a
plugin for an address. The registry knows each name once and keeps the
classes in the order in which their names came up: registering a class
under a known name replaces the old class in its place, and a name that
was removed and comes back goes to the end.
-/

namespace StreamFinder.Plugin

open Text

/-- What a plugin is made from: the address it is bound to and the groups
of the matcher that claimed it. -/
structure Input where
  url : String
  groups : List (String × String)
deriving DecidableEq, Repr

namespace Input

/-- What a named group has matched. -/
def group? (i : Input) (name : String) : Option String := i.groups.lookup name

end Input

/-- A class of plugins of type `P`. -/
structure PluginClass (P : Type) where
  name : String
  strategy : Strategy
  instantiate : Input → P

namespace PluginClass

variable {P : Type}

/-- The same class under another name. -/
def renamed (c : PluginClass P) (name : String) : PluginClass P := { c with name := name }

/-- The record of a class. -/
def render (c : PluginClass P) : String :=
  recorded "PluginClass" [("name", quoted c.name), ("strategy", c.strategy.render)]

end PluginClass

/-- The registered classes, in order. -/
structure Registry (P : Type) where
  classes : List (PluginClass P)

namespace Registry

variable {P : Type}

/-- No class is registered. -/
def empty : Registry P := ⟨[]⟩

/-- The names, in order. -/
def names (r : Registry P) : List String := r.classes.map (·.name)

/-- How many classes are registered. -/
def size (r : Registry P) : Nat := r.classes.length

/-- The class of a name. -/
def get? (r : Registry P) (name : String) : Option (PluginClass P) :=
  r.classes.find? (·.name = name)

/-- Whether a name is known. -/
def contains (r : Registry P) (name : String) : Bool := (r.get? name).isSome

/-- Put a class in the place of the one of its name, or else at the end. -/
def putInto (c : PluginClass P) : List (PluginClass P) → List (PluginClass P)
  | [] => [c]
  | d :: rest => if d.name = c.name then c :: rest else d :: putInto c rest

/-- Register a class; the class that it replaces is answered. -/
def register (r : Registry P) (c : PluginClass P) : Option (PluginClass P) × Registry P :=
  (r.get? c.name, ⟨putInto c r.classes⟩)

/-- Remove the class of a name; the removed class is answered. -/
def unregister (r : Registry P) (name : String) : Option (PluginClass P) × Registry P :=
  (r.get? name, ⟨r.classes.eraseP (·.name = name)⟩)

/-- The registry that a list of classes makes, registered one after the other. -/
def ofList (classes : List (PluginClass P)) : Registry P :=
  classes.foldl (fun r c => (r.register c).2) empty

/-- Register the class of a name under another name as well; unless the
name is unknown, the class that the new name had is answered. -/
def copyAs (r : Registry P) (name new : String) :
    Option (Option (PluginClass P)) × Registry P :=
  match r.get? name with
  | none => (none, r)
  | some c =>
    let (replaced, r) := r.register (c.renamed new)
    (some replaced, r)

/-- A change of a registry. -/
inductive Change (P : Type) where
  | register (c : PluginClass P)
  | unregister (name : String)
  /-- Register the class of a name under another name as well. -/
  | rename (name new : String)
  | clear

/-- The registry after a change. -/
def apply (r : Registry P) : Change P → Registry P
  | .register c => (r.register c).2
  | .unregister name => (r.unregister name).2
  | .rename name new => (r.copyAs name new).2
  | .clear => empty

/-- The claim of each class on an address, in order. -/
def claims (r : Registry P) (url : String) : List (String × Option Claim) :=
  r.classes.map fun c => (c.name, c.strategy.claim? url)

end Registry

end StreamFinder.Plugin
