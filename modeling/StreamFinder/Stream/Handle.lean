/-!
# Streams as plugins offer them

A plugin offers streams under names of its choice, and the same name may
come up several times, once for each transport. A stream itself is
opaque: only the kind of its transport matters here. The serial tells two
streams of one listing apart even when all else is equal, so that two
names with one handle are two names of the same stream.
-/

namespace StreamFinder.Stream

/-- A stream that a plugin has handed out. -/
structure Handle where
  kind : String
  url : Option String
  serial : Nat
deriving DecidableEq, Repr

/-- What a plugin offers: named streams in its own order. -/
abbrev Offers := List (String × Handle)

/-- A listing of names with kinds and addresses, its streams numbered from zero. -/
def Offers.ofListing (listing : List (String × String × Option String)) : Offers :=
  listing.zipIdx.map fun ((name, kind, url), serial) => (name, ⟨kind, url, serial⟩)

end StreamFinder.Stream
