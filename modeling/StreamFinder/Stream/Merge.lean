import StreamFinder.Quality.Exclusion
import StreamFinder.Stream.Catalog

/-!
# Merging: one name for each stream

A plugin may offer one name over several transports, and the same name
over one transport several times. Merging gives every stream a name of
its own. Streams of preferred transports go first; a stream takes its name
if that is still free, otherwise its name with its transport behind it,
otherwise a numbered alternate, and with two alternates already there it
is surplus and left out. A name is stored as its leading run of name
characters in lower case; a stream without such a run is left out and
reported.

Names are looked up as they are offered and stored in their normal form.
The two differ where a name has capitals or ends in other characters.
-/

namespace StreamFinder.Stream

open Quality

/-- The transports that are preferred when none are asked for. -/
def wellKnownKinds : List String := ["rtmp", "hls", "hds", "http"]

/-- Stands for every kind of transport in a list of kinds. -/
def anyKind : String := "*"

/-- The order of preference when none is asked for: the well-known
transports, then the others in the order in which they first come up. -/
def defaultKinds (offers : Offers) : List String :=
  offers.foldl (fun kinds (_, h) => if kinds.contains h.kind then kinds else kinds ++ [h.kind])
    wellKnownKinds

/-! ## The order of preference -/

/-- Whether streams of this kind are wanted. -/
def isAdmitted (kinds : List String) (kind : String) : Bool :=
  kinds.contains kind || kinds.contains anyKind

/-- The place of a kind in the order of preference: its own, or else that of `anyKind`. -/
def kindRank (kinds : List String) (kind : String) : Nat :=
  if kinds.contains kind then kinds.idxOf kind else kinds.idxOf anyKind

/-- Whether an entry may stand before another: its rank is not the higher one. -/
def ranksBefore (rank : String → Nat) (a b : String × Handle) : Bool :=
  rank a.2.kind ≤ rank b.2.kind

/-- The entries by ascending rank; entries of one rank keep their order. -/
def sortByRank (rank : String → Nat) (offers : Offers) : Offers :=
  offers.mergeSort (ranksBefore rank)

/-- The wanted entries in the order of preference. -/
def preferred (kinds : List String) (offers : Offers) : Offers :=
  sortByRank (kindRank kinds) (offers.filter fun (_, h) => isAdmitted kinds h.kind)

/-! ## Names -/

/-- The name without one `_alt` at its end. -/
def stem (name : String) : String :=
  match name.toList.reverse with
  | 't' :: 'l' :: 'a' :: '_' :: rest => String.ofList rest.reverse
  | _ => name

/-- How many alternates of a name are kept. -/
def maxAlternates : Nat := 2

/-- The names of a catalog that begin with the given text. -/
def namesBeginning (c : Catalog) (start : String) : List String :=
  c.names.filter fun name => start.toList.isPrefixOf name.toList

/-- The name under which a stream of this kind can join the catalog;
none if it is surplus. -/
def freeName? (c : Catalog) (name kind : String) : Option String :=
  match c.get? name with
  | none => some name
  | some taken =>
    let own := if taken.kind = kind then name else name ++ "_" ++ kind
    if c.contains own then
      let alternate := own ++ "_alt"
      let count := (namesBeginning c alternate).length
      if maxAlternates ≤ count then none
      else if 0 < count then some (alternate ++ toString (count + 1))
      else some alternate
    else some own

/-- The form in which a name is stored: its leading name characters, in lower case. -/
def normalName? (name : String) : Option String :=
  match name.toList.takeWhile isNameChar with
  | [] => none
  | run => some (String.ofList (run.map Char.toLower))

/-! ## Merging -/

/-- The catalog so far, and the names of streams that could not be named, oldest first. -/
structure Merging where
  catalog : Catalog
  misnamed : List String

namespace Merging

/-- Nothing merged yet. -/
def start : Merging := ⟨.empty, []⟩

/-- Add one stream. -/
def add (m : Merging) (e : String × Handle) : Merging :=
  match freeName? m.catalog (stem e.1) e.2.kind with
  | none => m
  | some name =>
    match normalName? name with
    | none => { m with misnamed := m.misnamed ++ [name] }
    | some key => { m with catalog := m.catalog.insert key e.2 }

end Merging

/-- Merge the offers under an order of preference, by default that of `defaultKinds`. -/
def merging (offers : Offers) (kinds : Option (List String)) : Merging :=
  (preferred (kinds.getD (defaultKinds offers)) offers).foldl Merging.add .start

/-- The catalog of the merged offers. -/
def merge (offers : Offers) (kinds : Option (List String)) : Catalog :=
  (merging offers kinds).catalog

end StreamFinder.Stream
