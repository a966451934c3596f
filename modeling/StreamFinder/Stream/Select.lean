import StreamFinder.Stream.Merge

/-!
# Selection: the best and the worst stream

Four names are aliases of other entries: the best and the worst stream of
all whose name tells a quality, and the best and the worst of those that
no rule excludes. Where no stream qualifies, the alias is not written. Of
names with equal weight the last in the order of names is the better one.
-/

namespace StreamFinder.Stream

open Quality

/-- A name that tells a quality, with what it is compared by. -/
structure Candidate where
  name : String
  key : Nat × Nat
  handle : Handle
deriving DecidableEq, Repr

namespace Candidate

/-- The candidates of a catalog, in the order of their names. -/
def listOf (c : Catalog) : List Candidate :=
  c.entries.filterMap fun (name, h) => (weigh name).key?.map (⟨name, ·, h⟩)

/-- Whether the first weight is at most the second: classes first, then values. -/
def atMost (a b : Nat × Nat) : Bool := a.1 < b.1 || (a.1 = b.1 && a.2 ≤ b.2)

/-- The better of two candidates, where the second comes later: it wins a tie. -/
def better (a b : Candidate) : Candidate := if atMost a.key b.key then b else a

/-- The worse of two candidates, where the second comes later: the first wins a tie. -/
def worse (a b : Candidate) : Candidate := if atMost a.key b.key then a else b

/-- The best candidate: the last one of greatest weight. -/
def best? : List Candidate → Option Candidate
  | [] => none
  | x :: xs => some (xs.foldl better x)

/-- The worst candidate: the first one of least weight. -/
def worst? : List Candidate → Option Candidate
  | [] => none
  | x :: xs => some (xs.foldl worse x)

end Candidate

/-- The name of the best stream. -/
def bestName : String := "best"

/-- The name of the worst stream. -/
def worstName : String := "worst"

/-- The name of the best stream, exclusions aside. -/
def bestUnfilteredName : String := "best-unfiltered"

/-- The name of the worst stream, exclusions aside. -/
def worstUnfilteredName : String := "worst-unfiltered"

/-- Write an alias of a candidate, if there is one. -/
def writeAlias (name : String) (target : Option Candidate) (c : Catalog) : Catalog :=
  match target with
  | none => c
  | some t => c.insert name t.handle

/-- The catalog with its aliases. -/
def select (c : Catalog) (exclusions : Exclusions) : Catalog :=
  let all := Candidate.listOf c
  let kept := all.filter fun x => !exclusions.excludes x.name
  writeAlias bestName (Candidate.best? kept) <|
  writeAlias worstName (Candidate.worst? kept) <|
  writeAlias bestUnfilteredName (Candidate.best? all) <|
  writeAlias worstUnfilteredName (Candidate.worst? all) c

/-- The catalog that answers a request for streams: the offers merged, with
aliases. No offers make an empty catalog. -/
def build (offers : Offers) (kinds : Option (List String)) (exclusions : Exclusions) : Catalog :=
  if offers.isEmpty then .empty else select (merge offers kinds) exclusions

end StreamFinder.Stream
