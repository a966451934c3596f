import StreamFinder.Plugin.Registry
import StreamFinder.Report
import StreamFinder.Stream.Select

/-!
# Fetching the streams of a plugin

A plugin that is bound to an address can be asked for its streams. What it
offers is merged and given aliases; that it has nothing to offer right now
is an empty catalog, and every other failure is passed on.
-/

namespace StreamFinder.Plugin

open StreamFinder.Quality StreamFinder.Stream StreamFinder.Text

/-- Why a plugin gives no streams. -/
inductive FetchError where
  | failed (reason : String)
  | noStreams
  | io (reason : String)
  | json (reason : String)
deriving DecidableEq, Repr

/-- The wording of the error. -/
def FetchError.message : FetchError → String
  | .failed reason => "Unable to extract streams: " ++ reason
  | .noStreams => "No streams found"
  | .io reason => "I/O error: " ++ reason
  | .json reason => "Unable to parse JSON: " ++ reason

/-- A type whose values can be asked for streams. -/
class Fetches (P : Type) where
  fetch : P → Except FetchError Offers
  title? : P → Option String

/-- What to prefer and what to leave out of the aliases. -/
structure StreamOptions where
  kinds : Option (List String)
  exclusions : Exclusions

/-- No preferences. -/
def StreamOptions.default : StreamOptions := ⟨none, []⟩

/-- A plugin bound to an address. -/
structure ResolvedPlugin (P : Type) where
  name : String
  url : String
  plugin : P

namespace ResolvedPlugin

variable {P : Type}

/-- The record of a resolved plugin. -/
def render (r : ResolvedPlugin P) : String :=
  recorded "ResolvedPlugin" [("name", quoted r.name), ("url", quoted r.url)]

variable [Fetches P]

/-- The title of what the address leads to, if the plugin knows it. -/
def title? (r : ResolvedPlugin P) : Option String := Fetches.title? r.plugin

/-- The streams of the plugin with their aliases, and what there is to report. -/
def streams (r : ResolvedPlugin P) (options : StreamOptions) :
    Except FetchError Catalog × List Report :=
  match Fetches.fetch r.plugin with
  | .error .noStreams => (.ok .empty, [.noStreams r.name])
  | .error e => (.error e, [])
  | .ok offers =>
    (.ok (build offers options.kinds options.exclusions),
      .fetched r.name offers.length :: (merging offers options.kinds).misnamed.map .misnamed)

end ResolvedPlugin

end StreamFinder.Plugin
