import StreamFinder.Json.Value

/-!
# Priorities

How strongly a plugin claims an address. A claim of priority `no` still
counts, but loses against any other.
-/

namespace StreamFinder.Plugin

/-- The priority of a claim, in ascending order. -/
inductive Priority where
  | no
  | low
  | normal
  | high
deriving DecidableEq, Repr

namespace Priority

/-- All priorities, in ascending order. -/
def all : List Priority := [.no, .low, .normal, .high]

/-- The level that priorities are compared by. -/
def level : Priority → Nat
  | .no => 0
  | .low => 10
  | .normal => 20
  | .high => 30

/-- The name of a priority. -/
def name : Priority → String
  | .no => "no"
  | .low => "low"
  | .normal => "normal"
  | .high => "high"

/-- The label of a priority in a record. -/
def label : Priority → String
  | .no => "No"
  | .low => "Low"
  | .normal => "Normal"
  | .high => "High"

/-- The priority of a name. -/
def ofName? (name : String) : Option Priority := all.find? (·.name = name)

/-- The priority that a JSON value denotes: its name, or an object with
the name as its one member and `null` as the value. -/
def ofJson? : Json.Value → Option Priority
  | .text name => ofName? name
  | .object [(some name, .null)] => ofName? name
  | _ => none

/-- The JSON form of a priority. -/
def toJson (p : Priority) : Json.Value := .text p.name

/-- Put a priority before the first one that is not below it. -/
def insertAscending (p : Priority) : List Priority → List Priority
  | [] => [p]
  | q :: rest => if p.level ≤ q.level then p :: q :: rest else q :: insertAscending p rest

/-- The priorities in ascending order. -/
def ascending (ps : List Priority) : List Priority := ps.foldr insertAscending []

end Priority

end StreamFinder.Plugin
