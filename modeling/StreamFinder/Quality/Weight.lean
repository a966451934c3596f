import StreamFinder.Text.Digits

/-!
# Weights of stream names

A stream name that tells a quality is a whole number with a unit: `720p`
for a resolution, `1500k` for a bitrate. Such a name has a weight by which
it is compared; every other name is unsortable. Any resolution outranks
any bitrate, and within a class the number decides.

The number must fit into 64 bits and is written in ASCII digits. A name
whose number does not fit is unsortable like any other ill-formed name.
-/

namespace StreamFinder.Quality

open Text

/-- The class of a weight, in ascending order of rank. -/
inductive WeightClass where
  | unsortable
  | bitrate
  | resolution
deriving DecidableEq, Repr

namespace WeightClass

/-- The rank of a class; a class of higher rank outranks all weights of a lower one. -/
def rank : WeightClass → Nat
  | .unsortable => 0
  | .bitrate => 1
  | .resolution => 2

/-- The name of a class. -/
def name : WeightClass → String
  | .unsortable => "unsortable"
  | .bitrate => "bitrate"
  | .resolution => "resolution"

/-- The label of a class in the record of a weight. -/
def label : WeightClass → String
  | .unsortable => "Unsortable"
  | .bitrate => "Bitrate"
  | .resolution => "Resolution"

end WeightClass

/-- The weight of a stream name. -/
structure Weight where
  kind : WeightClass
  value : Nat
deriving DecidableEq, Repr

namespace Weight

/-- The weight of the names that tell no quality. -/
def none : Weight := ⟨.unsortable, 0⟩

/-- Whether the weight takes part in comparisons. -/
def isSortable (w : Weight) : Bool := w.kind ≠ .unsortable

/-- What sortable weights are compared by: the rank of the class, then the value. -/
def key? (w : Weight) : Option (Nat × Nat) :=
  if w.isSortable then some (w.kind.rank, w.value) else Option.none

end Weight

/-- Numbers in names fit into 64 bits. -/
def valueLimit : Nat := Nat.pow 2 64

/-- The number before the unit of a name: a non-empty run of ASCII digits
whose value fits into 64 bits. -/
def number? (digits : List Char) : Option Nat :=
  if digits ≠ [] ∧ digits.all Char.isDigit ∧ decimalValue digits < valueLimit then
    some (decimalValue digits)
  else none

/-- The class that a unit letter stands for. -/
def unitClass? (c : Char) : Option WeightClass :=
  if c = 'p' then some .resolution else if c = 'k' then some .bitrate else none

/-- The weight of a stream name. -/
def weigh (name : String) : Weight :=
  match name.toList.reverse with
  | [] => .none
  | last :: rest =>
    match unitClass? last, number? rest.reverse with
    | some kind, some value => ⟨kind, value⟩
    | _, _ => .none

end StreamFinder.Quality
