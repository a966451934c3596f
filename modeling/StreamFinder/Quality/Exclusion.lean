import StreamFinder.Text.Blank
import StreamFinder.Text.Quoted
import StreamFinder.Quality.Weight

/-!
# Exclusions: qualities kept out of the best and the worst

A rule excludes stream names. It names one stream, or compares weights
(`>=1080p` excludes every resolution of 1080 and more, and no bitrate), or
is a predicate of the caller's own. A list of rules excludes what any of
its rules excludes. An excluded stream keeps its name; it only loses its
chance to be called best or worst.

`Rule.parse` reads the written form of the first two kinds: a name, or an
operator and a sortable weight, with white space around it ignored.
-/

namespace StreamFinder.Quality

open Text

/-- How a comparison rule relates a weight to its own. -/
inductive Comparison where
  | lt
  | le
  | gt
  | ge
  | eq
deriving DecidableEq, Repr

namespace Comparison

/-- Whether `left` stands in the relation to `right`. -/
def holds : Comparison → Nat → Nat → Bool
  | .lt, left, right => left < right
  | .le, left, right => left ≤ right
  | .gt, left, right => right < left
  | .ge, left, right => right ≤ left
  | .eq, left, right => left = right

/-- The operator as written. -/
def token : Comparison → String
  | .lt => "<"
  | .le => "<="
  | .gt => ">"
  | .ge => ">="
  | .eq => "=="

/-- The label of a comparison in the record of a rule. -/
def label : Comparison → String
  | .lt => "Lt"
  | .le => "Le"
  | .gt => "Gt"
  | .ge => "Ge"
  | .eq => "Eq"

/-- The operator that an expression starts with, and what follows it. -/
def read : List Char → Option (Comparison × List Char)
  | '<' :: '=' :: rest => some (.le, rest)
  | '>' :: '=' :: rest => some (.ge, rest)
  | '=' :: '=' :: rest => some (.eq, rest)
  | '<' :: rest => some (.lt, rest)
  | '>' :: rest => some (.gt, rest)
  | _ => none

end Comparison

/-- A rule that excludes stream names. -/
inductive Rule where
  | named (excluded : String)
  | compare (op : Comparison) (weight : Weight)
  | predicate (test : String → Bool)

/-- Why a filter expression is refused. -/
inductive FilterError where
  | invalidFilter (expression : String)
deriving DecidableEq, Repr

/-- The wording of the error. -/
def FilterError.message : FilterError → String
  | .invalidFilter expression => "Invalid filter expression: " ++ expression

/-- The characters of names and weights in an expression. -/
def isNameChar (c : Char) : Bool := c.isAlphanum || c = '_' || c = '+'

/-- A non-empty run of name characters. -/
def isName (s : List Char) : Bool := s ≠ [] && s.all isNameChar

namespace Rule

/-- The rule that an expression writes. -/
def parse (expression : String) : Except FilterError Rule :=
  let s := trim expression.toList
  match Comparison.read s with
  | none => if isName s then .ok (.named (String.ofList s)) else .error (.invalidFilter expression)
  | some (op, operand) =>
    let weight := weigh (String.ofList operand)
    if isName operand ∧ weight.isSortable then .ok (.compare op weight)
    else .error (.invalidFilter expression)

/-- Whether the rule excludes the stream of this name. Weights are only
compared within their class. -/
def excludes : Rule → String → Bool
  | .named excluded, name => excluded = name
  | .compare op weight, name =>
    let candidate := weigh name
    candidate.kind = weight.kind && op.holds candidate.value weight.value
  | .predicate test, name => test name

/-- The record of a rule. A predicate has no text of its own. -/
def render : Rule → String
  | .named excluded => variant "Name" (quoted excluded)
  | .compare op weight =>
    recorded "Compare" [
      ("op", op.label),
      ("weight", recorded "QualityWeight" [
        ("class", weight.kind.label), ("value", toString weight.value)])]
  | .predicate _ => variant "Predicate" ".."

end Rule

/-- A list of rules. -/
abbrev Exclusions := List Rule

namespace Exclusions

/-- The rules that a list of expressions writes; the first bad expression is reported. -/
def parse (expressions : List String) : Except FilterError Exclusions :=
  expressions.mapM Rule.parse

/-- Whether some rule excludes the stream of this name. -/
def excludes (rules : Exclusions) (name : String) : Bool :=
  rules.any (·.excludes name)

end Exclusions

end StreamFinder.Quality
