import StreamFinder.Stream.Merge
/-!
# The order of preference

Merging goes through the wanted streams by the rank of their kinds, and
streams of one rank keep the order in which they were offered: the order
of preference is a stable sort (`mergeOrder_eq_mergeSort`).
-/

namespace StreamFinder.Stream

variable {rank : String → Nat} {offers : Offers} {kinds : Option (List String)}
variable {e : String × Handle}

theorem ranksBefore_trans (rank : String → Nat) (a b c : String × Handle)
    (hab : ranksBefore rank a b = true) (hbc : ranksBefore rank b c = true) :
    ranksBefore rank a c = true := by
  simp only [ranksBefore, decide_eq_true_eq] at *
  omega

theorem ranksBefore_total (rank : String → Nat) (a b : String × Handle) :
    (ranksBefore rank a b || ranksBefore rank b a) = true := by
  simp only [ranksBefore, Bool.or_eq_true, decide_eq_true_eq]
  omega

/-- The order of preference in force: the one that is asked for, or else that of `defaultKinds`. -/
def kindsFor (offers : Offers) (kinds : Option (List String)) : List String :=
  kinds.getD (defaultKinds offers)

/-- The wanted entries. -/
def wanted (offers : Offers) (kinds : Option (List String)) : Offers :=
  offers.filter fun e => isAdmitted (kindsFor offers kinds) e.2.kind

/-- The wanted entries in the order in which they are merged. -/
def mergeOrder (offers : Offers) (kinds : Option (List String)) : Offers :=
  preferred (kindsFor offers kinds) offers

/-- **Streams are merged in a stable order of their ranks.** -/
theorem mergeOrder_eq_mergeSort (offers : Offers) (kinds : Option (List String)) :
    mergeOrder offers kinds =
      (wanted offers kinds).mergeSort (ranksBefore (kindRank (kindsFor offers kinds))) :=
  rfl

theorem mem_mergeOrder : e ∈ mergeOrder offers kinds ↔ e ∈ wanted offers kinds := by
  rw [mergeOrder_eq_mergeSort, List.mem_mergeSort]

theorem pairwise_mergeOrder (offers : Offers) (kinds : Option (List String)) :
    (mergeOrder offers kinds).Pairwise fun a b =>
      ranksBefore (kindRank (kindsFor offers kinds)) a b = true := by
  rw [mergeOrder_eq_mergeSort]
  exact List.pairwise_mergeSort (ranksBefore_trans _) (ranksBefore_total _) _

end StreamFinder.Stream
