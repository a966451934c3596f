import Mathlib.Data.List.Basic
import StreamFinder.Proofs.Stream.Naming
/-!
# What merging sees of the offers

Merging is a fold in which every step depends on all earlier ones, so two
listings merge alike only if they are merged in the same order. A stable
sort leaves no more to the listing than the order within each rank: a
sorted list is determined by its entries of each rank
(`eq_of_ofRank_eq`). So merging sees of the offers, for each rank, the
wanted entries of that rank in their order, and nothing else
(`merge_sees_ranks`). It does not see the entries that are not wanted,
wherever they stand while the others are being sorted, nor how the entries
of different ranks are mixed, nor that a kind is listed twice.
-/

namespace StreamFinder.Stream

variable {rank rank' : String → Nat} {kinds : List String} {kind : String} {l m : Offers}

/-! ## Sorted lists and their ranks -/

/-- The entries of one rank, in their order. -/
def ofRank (rank : String → Nat) (k : Nat) (l : Offers) : Offers :=
  l.filter fun e => rank e.2.kind = k

/-- **Sorting keeps the entries of each rank in their order.** They are
sorted already, and a stable sort keeps what is. -/
theorem ofRank_sortByRank (rank : String → Nat) (k : Nat) (l : Offers) :
    ofRank rank k (sortByRank rank l) = ofRank rank k l := by
  have hsorted : (ofRank rank k l).Pairwise fun a b => ranksBefore rank a b = true := by
    refine List.pairwise_of_forall_mem_list fun a ha b hb => decide_eq_true ?_
    have hka : rank a.2.kind = k := of_decide_eq_true (List.mem_filter.1 ha).2
    have hkb : rank b.2.kind = k := of_decide_eq_true (List.mem_filter.1 hb).2
    omega
  have hkept : (ofRank rank k l).Sublist (sortByRank rank l) :=
    List.sublist_mergeSort (ranksBefore_trans rank) (ranksBefore_total rank) hsorted
      List.filter_sublist
  have hsublist : (ofRank rank k l).Sublist (ofRank rank k (sortByRank rank l)) := by
    have hfiltered := hkept.filter fun e => rank e.2.kind = k
    simpa only [ofRank, List.filter_filter, Bool.and_self] using hfiltered
  have hperm : (ofRank rank k (sortByRank rank l)).Perm (ofRank rank k l) :=
    (List.mergeSort_perm l _).filter _
  exact (hsublist.eq_of_length hperm.length_eq.symm).symm

theorem pairwise_sortByRank (rank : String → Nat) (l : Offers) :
    (sortByRank rank l).Pairwise fun a b => rank a.2.kind ≤ rank b.2.kind := by
  exact (List.pairwise_mergeSort (ranksBefore_trans rank) (ranksBefore_total rank) l).imp
    of_decide_eq_true

/-- A list that begins with an entry of some rank has none of a lower rank
if it is sorted, and then neither has a list with the same entries of each rank. -/
theorem rank_head_le {x y : String × Handle}
    (h : ∀ k, ofRank rank k (x :: l) = ofRank rank k (y :: m))
    (hl : (x :: l).Pairwise fun a b => rank a.2.kind ≤ rank b.2.kind) :
    rank x.2.kind ≤ rank y.2.kind := by
  have hy : y ∈ ofRank rank (rank y.2.kind) (x :: l) := by
    rw [h]
    simp [ofRank]
  rcases List.mem_cons.1 (List.mem_filter.1 hy).1 with rfl | hmem
  · exact Nat.le_refl _
  · exact (List.pairwise_cons.1 hl).1 y hmem

/-- **A sorted list is determined by its entries of each rank.** -/
theorem eq_of_ofRank_eq (hl : l.Pairwise fun a b => rank a.2.kind ≤ rank b.2.kind)
    (hm : m.Pairwise fun a b => rank a.2.kind ≤ rank b.2.kind)
    (h : ∀ k, ofRank rank k l = ofRank rank k m) : l = m := by
  induction l generalizing m with
  | nil =>
    cases m with
    | nil => rfl
    | cons y m => simpa [ofRank] using h (rank y.2.kind)
  | cons x l ih =>
    cases m with
    | nil => simpa [ofRank] using h (rank x.2.kind)
    | cons y m =>
      have hsame : rank x.2.kind = rank y.2.kind :=
        Nat.le_antisymm (rank_head_le h hl) (rank_head_le (fun k => (h k).symm) hm)
      have hfirst := h (rank x.2.kind)
      simp only [ofRank, List.filter_cons, hsame, decide_true, if_true, List.cons.injEq] at hfirst
      obtain ⟨rfl, -⟩ := hfirst
      congr 1
      refine ih (List.pairwise_cons.1 hl).2 (List.pairwise_cons.1 hm).2 fun k => ?_
      have hk := h k
      simp only [ofRank, List.filter_cons] at hk ⊢
      split at hk
      · exact (List.cons.inj hk).2
      · exact hk

/-! ## The ranks of wanted kinds -/

/-- The rank of a kind: the first place of the kind among those asked for,
or else the first place of the wildcard; a kind that is not wanted has none. -/
def rank? (kinds : List String) (kind : String) : Option Nat :=
  (kinds.idxOf? kind).or (kinds.idxOf? anyKind)

theorem idxOf?_of_mem (h : kind ∈ kinds) : kinds.idxOf? kind = some (kinds.idxOf kind) := by
  obtain ⟨i, hi⟩ := Option.ne_none_iff_exists'.1 (mt List.idxOf?_eq_none_iff.1 (not_not_intro h))
  rw [List.idxOf_eq_getD_idxOf?, hi, Option.getD_some]

/-- What is sorted by is the rank of what is admitted. -/
theorem rank?_eq (kinds : List String) (kind : String) :
    rank? kinds kind = if isAdmitted kinds kind then some (kindRank kinds kind) else none := by
  unfold rank? isAdmitted kindRank
  simp only [List.contains_iff_mem, Bool.or_eq_true]
  by_cases hkind : kind ∈ kinds
  · simp [hkind, idxOf?_of_mem]
  · by_cases hany : anyKind ∈ kinds
    · simp [hkind, hany, idxOf?_of_mem, List.idxOf?_eq_none_iff.2 hkind]
    · simp [hkind, hany, List.idxOf?_eq_none_iff.2 hkind, List.idxOf?_eq_none_iff.2 hany]

theorem rank?_eq_some_iff {k : Nat} :
    rank? kinds kind = some k ↔ isAdmitted kinds kind = true ∧ kindRank kinds kind = k := by
  rw [rank?_eq]
  split <;> simp [*]

/-- The offers of one rank, in their order. -/
def offersOfRank (kinds : List String) (k : Nat) (offers : Offers) : Offers :=
  offers.filter fun e => rank? kinds e.2.kind = some k

/-- The wanted offers. -/
def admittedOf (kinds : List String) (offers : Offers) : Offers :=
  offers.filter fun e => isAdmitted kinds e.2.kind

theorem ofRank_admittedOf (kinds : List String) (k : Nat) (offers : Offers) :
    ofRank (kindRank kinds) k (admittedOf kinds offers) = offersOfRank kinds k offers := by
  unfold ofRank admittedOf offersOfRank
  rw [List.filter_filter]
  refine List.filter_congr fun e _ => ?_
  simp only [rank?_eq_some_iff, Bool.decide_and, Bool.decide_eq_true, Bool.and_comm]

theorem mergeOrder_some (offers : Offers) (kinds : List String) :
    mergeOrder offers (some kinds) = sortByRank (kindRank kinds) (admittedOf kinds offers) := rfl

/-- **The order of merging is determined by the offers of each rank.** -/
theorem mergeOrder_congr {r s : Offers} (h : ∀ k, offersOfRank kinds k r = offersOfRank kinds k s) :
    mergeOrder r (some kinds) = mergeOrder s (some kinds) := by
  rw [mergeOrder_some, mergeOrder_some]
  refine eq_of_ofRank_eq (pairwise_sortByRank _ _) (pairwise_sortByRank _ _) fun k => ?_
  rw [ofRank_sortByRank, ofRank_sortByRank, ofRank_admittedOf, ofRank_admittedOf, h]

/-! ## Kinds that are not wanted -/

/-- The rank of a kind, where the kinds that are not wanted have a rank of
their own, as high or low as it may be. -/
def rankOr (fallback : Nat) (kinds : List String) (kind : String) : Nat :=
  (rank? kinds kind).getD fallback

/-- **What is not wanted may be sorted with the rest**, at any place, and dropped afterwards. -/
theorem admittedOf_sortByRank_rankOr (fallback : Nat) (kinds : List String) (offers : Offers) :
    admittedOf kinds (sortByRank (rankOr fallback kinds) offers) =
      mergeOrder offers (some kinds) := by
  have hrank : ∀ {kind}, isAdmitted kinds kind = true →
      rankOr fallback kinds kind = kindRank kinds kind := fun h => by
    simp [rankOr, rank?_eq, h]
  refine eq_of_ofRank_eq ?_ (pairwise_sortByRank (kindRank kinds) _) fun k => ?_
  · have hsorted := (pairwise_sortByRank (rankOr fallback kinds) offers).filter
      fun e => isAdmitted kinds e.2.kind
    refine hsorted.imp_of_mem fun ha hb hle => ?_
    rwa [hrank (List.mem_filter.1 ha).2, hrank (List.mem_filter.1 hb).2] at hle
  · calc ofRank (kindRank kinds) k (admittedOf kinds (sortByRank (rankOr fallback kinds) offers))
        = admittedOf kinds (ofRank (rankOr fallback kinds) k
            (sortByRank (rankOr fallback kinds) offers)) := by
          unfold ofRank admittedOf
          rw [List.filter_filter, List.filter_filter]
          refine List.filter_congr fun e _ => ?_
          cases hadmitted : isAdmitted kinds e.2.kind with
          | true => simp [hrank hadmitted]
          | false => simp
      _ = admittedOf kinds (ofRank (rankOr fallback kinds) k offers) := by rw [ofRank_sortByRank]
      _ = ofRank (kindRank kinds) k (admittedOf kinds offers) := by
          unfold ofRank admittedOf
          rw [List.filter_filter, List.filter_filter]
          refine List.filter_congr fun e _ => ?_
          cases hadmitted : isAdmitted kinds e.2.kind with
          | true => simp [hrank hadmitted]
          | false => simp
      _ = ofRank (kindRank kinds) k (mergeOrder offers (some kinds)) := by
          rw [mergeOrder_some, ofRank_sortByRank]

/-! ## Kinds that are listed twice -/

/-- Sorting asks of the ranks no more than which one is the lower. -/
theorem sortByRank_congr (h : ∀ a b, rank a ≤ rank b ↔ rank' a ≤ rank' b) (l : Offers) :
    sortByRank rank l = sortByRank rank' l := by
  have hsame : ranksBefore rank = ranksBefore rank' :=
    funext fun a => funext fun b => decide_eq_decide.2 (h a.2.kind b.2.kind)
  rw [sortByRank, sortByRank, hsame]

/-- Without an entry that has stood before, the places behind it are one
less, and those before it stay. -/
theorem idxOf_append_cons_le_iff {before after : List String} {again : String}
    (hagain : again ∈ before) (a b : String) :
    (before ++ again :: after).idxOf a ≤ (before ++ again :: after).idxOf b ↔
      (before ++ after).idxOf a ≤ (before ++ after).idxOf b := by
  have hplace : ∀ c, (before ++ again :: after).idxOf c =
      if c ∈ before then before.idxOf c else before.length + 1 + after.idxOf c := by
    intro c
    rw [List.idxOf_append]
    split
    · rfl
    · next hc =>
      have hne : again ≠ c := fun heq => hc (heq ▸ hagain)
      rw [List.idxOf_cons_ne _ hne]
      omega
  have hlt : ∀ c ∈ before, before.idxOf c < before.length := fun c => List.idxOf_lt_length_of_mem
  rw [hplace, hplace, List.idxOf_append, List.idxOf_append]
  by_cases ha : a ∈ before <;> by_cases hb : b ∈ before <;> simp only [ha, hb, if_true, if_false]
  · have := hlt a ha
    omega
  · have := hlt b hb
    omega
  · omega

/-- The kind whose place decides the rank of an admitted kind. -/
def decisiveKind (kinds : List String) (kind : String) : String :=
  if kind ∈ kinds then kind else anyKind

theorem kindRank_eq_idxOf (kinds : List String) (kind : String) :
    kindRank kinds kind = kinds.idxOf (decisiveKind kinds kind) := by
  unfold kindRank decisiveKind
  simp only [List.contains_iff_mem]
  split <;> rfl

/-- **A kind that is listed again counts where it stands first.** -/
theorem mergeOrder_append_cons {before after : List String} {again : String}
    (hagain : again ∈ before) (offers : Offers) :
    mergeOrder offers (some (before ++ again :: after)) =
      mergeOrder offers (some (before ++ after)) := by
  have hmem : ∀ c, c ∈ before ++ again :: after ↔ c ∈ before ++ after := by
    intro c
    simp only [List.mem_append, List.mem_cons]
    constructor
    · rintro (hc | rfl | hc)
      · exact .inl hc
      · exact .inl hagain
      · exact .inr hc
    · rintro (hc | hc)
      · exact .inl hc
      · exact .inr (.inr hc)
  have hadmitted (kind : String) :
      isAdmitted (before ++ again :: after) kind = isAdmitted (before ++ after) kind := by
    rw [Bool.eq_iff_iff]
    simp only [isAdmitted, Bool.or_eq_true, List.contains_iff_mem, hmem]
  have hdecisive : ∀ kind,
      decisiveKind (before ++ again :: after) kind = decisiveKind (before ++ after) kind :=
    fun kind => by simp only [decisiveKind, hmem]
  rw [mergeOrder_some, mergeOrder_some]
  have hwanted :
      admittedOf (before ++ again :: after) offers = admittedOf (before ++ after) offers :=
    List.filter_congr fun e _ => hadmitted e.2.kind
  rw [hwanted]
  refine sortByRank_congr (fun a b => ?_) _
  simp only [kindRank_eq_idxOf, hdecisive]
  exact idxOf_append_cons_le_iff hagain _ _

/-- Kinds that are listed again can all be left out. -/
theorem mergeOrder_eraseDups (kinds : List String) (offers : Offers) :
    mergeOrder offers (some kinds.eraseDups) = mergeOrder offers (some kinds) := by
  -- `seen` are the kinds gone through so far, each once and the latest first
  have hloop : ∀ rest seen : List String,
      mergeOrder offers (some (List.eraseDupsBy.loop (· == ·) rest seen)) =
        mergeOrder offers (some (seen.reverse ++ rest)) := by
    intro rest
    induction rest with
    | nil => simp [List.eraseDupsBy.loop]
    | cons kind rest ih =>
      intro seen
      rw [List.eraseDupsBy.loop]
      split
      · next hseen =>
        have hmem : kind ∈ seen.reverse := by simpa using hseen
        rw [ih, mergeOrder_append_cons hmem]
      · rw [ih, List.reverse_cons, List.append_assoc, List.singleton_append]
  exact hloop kinds []

/-! ## Merging -/

/-- Two neighbours of different ranks can change places. -/
theorem offersOfRank_swap {x y : String × Handle} (h : rank? kinds x.2.kind ≠ rank? kinds y.2.kind)
    (before after : Offers) (k : Nat) :
    offersOfRank kinds k (before ++ x :: y :: after) =
      offersOfRank kinds k (before ++ y :: x :: after) := by
  have hone : ¬ (rank? kinds x.2.kind = some k ∧ rank? kinds y.2.kind = some k) :=
    fun hboth => h (hboth.1.trans hboth.2.symm)
  simp only [offersOfRank, List.filter_append, List.filter_cons, decide_eq_true_eq]
  by_cases hx : rank? kinds x.2.kind = some k
  · have hy : ¬ rank? kinds y.2.kind = some k := fun hy => hone ⟨hx, hy⟩
    simp [hx, hy]
  · simp [hx]

/-- **Merging sees of the offers, for each rank, those of that rank in
their order.** Two listings that agree there have the same catalog. So it
makes no difference to add or to leave out offers that are not wanted, to
mix the ranks in another way, or to list a kind again; and the offers that
are not wanted may be sorted with the others under any rank at all, as
long as they are dropped before the names are given. -/
theorem merge_sees_ranks (kinds : List String) :
    (∀ r s, (∀ k, offersOfRank kinds k r = offersOfRank kinds k s) →
      merge r (some kinds) = merge s (some kinds)) ∧
    (∀ offers, merge (admittedOf kinds offers) (some kinds) = merge offers (some kinds)) ∧
    (∀ before x y after, rank? kinds x.2.kind ≠ rank? kinds y.2.kind →
      merge (before ++ x :: y :: after) (some kinds) =
        merge (before ++ y :: x :: after) (some kinds)) ∧
    (∀ offers, merge offers (some kinds.eraseDups) = merge offers (some kinds)) ∧
    (∀ fallback offers, merge offers (some kinds) =
      mergedSoFar (admittedOf kinds (sortByRank (rankOr fallback kinds) offers))) := by
  refine ⟨fun r s h => ?_, fun offers => ?_, fun before x y after h => ?_, fun offers => ?_,
    fun fallback offers => ?_⟩
  · rw [merge_eq_mergedSoFar, merge_eq_mergedSoFar, mergeOrder_congr h]
  · rw [merge_eq_mergedSoFar, merge_eq_mergedSoFar, mergeOrder_some, mergeOrder_some]
    congr 2
    exact List.filter_filter.trans (List.filter_congr fun e _ => Bool.and_self _)
  · rw [merge_eq_mergedSoFar, merge_eq_mergedSoFar,
      mergeOrder_congr (offersOfRank_swap h before after)]
  · rw [merge_eq_mergedSoFar, merge_eq_mergedSoFar, mergeOrder_eraseDups]
  · rw [merge_eq_mergedSoFar, admittedOf_sortByRank_rankOr]

/-- Kinds of which the first is listed a hundred times. -/
def repetitive : List String := List.replicate 100 "dash" ++ ["hls", "http"]

/-- Three wanted streams and one that is not wanted, which by the rank 99 is
sorted in front of them. -/
def mixed : Offers := [("a", ⟨"http", none, 0⟩), ("a", ⟨"rtmp", none, 1⟩), ("a", ⟨"hls", none, 2⟩),
  ("a", ⟨"hls", none, 3⟩)]

/-- The wanted ones among them, with the ranks mixed in another way. -/
def remixed : Offers := [("a", ⟨"hls", none, 2⟩), ("a", ⟨"http", none, 0⟩), ("a", ⟨"hls", none, 3⟩)]

theorem offersOfRank_remixed (k : Nat) :
    offersOfRank repetitive k mixed = offersOfRank repetitive k remixed := by
  have hhls : rank? repetitive "hls" = some 100 := by decide
  have hhttp : rank? repetitive "http" = some 101 := by decide
  have hrtmp : rank? repetitive "rtmp" = none := by decide
  by_cases hk : k = 100
  · subst hk
    simp [mixed, remixed, offersOfRank, hhls, hhttp, hrtmp]
  · simp [mixed, remixed, offersOfRank, List.filter_cons, hhls, hhttp, hrtmp, Ne.symm hk]

/-- Ranks beyond the one that a kind gets while it is sorted, and a kind that
is not wanted: neither makes a difference. -/
theorem mixed_sees_ranks :
    (rank? repetitive "hls" = some 100 ∧ rankOr 99 repetitive "rtmp" = 99) ∧
    (∀ k, offersOfRank repetitive k mixed = offersOfRank repetitive k remixed) ∧
    merge mixed (some repetitive) = merge remixed (some repetitive) ∧
    rank? repetitive "rtmp" ≠ rank? repetitive "hls" ∧
    merge ([("a", ⟨"http", none, 0⟩)] ++ ("a", ⟨"rtmp", none, 1⟩) :: ("a", ⟨"hls", none, 2⟩) ::
        [("a", ⟨"hls", none, 3⟩)]) (some repetitive) =
      merge ([("a", ⟨"http", none, 0⟩)] ++ ("a", ⟨"hls", none, 2⟩) :: ("a", ⟨"rtmp", none, 1⟩) ::
        [("a", ⟨"hls", none, 3⟩)]) (some repetitive) :=
  have hne : rank? repetitive "rtmp" ≠ rank? repetitive "hls" := by decide
  ⟨by decide, offersOfRank_remixed, (merge_sees_ranks repetitive).1 _ _ offersOfRank_remixed, hne,
    (merge_sees_ranks repetitive).2.2.1 _ _ _ _ hne⟩

-- The preferred transport has the plain name, though its kind is the last but one.
set_option maxRecDepth 4000 in
example : (merge mixed (some repetitive)).names = ["a", "a_alt", "a_http"] := by
  cbv

end StreamFinder.Stream
