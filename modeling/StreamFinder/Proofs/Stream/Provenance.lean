import StreamFinder.Proofs.Stream.Choosing
import StreamFinder.Proofs.Stream.Naming
/-!
# Which offer a name stands for

Merging goes through the wanted offers one after the other and stores each
under one name at most, so what a name stands for in the end is the last
offer that was stored under it (`get?_mergedSoFar`), and no offer is what
two names stand for. Every name that is stored is in normal form, which
no unfiltered alias is, so that selecting takes no merged stream away by
writing these. An alias is a second name for a stream that also has a name
of its own: what it refers to is a merged name that tells a quality, and
no alias does.
-/

namespace StreamFinder.Stream

open Quality

variable {c : Catalog} {e : String × Handle} {l : Offers} {h : Handle} {i : Nat}
variable {key key' name : String} {exclusions : Exclusions}
variable {offers : Offers} {kinds : Option (List String)}

/-! ## The last offer that is stored under a name -/

/-- The offer at a place of the list is stored under the name when its turn comes. -/
def StoredAt (l : Offers) (i : Nat) (key : String) : Prop :=
  ∃ e, l[i]? = some e ∧ storedName? (mergedSoFar (l.take i)) e = some key

/-- The name stands for the offer at a place: the offer is stored under it,
and no later one is. -/
def StandsFor (l : Offers) (key : String) (i : Nat) : Prop :=
  StoredAt l i key ∧ ∀ j, i < j → ¬ StoredAt l j key

theorem StoredAt.inj (h : StoredAt l i key) (h' : StoredAt l i key') : key = key' := by
  obtain ⟨e, he, hkey⟩ := h
  obtain ⟨e', he', hkey'⟩ := h'
  obtain rfl := Option.some.inj (he.symm.trans he')
  exact Option.some.inj (hkey.symm.trans hkey')

/-- No offer is what two names stand for. -/
theorem StandsFor.inj (h : StandsFor l key i) (h' : StandsFor l key' i) : key = key' := h.1.inj h'.1

theorem StoredAt.lt_length (h : StoredAt l i key) : i < l.length := by
  obtain ⟨e, he, -⟩ := h
  exact (List.getElem?_eq_some_iff.1 he).1

theorem mergedSoFar_append (l : Offers) (e : String × Handle) :
    mergedSoFar (l ++ [e]) = store (mergedSoFar l) e := by
  rw [mergedSoFar_eq_foldl, mergedSoFar_eq_foldl, List.foldl_append]
  rfl

theorem storedAt_append : StoredAt (l ++ [e]) i key ↔
    StoredAt l i key ∨ i = l.length ∧ storedName? (mergedSoFar l) e = some key := by
  rcases Nat.lt_trichotomy i l.length with hlt | rfl | hgt
  · have htake : (l ++ [e]).take i = l.take i := List.take_append_of_le_length (by omega)
    simp [StoredAt, List.getElem?_append_left hlt, htake, Nat.ne_of_lt hlt]
  · simp [StoredAt]
  · have hnone : (l ++ [e])[i]? = none := by simp; omega
    have hnone' : l[i]? = none := by simp; omega
    simp [StoredAt, hnone, hnone']
    omega

/-- **What one more offer changes**: the name under which it is stored now
stands for it, and every other name for what it stood for. -/
theorem standsFor_append : StandsFor (l ++ [e]) key i ↔
    if storedName? (mergedSoFar l) e = some key then i = l.length else StandsFor l key i := by
  unfold StandsFor
  simp only [storedAt_append]
  split
  · next hlast =>
    constructor
    · rintro ⟨hold | ⟨rfl, -⟩, hlater⟩
      · exact absurd (.inr ⟨rfl, hlast⟩) (hlater l.length hold.lt_length)
      · rfl
    · rintro rfl
      refine ⟨.inr ⟨rfl, hlast⟩, fun j hj => ?_⟩
      rintro (hold | ⟨rfl, -⟩)
      · exact absurd hold.lt_length (by omega)
      · omega
  · next hlast => simp [hlast]

/-- **What the catalog holds under a name is the offer that the name stands for.** -/
theorem get?_mergedSoFar : (mergedSoFar l).get? key = some h ↔
    ∃ i, StandsFor l key i ∧ l[i]?.map (·.2) = some h := by
  induction l using List.reverseRecOn with
  | nil => simp [mergedSoFar, Merging.start, StandsFor, StoredAt]
  | append_singleton l e ih =>
    rw [mergedSoFar_append]
    simp only [standsFor_append]
    by_cases hlast : storedName? (mergedSoFar l) e = some key
    · simp only [store_of_some hlast, Catalog.get?_insert_self, if_pos hlast, exists_eq_left,
        List.getElem?_concat_length, Option.map_some]
    · have hget : (store (mergedSoFar l) e).get? key = (mergedSoFar l).get? key := by
        cases hstored : storedName? (mergedSoFar l) e with
        | none => rw [store_of_none hstored]
        | some other =>
          have hne : key ≠ other := fun heq => hlast (heq ▸ hstored)
          rw [store_of_some hstored, Catalog.get?_insert_of_ne _ hne]
      simp only [hget, ih, if_neg hlast]
      exact exists_congr fun i => and_congr_right fun hi => by
        rw [List.getElem?_append_left hi.1.lt_length]

/-! ## Names and offers of the catalog -/

/-- Names are stored in normal form. -/
theorem StoredAt.isNormal (h : StoredAt l i key) : IsNormal key ∧ key ≠ "" := by
  obtain ⟨e, -, hkey⟩ := h
  obtain ⟨name, -, hnormal⟩ := Option.bind_eq_some_iff.1 hkey
  exact isNormal_of_normalName? hnormal

theorem isNormal_of_contains (h : (mergedSoFar l).contains key = true) :
    IsNormal key ∧ key ≠ "" := by
  obtain ⟨handle, hget⟩ := Option.isSome_iff_exists.1 h
  obtain ⟨i, hi, -⟩ := get?_mergedSoFar.1 hget
  exact hi.1.isNormal

/-- **What is stored has a name**: its offered name, without the mark of an
alternate, begins with name characters. -/
theorem StoredAt.exists_named (h : StoredAt l i key) :
    ∃ e, l[i]? = some e ∧ (stem e.1).toList.takeWhile isNameChar ≠ [] := by
  obtain ⟨e, he, hkey⟩ := h
  refine ⟨e, he, fun hnil => ?_⟩
  rw [← normalName?_eq_none_iff] at hnil
  cases hget : (mergedSoFar (l.take i)).get? (stem e.1) with
  | none =>
    have hfree : freeName? (mergedSoFar (l.take i)) (stem e.1) e.2.kind = some (stem e.1) := by
      simp [freeName?, hget]
    simp [storedName?, hfree, hnil] at hkey
  | some taken =>
    -- a name that is taken is in normal form
    have htaken : (mergedSoFar (l.take i)).contains (stem e.1) = true := by
      simp [Catalog.contains, hget]
    obtain ⟨hnormal, hne⟩ := isNormal_of_contains htaken
    rw [normalName?_of_isNormal hnormal hne] at hnil
    cases hnil

/-! ## The merged catalog -/

theorem mergeOrder_perm (offers : Offers) (kinds : Option (List String)) :
    (mergeOrder offers kinds).Perm (wanted offers kinds) := by
  rw [mergeOrder_eq_mergeSort]
  exact List.mergeSort_perm _ _

theorem get?_merge : (merge offers kinds).get? key = some h ↔
    ∃ i, StandsFor (mergeOrder offers kinds) key i ∧
      (mergeOrder offers kinds)[i]?.map (·.2) = some h := get?_mergedSoFar

theorem get?_merge_of_not_isNormal (hkey : ¬ IsNormal key) :
    (merge offers kinds).get? key = none :=
  Option.not_isSome_iff_eq_none.1 fun hsome =>
    hkey (isNormal_of_contains (l := mergeOrder offers kinds) hsome).1

/-- **A merged stream is offered**, with a wanted kind and with a name. -/
theorem exists_offer_of_get?_merge (hget : (merge offers kinds).get? key = some h) :
    ∃ i e, StandsFor (mergeOrder offers kinds) key i ∧ (mergeOrder offers kinds)[i]? = some e ∧
      e ∈ offers ∧ e.2 = h ∧ isAdmitted (kindsFor offers kinds) h.kind = true ∧
      (stem e.1).toList.takeWhile isNameChar ≠ [] := by
  obtain ⟨i, hi, hstream⟩ := get?_merge.1 hget
  obtain ⟨e, he, hnamed⟩ := hi.1.exists_named
  obtain rfl : e.2 = h := by simpa [he] using hstream
  obtain ⟨hoffered, hadmitted⟩ := List.mem_filter.1 (mem_mergeOrder.1 (List.mem_of_getElem? he))
  exact ⟨i, e, hi, he, hoffered, rfl, hadmitted, hnamed⟩

/-! ## What the names of the built catalog refer to -/

/-- Without offers there is nothing to select from. -/
theorem build_eq_select (offers : Offers) (kinds : Option (List String))
    (exclusions : Exclusions) :
    build offers kinds exclusions = select (merge offers kinds) exclusions := by
  cases offers with
  | nil =>
    have hnone : mergeOrder [] kinds = [] := List.mergeSort_nil
    rw [merge_eq_mergedSoFar, hnone]
    rfl
  | cons e offers => rfl

/-- The name that a name of a selected catalog refers to: an alias refers to
the name it is written for, and any other name to itself. -/
def referent (c : Catalog) (exclusions : Exclusions) (name : String) : String :=
  (chosenName? c exclusions name).getD name

theorem get?_select_eq_referent (c : Catalog) (exclusions : Exclusions) (name : String) :
    (select c exclusions).get? name = c.get? (referent c exclusions name) := by
  cases hchosen : chosenName? c exclusions name with
  | none =>
    have hnone : chosen? c exclusions name = none := Option.map_eq_none_iff.1 hchosen
    simp [referent, hchosen, get?_select, hnone]
  | some target => simp [referent, hchosen, (sortable_of_chosenName? hchosen).2]

theorem referent_of_notMem (h : name ∉ aliasNames) : referent c exclusions name = name := by
  simp [referent, chosenName?, chosen?_of_notMem h]

/-- **Every name stands for one offer, and no two names for the same**, but
for the aliases. Each name of the merged catalog is in normal form and
stands for an offer of a wanted kind that has a name; each offer is stood
for by one name at most. In the built catalog the names that are no
aliases stand for what they stand for in the merged one; the unfiltered
aliases are new; and an alias that is written has the stream of a name that
tells a quality and is no alias itself. -/
theorem names_stand_for_single_offers (offers : Offers) (kinds : Option (List String))
    (exclusions : Exclusions) :
    let ordered := mergeOrder offers kinds
    let merged := merge offers kinds
    let built := build offers kinds exclusions
    (ordered.Perm (wanted offers kinds) ∧
      (∀ key h, merged.get? key = some h → (IsNormal key ∧ key ≠ "") ∧
        ∃ i e, StandsFor ordered key i ∧ ordered[i]? = some e ∧ e ∈ offers ∧ e.2 = h ∧
          isAdmitted (kindsFor offers kinds) h.kind = true ∧
          (stem e.1).toList.takeWhile isNameChar ≠ []) ∧
      (∀ key key' i, StandsFor ordered key i → StandsFor ordered key' i → key = key')) ∧
    ((∀ key, built.get? key = merged.get? (referent merged exclusions key)) ∧
      (∀ key key' i, StandsFor ordered (referent merged exclusions key) i →
        StandsFor ordered (referent merged exclusions key') i → key ≠ key' →
        key ∈ aliasNames ∨ key' ∈ aliasNames) ∧
      (∀ key, key ∉ aliasNames → referent merged exclusions key = key) ∧
      (merged.get? bestUnfilteredName = none ∧ merged.get? worstUnfilteredName = none) ∧
      (∀ role name, chosenName? merged exclusions role = some name →
        Sortable merged name ∧ name ∉ aliasNames ∧ built.get? role = built.get? name)) := by
  intro ordered merged built
  have hbuilt : ∀ key, built.get? key = merged.get? (referent merged exclusions key) := by
    intro key
    rw [← get?_select_eq_referent, ← build_eq_select]
  have hoffered : ∀ key h, merged.get? key = some h → (IsNormal key ∧ key ≠ "") ∧
      ∃ i e, StandsFor ordered key i ∧ ordered[i]? = some e ∧ e ∈ offers ∧ e.2 = h ∧
        isAdmitted (kindsFor offers kinds) h.kind = true ∧
        (stem e.1).toList.takeWhile isNameChar ≠ [] := by
    intro key h hget
    obtain ⟨i, e, hi, hrest⟩ := exists_offer_of_get?_merge hget
    exact ⟨hi.1.isNormal, i, e, hi, hrest⟩
  refine ⟨⟨mergeOrder_perm offers kinds, hoffered, fun _ _ _ => StandsFor.inj⟩,
    hbuilt, fun key key' i h h' hne => ?_, fun _ => referent_of_notMem,
    ⟨get?_merge_of_not_isNormal (by decide), get?_merge_of_not_isNormal (by decide)⟩,
    fun role name hchosen => ?_⟩
  · by_contra hnone
    rw [not_or] at hnone
    rw [referent_of_notMem hnone.1] at h
    rw [referent_of_notMem hnone.2] at h'
    exact hne (h.inj h')
  · have hsortable := (sortable_of_chosenName? hchosen).1
    refine ⟨hsortable, hsortable.notMem_aliasNames, ?_⟩
    rw [hbuilt, hbuilt, referent_of_notMem hsortable.notMem_aliasNames, referent, hchosen]
    rfl

/-- A name that is stored over another one, a stream that a plugin has
called the best, two streams of one name, and one without a name. -/
def medley : Offers :=
  [("vod", ⟨"http", none, 0⟩), ("VOD!", ⟨"http", none, 1⟩), ("best", ⟨"hls", none, 2⟩),
    ("720p", ⟨"http", none, 3⟩), ("720p", ⟨"http", none, 4⟩), ("???", ⟨"http", none, 5⟩)]

/-- The one stream of a preferred transport goes first. -/
theorem mergeOrder_medley : mergeOrder medley none =
    [("best", ⟨"hls", none, 2⟩), ("vod", ⟨"http", none, 0⟩), ("VOD!", ⟨"http", none, 1⟩),
      ("720p", ⟨"http", none, 3⟩), ("720p", ⟨"http", none, 4⟩), ("???", ⟨"http", none, 5⟩)] := by
  cbv

/-- The name of the later stream stands for it alone, and the best stream
and the one of its resolution are one offer, of which the alias is the
second name. -/
theorem medley_stands_for_offers :
    let ordered := mergeOrder medley none
    let merged := merge medley none
    let built := build medley none []
    (merged.get? "vod" = some ⟨"http", none, 1⟩ ∧ ∃ i, StandsFor ordered "vod" i ∧
      ∀ key, StandsFor ordered key i → key = "vod") ∧
    (∃ i, StandsFor ordered (referent merged [] bestName) i ∧
      StandsFor ordered (referent merged [] "720p") i ∧ bestName ≠ "720p" ∧
      (bestName ∈ aliasNames ∨ "720p" ∈ aliasNames)) ∧
    ("720p_alt" ∉ aliasNames ∧ referent merged [] "720p_alt" = "720p_alt") ∧
    (chosenName? merged [] bestName = some "720p" ∧ built.get? bestName = built.get? "720p") := by
  intro ordered merged built
  obtain ⟨⟨-, hoffered, hinj⟩, -, halias, hself, -, hchosen⟩ :=
    names_stand_for_single_offers medley none []
  have hmerged : merged = mergedSoFar _ := congrArg mergedSoFar mergeOrder_medley
  have hvod : merged.get? "vod" = some ⟨"http", none, 1⟩ := by rw [hmerged]; decide
  have hstream : merged.get? "720p" = some ⟨"http", none, 3⟩ := by rw [hmerged]; decide
  have hbest : chosenName? merged [] bestName = some "720p" := by rw [hmerged]; decide
  have hreferent : referent merged [] bestName = referent merged [] "720p" := by
    rw [hmerged]
    decide
  have hplain : "720p_alt" ∉ aliasNames := by decide
  obtain ⟨-, i, -, hi, -⟩ := hoffered _ _ hvod
  obtain ⟨-, j, -, hj, -⟩ := hoffered _ _ hstream
  have hj : StandsFor ordered (referent merged [] "720p") j := (hself "720p" (by decide)).symm ▸ hj
  have hne : bestName ≠ "720p" := by decide
  exact ⟨⟨hvod, i, hi, fun key hkey => hinj _ _ _ hkey hi⟩,
    ⟨j, hreferent ▸ hj, hj, hne, halias _ _ _ (hreferent ▸ hj) hj hne⟩,
    ⟨hplain, hself _ hplain⟩, hbest, (hchosen _ _ hbest).2.2⟩

end StreamFinder.Stream
