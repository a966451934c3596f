import StreamFinder.Proofs.Stream.Naming
/-!
# When no stream takes the place of another

A stream asks for a name that is free, and still it can be stored over
another one, in two ways. The name is asked for as it was offered and
stored in its normal form, so a name with capitals may be free while its
normal form is taken (`capital_displaces`). And the second alternate is
given away without being asked for, where just one name begins like an
alternate; if a plugin has offered that very name, it is lost.

Neither can happen while the offered names are in normal form and none of
them looks like a second alternate. Then a second alternate in the catalog
always has company (`Orderly.backed`), so that the count does not point to
it again.
-/

namespace StreamFinder.Stream

open Quality

variable {c : Catalog} {e : String × Handle} {key own : String} {l : Offers}

/-- The end of the name of a second alternate. -/
def secondMark : List Char := ['_', 'a', 'l', 't', '2']

/-- An entry whose names are stored as they are asked for, and are not to
be mistaken for second alternates. -/
structure IsUnmistakable (e : String × Handle) : Prop where
  stem_normal : normalName? (stem e.1) = none ∨ IsNormal (stem e.1)
  kind_normal : IsNormal e.2.kind
  stem_unmarked : ¬ secondMark <:+ (stem e.1).toList
  kind_unmarked : ¬ secondMark <:+ '_' :: e.2.kind.toList

theorem isUnmistakable_iff : IsUnmistakable e ↔
    (normalName? (stem e.1) = none ∨ IsNormal (stem e.1)) ∧ IsNormal e.2.kind ∧
      ¬ secondMark <:+ (stem e.1).toList ∧ ¬ secondMark <:+ '_' :: e.2.kind.toList :=
  ⟨fun ⟨h₁, h₂, h₃, h₄⟩ => ⟨h₁, h₂, h₃, h₄⟩, fun ⟨h₁, h₂, h₃, h₄⟩ => ⟨h₁, h₂, h₃, h₄⟩⟩

instance : DecidablePred IsUnmistakable := fun _ => decidable_of_iff _ isUnmistakable_iff.symm

/-- What the catalog keeps as long as all entries are unmistakable. -/
structure Orderly (c : Catalog) : Prop where
  normal : ∀ key, c.contains key = true → IsNormal key ∧ key ≠ ""
  backed : ∀ own, c.contains (own ++ "_alt2") = true → 2 ≤ alternates c own

/-! ## Own names -/

/-- A text ends in the mark of second alternates if what stands behind an
underscore in it is the end of the mark. -/
theorem marked_of_marked_append {name kind : List Char}
    (h : secondMark <:+ name ++ '_' :: kind) : secondMark <:+ '_' :: kind := by
  rcases List.suffix_or_suffix_of_suffix h (List.suffix_append name ('_' :: kind)) with h | h
  · exact h
  · have heq : '_' :: kind = secondMark := by
      simpa [secondMark, List.suffix_cons_iff] using h
    exact heq ▸ List.suffix_rfl

theorem IsUnmistakable.ownName_unmarked (he : IsUnmistakable e) (c : Catalog) :
    ¬ secondMark <:+ (ownName c (stem e.1) e.2.kind).toList := by
  unfold ownName
  split
  · split
    · exact he.stem_unmarked
    · intro h
      simp only [String.toList_append, List.append_assoc] at h
      exact he.kind_unmarked (marked_of_marked_append h)
  · exact he.stem_unmarked

/-- The own name of an unmistakable entry is in normal form, unless it is no name at all. -/
theorem Orderly.ownName_normal (hc : Orderly c) (he : IsUnmistakable e) :
    normalName? (ownName c (stem e.1) e.2.kind) = none ∨
      IsNormal (ownName c (stem e.1) e.2.kind) := by
  unfold ownName
  split
  · next taken hget =>
    have hstem : IsNormal (stem e.1) := (hc.normal _ (by simp [Catalog.contains, hget])).1
    split
    · exact .inr hstem
    · exact .inr (isNormal_append.2 ⟨isNormal_append.2 ⟨hstem, by decide⟩, he.kind_normal⟩)
  · exact he.stem_normal

/-! ## One step -/

/-- **What an unmistakable entry is stored under.** Its own name where that
is free, or else an alternate, and the count of the alternates says which. -/
theorem Orderly.storedName?_cases (hc : Orderly c) (he : IsUnmistakable e)
    (hkey : storedName? c e = some key) : (IsNormal key ∧ key ≠ "") ∧
    ((key = ownName c (stem e.1) e.2.kind ∧ c.contains key = false) ∨
      (key = ownName c (stem e.1) e.2.kind ++ "_alt" ∧
        alternates c (ownName c (stem e.1) e.2.kind) = 0) ∨
      (key = ownName c (stem e.1) e.2.kind ++ "_alt2" ∧
        alternates c (ownName c (stem e.1) e.2.kind) = 1)) := by
  obtain ⟨name, hname, hnormal⟩ := Option.bind_eq_some_iff.1 hkey
  have hcases := freeName?_cases hname
  have hown := hc.ownName_normal he
  generalize ownName c (stem e.1) e.2.kind = own at hcases hown ⊢
  have hkept : IsNormal name := by
    rcases hcases with ⟨rfl, -⟩ | ⟨hmem, ⟨rfl, -⟩ | ⟨rfl, -⟩⟩
    · rcases hown with hnone | hown
      · rw [hnone] at hnormal
        cases hnormal
      · exact hown
    · exact isNormal_append.2 ⟨(hc.normal own hmem).1, by decide⟩
    · exact isNormal_append.2 ⟨(hc.normal own hmem).1, by decide⟩
  have hne := ne_empty_of_normalName? hnormal
  obtain rfl : name = key := Option.some.inj ((normalName?_of_isNormal hkept hne).symm.trans hnormal)
  refine ⟨⟨hkept, hne⟩, ?_⟩
  rcases hcases with ⟨rfl, hfree⟩ | ⟨-, h | h⟩
  · exact .inl ⟨rfl, hfree⟩
  · exact .inr (.inl h)
  · exact .inr (.inr h)

theorem marked_secondAlternate (own : String) : secondMark <:+ (own ++ "_alt2").toList := by
  rw [String.toList_append]
  exact List.suffix_append _ _

/-- The mark tells the two alternates apart. -/
theorem not_marked_firstAlternate (own : String) : ¬ secondMark <:+ (own ++ "_alt").toList := by
  intro h
  have hlast := List.IsSuffix.getLast h (by simp [secondMark])
  simp [secondMark] at hlast

/-- **A step takes a free name and keeps the order.** -/
theorem Orderly.insert (hc : Orderly c) (he : IsUnmistakable e)
    (hkey : storedName? c e = some key) :
    c.contains key = false ∧ Orderly (c.insert key e.2) := by
  obtain ⟨hnormal, hcases⟩ := hc.storedName?_cases he hkey
  have hunmarked := he.ownName_unmarked c
  generalize ownName c (stem e.1) e.2.kind = own at hcases hunmarked
  have hfree : c.contains key = false := by
    refine Bool.eq_false_iff.2 fun hmem => ?_
    rcases hcases with ⟨-, hfree⟩ | ⟨rfl, hnone⟩ | ⟨rfl, hone⟩
    · rw [hfree] at hmem
      cases hmem
    · -- a first alternate that is there would have been counted
      have hpos : 0 < alternates c own := alternates_pos (t := "") (by simpa using hmem)
      omega
    · -- a second one that is there does not come alone
      have hbacked := hc.backed own hmem
      omega
  refine ⟨hfree, fun other hother => ?_, fun other hother => ?_⟩
  · rw [Catalog.contains_insert, Bool.or_eq_true, decide_eq_true_eq] at hother
    rcases hother with rfl | hother
    · exact hnormal
    · exact hc.normal other hother
  · rw [alternates_insert hfree]
    rw [Catalog.contains_insert, Bool.or_eq_true, decide_eq_true_eq] at hother
    rcases hother with hsame | hother
    · -- a new second alternate is given away as such, and then it is not alone
      have hmarked : secondMark <:+ key.toList := hsame ▸ marked_secondAlternate other
      rcases hcases with ⟨rfl, -⟩ | ⟨rfl, -⟩ | ⟨rfl, hone⟩
      · exact absurd hmarked hunmarked
      · exact absurd hmarked (not_marked_firstAlternate own)
      · obtain rfl : other = own := String.append_left_inj _ |>.1 hsame
        have hbegins : (other ++ "_alt").toList <+: (other ++ "_alt2").toList := by
          simp only [String.toList_append, List.prefix_append_right_inj]
          decide
        rw [hone, if_pos hbegins]
    · exact Nat.le_add_right_of_le (hc.backed other hother)

/-! ## Whole runs -/

theorem Orderly.empty : Orderly .empty where
  normal _ h := by cases h
  backed _ h := by cases h

theorem Orderly.store (hc : Orderly c) (he : IsUnmistakable e) : Orderly (store c e) := by
  cases hkey : storedName? c e with
  | none => rwa [store_of_none hkey]
  | some key =>
    rw [store_of_some hkey]
    exact (hc.insert he hkey).2

theorem Orderly.foldl (hc : Orderly c) (hl : ∀ e ∈ l, IsUnmistakable e) :
    Orderly (l.foldl Stream.store c) := by
  induction l generalizing c with
  | nil => exact hc
  | cons e l ih =>
    obtain ⟨he, hl⟩ := List.forall_mem_cons.1 hl
    exact ih (hc.store he) hl

/-- The storings that a list of entries comes to, in their order: the name and the stream of each. -/
def storings (c : Catalog) : Offers → List (String × Handle)
  | [] => []
  | e :: l => ((storedName? c e).map (·, e.2)).toList ++ storings (store c e) l

/-- Every storing adds an entry, and no entry is lost. -/
theorem Orderly.entries_foldl_perm (hc : Orderly c) (hl : ∀ e ∈ l, IsUnmistakable e) :
    (l.foldl Stream.store c).entries.Perm (storings c l ++ c.entries) := by
  induction l generalizing c with
  | nil => exact .refl _
  | cons e l ih =>
    obtain ⟨he, hl⟩ := List.forall_mem_cons.1 hl
    have hrest := ih (hc.store he) hl
    rw [List.foldl_cons, storings]
    cases hkey : storedName? c e with
    | none =>
      rw [store_of_none hkey] at hrest ⊢
      exact hrest
    | some key =>
      rw [store_of_some hkey] at hrest ⊢
      have hnew := c.entries_insert_perm (hc.insert he hkey).1 e.2
      exact hrest.trans ((hnew.append_left _).trans List.perm_middle)

/-- What is in the catalog stays there. -/
theorem Orderly.get?_foldl (hc : Orderly c) (hl : ∀ e ∈ l, IsUnmistakable e) {h : Handle}
    (hget : c.get? key = some h) : (l.foldl Stream.store c).get? key = some h := by
  rw [Catalog.get?_eq_some_iff] at hget ⊢
  exact (hc.entries_foldl_perm hl).mem_iff.2 (List.mem_append_right _ hget)

/-- **Merging displaces no stream**, as long as the wanted entries are
unmistakable. Every entry that is stored takes a name that was free; what
a name stands for at some time it stands for in the end; and the result
has just as many entries as were stored, and the same. -/
theorem merge_displaces_nothing (offers : Offers) (kinds : Option (List String))
    (h : ∀ e ∈ wanted offers kinds, IsUnmistakable e) :
    (∀ before e after key, mergeOrder offers kinds = before ++ e :: after →
      storedName? (mergedSoFar before) e = some key → (mergedSoFar before).get? key = none) ∧
    (∀ before after key handle, mergeOrder offers kinds = before ++ after →
      (mergedSoFar before).get? key = some handle →
      (merge offers kinds).get? key = some handle) ∧
    (merge offers kinds).entries.Perm (storings .empty (mergeOrder offers kinds)) := by
  have hall : ∀ e ∈ mergeOrder offers kinds, IsUnmistakable e :=
    fun e he => h e (mem_mergeOrder.1 he)
  have hbefore : ∀ before after, mergeOrder offers kinds = before ++ after →
      Orderly (mergedSoFar before) ∧ ∀ e ∈ after, IsUnmistakable e := by
    intro before after heq
    rw [heq] at hall
    obtain ⟨hbefore, hafter⟩ := List.forall_mem_append.1 hall
    rw [mergedSoFar_eq_foldl]
    exact ⟨Orderly.empty.foldl hbefore, hafter⟩
  refine ⟨fun before e after key heq hkey => ?_, fun before after key handle heq hget => ?_, ?_⟩
  · obtain ⟨hc, hafter⟩ := hbefore before (e :: after) heq
    have hfree := (hc.insert (hafter e List.mem_cons_self) hkey).1
    simpa [Catalog.contains] using hfree
  · obtain ⟨hc, hafter⟩ := hbefore before after heq
    have hlater := hc.get?_foldl hafter hget
    rwa [mergedSoFar_eq_foldl, ← List.foldl_append, ← heq, ← merge_eq_foldl] at hlater
  · rw [merge_eq_foldl, ← List.append_nil (storings _ _)]
    exact Orderly.empty.entries_foldl_perm hall

/-- Five streams of a crowd are stored, and all five are there in the end. -/
theorem crowd_displaces_nothing : (∀ e ∈ wanted crowd none, IsUnmistakable e) ∧
    (merge crowd none).entries.Perm (storings .empty (mergeOrder crowd none)) ∧
      (storings .empty (mergeOrder crowd none)).length = 5 :=
  have hall : ∀ e ∈ wanted crowd none, IsUnmistakable e := by decide
  ⟨hall, (merge_displaces_nothing crowd none hall).2.2, by rw [mergeOrder_crowd]; decide⟩

/-- Two names that differ in capitals only. -/
def spellings : Offers := [("vod", ⟨"http", none, 0⟩), ("VOD", ⟨"http", none, 1⟩)]

/-- **A name with capitals displaces the same name without.** The second
stream asks for a free name and is stored under the name of the first; two
are stored, and one is left. -/
theorem capital_displaces :
    mergeOrder spellings none = [("vod", ⟨"http", none, 0⟩)] ++ [("VOD", ⟨"http", none, 1⟩)] ∧
      storedName? (mergedSoFar [("vod", ⟨"http", none, 0⟩)]) ("VOD", ⟨"http", none, 1⟩) =
        some "vod" ∧
      (mergedSoFar [("vod", ⟨"http", none, 0⟩)]).get? "vod" = some ⟨"http", none, 0⟩ ∧
      (merge spellings none).get? "vod" = some ⟨"http", none, 1⟩ ∧
      (storings .empty (mergeOrder spellings none)).length = 2 ∧
      (merge spellings none).entries.length = 1 := by
  have horder : mergeOrder spellings none = spellings := by cbv
  rw [merge_eq_mergedSoFar, horder]
  decide

-- The other way: a lone name that looks like a second alternate counts as the first one.
example : (merge [("a", ⟨"http", none, 0⟩), ("a_alt2", ⟨"http", none, 1⟩),
    ("a", ⟨"http", none, 2⟩)] none).get? "a_alt2" = some ⟨"http", none, 2⟩ := by
  cbv

end StreamFinder.Stream
