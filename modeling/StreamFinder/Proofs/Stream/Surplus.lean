import Mathlib.Data.List.Perm.Subperm
import StreamFinder.Proofs.Stream.Provenance
/-!
# When a stream is surplus

An own name has two alternates, and a stream that finds its own name and
both of them taken is left out. Merging does not look the alternates up;
it counts the names that begin like one (`isSurplus_iff`). A name that an
offer brings along can begin like that too, `vod_alternative` like the
alternates of `vod`, and then it uses up a place that it does not take
(`lookalikes_crowd_out`).

This is the only way in which the count goes wrong. An own name does not
come to begin like an alternate of another one by being marked as an
alternate itself (`begins_of_begins_marked`), so a name that counts and is
neither of the two alternates is traced to an earlier offer whose own
name, as it is stored, begins like one (`exists_resembling`).
-/

namespace StreamFinder.Stream

open Quality

variable {c : Catalog} {e x : String × Handle} {own key : String} {l : Offers}

/-! ## The count -/

/-- No name is given to the entry, because its own name and as many
alternates as are kept are held to be taken. -/
def IsSurplus (c : Catalog) (e : String × Handle) : Prop := freeName? c (stem e.1) e.2.kind = none

instance (c : Catalog) : DecidablePred (IsSurplus c) := fun e =>
  inferInstanceAs (Decidable (freeName? c (stem e.1) e.2.kind = none))

/-- Both alternates of the own name are stored. -/
def HasBothAlternates (c : Catalog) (own : String) : Prop :=
  c.contains (own ++ "_alt") = true ∧ c.contains (own ++ "_alt2") = true

instance (c : Catalog) : DecidablePred (HasBothAlternates c) := fun _ =>
  inferInstanceAs (Decidable (_ ∧ _))

/-- **An entry is surplus by the count of the names that begin like an alternate.** -/
theorem isSurplus_iff : IsSurplus c e ↔ c.contains (ownName c (stem e.1) e.2.kind) = true ∧
    maxAlternates ≤ alternates c (ownName c (stem e.1) e.2.kind) := by
  rw [IsSurplus, freeName?_eq, List.getElem?_eq_none_iff]
  generalize ownName c (stem e.1) e.2.kind = own
  unfold takenPlaces maxAlternates
  split <;> simp [placesOf, *]

theorem nodup_alternates (own : String) : [own ++ "_alt", own ++ "_alt2"].Nodup :=
  (nodup_placesOf own).of_cons

/-- Both alternates count, where they are stored. -/
theorem HasBothAlternates.two_le (h : HasBothAlternates c own) :
    maxAlternates ≤ alternates c own := by
  have hbegins :
      ∀ key ∈ [own ++ "_alt", own ++ "_alt2"], (own ++ "_alt").toList <+: key.toList := by
    simp
  refine (List.subperm_of_subset (nodup_alternates own) fun key hkey => ?_).length_le
  refine mem_namesBeginning.2 ⟨?_, hbegins key hkey⟩
  simp only [List.mem_cons, List.not_mem_nil, or_false] at hkey
  rcases hkey with rfl | rfl
  · exact h.1
  · exact h.2

/-- **A count of two without both alternates** counts some other name. -/
theorem exists_other (hcount : maxAlternates ≤ alternates c own) (h : ¬ HasBothAlternates c own) :
    ∃ key, c.contains key = true ∧ (own ++ "_alt").toList <+: key.toList ∧
      key ≠ own ++ "_alt" ∧ key ≠ own ++ "_alt2" := by
  by_contra hnone
  have hsubset : namesBeginning c (own ++ "_alt") ⊆ [own ++ "_alt", own ++ "_alt2"] := by
    intro key hkey
    obtain ⟨hmem, hbegins⟩ := mem_namesBeginning.1 hkey
    by_contra hother
    simp only [List.mem_cons, List.not_mem_nil, or_false, not_or] at hother
    exact hnone ⟨key, hmem, hbegins, hother⟩
  have hnodup : (namesBeginning c (own ++ "_alt")).Nodup := c.nodup_names.filter _
  have hperm := (List.subperm_of_subset hnodup hsubset).perm_of_length_le hcount
  exact h ⟨(mem_namesBeginning.1 (hperm.mem_iff.2 (by simp))).1,
    (mem_namesBeginning.1 (hperm.mem_iff.2 (by simp))).1⟩

/-! ## Names that begin like an alternate -/

/-- A name that is marked as an alternate only begins like an alternate of
another name if it does so without the mark. -/
theorem begins_of_begins_marked {own other mark : List Char} (hmark : mark <+: "_alt2".toList)
    (h : own ++ "_alt".toList <+: other ++ mark) :
    own ++ "_alt".toList <+: other ∨ own = other := by
  rcases List.prefix_or_prefix_of_prefix h (List.prefix_append other mark) with hin | ⟨t, ht⟩
  · exact .inl hin
  · -- what of the alternate lies behind the other name is a beginning of the mark
    have ht' : t <+: ['_', 'a', 'l', 't', '2'] := by
      rw [← ht, List.prefix_append_right_inj] at h
      exact h.trans hmark
    -- and the alternate ends in that letter
    have hlast : ∀ a, t.getLast? = some a → a = 't' := fun a ha => by
      have hends := congrArg List.getLast? ht
      simp only [List.getLast?_append, ha] at hends
      simpa using hends
    simp only [List.prefix_cons_iff, List.prefix_nil] at ht'
    rcases ht' with
      rfl | ⟨_, rfl, rfl | ⟨_, rfl, rfl | ⟨_, rfl, rfl | ⟨_, rfl, rfl | ⟨_, rfl, rfl⟩⟩⟩⟩⟩
    · rw [List.append_nil] at ht
      exact .inl (ht ▸ List.prefix_rfl)
    · exact absurd (hlast _ rfl) (by decide)
    · exact absurd (hlast _ rfl) (by decide)
    · exact absurd (hlast _ rfl) (by decide)
    · exact .inr (List.append_cancel_right ht).symm
    · exact absurd (hlast _ rfl) (by decide)

/-- The entry has a name that begins, as it is stored, like an alternate of
the own name: the offered name, or that with its kind behind it. -/
def Resembles (own : String) (x : String × Handle) : Prop :=
  ∃ name ∈ [stem x.1, stem x.1 ++ "_" ++ x.2.kind], ∃ key ∈ normalName? name,
    (own ++ "_alt").toList <+: key.toList

instance (own : String) : DecidablePred (Resembles own) := fun x =>
  inferInstanceAs (Decidable (∃ name ∈ [stem x.1, stem x.1 ++ "_" ++ x.2.kind],
    ∃ key ∈ normalName? name, (own ++ "_alt").toList <+: key.toList))

theorem ownName_mem (c : Catalog) (name kind : String) :
    ownName c name kind ∈ [name, name ++ "_" ++ kind] := by
  unfold ownName
  split
  · split <;> simp
  · simp

/-- **What counts as an alternate without being one of the two** is stored
for an entry whose own name begins like an alternate. -/
theorem resembles_of_storedName? (hstored : storedName? (mergedSoFar l) x = some key)
    (hbegins : (own ++ "_alt").toList <+: key.toList) (hfirst : key ≠ own ++ "_alt")
    (hsecond : key ≠ own ++ "_alt2") : Resembles own x := by
  obtain ⟨name, hname, hnormal⟩ := Option.bind_eq_some_iff.1 hstored
  have hmem := ownName_mem (mergedSoFar l) (stem x.1) x.2.kind
  have hcases := freeName?_cases hname
  generalize ownName (mergedSoFar l) (stem x.1) x.2.kind = other at hmem hcases
  rcases hcases with ⟨rfl, -⟩ | ⟨htaken, hmarked⟩
  · exact ⟨name, hmem, key, hnormal, hbegins⟩
  · -- a name that is taken is in normal form, and so are its alternates
    obtain ⟨hother, hne⟩ := isNormal_of_contains htaken
    obtain ⟨mark, hmark, hkept, rfl, hdiffers⟩ : ∃ mark : String,
        mark.toList <+: "_alt2".toList ∧ IsNormal mark ∧ name = other ++ mark ∧
          key ≠ own ++ mark := by
      rcases hmarked with ⟨rfl, -⟩ | ⟨rfl, -⟩
      · exact ⟨"_alt", by decide, by decide, rfl, hfirst⟩
      · exact ⟨"_alt2", by decide, by decide, rfl, hsecond⟩
    rw [normalName?_of_isNormal (isNormal_append.2 ⟨hother, hkept⟩) (by simp [hne])] at hnormal
    obtain rfl := Option.some.inj hnormal
    simp only [String.toList_append] at hbegins
    rcases begins_of_begins_marked hmark hbegins with hin | heq
    · exact ⟨other, hmem, other, normalName?_of_isNormal hother hne, by simpa using hin⟩
    · exact absurd (String.toList_inj.1 heq ▸ rfl) hdiffers

/-- The entry is one of those that have been merged. -/
theorem exists_resembling (hcount : maxAlternates ≤ alternates (mergedSoFar l) own)
    (h : ¬ HasBothAlternates (mergedSoFar l) own) : ∃ x ∈ l, Resembles own x := by
  obtain ⟨key, hkey, hbegins, hfirst, hsecond⟩ := exists_other hcount h
  obtain ⟨handle, hget⟩ := Option.isSome_iff_exists.1 hkey
  obtain ⟨i, ⟨⟨x, hx, hstored⟩, -⟩, -⟩ := get?_mergedSoFar.1 hget
  exact ⟨x, List.mem_of_getElem? hx, resembles_of_storedName? hstored hbegins hfirst hsecond⟩

/-! ## Leaving out -/

/-- Whatever name is given, it begins with the offered one. -/
theorem prefix_of_freeName? {name kind s : String} (h : freeName? c name kind = some s) :
    name.toList <+: s.toList := by
  have hown : name.toList <+: (ownName c name kind).toList := by
    rcases List.mem_cons.1 (ownName_mem c name kind) with heq | hmem
    · simp [heq]
    · rw [List.mem_singleton.1 hmem, String.append_assoc, String.toList_append]
      exact List.prefix_append _ _
  rcases freeName?_cases h with ⟨rfl, -⟩ | ⟨-, ⟨rfl, -⟩ | ⟨rfl, -⟩⟩
  · exact hown
  · exact hown.trans (by simp)
  · exact hown.trans (by simp)

/-- An entry with a name is stored unless it is surplus. -/
theorem storedName?_eq_none_iff (hnamed : (stem e.1).toList.takeWhile isNameChar ≠ []) :
    storedName? c e = none ↔ IsSurplus c e := by
  cases hfree : freeName? c (stem e.1) e.2.kind with
  | none => simp [storedName?, IsSurplus, hfree]
  | some name =>
    have hname : normalName? name ≠ none := by
      obtain ⟨t, ht⟩ := prefix_of_freeName? hfree
      rw [Ne, normalName?_eq_none_iff, ← ht, List.takeWhile_append]
      split
      · exact fun hnil => hnamed (by rw [(List.append_eq_nil_iff.1 hnil).1]; rfl)
      · exact hnamed
    simp [storedName?, IsSurplus, hfree, hname]

/-- **A stream that has a name is left out when two names count as
alternates.** It is, if its own name and both alternates are stored. If it
is left out without that, an earlier offer has a name that begins, as it
is stored, like an alternate; and as long as no wanted offer has such a
name, only true surplus is left out. -/
theorem left_out_when_two_count (offers : Offers) (kinds : Option (List String))
    (before after : Offers) (e : String × Handle)
    (hsplit : mergeOrder offers kinds = before ++ e :: after)
    (hnamed : (stem e.1).toList.takeWhile isNameChar ≠ []) :
    let c := mergedSoFar before
    let own := ownName c (stem e.1) e.2.kind
    (storedName? c e = none ↔ IsSurplus c e) ∧
    (IsSurplus c e ↔
      c.contains own = true ∧ 2 ≤ (namesBeginning c (own ++ "_alt")).length) ∧
    (c.contains own = true → HasBothAlternates c own → IsSurplus c e) ∧
    (IsSurplus c e → HasBothAlternates c own ∨ ∃ x ∈ before, Resembles own x) ∧
    ((∀ x ∈ wanted offers kinds, ¬ Resembles own x) →
      (IsSurplus c e ↔ c.contains own = true ∧ HasBothAlternates c own)) := by
  intro c own
  have hall : c.contains own = true → HasBothAlternates c own → IsSurplus c e :=
    fun hown hboth => isSurplus_iff.2 ⟨hown, hboth.two_le⟩
  have hcause : IsSurplus c e → HasBothAlternates c own ∨ ∃ x ∈ before, Resembles own x :=
    fun h => or_iff_not_imp_left.2 (exists_resembling (isSurplus_iff.1 h).2)
  refine ⟨storedName?_eq_none_iff hnamed, isSurplus_iff, hall, hcause, fun hnone => ⟨fun h => ?_,
    fun h => hall h.1 h.2⟩⟩
  rcases hcause h with hboth | ⟨x, hx, hresembles⟩
  · exact ⟨(isSurplus_iff.1 h).1, hboth⟩
  · have hwanted : x ∈ wanted offers kinds :=
      mem_mergeOrder.1 (hsplit ▸ List.mem_append_left _ hx)
    exact absurd hresembles (hnone x hwanted)

/-- Two names that begin like alternates of a third, which is offered twice. -/
def lookalikes : Offers :=
  [("vod", ⟨"http", none, 0⟩), ("vod_alternative", ⟨"http", none, 1⟩),
    ("vod_altitude", ⟨"http", none, 2⟩), ("vod", ⟨"http", none, 3⟩)]

/-- The lookalikes have one transport. -/
theorem mergeOrder_lookalikes : mergeOrder lookalikes none = lookalikes := by
  cbv

/-- In a crowd the sixth stream is true surplus, for nothing resembles an
alternate of its own name; among lookalikes the fourth is left out, and
one of those before it does. -/
theorem crowd_and_lookalikes_leave_out :
    let crowded : Offers := [("vod", ⟨"rtmp", none, 3⟩), ("live", ⟨"hls", none, 1⟩),
      ("vod", ⟨"http", none, 0⟩), ("vod_alt", ⟨"http", none, 2⟩), ("vod", ⟨"http", none, 4⟩)]
    (mergeOrder crowd none = crowded ++ ("vod", ⟨"http", none, 5⟩) :: [] ∧
      (stem "vod").toList.takeWhile isNameChar ≠ [] ∧
      (∀ x ∈ wanted crowd none, ¬ Resembles "vod_http" x) ∧
      IsSurplus (mergedSoFar crowded) ("vod", ⟨"http", none, 5⟩) ∧
      HasBothAlternates (mergedSoFar crowded) "vod_http") ∧
    (mergeOrder lookalikes none = lookalikes.take 3 ++ ("vod", ⟨"http", none, 3⟩) :: [] ∧
      storedName? (mergedSoFar (lookalikes.take 3)) ("vod", ⟨"http", none, 3⟩) = none ∧
      ¬ HasBothAlternates (mergedSoFar (lookalikes.take 3)) "vod" ∧
      ∃ x ∈ lookalikes.take 3, Resembles "vod" x) := by
  intro crowded
  have hcrowd : mergeOrder crowd none = crowded ++ ("vod", ⟨"http", none, 5⟩) :: [] :=
    mergeOrder_crowd
  have hnamed : (stem "vod").toList.takeWhile isNameChar ≠ [] := by decide
  have hnone : ∀ x ∈ wanted crowd none, ¬ Resembles "vod_http" x := by decide
  have hsurplus : IsSurplus (mergedSoFar crowded) ("vod", ⟨"http", none, 5⟩) := by decide
  have hlookalikes :
      mergeOrder lookalikes none = lookalikes.take 3 ++ ("vod", ⟨"http", none, 3⟩) :: [] :=
    mergeOrder_lookalikes
  have hsurplus' : IsSurplus (mergedSoFar (lookalikes.take 3)) ("vod", ⟨"http", none, 3⟩) := by
    decide
  have hmissing : ¬ HasBothAlternates (mergedSoFar (lookalikes.take 3)) "vod" := by decide
  obtain ⟨-, -, -, -, htrue⟩ := left_out_when_two_count crowd none _ _ _ hcrowd hnamed
  obtain ⟨hleft, -, -, hcause, -⟩ :=
    left_out_when_two_count lookalikes none _ _ _ hlookalikes hnamed
  exact ⟨⟨hcrowd, hnamed, hnone, hsurplus, ((htrue hnone).1 hsurplus).2⟩,
    hlookalikes, hleft.2 hsurplus', hmissing, (hcause hsurplus').resolve_left hmissing⟩

/-- **Lookalikes crowd a stream out.** The second stream of a name is left
out, though neither alternate of the name is stored. -/
theorem lookalikes_crowd_out :
    mergeOrder lookalikes none = lookalikes.take 3 ++ [("vod", ⟨"http", none, 3⟩)] ∧
      (stem "vod").toList.takeWhile isNameChar ≠ [] ∧
      IsSurplus (mergedSoFar (lookalikes.take 3)) ("vod", ⟨"http", none, 3⟩) ∧
      ownName (mergedSoFar (lookalikes.take 3)) (stem "vod") "http" = "vod" ∧
      (mergedSoFar (lookalikes.take 3)).contains "vod_alt" = false ∧
      (mergedSoFar (lookalikes.take 3)).contains "vod_alt2" = false ∧
      (merge lookalikes none).entries = [("vod", ⟨"http", none, 0⟩),
        ("vod_alternative", ⟨"http", none, 1⟩), ("vod_altitude", ⟨"http", none, 2⟩)] := by
  rw [merge_eq_mergedSoFar, mergeOrder_lookalikes]
  decide

end StreamFinder.Stream
