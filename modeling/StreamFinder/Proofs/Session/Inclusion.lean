import StreamFinder.Proofs.Session.Recency
/-!
# What more room is worth

Two caches of different sizes that get the same calls drift apart: a
look-up that only the larger one answers moves an entry there and leaves
the smaller one as it is, so neither holds the front of the other. But the
entries of the smaller one stay among those of the larger one, in the same
order (`Within.entries`), and until the smaller one is full the two hold the
same (`Within.roomy`). So more room never costs an answer.
-/

namespace StreamFinder.Session.Cache

/-! ## Cutting two lists -/

/-- If one list lies within another and at least as many are cut off its
end, what is left lies within what is left. -/
theorem take_sublist_take {α : Type} {xs ys : List α} {m n : ℕ} (h : xs.Sublist ys)
    (hcut : ys.length + m ≤ xs.length + n) : (xs.take m).Sublist (ys.take n) := by
  have hdropped : ys.length - n ≤ xs.length - m := by omega
  rw [← List.reverse_sublist, List.reverse_take, List.reverse_take]
  exact (h.reverse.drop _).trans (List.drop_sublist_drop_left _ hdropped)

variable {K V : Type} [DecidableEq K] {key : K} {value : V} {entries : List (K × V)}

/-! ## Entries of distinct keys -/

theorem without_of_notMem (h : key ∉ entries.map (·.1)) : without key entries = entries := by
  refine List.filter_eq_self.2 fun e he => decide_eq_true fun hkey => h ?_
  exact hkey ▸ List.mem_map_of_mem he

/-- Leaving out a key that is there leaves one entry less. -/
theorem length_without_of_mem (hnodup : (entries.map (·.1)).Nodup)
    (h : key ∈ entries.map (·.1)) : (without key entries).length + 1 = entries.length := by
  have hkeys : (without key entries).map (·.1) = (entries.map (·.1)).erase key := by
    rw [map_fst_without, hnodup.erase_eq_filter]
    rfl
  have hlength := congrArg List.length hkeys
  rw [List.length_map, List.length_erase_of_mem h, List.length_map] at hlength
  have hpos : 0 < (entries.map (·.1)).length := List.length_pos_of_mem h
  rw [List.length_map] at hpos
  omega

/-- Leaving out a key leaves at most one entry less. -/
theorem length_le_length_without (hnodup : (entries.map (·.1)).Nodup) (key : K) :
    entries.length ≤ (without key entries).length + 1 := by
  by_cases hk : key ∈ entries.map (·.1)
  · exact (length_without_of_mem hnodup hk).ge
  · rw [without_of_notMem hk]
    exact Nat.le_succ _

/-- Where there is room for one more entry, nothing is evicted. -/
theorem entries_insert_of_room {c : Cache K V} (h : (without key c.entries).length < c.capacity) :
    (c.insert key value).entries = (key, value) :: without key c.entries :=
  List.take_of_length_le h

/-- An entry is found if no other has its key. -/
theorem get_of_mem {c : Cache K V} (hnodup : (c.entries.map (·.1)).Nodup)
    (h : (key, value) ∈ c.entries) : (c.get key).1 = some value := by
  obtain ⟨newer, older, hc⟩ := List.append_of_mem h
  rw [get_fst, List.lookup_eq_some_iff]
  refine ⟨newer, older, hc, fun e he => ?_⟩
  rw [hc, List.map_append, List.map_cons] at hnodup
  have hnotMem := (List.nodup_middle.1 hnodup).notMem
  rw [List.mem_append, not_or] at hnotMem
  have hmem : e.1 ∈ newer.map (·.1) := List.mem_map_of_mem he
  exact bne_iff_ne.2 fun hkey => hnotMem.1 (hkey ▸ hmem)

variable {c small large : Cache K V} {recent recent' : List (Deed K V)}

theorem Ranked.nodup (h : Ranked c recent) : (c.entries.map (·.1)).Nodup := by
  rw [h.keys]
  exact (nodup_eraseDups _).sublist (List.take_sublist _ _)

/-! ## One cache within another -/

/-- How a cache goes with one that has more room and gets the same calls. -/
structure Within (small large : Cache K V) : Prop where
  capacity : small.capacity ≤ large.capacity
  entries : small.entries.Sublist large.entries
  /-- They part only when the smaller one has to evict. -/
  roomy : small.entries.length < small.capacity → small.entries = large.entries
  hits : small.hits ≤ large.hits

namespace Within

omit [DecidableEq K] in
theorem empty {c d : ℕ} (h : c ≤ d) : Within (empty c : Cache K V) (empty d) where
  capacity := h
  entries := List.Sublist.refl _
  roomy _ := rfl
  hits := Nat.le_refl _

/-- **What the smaller cache answers, the larger one answers too.** -/
theorem answer (h : Within small large) (hl : Ranked large recent')
    (hg : (small.get key).1 = some value) : (large.get key).1 = some value :=
  get_of_mem hl.nodup (h.entries.subset (mem_entries_of_get hg))

/-- Before anything is evicted, the smaller cache loses at least as many
entries as the larger one is about to lose. -/
theorem length_without_add_le (h : Within small large) (hs : Ranked small recent)
    (hl : Ranked large recent') (key : K) :
    (without key large.entries).length + small.capacity ≤
      (without key small.entries).length + large.capacity := by
  have hcapacity := h.capacity
  have hfits : small.entries.length ≤ small.capacity := hs.fits
  have hfits' : large.entries.length ≤ large.capacity := hl.fits
  have hle : (without key large.entries).length ≤ large.entries.length := List.length_filter_le ..
  rcases Nat.lt_or_ge small.entries.length small.capacity with hroom | hfull
  · rw [h.roomy hroom]
    omega
  · by_cases hk : key ∈ small.entries.map (·.1)
    · -- the key is in both, and neither is about to lose one
      have hk' : key ∈ large.entries.map (·.1) := (h.entries.map _).subset hk
      have hlength := length_without_of_mem hs.nodup hk
      have hlength' := length_without_of_mem hl.nodup hk'
      omega
    · rw [without_of_notMem hk]
      omega

/-- **Storing keeps the smaller cache within the larger one**, whichever of
them evicts. -/
theorem insert (h : Within small large) (hs : Ranked small recent) (hl : Ranked large recent')
    (key : K) (value : V) : Within (small.insert key value) (large.insert key value) where
  capacity := h.capacity
  entries := by
    have hwithout : (without key small.entries).Sublist (without key large.entries) :=
      h.entries.filter _
    refine take_sublist_take (hwithout.cons_cons (key, value)) ?_
    have hlength := h.length_without_add_le hs hl key
    simp only [List.length_cons]
    omega
  roomy hroom := by
    have hcapacity := h.capacity
    -- the new entry has not used up the room, so there was room before
    have hnew : (without key small.entries).length + 1 < small.capacity := by
      have hlength : (small.insert key value).entries.length =
          min small.capacity ((without key small.entries).length + 1) := List.length_take ..
      have hroom' : (small.insert key value).entries.length < small.capacity := hroom
      omega
    have hold := length_le_length_without hs.nodup key
    have hsame : small.entries = large.entries := h.roomy (by omega)
    rw [entries_insert_of_room (by omega), entries_insert_of_room (by rw [← hsame]; omega), hsame]
  hits := h.hits

/-- **Looking up keeps the smaller cache within the larger one**, though a
key that only the larger one holds is moved there and not here. -/
theorem get (h : Within small large) (hs : Ranked small recent) (hl : Ranked large recent')
    (key : K) : Within (small.get key).2 (large.get key).2 := by
  have hcapacity : (small.get key).2.capacity ≤ (large.get key).2.capacity := by
    rw [capacity_get, capacity_get]
    exact h.capacity
  cases hg : (small.get key).1 with
  | some value =>
    -- both use the key, as if its value were stored again
    have hg' := h.answer hl hg
    have hstored := h.insert hs hl key value
    refine ⟨hcapacity, ?_, fun hroom => ?_, ?_⟩
    · rw [hs.entries_get hg, hl.entries_get hg']
      exact hstored.entries
    · rw [hs.entries_get hg, hl.entries_get hg']
      rw [hs.entries_get hg, capacity_get] at hroom
      exact hstored.roomy hroom
    · rw [get_of_eq_some hg, get_of_eq_some hg']
      exact Nat.succ_le_succ h.hits
  | none =>
    cases hg' : (large.get key).1 with
    | none =>
      rw [get_of_eq_none hg, get_of_eq_none hg']
      exact ⟨h.capacity, h.entries, h.roomy, h.hits⟩
    | some value =>
      -- the smaller one does not hold the key, so moving it there changes nothing here
      have hk : key ∉ small.entries.map (·.1) := fun hmem => by
        have hsome := isSome_get_iff.2 hmem
        rw [hg] at hsome
        cases hsome
      have hk' : key ∈ large.entries.map (·.1) := isSome_get_iff.1 (hg' ▸ rfl)
      rw [get_of_eq_none hg, get_of_eq_some hg']
      refine ⟨h.capacity, ?_, fun hroom => ?_, Nat.le_succ_of_le h.hits⟩
      · have hwithout : (without key small.entries).Sublist (without key large.entries) :=
          h.entries.filter _
        rw [without_of_notMem hk] at hwithout
        exact hwithout.cons _
      · exact absurd (h.roomy hroom ▸ hk') hk

/-- **Every call keeps the smaller cache within the larger one.** -/
theorem next (h : Within small large) (hs : Ranked small recent) (hl : Ranked large recent')
    (a : Call K V) : Within (small.next a).1 (large.next a).1 := by
  cases a with
  | get key => exact h.get hs hl key
  | insert key value => exact h.insert hs hl key value
  | clear => exact .empty h.capacity

end Within

theorem within_play {c d : ℕ} (h : c ≤ d) (calls : List (Call K V)) :
    Within (play c calls).1 (play d calls).1 := by
  induction calls with
  | nil => exact .empty h
  | cons a earlier ih => exact ih.next (ranked_play c earlier) (ranked_play d earlier) a

/-- **More room never costs an answer.** Of two caches of decisions that
have got the same calls, the one with more room holds all that the other
one holds, with the same decisions and in the same order; so it answers
each look-up that the other one answers, in the same way, and has counted
at least as many hits. -/
theorem more_room_answers_more {P : Type} {c d : ℕ} (h : c ≤ d)
    (calls : List (Call CacheKey (Decision P))) :
    let small := (play c calls).1
    let large := (play d calls).1
    (∀ key decision, (key, decision) ∈ small.entries → (key, decision) ∈ large.entries) ∧
    (small.entries.map (·.1)).Sublist (large.entries.map (·.1)) ∧
    (∀ key decision, (small.get key).1 = some decision → (large.get key).1 = some decision) ∧
    small.info.hits ≤ large.info.hits := by
  intro small large
  have hwithin : Within small large := within_play h calls
  have hranked := ranked_play d calls
  exact ⟨fun key decision hmem => hwithin.entries.subset hmem, hwithin.entries.map _,
    fun key decision hg => hwithin.answer hranked hg, hwithin.hits⟩

/-- With room for one key and for two, after two keys were stored and the
older one was looked up: the key in front of the larger cache is not in the
smaller one, and what the smaller one answers the larger one still answers. -/
theorem moved_key_hides_nothing :
    let small := (play 1 turnover.tail).1
    let large := (play 2 turnover.tail).1
    small.entries.map (·.1) = [plainKey "b"] ∧
    large.entries.map (·.1) = [plainKey "a", plainKey "b"] ∧
    (small.get (plainKey "b")).1 = some (.noMatch "b") ∧
    (large.get (plainKey "b")).1 = some (.noMatch "b") ∧
    small.info.hits ≤ large.info.hits := by
  intro small large
  have hsmall : (small.get (plainKey "b")).1 = some (.noMatch "b") := rfl
  obtain ⟨-, -, hanswer, hhits⟩ := more_room_answers_more (by decide : 1 ≤ 2) turnover.tail
  exact ⟨rfl, rfl, hsmall, hanswer _ _ hsmall, hhits⟩

end StreamFinder.Session.Cache
