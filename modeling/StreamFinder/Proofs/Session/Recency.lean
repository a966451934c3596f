import Mathlib.Data.List.TakeWhile
import StreamFinder.Proofs.Distinct
import StreamFinder.Session.Basic
import StreamFinder.Session.Cache.History
/-!
# What a cache still knows

A cache keeps the keys that were used last. So a key is found as long as
fewer others were used since than there is room for, and it makes no
difference how often each of them was used. The used keys, the latest first
and each once, are in the order in which a cache with room for all of them
would hold them; any other cache holds the front of it (`Ranked.keys`),
whatever was evicted on the way.
-/

namespace StreamFinder.Session.Cache

variable {K V : Type} [DecidableEq K]

/-! ## The order of last use -/

/-- The keys but one. -/
def others (key : K) (keys : List K) : List K := keys.filter fun other => !other == key

variable {key first : K} {keys : List K}

@[simp] theorem mem_others {other : K} : other ∈ others key keys ↔ other ∈ keys ∧ other ≠ key := by
  simp [others]

@[simp] theorem others_cons_self : others key (key :: keys) = others key keys := by
  simp [others]

@[simp] theorem others_cons_of_ne (h : first ≠ key) :
    others key (first :: keys) = first :: others key keys := by
  simp [others, h]

theorem others_of_notMem (h : key ∉ keys) : others key keys = keys := by
  refine List.filter_eq_self.2 fun other ho => ?_
  have hne : other ≠ key := fun heq => h (heq ▸ ho)
  simp [hne]

theorem eraseDups_cons_others (first : K) (keys : List K) :
    (first :: keys).eraseDups = first :: others first keys.eraseDups :=
  eraseDups_cons_eq first keys

theorem length_eraseDups (keys : List K) : keys.eraseDups.length = keys.toFinset.card := by
  rw [← List.toFinset_card_of_nodup (nodup_eraseDups keys)]
  exact congrArg Finset.card (Finset.ext fun key => by simp)

/-- Leaving out a key that comes before another one leaves the rest of what comes before it. -/
theorem takeWhile_others (h : first ≠ key) :
    (others first keys).takeWhile (· ≠ key) = others first (keys.takeWhile (· ≠ key)) := by
  unfold others
  rw [List.takeWhile_filter]
  congr 2
  funext other
  by_cases ho : other = first <;> simp [ho, h]

/-- The keys before a key are the same, whether each counts once or as often as it comes. -/
theorem mem_takeWhile_eraseDups {other : K} :
    other ∈ keys.eraseDups.takeWhile (· ≠ key) ↔ other ∈ keys.takeWhile (· ≠ key) := by
  induction keys with
  | nil => rfl
  | cons first keys ih =>
    by_cases hk : first = key
    · simp [eraseDups_cons_others, hk]
    · have hcons (l : List K) :
          (first :: l).takeWhile (· ≠ key) = first :: l.takeWhile (· ≠ key) :=
        List.takeWhile_cons_of_pos (decide_eq_true hk)
      rw [eraseDups_cons_others, hcons, hcons, takeWhile_others hk, List.mem_cons, List.mem_cons,
        mem_others, ih]
      tauto

/-- What is among the first of a list has few before it. -/
theorem mem_take_iff_length_takeWhile_lt {n : ℕ} :
    key ∈ keys.take n ↔ key ∈ keys ∧ (keys.takeWhile (· ≠ key)).length < n := by
  induction keys generalizing n with
  | nil => simp
  | cons first keys ih =>
    cases n with
    | zero => simp
    | succ n =>
      by_cases hk : first = key
      · simp [hk]
      · simp [hk, Ne.symm hk, ih]

/-- **A key is among the first distinct ones when few others come before
it**, however often they do. -/
theorem mem_take_eraseDups {n : ℕ} : key ∈ keys.eraseDups.take n ↔
    key ∈ keys ∧ ((keys.takeWhile (· ≠ key)).toFinset).card < n := by
  have hsame : (keys.eraseDups.takeWhile (· ≠ key)).toFinset =
      (keys.takeWhile (· ≠ key)).toFinset :=
    Finset.ext fun other => by simp only [List.mem_toFinset, mem_takeWhile_eraseDups]
  have hnodup : (keys.eraseDups.takeWhile (· ≠ key)).Nodup :=
    (nodup_eraseDups keys).sublist (List.takeWhile_sublist _)
  rw [mem_take_iff_length_takeWhile_lt, List.mem_eraseDups, ← hsame,
    List.toFinset_card_of_nodup hnodup]

/-- Leaving a key out of the first of a list, and then one of them more,
comes to the same as leaving it out of the whole list. -/
theorem take_others_take (hkeys : keys.Nodup) (n : ℕ) :
    (others key (keys.take (n + 1))).take n = (others key keys).take n := by
  induction keys generalizing n with
  | nil => rfl
  | cons first keys ih =>
    obtain ⟨hfirst, hkeys⟩ := List.nodup_cons.1 hkeys
    rw [List.take_succ_cons]
    by_cases hk : first = key
    · -- it is left out here, and it does not come again
      subst hk
      have hfront : first ∉ keys.take n := fun h => hfirst (List.mem_of_mem_take h)
      rw [others_cons_self, others_cons_self, others_of_notMem hfront, others_of_notMem hfirst,
        List.take_take, Nat.min_self]
    · rw [others_cons_of_ne hk, others_cons_of_ne hk]
      cases n with
      | zero => rfl
      | succ n => rw [List.take_succ_cons, List.take_succ_cons, ih hkeys n]

/-- Moving a key to the front of the first distinct ones gives the first
distinct ones after one more use of it. -/
theorem take_cons_others_take_eraseDups (key : K) (keys : List K) (n : ℕ) :
    (key :: others key (keys.eraseDups.take n)).take n = (key :: keys).eraseDups.take n := by
  rw [eraseDups_cons_others]
  cases n with
  | zero => rfl
  | succ n => exact congrArg (key :: ·) (take_others_take (nodup_eraseDups keys) n)

/-! ## A cache holds the keys that were used last -/

/-- How a cache goes with what has happened since it was cleared. -/
structure Ranked (c : Cache K V) (recent : List (Deed K V)) : Prop where
  keys : c.entries.map (·.1) = (usedKeys recent).eraseDups.take c.capacity
  values : ∀ e ∈ c.entries, latestStored? recent e.1 = some e.2
  stored : (usedKeys recent).toFinset = storedKeys recent
  counted : c.hits + c.misses = lookUps recent

variable {c : Cache K V} {recent history : List (Deed K V)} {value : V}

theorem Ranked.empty (capacity : ℕ) : Ranked (empty capacity : Cache K V) [] where
  keys := List.take_nil.symm
  values _ he := by cases he
  stored := rfl
  counted := rfl

theorem map_fst_without (key : K) (entries : List (K × V)) :
    (without key entries).map (·.1) = others key (entries.map (·.1)) := by
  rw [without, others, List.filter_map]
  congr 1
  exact List.filter_congr fun e _ => by simp [Bool.beq_eq_decide_eq]

theorem Ranked.fits (h : Ranked c recent) : c.Fits := by
  unfold Fits
  have hkeys := congrArg List.length h.keys
  rw [List.length_map, List.length_take] at hkeys
  omega

/-- The keys after a use, whether the value is new or not. -/
theorem Ranked.keys_insert (h : Ranked c recent) (key : K) (value : V) :
    (c.insert key value).entries.map (·.1) =
      (key :: usedKeys recent).eraseDups.take c.capacity := by
  rw [insert, List.map_take, List.map_cons, map_fst_without, h.keys,
    take_cons_others_take_eraseDups]

/-- A hit leaves the entries that storing the same value again would leave:
there was room for the entry before. -/
theorem Ranked.entries_get (h : Ranked c recent) (hg : (c.get key).1 = some value) :
    (c.get key).2.entries = (c.insert key value).entries := by
  have hroom := h.fits.get key
  rw [get_of_eq_some hg] at hroom ⊢
  exact (List.take_of_length_le hroom).symm

theorem Ranked.mem_usedKeys (h : Ranked c recent) (hg : (c.get key).1 = some value) :
    key ∈ usedKeys recent := by
  have hkey := List.mem_map_of_mem (f := Prod.fst) (mem_entries_of_get hg)
  rw [h.keys] at hkey
  exact List.mem_eraseDups.1 (List.mem_of_mem_take hkey)

theorem Ranked.hit (h : Ranked c recent) (hg : (c.get key).1 = some value) :
    Ranked (c.get key).2 (.hit key :: recent) where
  keys := by
    rw [h.entries_get hg, h.keys_insert, capacity_get]
    rfl
  values e he := h.values e (mem_entries_of_mem_get he)
  stored := by
    calc (key :: usedKeys recent).toFinset
        = Insert.insert key (usedKeys recent).toFinset := List.toFinset_cons
      _ = (usedKeys recent).toFinset :=
          Finset.insert_eq_of_mem (List.mem_toFinset.2 (h.mem_usedKeys hg))
      _ = storedKeys recent := h.stored
  counted := by
    rw [get_of_eq_some hg, lookUps, List.countP_cons_of_pos rfl, Nat.add_right_comm, h.counted]
    rfl

theorem Ranked.missed (h : Ranked c recent) (hg : (c.get key).1 = none) :
    Ranked (c.get key).2 (.missed key :: recent) where
  keys := by
    rw [get_of_eq_none hg]
    exact h.keys
  values e he := h.values e (mem_entries_of_mem_get he)
  stored := h.stored
  counted := by
    rw [get_of_eq_none hg, lookUps, List.countP_cons_of_pos rfl, ← Nat.add_assoc, h.counted]
    rfl

theorem Ranked.insert (h : Ranked c recent) (key : K) (value : V) :
    Ranked (c.insert key value) (.stored key value :: recent) where
  keys := h.keys_insert key value
  values e he := by
    rcases eq_or_mem_of_mem_insert he with rfl | ⟨hmem, hne⟩
    · simp [latestStored?, Deed.storedUnder?]
    · simpa [latestStored?, Deed.storedUnder?, Ne.symm hne] using h.values e hmem
  stored := by
    calc (key :: usedKeys recent).toFinset
        = Insert.insert key (usedKeys recent).toFinset := List.toFinset_cons
      _ = Insert.insert key (storedKeys recent) := congrArg _ h.stored
      _ = storedKeys (.stored key value :: recent) := List.toFinset_cons.symm
  counted := by
    rw [lookUps, List.countP_cons_of_neg Bool.false_ne_true]
    exact h.counted

/-- **Every call keeps the keys that were used last.** -/
theorem Ranked.next (h : Ranked c (sinceClear history)) (a : Call K V) :
    Ranked (c.next a).1 (sinceClear ((c.next a).2 :: history)) := by
  cases a with
  | get key =>
    cases hg : (c.get key).1 with
    | some value =>
      have hnext : c.next (.get key) = ((c.get key).2, .hit key) := by simp [Cache.next, hg]
      rw [hnext]
      exact h.hit hg
    | none =>
      have hnext : c.next (.get key) = ((c.get key).2, .missed key) := by simp [Cache.next, hg]
      rw [hnext]
      exact h.missed hg
  | insert key value => exact h.insert key value
  | clear => exact .empty c.capacity

theorem ranked_play (capacity : ℕ) (calls : List (Call K V)) :
    Ranked (play capacity calls).1 (sinceClear (play capacity calls).2) := by
  induction calls with
  | nil => exact .empty capacity
  | cons a earlier ih => exact ih.next a

theorem capacity_play (capacity : ℕ) (calls : List (Call K V)) :
    (play capacity calls).1.capacity = capacity := by
  induction calls with
  | nil => rfl
  | cons a earlier ih =>
    cases a with
    | get key => exact (capacity_get _ key).trans ih
    | insert | clear => exact ih

/-! ## What is found -/

theorem isSome_get_iff : (c.get key).1.isSome = true ↔ key ∈ c.entries.map (·.1) := by
  constructor
  · intro h
    obtain ⟨value, hg⟩ := Option.isSome_iff_exists.1 h
    exact List.mem_map_of_mem (f := Prod.fst) (mem_entries_of_get hg)
  · intro h
    obtain ⟨e, he, rfl⟩ := List.mem_map.1 h
    by_contra hn
    exact ne_of_get_eq_none (Option.not_isSome_iff_eq_none.1 hn) he rfl

/-- **A key is found as long as it has few rivals.** -/
theorem Ranked.isSome_get_iff (h : Ranked c recent) : (c.get key).1.isSome = true ↔
    key ∈ storedKeys recent ∧ (rivals recent key).card < c.capacity := by
  rw [Cache.isSome_get_iff, h.keys, mem_take_eraseDups, ← h.stored, List.mem_toFinset]
  rfl

theorem Ranked.size_eq (h : Ranked c recent) :
    c.size = min c.capacity (storedKeys recent).card := by
  rw [← h.stored, ← length_eraseDups, ← List.length_take, ← h.keys, List.length_map]
  rfl

/-- The addresses that some keys ask about in one mode. -/
def urlsIn (followed : Bool) (keys : Finset CacheKey) : Finset String :=
  (keys.filter (·.followed = followed)).image (·.url)

theorem card_urlsIn (followed : Bool) (keys : Finset CacheKey) :
    (urlsIn followed keys).card = (keys.filter (·.followed = followed)).card := by
  refine Finset.card_image_of_injOn ?_
  rintro ⟨url, mode⟩ hkey ⟨url', mode'⟩ hkey' hurl
  have hmode : mode = followed := (Finset.mem_filter.1 hkey).2
  have hmode' : mode' = followed := (Finset.mem_filter.1 hkey').2
  rw [hmode, hmode', show url = url' from hurl]

/-- **An address counts for each mode by itself.** -/
theorem card_eq_card_urlsIn_add (keys : Finset CacheKey) :
    keys.card = (urlsIn true keys).card + (urlsIn false keys).card := by
  rw [card_urlsIn, card_urlsIn, ← Finset.card_filter_add_card_filter_not (·.followed = true)]
  simp only [Bool.not_eq_true]

/-- **What a cache of decisions finds.** A key is found exactly when a
decision was stored under it since the cache was cleared and fewer others
were used since it was than there is room for; then it is the decision
that was stored under it last. There are as many entries as keys stored,
or as many as there is room for, each look-up is counted once, and an
address that is stored in both modes, or used in both, counts twice.
Without room nothing is ever found. -/
theorem found_iff_few_rivals {P : Type} (capacity : ℕ)
    (calls : List (Call CacheKey (Decision P))) :
    let c := (play capacity calls).1
    let recent := sinceClear (play capacity calls).2
    (∀ key, (c.get key).1.isSome = true ↔
      key ∈ storedKeys recent ∧ (rivals recent key).card < capacity) ∧
    (∀ key decision, (c.get key).1 = some decision →
      latestStored? recent key = some decision) ∧
    c.info.size = min capacity (storedKeys recent).card ∧
    c.info.hits + c.info.misses = lookUps recent ∧
    (storedKeys recent).card =
      (urlsIn true (storedKeys recent)).card + (urlsIn false (storedKeys recent)).card ∧
    (∀ key, (rivals recent key).card =
      (urlsIn true (rivals recent key)).card + (urlsIn false (rivals recent key)).card) ∧
    (capacity = 0 → ∀ key, (c.get key).1 = none) := by
  intro c recent
  have hc : c.capacity = capacity := capacity_play capacity calls
  have hr : Ranked c recent := ranked_play capacity calls
  have hfound (key : CacheKey) : (c.get key).1.isSome = true ↔
      key ∈ storedKeys recent ∧ (rivals recent key).card < capacity :=
    hc ▸ hr.isSome_get_iff
  refine ⟨hfound, fun key decision hg => hr.values _ (mem_entries_of_get hg), hc ▸ hr.size_eq,
    hr.counted, card_eq_card_urlsIn_add _, fun key => card_eq_card_urlsIn_add _,
    fun hzero key => ?_⟩
  exact hr.fits.get_eq_none (hc.trans hzero) key

/-- The key of an address that is resolved as it stands. -/
def plainKey (url : String) : CacheKey := ⟨url, false⟩

/-- Two decisions are stored, the older one is looked up, and a third one
is stored. -/
def turnover : List (Call CacheKey (Decision Plugin.Input)) :=
  [.insert (plainKey "c") (.noMatch "c"), .get (plainKey "a"),
    .insert (plainKey "b") (.noMatch "b"), .insert (plainKey "a") (.noMatch "a")]

/-- With room for two keys, the one that was not looked up is gone, and so
is one that was stored in the other mode only. -/
theorem used_key_outlives_younger :
    let c := (play 2 turnover).1
    (c.get (plainKey "a")).1.isSome = true ∧ (c.get (plainKey "b")).1.isSome = false ∧
      (c.get ⟨"a", true⟩).1.isSome = false ∧ c.info.size = 2 := by
  intro c
  obtain ⟨hfound, -, hsize, -⟩ := found_iff_few_rivals 2 turnover
  have hlost {key : CacheKey} (h : ¬ (key ∈ storedKeys (sinceClear (play 2 turnover).2) ∧
      (rivals (sinceClear (play 2 turnover).2) key).card < 2)) :
      (c.get key).1.isSome = false :=
    Bool.eq_false_iff.2 fun hs => h ((hfound key).1 hs)
  exact ⟨(hfound (plainKey "a")).2 (by decide), hlost (by decide), hlost (by decide), hsize⟩

end StreamFinder.Session.Cache
