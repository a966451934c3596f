/-!
# A cache that forgets what was used longest ago

The entries are kept in the order of their last use, the latest first, and
there is at most one for a key. Looking a key up uses its entry; storing
uses the key and, when the cache is full, drops the entry at the end. The
cache counts look-ups that found something and look-ups that did not.
-/

namespace StreamFinder.Session

/-- Entries by key, in the order of their last use. -/
structure Cache (K V : Type) where
  capacity : Nat
  entries : List (K × V)
  hits : Nat
  misses : Nat

/-- The state of a cache in numbers. -/
structure CacheInfo where
  hits : Nat
  misses : Nat
  capacity : Nat
  size : Nat
deriving DecidableEq, Repr

namespace Cache

variable {K V : Type} [DecidableEq K]

/-- A cache without entries. -/
def empty (capacity : Nat) : Cache K V := ⟨capacity, [], 0, 0⟩

/-- The entries of all keys but one. -/
def without (key : K) (entries : List (K × V)) : List (K × V) :=
  entries.filter fun e => e.1 ≠ key

/-- Look a key up. -/
def get (c : Cache K V) (key : K) : Option V × Cache K V :=
  match c.entries.lookup key with
  | some value =>
    (some value, { c with entries := (key, value) :: without key c.entries, hits := c.hits + 1 })
  | none => (none, { c with misses := c.misses + 1 })

/-- Store a value under a key. -/
def insert (c : Cache K V) (key : K) (value : V) : Cache K V :=
  { c with entries := ((key, value) :: without key c.entries).take c.capacity }

/-- Forget all entries and start counting anew. -/
def clear (c : Cache K V) : Cache K V := empty c.capacity

/-- How many entries there are. -/
def size (c : Cache K V) : Nat := c.entries.length

/-- The cache in numbers. -/
def info (c : Cache K V) : CacheInfo := ⟨c.hits, c.misses, c.capacity, c.size⟩

/-! ## What an operation leaves among the entries -/

theorem get_fst (c : Cache K V) (key : K) : (c.get key).1 = c.entries.lookup key := by
  unfold get
  split <;> simp [*]

/-- A hit moves its entry to the front. -/
theorem get_of_eq_some {c : Cache K V} {key : K} {value : V} (h : (c.get key).1 = some value) :
    c.get key = (some value,
      { c with entries := (key, value) :: without key c.entries, hits := c.hits + 1 }) := by
  rw [get_fst] at h
  simp only [get, h]

/-- A miss is counted, and nothing else changes. -/
theorem get_of_eq_none {c : Cache K V} {key : K} (h : (c.get key).1 = none) :
    c.get key = (none, { c with misses := c.misses + 1 }) := by
  rw [get_fst] at h
  simp only [get, h]

theorem capacity_get (c : Cache K V) (key : K) : (c.get key).2.capacity = c.capacity := by
  unfold get
  split <;> rfl

/-- Without room nothing is kept, and otherwise what was stored last is found. -/
theorem get_insert_self (c : Cache K V) (key : K) (value : V) :
    ((c.insert key value).get key).1 = if c.capacity = 0 then none else some value := by
  rw [get_fst, insert]
  cases c.capacity with
  | zero => rfl
  | succ n => simp

/-- Looking up finds what is there. -/
theorem mem_entries_of_get {c : Cache K V} {key : K} {value : V}
    (h : (c.get key).1 = some value) : (key, value) ∈ c.entries := by
  rw [get_fst, List.lookup_eq_some_iff] at h
  obtain ⟨newer, older, hc, -⟩ := h
  rw [hc]
  simp

/-- What is not found is not there, whatever the value. -/
theorem ne_of_get_eq_none {c : Cache K V} {key : K} (h : (c.get key).1 = none)
    {e : K × V} (he : e ∈ c.entries) : e.1 ≠ key := by
  rw [get_fst, List.lookup_eq_none_iff] at h
  intro hk
  have := h e he
  simp [hk] at this

theorem mem_without {key : K} {entries : List (K × V)} {e : K × V} :
    e ∈ without key entries ↔ e ∈ entries ∧ e.1 ≠ key := by
  simp [without]

/-- Looking up moves entries and makes none. -/
theorem mem_entries_of_mem_get {c : Cache K V} {key : K} {e : K × V}
    (h : e ∈ (c.get key).2.entries) : e ∈ c.entries := by
  cases hg : (c.get key).1 with
  | none =>
    rw [get_fst] at hg
    simp only [get, hg] at h
    exact h
  | some value =>
    have hmem := mem_entries_of_get hg
    rw [get_fst] at hg
    simp only [get, hg, List.mem_cons] at h
    rcases h with rfl | h
    · exact hmem
    · exact (mem_without.1 h).1

/-- After storing, an entry is the new one, or an old one of another key. -/
theorem eq_or_mem_of_mem_insert {c : Cache K V} {key : K} {value : V} {e : K × V}
    (h : e ∈ (c.insert key value).entries) :
    e = (key, value) ∨ e ∈ c.entries ∧ e.1 ≠ key := by
  rcases List.mem_cons.1 (List.mem_of_mem_take h) with rfl | h
  · exact Or.inl rfl
  · exact Or.inr (mem_without.1 h)

/-! ## Room -/

/-- There are no more entries than there is room for. -/
def Fits (c : Cache K V) : Prop := c.entries.length ≤ c.capacity

omit [DecidableEq K] in
theorem fits_empty (capacity : Nat) : (empty capacity : Cache K V).Fits := Nat.zero_le _

theorem Fits.get {c : Cache K V} (h : c.Fits) (key : K) : (c.get key).2.Fits := by
  cases hg : (c.get key).1 with
  | none => rw [get_of_eq_none hg]; exact h
  | some value =>
    have hshorter : (without key c.entries).length < c.entries.length :=
      List.length_filter_lt_length_iff_exists.2 ⟨_, mem_entries_of_get hg, by simp⟩
    rw [get_of_eq_some hg]
    exact Nat.le_trans hshorter h

theorem fits_insert (c : Cache K V) (key : K) (value : V) : (c.insert key value).Fits :=
  List.length_take_le ..

/-- Where there is no room, nothing is found. -/
theorem Fits.get_eq_none {c : Cache K V} (h : c.Fits) (hc : c.capacity = 0) (key : K) :
    (c.get key).1 = none := by
  have hnil : c.entries = [] := List.eq_nil_of_length_eq_zero (Nat.le_zero.1 (hc ▸ h))
  rw [get_fst, hnil]
  rfl

end Cache

end StreamFinder.Session
