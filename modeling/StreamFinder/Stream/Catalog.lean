import StreamFinder.Stream.Handle

/-!
# The catalog: streams by name

A catalog holds each name once, in the order of the names. The order is
part of the type, so two catalogs that answer every look-up alike are
equal (`Catalog.ext_get?`). Storing under a name replaces what was there
(`get?_insert_self`) and leaves every other name alone
(`get?_insert_of_ne`).
-/

namespace StreamFinder.Stream

/-! ## Ordered lists of named streams -/

/-- Store a stream at its place in an ordered list, replacing the one of that name. -/
def storeEntry (name : String) (h : Handle) : List (String × Handle) → List (String × Handle)
  | [] => [(name, h)]
  | (name', h') :: rest =>
    if name < name' then (name, h) :: (name', h') :: rest
    else if name = name' then (name, h) :: rest
    else (name', h') :: storeEntry name h rest

/-- The stream of a name in a list. -/
def findEntry (name : String) : List (String × Handle) → Option Handle
  | [] => none
  | (name', h) :: rest => if name = name' then some h else findEntry name rest

theorem mem_storeEntry {name : String} {h : Handle} {e : String × Handle}
    {l : List (String × Handle)} (he : e ∈ storeEntry name h l) : e = (name, h) ∨ e ∈ l := by
  induction l with
  | nil => simpa [storeEntry] using he
  | cons x rest ih =>
    obtain ⟨name', h'⟩ := x
    simp only [storeEntry] at he
    split at he
    · simpa using he
    · split at he
      · rcases List.mem_cons.1 he with he | he
        · exact .inl he
        · exact .inr (List.mem_cons_of_mem _ he)
      · rcases List.mem_cons.1 he with he | he
        · exact .inr (he ▸ List.mem_cons_self)
        · exact (ih he).imp id (List.mem_cons_of_mem _)

theorem lt_of_not_lt_of_ne {a b : String} (h : ¬ a < b) (hne : a ≠ b) : b < a := by
  by_cases hlt : b < a
  · exact hlt
  · exact absurd (String.le_antisymm (String.not_lt.1 hlt) (String.not_lt.1 h)) hne

theorem pairwise_storeEntry {name : String} {h : Handle} {l : List (String × Handle)}
    (hl : l.Pairwise fun a b => a.1 < b.1) :
    (storeEntry name h l).Pairwise fun a b => a.1 < b.1 := by
  induction l with
  | nil => simp [storeEntry]
  | cons x rest ih =>
    obtain ⟨name', h'⟩ := x
    obtain ⟨hx, hrest⟩ := List.pairwise_cons.1 hl
    simp only [storeEntry]
    split
    · next hlt =>
      refine List.pairwise_cons.2 ⟨fun e he => ?_, hl⟩
      rcases List.mem_cons.1 he with he | he
      · exact he ▸ hlt
      · exact String.lt_trans hlt (hx e he)
    · next hnlt =>
      split
      · next heq => exact List.pairwise_cons.2 ⟨fun e he => heq ▸ hx e he, hrest⟩
      · next hne =>
        refine List.pairwise_cons.2 ⟨fun e he => ?_, ih hrest⟩
        rcases mem_storeEntry he with he | he
        · exact he ▸ lt_of_not_lt_of_ne hnlt hne
        · exact hx e he

theorem findEntry_storeEntry_self (name : String) (h : Handle) (l : List (String × Handle)) :
    findEntry name (storeEntry name h l) = some h := by
  induction l with
  | nil => simp [storeEntry, findEntry]
  | cons x rest ih =>
    obtain ⟨name', h'⟩ := x
    simp only [storeEntry]
    split
    · simp [findEntry]
    · split
      · simp [findEntry]
      · next hne => simp [findEntry, hne, ih]

theorem findEntry_storeEntry_of_ne {name other : String} (hne : other ≠ name) (h : Handle)
    (l : List (String × Handle)) : findEntry other (storeEntry name h l) = findEntry other l := by
  induction l with
  | nil => simp [storeEntry, findEntry, hne]
  | cons x rest ih =>
    obtain ⟨name', h'⟩ := x
    simp only [storeEntry]
    split
    · simp [findEntry, hne]
    · split
      · next heq => subst heq; simp [findEntry, hne]
      · simp [findEntry, ih]

/-- Under a new name, storing adds an entry and keeps all others. -/
theorem storeEntry_perm {name : String} {h : Handle} {l : List (String × Handle)}
    (hnew : findEntry name l = none) : (storeEntry name h l).Perm ((name, h) :: l) := by
  induction l with
  | nil => exact .refl _
  | cons x rest ih =>
    obtain ⟨name', h'⟩ := x
    rw [findEntry] at hnew
    split at hnew
    · cases hnew
    · next hne =>
      simp only [storeEntry, if_neg hne]
      split
      · exact .refl _
      · exact ((ih hnew).cons _).trans (.swap _ _ _)

theorem findEntry_eq_some_iff {name : String} {h : Handle} {l : List (String × Handle)}
    (hl : l.Pairwise fun a b => a.1 < b.1) : findEntry name l = some h ↔ (name, h) ∈ l := by
  induction l with
  | nil => simp [findEntry]
  | cons x rest ih =>
    obtain ⟨name', h'⟩ := x
    obtain ⟨hx, hrest⟩ := List.pairwise_cons.1 hl
    by_cases heq : name = name'
    · subst heq
      have hnot : (name, h) ∉ rest := fun hmem => String.lt_irrefl name (hx _ hmem)
      simp [findEntry, hnot, eq_comm]
    · simp [findEntry, heq, ih hrest]

/-- Ordered lists with the same streams are the same list. -/
theorem eq_of_forall_mem_iff {l m : List (String × Handle)}
    (hl : l.Pairwise fun a b => a.1 < b.1) (hm : m.Pairwise fun a b => a.1 < b.1)
    (h : ∀ e, e ∈ l ↔ e ∈ m) : l = m := by
  induction l generalizing m with
  | nil =>
    cases m with
    | nil => rfl
    | cons y m => exact absurd ((h y).2 List.mem_cons_self) List.not_mem_nil
  | cons x l ih =>
    cases m with
    | nil => exact absurd ((h x).1 List.mem_cons_self) List.not_mem_nil
    | cons y m =>
      obtain ⟨hx, hl'⟩ := List.pairwise_cons.1 hl
      obtain ⟨hy, hm'⟩ := List.pairwise_cons.1 hm
      have hxy : x = y := by
        rcases List.mem_cons.1 ((h x).1 List.mem_cons_self) with hxy | hxm
        · exact hxy
        · rcases List.mem_cons.1 ((h y).2 List.mem_cons_self) with hyx | hyl
          · exact hyx.symm
          · exact absurd (hy x hxm) (String.lt_asymm (hx y hyl))
      subst hxy
      congr 1
      refine ih hl' hm' fun e => ⟨fun he => ?_, fun he => ?_⟩
      · rcases List.mem_cons.1 ((h e).1 (List.mem_cons_of_mem _ he)) with hex | hem
        · exact absurd (hex ▸ hx e he) (String.lt_irrefl _)
        · exact hem
      · rcases List.mem_cons.1 ((h e).2 (List.mem_cons_of_mem _ he)) with hex | hel
        · exact absurd (hex ▸ hy e he) (String.lt_irrefl _)
        · exact hel

/-! ## Catalogs -/

/-- Streams by name, in the order of the names. -/
structure Catalog where
  entries : List (String × Handle)
  ordered : entries.Pairwise fun a b => a.1 < b.1

namespace Catalog

/-- The catalog of no streams. -/
def empty : Catalog := ⟨[], List.Pairwise.nil⟩

/-- Store a stream under a name. -/
def insert (c : Catalog) (name : String) (h : Handle) : Catalog :=
  ⟨storeEntry name h c.entries, pairwise_storeEntry c.ordered⟩

/-- The stream of a name. -/
def get? (c : Catalog) (name : String) : Option Handle := findEntry name c.entries

/-- Whether the catalog knows a name. -/
def contains (c : Catalog) (name : String) : Bool := (c.get? name).isSome

/-- The names, in order. -/
def names (c : Catalog) : List String := c.entries.map (·.1)

/-- The catalog of the given streams; of equal names the last counts. -/
def ofOffers (offers : Offers) : Catalog :=
  offers.foldl (fun c (name, h) => c.insert name h) empty

@[simp] theorem get?_empty (name : String) : empty.get? name = none := rfl

@[simp] theorem get?_insert_self (c : Catalog) (name : String) (h : Handle) :
    (c.insert name h).get? name = some h := findEntry_storeEntry_self name h c.entries

theorem get?_insert_of_ne (c : Catalog) {name other : String} (hne : other ≠ name) (h : Handle) :
    (c.insert name h).get? other = c.get? other := findEntry_storeEntry_of_ne hne h c.entries

theorem get?_eq_some_iff (c : Catalog) {name : String} {h : Handle} :
    c.get? name = some h ↔ (name, h) ∈ c.entries := findEntry_eq_some_iff c.ordered

theorem contains_insert (c : Catalog) (name other : String) (h : Handle) :
    (c.insert name h).contains other = (other = name || c.contains other) := by
  by_cases heq : other = name
  · subst heq; simp [contains]
  · simp [contains, c.get?_insert_of_ne heq, heq]

theorem mem_names (c : Catalog) {name : String} : name ∈ c.names ↔ c.contains name = true := by
  simp [names, contains, Option.isSome_iff_exists, get?_eq_some_iff]

/-- No name comes twice. -/
theorem nodup_names (c : Catalog) : c.names.Nodup :=
  List.pairwise_map.2 (c.ordered.imp String.ne_of_lt)

/-- Storing under a new name adds an entry and keeps all others. -/
theorem entries_insert_perm (c : Catalog) {name : String} (hnew : c.contains name = false)
    (h : Handle) : (c.insert name h).entries.Perm ((name, h) :: c.entries) :=
  storeEntry_perm (Option.not_isSome_iff_eq_none.1 (Bool.eq_false_iff.1 hnew))

/-- **A catalog is its look-ups.** -/
theorem ext_get? {c d : Catalog} (h : ∀ name, c.get? name = d.get? name) : c = d := by
  have hentries : c.entries = d.entries :=
    eq_of_forall_mem_iff c.ordered d.ordered fun (name, handle) => by
      rw [← c.get?_eq_some_iff, ← d.get?_eq_some_iff, h name]
  cases c
  cases d
  simp only at hentries
  subst hentries
  rfl

end Catalog

end StreamFinder.Stream
