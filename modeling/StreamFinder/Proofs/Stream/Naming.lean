import Mathlib.Data.List.Permutation
import Mathlib.Data.List.TakeWhile
import StreamFinder.Proofs.Stream.Preference
/-!
# How a stream gets its name

A stream asks for its own name, which is the offered one, or that with its
kind behind it where a stream of another kind has taken it. There are three
places for an own name: the name itself and two alternates. The catalog is
not asked which of the alternates are taken but how many names begin like
one, and this number is taken for the place (`freeName?_eq`). The name is
stored in its normal form, which is the name itself as long as it consists
of characters of stored names (`normalName?_of_isNormal`).
-/

namespace StreamFinder.Stream

open Quality

variable {c : Catalog} {name kind own s t : String} {e : String × Handle}

/-! ## Names in normal form -/

/-- The characters of stored names: lower-case letters, digits, the underscore and the plus sign. -/
def isKeyChar (c : Char) : Bool := c.isLower || c.isDigit || c = '_' || c = '+'

/-- The text consists of characters of stored names. -/
def IsNormal (s : String) : Prop := ∀ c ∈ s.toList, isKeyChar c = true

instance : DecidablePred IsNormal := fun s =>
  decidable_of_iff (s.toList.all isKeyChar = true) List.all_eq_true

theorem isNormal_append : IsNormal (s ++ t) ↔ IsNormal s ∧ IsNormal t := by
  simp [IsNormal, or_imp, forall_and]

theorem isNameChar_of_isKeyChar {c : Char} (h : isKeyChar c = true) : isNameChar c = true := by
  have halpha : c.isAlpha = (c.isUpper || c.isLower) := rfl
  simp only [isKeyChar, isNameChar, Char.isAlphanum, halpha, Bool.or_eq_true] at h ⊢
  grind

theorem toLower_of_isKeyChar {c : Char} (h : isKeyChar c = true) : c.toLower = c := by
  have hlower : c.isLower = (decide (c.val ≥ 'a'.val) && decide (c.val ≤ 'z'.val)) := rfl
  have hupper : ¬ (c.val ≥ 'A'.val ∧ c.val ≤ 'Z'.val) := by
    simp only [isKeyChar, hlower, Char.isDigit, Bool.or_eq_true, Bool.and_eq_true,
      decide_eq_true_eq] at h
    rcases h with ((h | h) | rfl) | rfl
    · exact fun hu => absurd (UInt32.le_trans h.1 hu.2) (by decide)
    · exact fun hu => absurd (UInt32.le_trans hu.1 h.2) (by decide)
    · decide
    · decide
  exact dif_neg hupper

/-- In lower case a name character is a character of stored names. -/
theorem isKeyChar_toLower {c : Char} (h : isNameChar c = true) : isKeyChar c.toLower = true := by
  by_cases hupper : c.val ≥ 'A'.val ∧ c.val ≤ 'Z'.val
  · have hval : c.toLower.val = c.val + 32 := congrArg Char.val (dif_pos hupper)
    have hlower : c.toLower.isLower = true := by
      have hdef : c.toLower.isLower =
        (decide (c.toLower.val ≥ 'a'.val) && decide (c.toLower.val ≤ 'z'.val)) := rfl
      simp only [hdef, hval, Bool.and_eq_true, decide_eq_true_eq, ge_iff_le,
        UInt32.le_iff_toNat_le, UInt32.toNat_add, UInt32.reduceToNat, Char.reduceVal] at hupper ⊢
      omega
    simp [isKeyChar, hlower]
  · have hsame : c.toLower = c := dif_neg hupper
    have halpha : c.isAlpha = (c.isUpper || c.isLower) := rfl
    have hnot : c.isUpper = false := decide_eq_false hupper
    rw [hsame]
    simpa [isNameChar, isKeyChar, Char.isAlphanum, halpha, hnot] using h

/-- **A text of characters of stored names is stored as it is.** -/
theorem normalName?_of_isNormal (h : IsNormal s) (hne : s ≠ "") : normalName? s = some s := by
  have htake : s.toList.takeWhile isNameChar = s.toList :=
    List.takeWhile_eq_self_iff.2 fun c hc => isNameChar_of_isKeyChar (h c hc)
  have hlower : s.toList.map Char.toLower = s.toList :=
    List.map_congr_left (fun c hc => toLower_of_isKeyChar (h c hc)) |>.trans (List.map_id _)
  unfold normalName?
  rw [htake]
  split
  · next hnil => exact absurd (String.toList_eq_nil_iff.1 hnil) hne
  · rw [hlower, String.ofList_toList]

theorem normalName?_eq_none_iff : normalName? s = none ↔ s.toList.takeWhile isNameChar = [] := by
  unfold normalName?
  split
  · next hnil => exact iff_of_true rfl hnil
  · next hne => exact iff_of_false nofun hne

/-- **What a name is stored under is in normal form**, and no empty text. -/
theorem isNormal_of_normalName? (h : normalName? s = some t) : IsNormal t ∧ t ≠ "" := by
  unfold normalName? at h
  split at h
  · cases h
  · next hne =>
    obtain rfl := Option.some.inj h
    refine ⟨fun c hc => ?_, by simpa using hne⟩
    obtain ⟨d, hd, rfl⟩ := List.mem_map.1 (String.toList_ofList ▸ hc)
    exact isKeyChar_toLower (List.mem_takeWhile_imp hd)

theorem ne_empty_of_normalName? (h : normalName? s = some t) : s ≠ "" := by
  rintro rfl
  cases h

/-! ## The places of an own name -/

/-- The name that a stream asks for: the offered one, with its kind behind
it where a stream of another kind has it. -/
def ownName (c : Catalog) (name kind : String) : String :=
  match c.get? name with
  | some taken => if taken.kind = kind then name else name ++ "_" ++ kind
  | none => name

/-- The places of an own name, in the order in which they are given away. -/
def placesOf (own : String) : List String := [own, own ++ "_alt", own ++ "_alt2"]

theorem nodup_placesOf (own : String) : (placesOf own).Nodup := by
  have hlonger : ∀ t : String, t.length ≠ 0 → own ≠ own ++ t := by
    intro t ht heq
    have hlength := congrArg String.length heq
    rw [String.length_append] at hlength
    omega
  simp [placesOf, hlonger]

/-- All places behind the first begin like an alternate. -/
theorem prefix_place {i : Nat} (h : (placesOf own)[i + 1]? = some s) :
    (own ++ "_alt").toList <+: s.toList := by
  match i with
  | 0 =>
    obtain rfl := Option.some.inj h
    exact List.prefix_rfl
  | 1 =>
    obtain rfl := Option.some.inj h
    simp
  | i + 2 => simp [placesOf] at h

/-- The places of an own name in normal form are stored as they are. -/
theorem normalName?_place {i : Nat} (hown : IsNormal own) (hne : own ≠ "")
    (h : (placesOf own)[i]? = some s) : normalName? s = some s := by
  have hlonger : ∀ t, IsNormal t → normalName? (own ++ t) = some (own ++ t) := fun t ht =>
    normalName?_of_isNormal (isNormal_append.2 ⟨hown, ht⟩) (by simp [hne])
  match i with
  | 0 =>
    obtain rfl := Option.some.inj h
    exact normalName?_of_isNormal hown hne
  | 1 =>
    obtain rfl := Option.some.inj h
    exact hlonger _ (by decide)
  | 2 =>
    obtain rfl := Option.some.inj h
    exact hlonger _ (by decide)
  | i + 3 => simp [placesOf] at h

/-- How many names begin like an alternate of an own name. -/
def alternates (c : Catalog) (own : String) : Nat := (namesBeginning c (own ++ "_alt")).length

/-- How many places of an own name are held to be taken. -/
def takenPlaces (c : Catalog) (own : String) : Nat :=
  if c.contains own then alternates c own + 1 else 0

/-- **A stream gets the place of its own name that the count points to**,
and none if there are not so many. -/
theorem freeName?_eq (c : Catalog) (name kind : String) :
    freeName? c name kind =
      (placesOf (ownName c name kind))[takenPlaces c (ownName c name kind)]? := by
  have hplaces : ∀ own, (if c.contains own then
      if maxAlternates ≤ alternates c own then none
      else if 0 < alternates c own then
        some (own ++ "_alt" ++ toString (alternates c own + 1))
      else some (own ++ "_alt")
    else some own) = (placesOf own)[takenPlaces c own]? := by
    intro own
    unfold takenPlaces
    split
    · match h : alternates c own with
      | 0 => rfl
      | 1 => simp [maxAlternates, placesOf, String.append_assoc]; rfl
      | n + 2 => simp [maxAlternates, placesOf]
    · rfl
  unfold freeName?
  cases hget : c.get? name with
  | none =>
    have hfree : c.contains name = false := by simp [Catalog.contains, hget]
    simp [ownName, hget, takenPlaces, hfree, placesOf]
  | some taken =>
    have hown : ownName c name kind = if taken.kind = kind then name else name ++ "_" ++ kind := by
      simp [ownName, hget]
    rw [← hplaces, hown]
    rfl

/-- The three ways to a name: the own name is free, or it is taken and no
name begins like an alternate of it, or it is taken and one name does. -/
theorem freeName?_cases (h : freeName? c name kind = some s) :
    (s = ownName c name kind ∧ c.contains (ownName c name kind) = false) ∨
    c.contains (ownName c name kind) = true ∧
      ((s = ownName c name kind ++ "_alt" ∧ alternates c (ownName c name kind) = 0) ∨
        (s = ownName c name kind ++ "_alt2" ∧ alternates c (ownName c name kind) = 1)) := by
  rw [freeName?_eq] at h
  generalize ownName c name kind = own at h ⊢
  cases hown : c.contains own with
  | false =>
    simp only [takenPlaces, hown] at h
    exact .inl ⟨(Option.some.inj h).symm, rfl⟩
  | true =>
    refine .inr ⟨rfl, ?_⟩
    match halt : alternates c own with
    | 0 =>
      simp only [takenPlaces, hown, halt] at h
      exact .inl ⟨(Option.some.inj h).symm, rfl⟩
    | 1 =>
      simp only [takenPlaces, hown, halt] at h
      exact .inr ⟨(Option.some.inj h).symm, rfl⟩
    | n + 2 => simp [takenPlaces, hown, halt, placesOf] at h

/-! ## Counting alternates -/

theorem mem_namesBeginning {start : String} : s ∈ namesBeginning c start ↔
    c.contains s = true ∧ start.toList <+: s.toList := by
  rw [namesBeginning, List.mem_filter, c.mem_names, List.isPrefixOf_iff_prefix]

/-- A name that begins like an alternate counts as one. -/
theorem alternates_pos (h : c.contains (own ++ "_alt" ++ t) = true) : 0 < alternates c own :=
  List.length_pos_of_mem (mem_namesBeginning.2 ⟨h, by
    simp only [String.toList_append]
    exact List.prefix_append _ _⟩)

/-- A new name adds one to the count or nothing. -/
theorem alternates_insert (hnew : c.contains s = false) (h : Handle) (own : String) :
    alternates (c.insert s h) own =
      alternates c own + if (own ++ "_alt").toList <+: s.toList then 1 else 0 := by
  have hnames : (c.insert s h).names.Perm (s :: c.names) := (c.entries_insert_perm hnew h).map _
  unfold alternates namesBeginning
  rw [(hnames.filter _).length_eq, List.filter_cons]
  simp only [List.isPrefixOf_iff_prefix]
  split <;> rfl

/-! ## Storing -/

/-- The name under which an entry is stored, if it is stored. -/
def storedName? (c : Catalog) (e : String × Handle) : Option String :=
  (freeName? c (stem e.1) e.2.kind).bind normalName?

/-- Store an entry under its name. -/
def store (c : Catalog) (e : String × Handle) : Catalog :=
  match storedName? c e with
  | none => c
  | some key => c.insert key e.2

theorem store_of_none (h : storedName? c e = none) : store c e = c := by
  simp [store, h]

theorem store_of_some (h : storedName? c e = some s) : store c e = c.insert s e.2 := by
  simp [store, h]

theorem catalog_add (m : Merging) (e : String × Handle) :
    (m.add e).catalog = store m.catalog e := by
  unfold Merging.add store storedName?
  cases freeName? m.catalog (stem e.1) e.2.kind with
  | none => rfl
  | some name =>
    dsimp only [Option.bind_some]
    cases normalName? name <;> rfl

/-- What cannot be named leaves no trace in the catalog. -/
theorem catalog_foldl_add (m : Merging) (l : Offers) :
    (l.foldl Merging.add m).catalog = l.foldl store m.catalog := by
  induction l generalizing m with
  | nil => rfl
  | cons e l ih => rw [List.foldl_cons, List.foldl_cons, ih, catalog_add]

/-- The catalog when the first so many entries are merged. -/
def mergedSoFar (l : Offers) : Catalog := (l.foldl Merging.add .start).catalog

theorem mergedSoFar_eq_foldl (l : Offers) : mergedSoFar l = l.foldl store .empty :=
  catalog_foldl_add .start l

theorem merge_eq_mergedSoFar (offers : Offers) (kinds : Option (List String)) :
    merge offers kinds = mergedSoFar (mergeOrder offers kinds) :=
  rfl

/-- **Merging stores the wanted streams one after the other.** -/
theorem merge_eq_foldl (offers : Offers) (kinds : Option (List String)) :
    merge offers kinds = (mergeOrder offers kinds).foldl store .empty :=
  mergedSoFar_eq_foldl _

/-- One name over two transports, more often over one of them than there are places. -/
def crowd : Offers :=
  [("vod", ⟨"http", none, 0⟩), ("live", ⟨"hls", none, 1⟩), ("vod_alt", ⟨"http", none, 2⟩),
    ("vod", ⟨"rtmp", none, 3⟩), ("vod", ⟨"http", none, 4⟩), ("vod", ⟨"http", none, 5⟩)]

/-- The crowd by its transports. -/
theorem mergeOrder_crowd : mergeOrder crowd none =
    [("vod", ⟨"rtmp", none, 3⟩), ("live", ⟨"hls", none, 1⟩), ("vod", ⟨"http", none, 0⟩),
      ("vod_alt", ⟨"http", none, 2⟩), ("vod", ⟨"http", none, 4⟩), ("vod", ⟨"http", none, 5⟩)] := by
  cbv

end StreamFinder.Stream
