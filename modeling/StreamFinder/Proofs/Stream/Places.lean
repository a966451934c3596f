import StreamFinder.Proofs.Stream.Naming
/-!
# Where every stream ends up

Merging decides each name by looking at what it has stored so far. For
plain names and kinds the outcome can be told from the order of preference
alone: the streams of one name and one kind take the three places of their
own name, in that order, and the own name is the plain one for the kind
that comes first (`merge_places`). The invariant says this of what is
merged so far (`IsPlaced`). It is kept because the places of different
names and kinds never meet, not even as beginnings: cut at the
underscores, they are different lists of words (`place_inj`,
`place_of_beginning`), so that the count of what begins like an alternate
is the count of the alternates (`Fits.takenPlaces_eq`).
-/

namespace StreamFinder.Stream

variable {c : Catalog} {e : String × Handle} {l : Offers} {h : Handle}
variable {s n n' k k' key : String} {i i' : Nat}

/-! ## Plain names and kinds -/

/-- The characters of words: lower-case letters, digits and the plus sign. -/
def isWordChar (c : Char) : Bool := c.isLower || c.isDigit || c = '+'

/-- A non-empty text of such characters. -/
def IsWord (s : String) : Prop := s ≠ "" ∧ ∀ c ∈ s.toList, isWordChar c = true

/-- A word, with or without the mark of an alternate. -/
def IsPlainName (name : String) : Prop :=
  ∃ word, IsWord word ∧ (name = word ∨ name = word ++ "_alt")

/-- A word that does not begin like the mark of an alternate. -/
def IsPlainKind (kind : String) : Prop := IsWord kind ∧ ¬ ['a', 'l', 't'] <+: kind.toList

/-- An entry of a plain name and a plain kind. -/
def IsPlain (e : String × Handle) : Prop := IsPlainName e.1 ∧ IsPlainKind e.2.kind

theorem IsWord.not_mem (h : IsWord s) : '_' ∉ s.toList := fun hmem =>
  absurd (h.2 _ hmem) (by decide)

theorem IsWord.isNormal (h : IsWord s) : IsNormal s := by
  intro c hc
  have hword := h.2 c hc
  simp only [isWordChar, isKeyChar, Bool.or_eq_true] at hword ⊢
  grind

theorem stem_of_not_mem (h : '_' ∉ s.toList) : stem s = s := by
  unfold stem
  split
  · next rest heq =>
    have hmem : '_' ∈ s.toList.reverse := by simp [heq]
    exact absurd (List.mem_reverse.1 hmem) h
  · rfl

theorem stem_append_alt (s : String) : stem (s ++ "_alt") = s := by
  simp [stem]

theorem IsPlainName.isWord_stem (h : IsPlainName s) : IsWord (stem s) := by
  obtain ⟨word, hword, rfl | rfl⟩ := h
  · rwa [stem_of_not_mem hword.not_mem]
  · rwa [stem_append_alt]

theorem eq_stem_or_eq_append (s : String) : s = stem s ∨ s = stem s ++ "_alt" := by
  unfold stem
  split
  · next rest heq =>
    have hs : s.toList = rest.reverse ++ "_alt".toList := by
      rw [← List.reverse_reverse s.toList, heq]
      simp
    exact .inr (String.toList_inj.1 (by simpa using hs))
  · exact .inl rfl

theorem isPlainName_iff : IsPlainName s ↔ IsWord (stem s) :=
  ⟨IsPlainName.isWord_stem, fun h => ⟨stem s, h, eq_stem_or_eq_append s⟩⟩

instance : DecidablePred IsWord := fun s =>
  decidable_of_iff (s ≠ "" ∧ s.toList.all isWordChar = true) (and_congr_right' List.all_eq_true)

instance : DecidablePred IsPlainName := fun _ => decidable_of_iff _ isPlainName_iff.symm

instance : DecidablePred IsPlainKind := fun kind =>
  inferInstanceAs (Decidable (IsWord kind ∧ ¬ ['a', 'l', 't'] <+: kind.toList))

instance : DecidablePred IsPlain := fun e =>
  inferInstanceAs (Decidable (IsPlainName e.1 ∧ IsPlainKind e.2.kind))

/-! ## Words joined by underscores -/

/-- Behind two words the same underscore comes. -/
theorem eq_of_prefix_underscore {p v A B : List Char} (hp : '_' ∉ p) (hv : '_' ∉ v)
    (h : p ++ '_' :: A <+: v ++ '_' :: B) : p = v ∧ A <+: B := by
  induction p generalizing v with
  | nil =>
    cases v with
    | nil => exact ⟨rfl, (List.cons_prefix_cons.1 h).2⟩
    | cons a v => exact absurd ((List.cons_prefix_cons.1 h).1 ▸ List.mem_cons_self) hv
  | cons a p ih =>
    cases v with
    | nil => exact absurd ((List.cons_prefix_cons.1 h).1 ▸ List.mem_cons_self) hp
    | cons b v =>
      obtain ⟨rfl, hrest⟩ := List.cons_prefix_cons.1 h
      obtain ⟨rfl, hAB⟩ := ih (fun hm => hp (List.mem_cons_of_mem _ hm))
        (fun hm => hv (List.mem_cons_of_mem _ hm)) hrest
      exact ⟨rfl, hAB⟩

/-- What begins before an underscore and holds none ends before it. -/
theorem prefix_of_prefix_underscore {w v B : List Char} (hw : '_' ∉ w)
    (h : w <+: v ++ '_' :: B) : w <+: v := by
  rcases List.prefix_or_prefix_of_prefix h (List.prefix_append v _) with hwv | ⟨t, rfl⟩
  · exact hwv
  · cases t with
    | nil => simp
    | cons a t =>
      have ha : a = '_' := (List.cons_prefix_cons.1 ((List.prefix_append_right_inj v).1 h)).1
      exact absurd (by simp [ha]) hw

/-- **Joined words that begin a joined text are its first words**, the last
of them perhaps only in part. -/
theorem parts_of_prefix {ps qs : List (List Char)} {w : List Char} (hps : ∀ p ∈ ps, '_' ∉ p)
    (hqs : ∀ q ∈ qs, '_' ∉ q) (hw : '_' ∉ w) (hne : w ≠ [])
    (h : ['_'].intercalate (ps ++ [w]) <+: ['_'].intercalate qs) :
    ∃ v rest, qs = ps ++ v :: rest ∧ w <+: v := by
  -- word by word: behind equal words there is an underscore in both texts
  induction ps generalizing qs with
  | nil =>
    match qs with
    | [] => exact absurd (List.prefix_nil.1 h) (by simpa using hne)
    | [v] => exact ⟨v, [], rfl, by simpa using h⟩
    | v :: v' :: rest =>
      rw [List.intercalate_cons_cons, List.append_assoc] at h
      exact ⟨v, v' :: rest, rfl, prefix_of_prefix_underscore hw (by simpa using h)⟩
  | cons p ps ih =>
    obtain ⟨hp, hps⟩ := List.forall_mem_cons.1 hps
    obtain ⟨x, xs, hx⟩ := List.exists_cons_of_ne_nil (l := ps ++ [w]) (by simp)
    rw [List.cons_append, hx, List.intercalate_cons_cons, List.append_assoc, ← hx] at h
    match qs with
    | [] => exact absurd (List.prefix_nil.1 h) (by simp)
    | [v] =>
      have hmem : '_' ∈ v := (by simpa using h : p ++ '_' :: _ <+: v).mem (by simp)
      exact absurd hmem (hqs v List.mem_cons_self)
    | v :: v' :: rest =>
      rw [List.intercalate_cons_cons, List.append_assoc] at h
      obtain ⟨hv, hrest⟩ := List.forall_mem_cons.1 hqs
      obtain ⟨rfl, hprefix⟩ := eq_of_prefix_underscore hp hv h
      obtain ⟨u, us, heq, hu⟩ := ih hps hrest hprefix
      exact ⟨u, us, by rw [heq]; rfl, hu⟩

/-! ## Own names and places -/

/-- The kind of the first entry of a name. -/
def firstKind? (l : Offers) (n : String) : Option String :=
  (l.find? fun e => stem e.1 = n).map (·.2.kind)

/-- The streams of a name and a kind, in their order. -/
def streamsOf (l : Offers) (n k : String) : List Handle :=
  (l.filter fun e => stem e.1 = n ∧ e.2.kind = k).map (·.2)

/-- The own name of the streams of a name and a kind: the name, with the
kind behind it unless this is the first kind of the name. -/
def ownIn (l : Offers) (n k : String) : String :=
  match firstKind? l n with
  | some first => if k = first then n else n ++ "_" ++ k
  | none => n

/-- **The closed form**: the name is a place of an own name, and the stream
is the one of the name and the kind whose turn has this place. -/
def IsPlaced (l : Offers) (key : String) (h : Handle) : Prop :=
  ∃ n k, (key, h) ∈ (placesOf (ownIn l n k)).zip (streamsOf l n k)

/-- The words that a kind adds to a name. -/
def kindParts (l : Offers) (n k : String) : List (List Char) :=
  match firstKind? l n with
  | some first => if k = first then [] else [k.toList]
  | none => []

/-- The words that a place adds to an own name. -/
def markParts : Nat → List (List Char)
  | 0 => []
  | 1 => [['a', 'l', 't']]
  | _ => [['a', 'l', 't', '2']]

theorem toList_ownIn (l : Offers) (n k : String) :
    (ownIn l n k).toList = ['_'].intercalate (n.toList :: kindParts l n k) := by
  unfold ownIn kindParts
  split
  · split <;> simp
  · simp

theorem toList_marked (l : Offers) (n k : String) (w : List Char) :
    (ownIn l n k).toList ++ '_' :: w =
      ['_'].intercalate (n.toList :: kindParts l n k ++ [w]) := by
  rw [toList_ownIn]
  unfold kindParts
  split
  · split <;> simp
  · simp

/-- A place is the words of its own name and its mark, joined. -/
theorem toList_place (h : (placesOf (ownIn l n k))[i]? = some s) :
    i < 3 ∧ s.toList = ['_'].intercalate (n.toList :: kindParts l n k ++ markParts i) := by
  match i with
  | 0 =>
    obtain rfl := Option.some.inj h
    exact ⟨by omega, by simpa [markParts] using toList_ownIn l n k⟩
  | 1 =>
    obtain rfl := Option.some.inj h
    exact ⟨by omega, by simpa [markParts] using toList_marked l n k ['a', 'l', 't']⟩
  | 2 =>
    obtain rfl := Option.some.inj h
    exact ⟨by omega, by simpa [markParts] using toList_marked l n k ['a', 'l', 't', '2']⟩
  | i + 3 => simp [placesOf] at h

/-- Names and kinds that are plain. -/
structure ArePlain (n k : String) : Prop where
  name : IsWord n
  kind : IsPlainKind k

theorem IsPlain.arePlain (h : IsPlain e) : ArePlain (stem e.1) e.2.kind := ⟨h.1.isWord_stem, h.2⟩

theorem ArePlain.not_mem_parts (h : ArePlain n k) (l : Offers) (i : Nat) :
    ∀ p ∈ n.toList :: kindParts l n k ++ markParts i, '_' ∉ p := by
  have hmark : ∀ p ∈ markParts i, '_' ∉ p := by
    unfold markParts
    split <;> simp
  have hown : ∀ p ∈ n.toList :: kindParts l n k, '_' ∉ p := by
    unfold kindParts
    split
    · split <;> simp [h.name.not_mem, h.kind.1.not_mem]
    · simp [h.name.not_mem]
  exact List.forall_mem_append.2 ⟨hown, hmark⟩

/-- **What begins like a marked own name is a place of that name.** The
word behind the words of the own name begins like a mark, and no kind does. -/
theorem eq_of_marked_parts {first : String} {v : List Char} {rest : List (List Char)}
    (hk' : IsPlainKind k') (hfirst : firstKind? l n' = some first) (hv : ['a', 'l', 't'] <+: v)
    (h : n'.toList :: kindParts l n' k' ++ markParts i' =
      n.toList :: kindParts l n k ++ v :: rest) :
    n = n' ∧ k = k' ∧ markParts i' = v :: rest := by
  obtain ⟨hn, hparts⟩ := List.cons_eq_cons.1 h
  obtain rfl := String.toList_inj.1 hn
  simp only [kindParts, hfirst] at hparts
  refine ⟨rfl, ?_⟩
  split at hparts <;> split at hparts
  · next hk' hk => exact ⟨hk.trans hk'.symm, hparts⟩
  · next hk' hk =>
    have hlength := congrArg List.length hparts
    have hshort : (markParts i').length ≤ 1 := by unfold markParts; split <;> simp
    simp at hlength
    omega
  · obtain ⟨rfl, -⟩ := List.cons_eq_cons.1 hparts
    exact absurd hv hk'.2
  · obtain ⟨hkind, hmark⟩ := List.cons_eq_cons.1 hparts
    exact ⟨(String.toList_inj.1 hkind).symm, hmark⟩

theorem kindParts_inj {first : String} (hfirst : firstKind? l n = some first)
    (h : kindParts l n k = kindParts l n k') : k = k' := by
  simp only [kindParts, hfirst] at h
  split at h <;> split at h
  · next hk hk' => exact hk.trans hk'.symm
  · cases h
  · cases h
  · exact String.toList_inj.1 (List.cons_eq_cons.1 h).1

theorem markParts_of_ne_zero (h : i ≠ 0) : ∃ w, markParts i = [w] ∧ ['a', 'l', 't'] <+: w := by
  match i with
  | 0 => exact absurd rfl h
  | 1 => exact ⟨_, rfl, by decide⟩
  | i + 2 => exact ⟨_, rfl, by decide⟩

theorem markParts_inj (hi : i < 3) (hi' : i' < 3) (h : markParts i = markParts i') : i = i' := by
  have hall : ∀ i < 3, ∀ i' < 3, markParts i = markParts i' → i = i' := by decide
  exact hall i hi i' hi' h

/-- **Places of different names, kinds or turns are different.** -/
theorem place_inj {first : String} (hp : ArePlain n k) (hp' : ArePlain n' k')
    (hfirst : firstKind? l n' = some first)
    (h : (placesOf (ownIn l n k))[i]? = some s)
    (h' : (placesOf (ownIn l n' k'))[i']? = some s) : n = n' ∧ k = k' ∧ i = i' := by
  obtain ⟨hi, hs⟩ := toList_place h
  obtain ⟨hi', hs'⟩ := toList_place h'
  -- no word holds an underscore, so the text gives back its words
  have hparts : n'.toList :: kindParts l n' k' ++ markParts i' =
      n.toList :: kindParts l n k ++ markParts i := by
    rw [← List.splitOn_intercalate '_' (hp.not_mem_parts l i) (by simp),
      ← List.splitOn_intercalate '_' (hp'.not_mem_parts l i') (by simp), ← hs, ← hs']
  obtain rfl : n' = n := String.toList_inj.1 (List.cons_eq_cons.1 hparts).1
  by_cases hi0 : i = 0
  · by_cases hi0' : i' = 0
    · subst hi0 hi0'
      have hkinds := (List.cons_eq_cons.1 (List.append_cancel_right hparts)).2
      exact ⟨rfl, (kindParts_inj hfirst hkinds).symm, rfl⟩
    · -- a marked place would be an unmarked one
      obtain ⟨w, hw, hmark⟩ := markParts_of_ne_zero hi0'
      rw [hw] at hparts
      obtain ⟨-, -, hnone⟩ := eq_of_marked_parts hp.kind hfirst hmark hparts.symm
      subst hi0
      cases hnone
  · obtain ⟨w, hw, hmark⟩ := markParts_of_ne_zero hi0
    rw [hw] at hparts
    obtain ⟨-, hk, hw'⟩ := eq_of_marked_parts hp'.kind hfirst hmark hparts
    exact ⟨rfl, hk, markParts_inj hi hi' (hw.trans hw'.symm)⟩

/-- A place that begins like an alternate of an own name is one. -/
theorem place_of_beginning {first : String} (hp : ArePlain n k) (hp' : ArePlain n' k')
    (hfirst : firstKind? l n' = some first)
    (h' : (placesOf (ownIn l n' k'))[i']? = some s)
    (hbegins : (ownIn l n k ++ "_alt").toList <+: s.toList) : n = n' ∧ k = k' ∧ i' ≠ 0 := by
  obtain ⟨hi', hs'⟩ := toList_place h'
  have hmarked := toList_marked l n k ['a', 'l', 't']
  rw [hs', String.toList_append, show "_alt".toList = '_' :: ['a', 'l', 't'] from rfl, hmarked]
    at hbegins
  obtain ⟨v, rest, hparts, hv⟩ := parts_of_prefix
    (fun p hmem => hp.not_mem_parts l 0 p (List.mem_append_left _ hmem)) (hp'.not_mem_parts l i')
    (by decide) (by decide) hbegins
  obtain ⟨rfl, rfl, hmark⟩ := eq_of_marked_parts hp'.kind hfirst hv hparts
  refine ⟨rfl, rfl, ?_⟩
  rintro rfl
  cases hmark

/-! ## One more entry -/

theorem mem_zip_iff {xs : List String} {ys : List Handle} :
    (key, h) ∈ xs.zip ys ↔ ∃ i : Nat, xs[i]? = some key ∧ ys[i]? = some h := by
  simp only [List.mem_iff_getElem?, List.getElem?_zip_eq_some]

theorem isPlaced_iff : IsPlaced l key h ↔ ∃ n k, ∃ i : Nat,
    (placesOf (ownIn l n k))[i]? = some key ∧ (streamsOf l n k)[i]? = some h := by
  simp only [IsPlaced, mem_zip_iff]

/-- A stream of a name and a kind comes from an entry. -/
theorem exists_of_streamsOf (hs : (streamsOf l n k)[i]? = some h) :
    ∃ e ∈ l, stem e.1 = n ∧ e.2.kind = k ∧ e.2 = h := by
  obtain ⟨e, he, rfl⟩ := List.mem_map.1 (List.mem_of_getElem? hs)
  obtain ⟨hmem, hboth⟩ := List.mem_filter.1 he
  obtain ⟨hname, hkind⟩ := of_decide_eq_true hboth
  exact ⟨e, hmem, hname, hkind, rfl⟩

theorem firstKind?_eq_none_iff : firstKind? l n = none ↔ ∀ e ∈ l, stem e.1 ≠ n := by
  simp [firstKind?]

/-- A name with a stream has a first kind. -/
theorem exists_firstKind? (hs : (streamsOf l n k)[i]? = some h) :
    ∃ first, firstKind? l n = some first := by
  obtain ⟨e, he, hname, -⟩ := exists_of_streamsOf hs
  exact Option.ne_none_iff_exists'.1 fun hnone => firstKind?_eq_none_iff.1 hnone e he hname

theorem arePlain_of_streamsOf (hl : ∀ e ∈ l, IsPlain e) (hs : (streamsOf l n k)[i]? = some h) :
    ArePlain n k := by
  obtain ⟨e, he, rfl, rfl, -⟩ := exists_of_streamsOf hs
  exact (hl e he).arePlain

theorem streamsOf_append (l : Offers) (e : String × Handle) (n k : String) :
    streamsOf (l ++ [e]) n k =
      streamsOf l n k ++ if stem e.1 = n ∧ e.2.kind = k then [e.2] else [] := by
  simp only [streamsOf, List.filter_append, List.map_append, List.filter_cons, List.filter_nil,
    decide_eq_true_eq]
  split <;> rfl

theorem firstKind?_append (l : Offers) (e : String × Handle) (n : String) :
    firstKind? (l ++ [e]) n =
      (firstKind? l n).or (if stem e.1 = n then some e.2.kind else none) := by
  simp only [firstKind?, List.find?_append, Option.map_or, List.find?_cons, List.find?_nil]
  by_cases hname : stem e.1 = n <;> simp [hname]

/-- A new entry leaves the own names of all streams that were there, and of its own. -/
theorem ownIn_append (hs : (streamsOf (l ++ [e]) n k)[i]? = some h) :
    ownIn (l ++ [e]) n k = ownIn l n k := by
  cases hfirst : firstKind? l n with
  | some first => simp [ownIn, firstKind?_append, hfirst]
  | none =>
    have hnew := firstKind?_eq_none_iff.1 hfirst
    obtain ⟨e', he', rfl, rfl, -⟩ := exists_of_streamsOf hs
    rcases List.mem_append.1 he' with hold | hlast
    · exact absurd rfl (hnew e' hold)
    · obtain rfl := List.mem_singleton.1 hlast
      simp [ownIn, firstKind?_append, hfirst]

/-- **What a new entry adds to the closed form**: its stream, at the next
place of its own name. -/
theorem isPlaced_append : IsPlaced (l ++ [e]) key h ↔ IsPlaced l key h ∨
    (placesOf (ownIn l (stem e.1) e.2.kind))[(streamsOf l (stem e.1) e.2.kind).length]? = some key ∧
      e.2 = h := by
  simp only [isPlaced_iff]
  constructor
  · rintro ⟨n, k, i, hkey, hs⟩
    rw [ownIn_append hs] at hkey
    rw [streamsOf_append, List.getElem?_append] at hs
    split at hs
    · exact .inl ⟨n, k, i, hkey, hs⟩
    · next hlen =>
      split at hs
      · next hsame =>
        obtain ⟨rfl, rfl⟩ := hsame
        obtain ⟨hi, rfl⟩ := List.getElem?_eq_some_iff.1 hs
        obtain rfl : i = (streamsOf l (stem e.1) e.2.kind).length := by
          rw [List.length_singleton] at hi
          omega
        exact .inr ⟨hkey, by simp⟩
      · simp at hs
  · rintro (⟨n, k, i, hkey, hs⟩ | ⟨hkey, rfl⟩)
    · have hs' : (streamsOf (l ++ [e]) n k)[i]? = some h := by
        rw [streamsOf_append, List.getElem?_append_left (List.getElem?_eq_some_iff.1 hs).1, hs]
      exact ⟨n, k, i, ownIn_append hs' ▸ hkey, hs'⟩
    · have hs' : (streamsOf (l ++ [e]) (stem e.1) e.2.kind)[
          (streamsOf l (stem e.1) e.2.kind).length]? = some e.2 := by
        rw [streamsOf_append]
        simp
      exact ⟨_, _, _, ownIn_append hs' ▸ hkey, hs'⟩

/-! ## The catalog and the closed form -/

/-- The catalog holds the streams at their places, and nothing else. -/
def Fits (c : Catalog) (l : Offers) : Prop := ∀ key h, c.get? key = some h ↔ IsPlaced l key h

theorem Fits.empty : Fits .empty [] := by
  intro key h
  simp [isPlaced_iff, streamsOf]

/-- **A place holds the stream whose turn it is**, if there is one. -/
theorem Fits.get?_place (hc : Fits c l) (hl : ∀ e ∈ l, IsPlain e) (hp : ArePlain n k)
    (hplace : (placesOf (ownIn l n k))[i]? = some s) : c.get? s = (streamsOf l n k)[i]? := by
  refine Option.ext fun h => ?_
  rw [hc s h, isPlaced_iff]
  constructor
  · rintro ⟨n', k', i', hplace', hs⟩
    obtain ⟨first, hfirst⟩ := exists_firstKind? hs
    obtain ⟨rfl, rfl, rfl⟩ := place_inj hp (arePlain_of_streamsOf hl hs) hfirst hplace hplace'
    exact hs
  · exact fun hs => ⟨n, k, i, hplace, hs⟩

/-- The first kind of a name has a stream. -/
theorem streamsOf_firstKind? {first : String} (h : firstKind? l n = some first) :
    ∃ h, (streamsOf l n first)[0]? = some h ∧ h.kind = first := by
  obtain ⟨e, he, rfl⟩ := Option.map_eq_some_iff.1 h
  have hmem : e.2 ∈ streamsOf l n e.2.kind :=
    List.mem_map_of_mem (List.mem_filter.2
      ⟨List.mem_of_find?_eq_some he, by simpa using List.find?_some he⟩)
  have hlen := List.length_pos_of_mem hmem
  refine ⟨_, List.getElem?_eq_getElem hlen, ?_⟩
  obtain ⟨e', -, -, hkind, heq⟩ := exists_of_streamsOf (List.getElem?_eq_getElem hlen)
  rw [← heq, hkind]

/-- The catalog tells the own names. -/
theorem Fits.ownName_eq (hc : Fits c l) (hl : ∀ e ∈ l, IsPlain e) (hp : ArePlain n k) :
    ownName c n k = ownIn l n k := by
  cases hfirst : firstKind? l n with
  | none =>
    have hown : ownIn l n k = n := by simp [ownIn, hfirst]
    have hget : c.get? n = none := by
      rw [hc.get?_place hl hp (i := 0) (by rw [hown]; rfl)]
      refine Option.eq_none_iff_forall_ne_some.2 fun h hs => ?_
      obtain ⟨e, he, hname, -⟩ := exists_of_streamsOf hs
      exact firstKind?_eq_none_iff.1 hfirst e he hname
    simp [ownName, hget, hown]
  | some first =>
    obtain ⟨h, hs, hkind⟩ := streamsOf_firstKind? hfirst
    have hown : ownIn l n first = n := by simp [ownIn, hfirst]
    have hget : c.get? n = some h := by
      rw [hc.get?_place hl (arePlain_of_streamsOf hl hs) (i := 0) (by rw [hown]; rfl), hs]
    simp [ownName, ownIn, hget, hfirst, hkind, eq_comm]

/-- **What begins like an alternate of an own name** are the alternates
that the streams of this name and kind have come to. -/
theorem Fits.namesBeginning_perm (hc : Fits c l) (hl : ∀ e ∈ l, IsPlain e) (hp : ArePlain n k) :
    (namesBeginning c (ownIn l n k ++ "_alt")).Perm
      (((placesOf (ownIn l n k)).take (streamsOf l n k).length).drop 1) := by
  -- nothing comes twice in either list, so it is enough to compare the members
  have hnames : (namesBeginning c (ownIn l n k ++ "_alt")).Nodup := c.nodup_names.filter _
  refine (List.perm_ext_iff_of_nodup hnames ((nodup_placesOf _).sublist
    ((List.drop_sublist _ _).trans (List.take_sublist _ _)))).2 fun s => ?_
  rw [mem_namesBeginning, Catalog.contains, List.mem_iff_getElem?, Option.isSome_iff_exists]
  simp only [List.getElem?_drop, List.getElem?_take, Option.ite_none_right_eq_some]
  constructor
  · rintro ⟨⟨h, hget⟩, hbegins⟩
    obtain ⟨n', k', i', hplace, hs⟩ := isPlaced_iff.1 ((hc s h).1 hget)
    obtain ⟨first, hfirst⟩ := exists_firstKind? hs
    obtain ⟨rfl, rfl, hi'⟩ :=
      place_of_beginning hp (arePlain_of_streamsOf hl hs) hfirst hplace hbegins
    refine ⟨i' - 1, ?_⟩
    rw [Nat.add_sub_cancel' (Nat.pos_of_ne_zero hi')]
    exact ⟨(List.getElem?_eq_some_iff.1 hs).1, hplace⟩
  · rintro ⟨i, hlen, hplace⟩
    rw [Nat.add_comm] at hlen hplace
    rw [hc.get?_place hl hp hplace]
    exact ⟨⟨_, List.getElem?_eq_getElem hlen⟩, prefix_place hplace⟩

/-- The places that are held to be taken are taken, and no others. -/
theorem Fits.takenPlaces_eq (hc : Fits c l) (hl : ∀ e ∈ l, IsPlain e) (hp : ArePlain n k) :
    takenPlaces c (ownIn l n k) = min (streamsOf l n k).length 3 := by
  have hown : c.get? (ownIn l n k) = (streamsOf l n k)[0]? := hc.get?_place hl hp rfl
  have hcount := (hc.namesBeginning_perm hl hp).length_eq
  simp only [List.length_drop, List.length_take, placesOf, List.length_cons, List.length_nil]
    at hcount
  simp only [takenPlaces, Catalog.contains, hown, alternates, hcount]
  cases streamsOf l n k with
  | nil => rfl
  | cons h hs =>
    simp only [List.getElem?_cons_zero, Option.isSome_some, if_true, List.length_cons]
    omega

/-- Own names of plain names and kinds are in normal form. -/
theorem ArePlain.isNormal_ownIn (hp : ArePlain n k) (l : Offers) :
    IsNormal (ownIn l n k) ∧ ownIn l n k ≠ "" := by
  have hlonger : IsNormal (n ++ "_" ++ k) := isNormal_append.2
    ⟨isNormal_append.2 ⟨hp.name.isNormal, by decide⟩, hp.kind.1.isNormal⟩
  unfold ownIn
  split
  · split
    · exact ⟨hp.name.isNormal, hp.name.1⟩
    · exact ⟨hlonger, by simp⟩
  · exact ⟨hp.name.isNormal, hp.name.1⟩

/-- **The next stream of a name and a kind takes the next place.** -/
theorem Fits.storedName?_eq (hc : Fits c l) (hl : ∀ e ∈ l, IsPlain e) (he : IsPlain e) :
    storedName? c e = (placesOf (ownIn l (stem e.1) e.2.kind))[
      (streamsOf l (stem e.1) e.2.kind).length]? := by
  have hp := he.arePlain
  have hturn : freeName? c (stem e.1) e.2.kind = (placesOf (ownIn l (stem e.1) e.2.kind))[
      (streamsOf l (stem e.1) e.2.kind).length]? := by
    rw [freeName?_eq, hc.ownName_eq hl hp, hc.takenPlaces_eq hl hp]
    rcases Nat.le_total (streamsOf l (stem e.1) e.2.kind).length 3 with hle | hge
    · rw [Nat.min_eq_left hle]
    · have hlength : (placesOf (ownIn l (stem e.1) e.2.kind)).length = 3 := rfl
      rw [Nat.min_eq_right hge, List.getElem?_eq_none (by omega), List.getElem?_eq_none (by omega)]
  unfold storedName?
  rw [hturn]
  cases hplace : (placesOf (ownIn l (stem e.1) e.2.kind))[
      (streamsOf l (stem e.1) e.2.kind).length]? with
  | none => rfl
  | some s =>
    obtain ⟨hnormal, hne⟩ := hp.isNormal_ownIn l
    exact normalName?_place hnormal hne hplace

/-- One entry more. -/
theorem Fits.store (hc : Fits c l) (hl : ∀ e ∈ l, IsPlain e) (he : IsPlain e) :
    Fits (store c e) (l ++ [e]) := by
  have hp := he.arePlain
  have hstored := hc.storedName?_eq hl he
  intro key h
  rw [isPlaced_append]
  cases hplace : (placesOf (ownIn l (stem e.1) e.2.kind))[
      (streamsOf l (stem e.1) e.2.kind).length]? with
  | none => simp [store_of_none (hstored.trans hplace), hc key h]
  | some s =>
    rw [store_of_some (hstored.trans hplace)]
    by_cases hkey : key = s
    · -- the place was free, for its turn had not come
      subst hkey
      have hfree : c.get? key = none := by rw [hc.get?_place hl hp hplace]; simp
      simp [← hc key h, hfree]
    · simp [c.get?_insert_of_ne hkey, hc key h, Ne.symm hkey]

/-- **All entries more.** -/
theorem Fits.foldl {l' : Offers} (hc : Fits c l) (hl : ∀ e ∈ l, IsPlain e)
    (hl' : ∀ e ∈ l', IsPlain e) : Fits (l'.foldl Stream.store c) (l ++ l') := by
  induction l' generalizing c l with
  | nil => rwa [List.append_nil]
  | cons e l' ih =>
    obtain ⟨he, hl'⟩ := List.forall_mem_cons.1 hl'
    have hle : ∀ x ∈ l ++ [e], IsPlain x :=
      List.forall_mem_append.2 ⟨hl, by simpa using he⟩
    simpa using ih (hc.store hl he) hle hl'

/-! ## Merging -/

/-- In an order of preference the first kind of a name is its most preferred one. -/
theorem rank_firstKind?_le {rank : String → Nat} {first : String}
    (hl : l.Pairwise fun a b => ranksBefore rank a b = true) (hfirst : firstKind? l n = some first)
    (he : e ∈ l) (hname : stem e.1 = n) : rank first ≤ rank e.2.kind := by
  obtain ⟨f, hf, rfl⟩ := Option.map_eq_some_iff.1 hfirst
  obtain ⟨-, before, after, rfl, hbefore⟩ := List.find?_eq_some_iff_append.1 hf
  rcases List.mem_append.1 he with he | he
  · exact absurd hname (by simpa using hbefore e he)
  · rcases List.mem_cons.1 he with rfl | he
    · exact Nat.le_refl _
    · exact of_decide_eq_true ((List.pairwise_cons.1 (List.pairwise_append.1 hl).2.1).1 e he)

/-- **Where merging puts plain names and kinds.** In the order of
preference, the first three streams of a name and a kind are at the three
places of their own name, and there are no other streams. So the plain
name belongs to a stream of the most preferred kind that has this name. -/
theorem merge_places (offers : Offers) (kinds : Option (List String))
    (h : ∀ e ∈ wanted offers kinds, IsPlain e) :
    let rank := kindRank (kindsFor offers kinds)
    let ordered := (wanted offers kinds).mergeSort (ranksBefore rank)
    (∀ key handle, (merge offers kinds).get? key = some handle ↔ IsPlaced ordered key handle) ∧
      ∀ e ∈ wanted offers kinds, ∃ best ∈ wanted offers kinds, stem best.1 = stem e.1 ∧
        (merge offers kinds).get? (stem e.1) = some best.2 ∧
        ∀ other ∈ wanted offers kinds, stem other.1 = stem e.1 →
          rank best.2.kind ≤ rank other.2.kind := by
  intro rank ordered
  have hordered : mergeOrder offers kinds = ordered := mergeOrder_eq_mergeSort offers kinds
  have hmem : ∀ e, e ∈ ordered ↔ e ∈ wanted offers kinds := fun _ => List.mem_mergeSort
  have hplain : ∀ e ∈ ordered, IsPlain e := fun e he => h e ((hmem e).1 he)
  have hfits : Fits (merge offers kinds) ordered := by
    rw [merge_eq_foldl, hordered]
    exact Fits.empty.foldl nofun hplain
  refine ⟨hfits, fun e he => ?_⟩
  cases hfirst : firstKind? ordered (stem e.1) with
  | none => exact absurd rfl (firstKind?_eq_none_iff.1 hfirst e ((hmem e).2 he))
  | some first =>
    obtain ⟨_, hs, rfl⟩ := streamsOf_firstKind? hfirst
    obtain ⟨best, hbest, hname, -, rfl⟩ := exists_of_streamsOf hs
    have hown : ownIn ordered (stem e.1) best.2.kind = stem e.1 := by simp [ownIn, hfirst]
    refine ⟨best, (hmem best).1 hbest, hname, ?_, fun other hother hsame => ?_⟩
    · rw [hfits.get?_place hplain (arePlain_of_streamsOf hplain hs) (i := 0) (by rw [hown]; rfl),
        hs]
    · exact rank_firstKind?_le (hordered ▸ pairwise_mergeOrder offers kinds) hfirst
        ((hmem other).2 hother) hsame

/-- In a crowd the preferred transport has the plain name, and the third
stream of the other one has the second alternate of its own name. -/
theorem crowd_places : (∀ e ∈ wanted crowd none, IsPlain e) ∧
    IsPlaced ((wanted crowd none).mergeSort (ranksBefore (kindRank (kindsFor crowd none))))
      "vod_http_alt2" ⟨"http", none, 4⟩ ∧
    (merge crowd none).entries = [("live", ⟨"hls", none, 1⟩), ("vod", ⟨"rtmp", none, 3⟩),
      ("vod_http", ⟨"http", none, 0⟩), ("vod_http_alt", ⟨"http", none, 2⟩),
      ("vod_http_alt2", ⟨"http", none, 4⟩)] :=
  have hall : ∀ e ∈ wanted crowd none, IsPlain e := by decide
  have hentries : (merge crowd none).entries = [("live", ⟨"hls", none, 1⟩),
      ("vod", ⟨"rtmp", none, 3⟩), ("vod_http", ⟨"http", none, 0⟩),
      ("vod_http_alt", ⟨"http", none, 2⟩), ("vod_http_alt2", ⟨"http", none, 4⟩)] := by
    rw [merge_eq_mergedSoFar, mergeOrder_crowd]
    decide
  ⟨hall, ((merge_places crowd none hall).1 _ _).1 (by rw [Catalog.get?, hentries]; rfl), hentries⟩

end StreamFinder.Stream
