import StreamFinder.Plugin.Registry.History
/-!
# What a registry knows

A registry knows what was registered since it was last removed, and nothing
else. Its names are in the order in which they came up, so a class that is
registered under a known name does not move, neither does a class that is
registered under another name as well, and a name that was removed and comes
back goes to the end. This is proved deed by deed (`Knows.register`,
`Knows.unregister`, `knows_empty`); every call comes down to some of these.
-/

namespace StreamFinder.Plugin.Registry

variable {P : Type} {r : Registry P} {c : PluginClass P} {history : List (Deed P)}
variable {name : String}

/-! ## What an operation leaves among the classes -/

theorem get?_eq_none_iff : r.get? name = none ↔ name ∉ r.names := by
  simp [get?, names]

theorem contains_eq_true_iff : r.contains name = true ↔ name ∈ r.names := by
  rw [contains, Option.isSome_iff_ne_none, ne_eq, get?_eq_none_iff, Decidable.not_not]

theorem names_register (r : Registry P) (c : PluginClass P) :
    (r.register c).2.names = if c.name ∈ r.names then r.names else r.names ++ [c.name] := by
  unfold names
  change (putInto c r.classes).map (·.name) = _
  induction r.classes with
  | nil => rfl
  | cons d rest ih =>
    by_cases hd : d.name = c.name
    · simp [putInto, hd]
    · have hne : ¬ c.name = d.name := fun h => hd h.symm
      simp only [putInto, if_neg hd, List.map_cons, ih, List.mem_cons, hne, false_or]
      split <;> rfl

theorem get?_register (r : Registry P) (c : PluginClass P) (name : String) :
    (r.register c).2.get? name = if c.name = name then some c else r.get? name := by
  change (putInto c r.classes).find? (·.name = name) = if c.name = name then some c else _
  unfold get?
  induction r.classes with
  | nil => by_cases hc : c.name = name <;> simp [putInto, hc]
  | cons d rest ih =>
    by_cases hd : d.name = c.name
    · by_cases hc : c.name = name <;> simp [putInto, hd, hc]
    · rw [putInto, if_neg hd]
      by_cases hn : d.name = name
      · have hc : ¬ c.name = name := fun h => hd (hn.trans h.symm)
        simp [hn, hc]
      · simpa [hn] using ih

theorem getElem?_putInto {classes : List (PluginClass P)} (hnodup : (classes.map (·.name)).Nodup)
    {i : Nat} {d : PluginClass P} (hd : classes[i]? = some d) :
    (putInto c classes)[i]? = some (if d.name = c.name then c else d) := by
  induction classes generalizing i with
  | nil => cases hd
  | cons e rest ih =>
    obtain ⟨hfresh, hrest⟩ := List.nodup_cons.1 hnodup
    by_cases he : e.name = c.name
    · rw [putInto, if_pos he]
      cases i with
      | zero =>
        cases hd
        simp [he]
      | succ i =>
        -- the name of the class in front does not come again
        have hmem : d.name ∈ rest.map (·.name) :=
          List.mem_map_of_mem (List.mem_of_getElem? hd)
        have hne : d.name ≠ c.name := by
          intro h
          rw [h, ← he] at hmem
          exact hfresh hmem
        rw [if_neg hne]
        exact hd
    · rw [putInto, if_neg he]
      cases i with
      | zero =>
        cases hd
        simp [he]
      | succ i => exact ih hrest hd

theorem putInto_of_notMem {classes : List (PluginClass P)}
    (h : c.name ∉ classes.map (·.name)) : putInto c classes = classes ++ [c] := by
  induction classes with
  | nil => rfl
  | cons d rest ih =>
    rw [List.map_cons, List.mem_cons, not_or] at h
    rw [putInto, if_neg fun hd => h.1 hd.symm, ih h.2, List.cons_append]

/-- **Registering puts the class among the others**, and moves none of them. -/
theorem putAmong_register (hnodup : r.names.Nodup) (c : PluginClass P) :
    PutAmong c r (r.register c).2 where
  kept _ _ hd := getElem?_putInto hnodup hd
  added h := by
    have hnew : c.name ∉ r.names := fun hn => by
      rw [contains_eq_true_iff.2 hn] at h
      cases h
    change (putInto c r.classes)[r.classes.length]? = some c
    rw [putInto_of_notMem hnew, List.getElem?_concat_length]
  size := by
    have hlength (s : Registry P) : s.size = s.names.length := (List.length_map _).symm
    rw [hlength, hlength, names_register]
    by_cases hc : c.name ∈ r.names
    · rw [if_pos hc, if_pos (contains_eq_true_iff.2 hc)]
    · rw [if_neg hc, if_neg (mt contains_eq_true_iff.1 hc), List.length_append]
      rfl

theorem names_unregister (r : Registry P) (name : String) :
    (r.unregister name).2.names = r.names.eraseP (· = name) := by
  rw [names, names, List.eraseP_map]
  rfl

/-- Of distinct names, only the one that is removed is gone. -/
theorem get?_unregister (hnodup : r.names.Nodup) (name other : String) :
    (r.unregister name).2.get? other = if name = other then none else r.get? other := by
  obtain ⟨classes⟩ := r
  change (classes.eraseP (·.name = name)).find? (·.name = other) =
    if name = other then none else classes.find? (·.name = other)
  induction classes with
  | nil => simp
  | cons d rest ih =>
    obtain ⟨hfresh, hrest⟩ := List.nodup_cons.1 hnodup
    by_cases hd : d.name = name
    · have hgone : name ∉ rest.map (·.name) := hd ▸ hfresh
      by_cases ho : name = other
      · subst ho
        simpa [hd] using hgone
      · simp [hd, ho]
    · rw [List.eraseP_cons_of_neg (by simpa using hd)]
      by_cases ho : d.name = other
      · have hne : ¬ name = other := fun h => hd (ho.trans h.symm)
        simp [ho, hne]
      · simpa [ho] using ih hrest

/-! ## Looking back -/

@[simp] theorem registrations_registered (name : String) (c : PluginClass P) :
    registrations name (.registered c :: history) =
      if c.name = name then c :: registrations name history else registrations name history := by
  by_cases hc : c.name = name <;>
    simp [registrations, Deed.removes, Deed.registeredAs?, hc]

@[simp] theorem registrations_removed (name other : String) :
    registrations name (.removed other :: history) =
      if other = name then [] else registrations name history := by
  by_cases ho : other = name
  · simp [registrations, Deed.removes, ho]
  · have hkept : (!(Deed.removed other : Deed P).removes name) = true := by
      simp [Deed.removes, ho]
    rw [if_neg ho, registrations, List.takeWhile_cons, if_pos hkept]
    rfl

@[simp] theorem registrations_cleared (name : String) :
    registrations name (.cleared :: history) = [] := rfl

/-- What was registered counts until it is removed. -/
theorem registrations_ne_nil {later earlier : List (Deed P)} (hc : c.name = name)
    (h : ∀ d ∈ later, d.removes name = false) :
    registrations name (later ++ .registered c :: earlier) ≠ [] := by
  induction later with
  | nil => simp [hc]
  | cons d later ih =>
    have hrest := ih fun e he => h e (List.mem_cons_of_mem _ he)
    cases d with
    | registered e =>
      rw [List.cons_append, registrations_registered]
      split
      · exact List.cons_ne_nil _ _
      · exact hrest
    | removed other =>
      have hne : ¬ other = name := by simpa [Deed.removes] using h _ List.mem_cons_self
      rw [List.cons_append, registrations_removed, if_neg hne]
      exact hrest
    | cleared => exact absurd (h _ List.mem_cons_self) (by simp [Deed.removes])

theorem CameUp.lt_length {time : Nat} (h : CameUp history name time) : time < history.length := by
  obtain ⟨later, c, earlier, rfl, -, -, -, rfl⟩ := h
  rw [List.length_append, List.length_cons]
  omega

/-- A name comes up with its first registration. -/
theorem cameUp_of_new (hc : registrations c.name history = []) :
    CameUp (.registered c :: history) c.name history.length :=
  ⟨[], c, history, rfl, rfl, nofun, hc, rfl⟩

/-- It came up when it did, until it is removed. -/
theorem CameUp.cons {time : Nat} {d : Deed P} (h : CameUp history name time)
    (hd : d.removes name = false) : CameUp (d :: history) name time := by
  obtain ⟨later, c, earlier, rfl, hname, hlater, hfirst, htime⟩ := h
  exact ⟨d :: later, c, earlier, rfl, hname, List.forall_mem_cons.2 ⟨hd, hlater⟩, hfirst, htime⟩

/-- **A name came up once since it was last removed.** -/
theorem CameUp.unique {m n : Nat} (hm : CameUp history name m) (hn : CameUp history name n) :
    m = n := by
  -- a registration that is not removed leaves no first one behind it
  have hle {m n : Nat} (hm : CameUp history name m) (hn : CameUp history name n) : ¬ m < n := by
    obtain ⟨later, c, earlier, rfl, hname, hlater, -, rfl⟩ := hm
    obtain ⟨later', c', earlier', heq, -, -, hfirst, rfl⟩ := hn
    intro hlt
    obtain ⟨between, hbetween, hrest⟩ | ⟨between, hbetween, hrest⟩ :=
      List.append_eq_append_iff.1 heq
    · have hlength := congrArg List.length hrest
      rw [List.length_cons, List.length_append, List.length_cons] at hlength
      omega
    · cases between with
      | nil =>
        cases hrest
        omega
      | cons e between =>
        rw [List.cons_append, List.cons.injEq] at hrest
        refine registrations_ne_nil hname (fun d hd => ?_) (hrest.2 ▸ hfirst)
        exact hlater d (hbetween ▸ List.mem_append_right _ (List.mem_cons_of_mem _ hd))
  have := hle hm hn
  have := hle hn hm
  omega

theorem CameBefore.ne {a b : String} (h : CameBefore history a b) : a ≠ b := by
  rintro rfl
  obtain ⟨m, n, hm, hn, hlt⟩ := h
  have := hm.unique hn
  omega

theorem CameBefore.cons {a b : String} {d : Deed P} (h : CameBefore history a b)
    (ha : d.removes a = false) (hb : d.removes b = false) : CameBefore (d :: history) a b := by
  obtain ⟨m, n, hm, hn, hlt⟩ := h
  exact ⟨m, n, hm.cons ha, hn.cons hb, hlt⟩

/-! ## What a registry knows -/

/-- How a registry goes with its history. -/
structure Knows (r : Registry P) (history : List (Deed P)) : Prop where
  found : ∀ name, r.get? name = (registrations name history).head?
  cameUp : ∀ name ∈ r.names, ∃ time, CameUp history name time
  ordered : r.names.Pairwise (CameBefore history)

namespace Knows

theorem nodup (h : Knows r history) : r.names.Nodup := h.ordered.imp CameBefore.ne

theorem registrations_eq_nil_iff (h : Knows r history) :
    registrations name history = [] ↔ name ∉ r.names := by
  rw [← List.head?_eq_none_iff, ← h.found, get?_eq_none_iff]

theorem register (h : Knows r history) (c : PluginClass P) :
    Knows (r.register c).2 (.registered c :: history) where
  found name := by
    rw [get?_register, registrations_registered, h.found]
    split <;> rfl
  cameUp name hname := by
    by_cases hn : name ∈ r.names
    · obtain ⟨time, ht⟩ := h.cameUp name hn
      exact ⟨time, ht.cons rfl⟩
    · have hc : name = c.name := by
        rw [names_register] at hname
        split at hname
        · exact absurd hname hn
        · simpa [hn] using hname
      subst hc
      exact ⟨_, cameUp_of_new (h.registrations_eq_nil_iff.2 hn)⟩
  ordered := by
    have hold : r.names.Pairwise (CameBefore (.registered c :: history)) :=
      h.ordered.imp fun hab => hab.cons rfl rfl
    rw [names_register]
    split
    · exact hold
    · next hc =>
      have hnew := cameUp_of_new (h.registrations_eq_nil_iff.2 hc)
      refine List.pairwise_append.2 ⟨hold, List.pairwise_singleton _ _, ?_⟩
      intro name hname other ho
      obtain ⟨time, ht⟩ := h.cameUp name hname
      rw [List.mem_singleton.1 ho]
      exact ⟨time, _, ht.cons rfl, hnew, ht.lt_length⟩

theorem unregister (h : Knows r history) (name : String) :
    Knows (r.unregister name).2 (.removed name :: history) := by
  have hsub : (r.unregister name).2.names.Sublist r.names := by
    rw [names_unregister]
    exact List.eraseP_sublist
  have hkept {other : String} (ho : other ∈ (r.unregister name).2.names) :
      (Deed.removed name : Deed P).removes other = false := by
    have hfound := mt get?_eq_none_iff.1 (not_not_intro ho)
    rw [get?_unregister h.nodup] at hfound
    simpa [Deed.removes] using fun heq => hfound (if_pos heq)
  refine ⟨fun other => ?_, fun other ho => ?_, ?_⟩
  · rw [get?_unregister h.nodup, registrations_removed, h.found]
    split <;> rfl
  · obtain ⟨time, ht⟩ := h.cameUp other (hsub.subset ho)
    exact ⟨time, ht.cons (hkept ho)⟩
  · refine (h.ordered.sublist hsub).imp_of_mem fun ha hb hab => ?_
    exact hab.cons (hkept ha) (hkept hb)

end Knows

theorem knows_empty (h : ∀ name : String, registrations name history = []) :
    Knows (empty : Registry P) history where
  found name := by
    rw [h name]
    rfl
  cameUp name hname := nomatch hname
  ordered := .nil

namespace Knows

theorem apply (h : Knows r history) (a : Change P) : Knows (r.apply a) (r.deeds a ++ history) := by
  cases a with
  | register c => exact h.register c
  | unregister name => exact h.unregister name
  | rename name new =>
    cases hc : r.get? name with
    | none => simpa [Registry.apply, copyAs, deeds, hc] using h
    | some c => simpa [Registry.apply, copyAs, deeds, hc] using h.register (c.renamed new)
  | clear => exact knows_empty registrations_cleared

theorem registerAll (h : Knows r history) (classes : List (PluginClass P)) :
    Knows (classes.foldl (fun r c => (r.register c).2) r)
      ((classes.map Deed.registered).reverse ++ history) := by
  induction classes generalizing r history with
  | nil => exact h
  | cons c rest ih =>
    rw [List.map_cons, List.reverse_cons, List.append_assoc]
    exact ih (h.register c)

/-- **Every call does what its deeds say.** -/
theorem next (h : Knows r history) (a : Call P) : Knows (r.next a).1 ((r.next a).2 ++ history) := by
  cases a with
  | change c => exact h.apply c
  | collect classes =>
    have hempty : Knows (empty : Registry P) (.cleared :: history) :=
      knows_empty registrations_cleared
    have hall := hempty.registerAll classes
    simpa [Registry.next, ofList] using hall

end Knows

theorem knows_play (calls : List (Call P)) : Knows (play calls).1 (play calls).2 := by
  induction calls with
  | nil => exact knows_empty fun _ => rfl
  | cons a earlier ih => exact ih.next a

/-- **A registry knows what was registered since it was last removed.** After
any calls, the names are distinct and in the order in which they came up,
each at one time.
A name is found exactly when a class was registered under it since it was
last removed, and stands for the last one of these; so do the answers of
unregistering and registering. A registered class takes the place of the
one of its name, or else comes last, and moves nobody; a rename registers
the class under its new name as well, and an unknown name renames nothing. -/
theorem knows_what_was_registered (calls : List (Call P)) :
    let r := (play calls).1
    let history := (play calls).2
    r.names.Nodup ∧
    (∀ name ∈ r.names, ∃ time, ∀ n, CameUp history name n ↔ n = time) ∧
    r.names.Pairwise (CameBefore history) ∧
    (∀ name, r.get? name = (registrations name history).head? ∧
      (r.contains name = true ↔ registrations name history ≠ []) ∧
      (r.unregister name).1 = (registrations name history).head?) ∧
    (∀ c, (r.register c).1 = (registrations c.name history).head? ∧
      PutAmong c r (r.register c).2) ∧
    ∀ name new,
      match (registrations name history).head? with
      | none => r.apply (.rename name new) = r
      | some c => PutAmong (c.renamed new) r (r.apply (.rename name new)) := by
  intro r history
  have h : Knows r history := knows_play calls
  refine ⟨h.nodup, fun name hname => ?_, h.ordered,
    fun name => ⟨h.found name, ?_, h.found name⟩,
    fun c => ⟨h.found c.name, putAmong_register h.nodup c⟩, fun name new => ?_⟩
  · obtain ⟨time, ht⟩ := h.cameUp name hname
    exact ⟨time, fun n => ⟨fun hn => hn.unique ht, fun hn => hn ▸ ht⟩⟩
  · rw [contains_eq_true_iff, ne_eq, h.registrations_eq_nil_iff, Decidable.not_not]
  · rw [← h.found name]
    cases hc : r.get? name with
    | none => simp only [Registry.apply, copyAs, hc]
    | some c =>
      simp only [Registry.apply, copyAs, hc]
      exact putAmong_register h.nodup (c.renamed new)

/-- A class that claims nothing. -/
def idle (name : String) : PluginClass Input := ⟨name, .matchers [], id⟩

/-- Two classes are collected, the first one is removed and comes back, and
then the other one is registered under a third name as well. -/
def comeback : List (Call Input) :=
  [.change (.rename "b" "c"), .change (.register (idle "a")), .change (.unregister "a"),
    .collect [idle "a", idle "b"]]

/-- The name that comes back is behind the one that has stayed, and the new
name is behind both. -/
theorem returning_name_comes_last :
    let r := (play comeback).1
    r.names = ["b", "a", "c"] ∧ CameBefore (play comeback).2 "b" "a" ∧
      CameBefore (play comeback).2 "a" "c" ∧ r.contains "b" = true ∧
      PutAmong (idle "b") r (r.register (idle "b")).2 := by
  intro r
  obtain ⟨-, -, hordered, hfound, hregister, -⟩ := knows_what_was_registered comeback
  have hnames : r.names = ["b", "a", "c"] := by decide
  rw [hnames] at hordered
  obtain ⟨hb, hrest⟩ := List.pairwise_cons.1 hordered
  obtain ⟨ha, -⟩ := List.pairwise_cons.1 hrest
  exact ⟨hnames, hb "a" (by decide), ha "c" (by decide),
    (hfound "b").2.1.2 (List.ne_nil_of_length_pos (by decide)), (hregister (idle "b")).2⟩

end StreamFinder.Plugin.Registry
