import Mathlib.Data.List.TakeWhile
import StreamFinder.Session.Basic
/-!
# Addresses in normal form

What may stand before the first colon of an address decides whether it has
a scheme, and one equivalence says which texts those are
(`splitScheme_eq_some_iff`). An address that is given a scheme has one by
the same rule, since two slashes are no port; so giving it a scheme again
changes nothing, and a session knows an address and its normal form under
one key. The address that lends its scheme is read by a rule of its own: it
lends what stands before its colon even where that is a host with a port.
-/

namespace StreamFinder.Session

/-! ## What stands before the colon -/

/-- A text that may be a scheme: a letter, and then letters, digits and the
marks `+`, `.` and `-`. -/
def IsSchemeName (name : List Char) : Prop :=
  ∃ first rest, name = first :: rest ∧ first.isAlpha = true ∧ ∀ c ∈ rest, isSchemeChar c = true

/-- An address begins with a name and a colon. -/
structure Named (url name after : List Char) : Prop where
  split : url = name ++ ':' :: after
  isName : IsSchemeName name

/-- What follows a colon may be a port. -/
def BeginsLikePort (after : List Char) : Prop := ∃ d rest, after = d :: rest ∧ d.isDigit = true

/-- An address has a scheme: a name before a colon, and no port behind it. -/
def HasScheme (url : List Char) : Prop :=
  ∃ name after, Named url name after ∧ ¬ BeginsLikePort after

variable {url name after : List Char}

theorem beginsWithDigit_iff : beginsWithDigit after = true ↔ BeginsLikePort after := by
  cases after with
  | nil => simp [beginsWithDigit, BeginsLikePort]
  | cons d rest => simp [beginsWithDigit, BeginsLikePort]

/-- **An address is split at its first colon**, if a name stands before it. -/
theorem splitScheme_eq_some_iff : splitScheme url = some (name, after) ↔ Named url name after := by
  constructor
  · intro h
    cases url with
    | nil => cases h
    | cons c rest =>
      simp only [splitScheme] at h
      split at h
      · next hc =>
        split at h
        · next behind hrest =>
          cases h
          refine ⟨?_, c, _, rfl, hc, fun d hd => List.mem_takeWhile_imp hd⟩
          rw [List.cons_append, ← hrest, List.takeWhile_append_dropWhile]
        · cases h
      · cases h
  · rintro ⟨rfl, first, rest, rfl, hfirst, hrest⟩
    have hcolon : isSchemeChar ':' = false := by decide
    have hdrop : (rest ++ ':' :: after).dropWhile isSchemeChar = ':' :: after := by
      rw [List.dropWhile_append_of_pos hrest, List.dropWhile_cons_of_neg (by simp [hcolon])]
    have htake : (rest ++ ':' :: after).takeWhile isSchemeChar = rest := by
      rw [List.takeWhile_append_of_pos hrest, List.takeWhile_cons_of_neg (by simp [hcolon]),
        List.append_nil]
    simp [splitScheme, hfirst, hdrop, htake]

theorem splitScheme_eq_none_iff :
    splitScheme url = none ↔ ∀ name after, ¬ Named url name after := by
  simp only [Option.eq_none_iff_forall_ne_some, Prod.forall, ne_eq, splitScheme_eq_some_iff]

/-- There is one way to read a name. -/
theorem Named.inj {name' after' : List Char} (h : Named url name after)
    (h' : Named url name' after') : name = name' ∧ after = after' := by
  have heq := (splitScheme_eq_some_iff.2 h).symm.trans (splitScheme_eq_some_iff.2 h')
  exact Prod.mk.inj (Option.some.inj heq)

theorem hasScheme_iff : hasScheme url = true ↔ HasScheme url := by
  unfold hasScheme
  cases hsplit : splitScheme url with
  | none =>
    have hno : ¬ HasScheme url := fun ⟨name, after, hnamed, _⟩ =>
      splitScheme_eq_none_iff.1 hsplit name after hnamed
    simp [hno]
  | some found =>
    obtain ⟨name, after⟩ := found
    have hnamed := splitScheme_eq_some_iff.1 hsplit
    simp only [Bool.not_eq_true', Bool.eq_false_iff, ne_eq, beginsWithDigit_iff]
    constructor
    · exact fun hport => ⟨name, after, hnamed, hport⟩
    · rintro ⟨name', after', hnamed', hport⟩
      obtain ⟨-, rfl⟩ := hnamed.inj hnamed'
      exact hport

/-! ## The scheme that is lent -/

theorem lentScheme_of_named (h : Named url name after) : lentScheme url = name := by
  rw [lentScheme, splitScheme_eq_some_iff.2 h]

theorem lentScheme_of_unnamed (h : ∀ name after, ¬ Named url name after) :
    lentScheme url = defaultScheme := by
  rw [lentScheme, splitScheme_eq_none_iff.2 h]

theorem isSchemeName_defaultScheme : IsSchemeName defaultScheme := by
  have hrest : ['t', 't', 'p', 's'].all isSchemeChar = true := by decide
  exact ⟨'h', ['t', 't', 'p', 's'], rfl, by decide, List.all_eq_true.1 hrest⟩

theorem isSchemeName_lentScheme (url : List Char) : IsSchemeName (lentScheme url) := by
  by_cases h : ∃ name after, Named url name after
  · obtain ⟨name, after, hnamed⟩ := h
    rw [lentScheme_of_named hnamed]
    exact hnamed.isName
  · rw [lentScheme_of_unnamed fun name after hnamed => h ⟨name, after, hnamed⟩]
    exact isSchemeName_defaultScheme

/-! ## The normal form -/

variable {current target : String}

theorem updateScheme_of_hasScheme (h : HasScheme target.toList) :
    updateScheme current target = target :=
  if_pos (hasScheme_iff.2 h)

theorem toList_updateScheme (h : ¬ HasScheme target.toList) :
    (updateScheme current target).toList =
      lentScheme current.toList ++ ':' :: '/' :: '/' :: dropSlashes target.toList := by
  have hno : ¬ hasScheme target.toList = true := fun hyes => h (hasScheme_iff.1 hyes)
  rw [updateScheme, if_neg hno, String.toList_ofList]

/-- **An address that is given a scheme has one**: what follows the colon
are slashes. -/
theorem hasScheme_updateScheme (current target : String) :
    HasScheme (updateScheme current target).toList := by
  by_cases h : HasScheme target.toList
  · rw [updateScheme_of_hasScheme h]
    exact h
  · refine ⟨_, _, ⟨toList_updateScheme h, isSchemeName_lentScheme _⟩, ?_⟩
    rintro ⟨d, rest, heq, hd⟩
    cases heq
    exact absurd hd (by decide)

theorem updateScheme_updateScheme (c current target : String) :
    updateScheme c (updateScheme current target) = updateScheme current target :=
  updateScheme_of_hasScheme (hasScheme_updateScheme current target)

theorem updateScheme_eq_self_iff : updateScheme current target = target ↔
    HasScheme target.toList := by
  refine ⟨fun h => ?_, updateScheme_of_hasScheme⟩
  have hnew := hasScheme_updateScheme current target
  rwa [h] at hnew

/-- Two slashes are left out where an address begins with them. -/
theorem dropSlashes_cases (url : List Char) :
    (∃ rest, url = '/' :: '/' :: rest ∧ dropSlashes url = rest) ∨
      (¬ ['/', '/'] <+: url ∧ dropSlashes url = url) := by
  unfold dropSlashes
  split
  · next rest => exact Or.inl ⟨rest, rfl, rfl⟩
  · next hother =>
    refine Or.inr ⟨?_, rfl⟩
    rintro ⟨rest, heq⟩
    exact hother rest heq.symm

theorem normalized_normalized (url : String) : normalized (normalized url) = normalized url :=
  updateScheme_updateScheme _ _ _

/-- A session reads nothing of an address but its normal form. -/
theorem resolve_congr {P : Type} (s : Session P) (redirects : Redirects) {url url' : String}
    (follow : Bool) (h : normalized url = normalized url') :
    s.resolve redirects url follow = s.resolve redirects url' follow := by
  unfold resolve
  rw [h]

/-- **The normal form of an address is its own normal form.** Whatever
address lends the scheme, the result has one and is not changed again. An
address stays as it is if it has a scheme: a letter, more letters, digits
and marks, and a colon that no digit follows. Otherwise it is given a scheme
and two slashes, which are not doubled. So a session keeps an address and
its normal form under one key in each mode, and resolves them alike. -/
theorem normal_form_is_fixed (current target : String) :
    let result := updateScheme current target
    HasScheme result.toList ∧
    (∀ c, updateScheme c result = result) ∧
    (result = target ↔ HasScheme target.toList) ∧
    (result = target ∨ ∃ scheme, IsSchemeName scheme ∧
      ((∃ rest, target.toList = '/' :: '/' :: rest ∧
          result.toList = scheme ++ ':' :: '/' :: '/' :: rest) ∨
        (¬ ['/', '/'] <+: target.toList ∧
          result.toList = scheme ++ ':' :: '/' :: '/' :: target.toList))) ∧
    ∀ (P : Type) (s : Session P) (redirects : Redirects) (follow : Bool),
      (⟨normalized (normalized target), follow⟩ : CacheKey) = ⟨normalized target, follow⟩ ∧
      s.resolve redirects (normalized target) follow = s.resolve redirects target follow := by
  intro result
  have hnormal := normalized_normalized target
  refine ⟨hasScheme_updateScheme current target, fun c => updateScheme_updateScheme c _ _,
    updateScheme_eq_self_iff, ?_, fun P s redirects follow =>
      ⟨by rw [hnormal], resolve_congr s redirects follow hnormal⟩⟩
  by_cases h : HasScheme target.toList
  · exact Or.inl (updateScheme_of_hasScheme h)
  · have hresult : result.toList = _ := toList_updateScheme h
    refine Or.inr ⟨lentScheme current.toList, isSchemeName_lentScheme _, ?_⟩
    rcases dropSlashes_cases target.toList with ⟨rest, htarget, hrest⟩ | ⟨hother, hrest⟩
    · exact Or.inl ⟨rest, htarget, by rw [hresult, hrest]⟩
    · exact Or.inr ⟨hother, by rw [hresult, hrest]⟩

/-! ## A host with a port -/

/-- The scheme that an address lends if it is judged like any other: its own
if it has one, and else that of addresses that lend none. -/
inductive LendsFairly (current : List Char) : List Char → Prop where
  | own {name after : List Char} :
    Named current name after → ¬ BeginsLikePort after → LendsFairly current name
  | default : ¬ HasScheme current → LendsFairly current defaultScheme

/-- A host before a colon and a port. -/
def IsHostWithPort (current host : List Char) : Prop :=
  ∃ port, Named current host port ∧ BeginsLikePort port

theorem IsHostWithPort.not_hasScheme {current host : List Char}
    (h : IsHostWithPort current host) : ¬ HasScheme current := by
  obtain ⟨port, hnamed, hport⟩ := h
  rintro ⟨name, after, hnamed', hno⟩
  obtain ⟨-, rfl⟩ := hnamed.inj hnamed'
  exact hno hport

theorem lentScheme_of_isHostWithPort {current host : List Char}
    (h : IsHostWithPort current host) : lentScheme current = host := by
  obtain ⟨port, hnamed, -⟩ := h
  exact lentScheme_of_named hnamed

/-- What is lent is fair unless the name of a host is lent. -/
theorem lendsFairly_lentScheme_iff {current : List Char} :
    LendsFairly current (lentScheme current) ↔
      ∀ host, IsHostWithPort current host → host = defaultScheme := by
  constructor
  · intro h host hhost
    have hlent : lentScheme current = host := lentScheme_of_isHostWithPort hhost
    generalize lentScheme current = given at h hlent
    cases h with
    | own hnamed hport => exact absurd ⟨_, _, hnamed, hport⟩ hhost.not_hasScheme
    | default => exact hlent.symm
  · intro h
    by_cases hscheme : HasScheme current
    · obtain ⟨name, after, hnamed, hport⟩ := hscheme
      rw [lentScheme_of_named hnamed]
      exact .own hnamed hport
    · have hlent : lentScheme current = defaultScheme := by
        by_cases hnamed : ∃ name after, Named current name after
        · -- a name before a colon and no scheme: there is a port behind the colon
          obtain ⟨name, after, hnamed⟩ := hnamed
          have hport : BeginsLikePort after := by
            by_contra hno
            exact hscheme ⟨name, after, hnamed, hno⟩
          rw [lentScheme_of_named hnamed]
          exact h name ⟨after, hnamed, hport⟩
        · exact lentScheme_of_unnamed fun name after hname => hnamed ⟨name, after, hname⟩
      rw [hlent]
      exact .default hscheme

/-- **A host with a port lends its name as a scheme.** An address without a
scheme is given one, two slashes and what it was, and the scheme is the own
one of the address that lends it, or the default one if that has none; but
a host before a port, which is no scheme of its own, is lent as if it were
one. So the scheme is the fair one unless such a host is not called like
the default scheme. -/
theorem host_with_port_is_lent {current target : String} (h : ¬ HasScheme target.toList) :
    ∃ given, (updateScheme current target).toList =
        given ++ ':' :: '/' :: '/' :: dropSlashes target.toList ∧
      (LendsFairly current.toList given ↔
        ∀ host, IsHostWithPort current.toList host → host = defaultScheme) ∧
      ∀ host, IsHostWithPort current.toList host → given = host :=
  ⟨lentScheme current.toList, toList_updateScheme h, lendsFairly_lentScheme_iff,
    fun _ hhost => lentScheme_of_isHostWithPort hhost⟩

theorem not_hasScheme_of_eq_false {url : List Char} (h : hasScheme url = false) :
    ¬ HasScheme url :=
  fun hyes => Bool.false_ne_true (h.symm.trans (hasScheme_iff.2 hyes))

/-- A stream server that is named with its scheme lends this scheme, in spite of its port. -/
theorem scheme_before_port_is_lent :
    ¬ HasScheme "live/app".toList ∧
    updateScheme "rtmp://localhost:1935" "live/app" = "rtmp://live/app" ∧
    ∃ given, LendsFairly "rtmp://localhost:1935".toList given ∧
      "rtmp://live/app".toList = given ++ "://live/app".toList := by
  have htarget : ¬ HasScheme "live/app".toList := not_hasScheme_of_eq_false (by decide)
  have hcurrent : HasScheme "rtmp://localhost:1935".toList := hasScheme_iff.1 (by decide)
  obtain ⟨given, hresult, hfair, -⟩ :=
    @host_with_port_is_lent "rtmp://localhost:1935" "live/app" htarget
  refine ⟨htarget, by decide, given, hfair.2 fun host hhost => ?_, hresult⟩
  exact absurd hcurrent hhost.not_hasScheme

/-- **A server that is named by its port alone.** It has no scheme, and yet
its name becomes one. -/
theorem server_becomes_scheme :
    ¬ HasScheme "localhost:8080".toList ∧ ¬ HasScheme "example.com".toList ∧
    updateScheme "localhost:8080" "example.com" = "localhost://example.com" ∧
    ¬ ∃ given, LendsFairly "localhost:8080".toList given ∧
      "localhost://example.com".toList = given ++ "://example.com".toList := by
  have hcurrent : ¬ HasScheme "localhost:8080".toList := not_hasScheme_of_eq_false (by decide)
  refine ⟨hcurrent, not_hasScheme_of_eq_false (by decide), by decide, ?_⟩
  rintro ⟨given, hfair, hresult⟩
  cases hfair with
  | own hnamed hport => exact hcurrent ⟨_, _, hnamed, hport⟩
  | default => exact absurd hresult (by decide)

end StreamFinder.Session
