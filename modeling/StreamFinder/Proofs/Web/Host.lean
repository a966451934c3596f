import Mathlib.Tactic.SplitIfs
import StreamFinder.Web.UrlReader

/-!
# The scheme and the host of a web address

A URL has the scheme that stands before it, or else the one of the address
that it is read against. One whose scheme knows domain names has a host, and
the host is not empty: no name, no IPv4 address and no IPv6 address is
written as nothing. So a text that is read as such a URL is never taken for
a host and a port.
-/

namespace StreamFinder.Web

/-! ## Hosts -/

theorem Host.ipv6?_ne_nil {s host : List Char} (h : Host.ipv6? s = some host) : host ≠ [] := by
  unfold Host.ipv6? at h
  split at h
  · cases h
  · obtain ⟨groups, -, rfl⟩ := Option.map_eq_some_iff.mp h
    exact List.cons_ne_nil _ _

/-- A host of a scheme that knows domain names is not empty. -/
theorem Host.named?_ne_nil {s host : List Char} (h : Host.named? s = some host) : host ≠ [] := by
  unfold Host.named? at h
  split at h
  · exact ipv6?_ne_nil h
  split at h
  · cases h
  split at h
  · cases h
  · next name hname =>
    split at h
    · obtain ⟨address, -, rfl⟩ := Option.map_eq_some_iff.mp h
      simp [Ipv4.render]
    · cases h
      rintro rfl
      simp only [Domain.parse] at hname
      split at hname
      · cases hname
      · split at hname <;> simp_all

/-! ## URLs -/

namespace Url

variable {u base : Url}

@[simp]
theorem scheme_withPath (u : Url) (start : List String) (s : List Char) :
    (withPath u start s).scheme = u.scheme := rfl

@[simp]
theorem host_withPath (u : Url) (start : List String) (s : List Char) :
    (withPath u start s).host = u.host := rfl

@[simp]
theorem scheme_withPathStart (u : Url) (s : List Char) :
    (withPathStart u s).scheme = u.scheme := by
  fun_cases withPathStart u s <;> rfl

@[simp]
theorem host_withPathStart (u : Url) (s : List Char) : (withPathStart u s).host = u.host := by
  fun_cases withPathStart u s <;> rfl

/-- A URL read from an authority has the given scheme and the host that stands there. -/
theorem host_of_readAuthority {scheme : String} {s : List Char}
    (h : readAuthority scheme s = some u) :
    u.scheme = scheme ∧ ∃ text host, u.host = some (String.ofList host) ∧
      (if isSpecial scheme then Host.named? text else Host.plain? text) = some host := by
  simp only [readAuthority] at h
  split at h
  · cases h
  · cases h
  next hhost _ =>
    split at h
    · split at h
      · cases h
      · obtain ⟨⟨port, rest⟩, -, rfl⟩ := Option.map_eq_some_iff.mp h
        exact ⟨by simp [bare], _, _, by simp, hhost⟩
    · cases h
      exact ⟨by simp [bare], _, _, by simp, hhost⟩

theorem shortened_subset (file : Bool) (path : List String) : shortened file path ⊆ path := by
  unfold shortened
  split
  · split
    · exact List.Subset.refl _
    · exact List.nil_subset _
  · exact List.dropLast_subset path

/-- What a reference may change of its base: the end, the path and the end,
or everything behind the scheme. -/
theorem readRelative_cases {s : List Char} (h : readRelative base s = some u) :
    (∃ fragment, u = { base with fragment := fragment }) ∨
    (∃ special rest, u = { base with
      query := (queryAndFragment special rest).1, fragment := (queryAndFragment special rest).2 }) ∨
    (∃ rest, readAuthority base.scheme rest = some u) ∨
    ∃ start rest, start ⊆ base.segmentsOf ∧ u = withPath base start rest := by
  simp only [readRelative] at h
  split at h
  · cases h
    exact .inl ⟨_, rfl⟩
  · cases h
    exact .inl ⟨_, rfl⟩
  · cases h
    exact .inr (.inl ⟨_, _, rfl⟩)
  · exact .inr (.inr (.inl ⟨_, h⟩))
  · next c rest _ _ _ =>
    by_cases hslash : isSlash (isSpecial base.scheme) c
    · rw [if_pos hslash] at h
      split at h
      · split at h
        · exact .inr (.inr (.inl ⟨_, h⟩))
        · exact .inr (.inr (.inr ⟨[], _, List.nil_subset _, (Option.some.inj h).symm⟩))
      · exact .inr (.inr (.inr ⟨[], _, List.nil_subset _, (Option.some.inj h).symm⟩))
    · rw [if_neg hslash] at h
      exact .inr (.inr (.inr ⟨_, _, shortened_subset _ _, (Option.some.inj h).symm⟩))

/-- A reference has the scheme of its base. -/
theorem scheme_of_readRelative {s : List Char} (h : readRelative base s = some u) :
    u.scheme = base.scheme := by
  obtain ⟨fragment, rfl⟩ | ⟨special, rest, rfl⟩ | ⟨rest, h⟩ | ⟨start, rest, -, rfl⟩ :=
    readRelative_cases h
  · rfl
  · rfl
  · exact (host_of_readAuthority h).1
  · rfl

/-- The URL of a file has the scheme of files. -/
theorem scheme_of_readFile {base : Option Url} {s : List Char} (h : readFile base s = some u) :
    u.scheme = "file" := by
  have hhost (s : List Char) (h : readFileHost s = some u) : u.scheme = "file" := by
    simp only [readFileHost] at h
    split_ifs at h <;> (try split at h) <;> cases h <;> simp [bare]
  simp only [readFile] at h
  have hstart : ((base.filter fun b => b.scheme = "file").getD
      { bare "file" with host := some "" }).scheme = "file" := by
    cases hb : base.filter fun b => b.scheme = "file" with
    | none => rfl
    | some b => simpa using (Option.filter_eq_some_iff.1 hb).2
  generalize (base.filter fun b => b.scheme = "file").getD { bare "file" with host := some "" } = v
    at h hstart
  have hpath (start : List String) (s : List Char) (h : some (withPath v start s) = some u) :
      u.scheme = "file" := by
    rw [← Option.some.inj h, scheme_withPath, hstart]
  have href (s : List Char) (h : readRelative v s = some u) : u.scheme = "file" :=
    (scheme_of_readRelative h).trans hstart
  repeat' split at h
  all_goals first | exact hhost _ h | exact hpath _ _ h | exact href _ h

/-- The URL behind a scheme has that scheme. -/
theorem scheme_of_readScheme {base : Option Url} {scheme : String} {s : List Char}
    (h : readScheme base scheme s = some u) : u.scheme = scheme := by
  simp only [readScheme] at h
  split at h
  · next hfile => rw [scheme_of_readFile h, hfile]
  split at h
  · split at h
    · next b hb =>
      rw [scheme_of_readRelative h]
      simpa using (of_decide_eq_true (Option.filter_eq_some_iff.1 hb).2).1
    · exact (host_of_readAuthority h).1
  split at h
  · exact (host_of_readAuthority h).1
  · cases h
    rfl
  · cases h
    rfl

/-- **A web address has a host.** -/
theorem hasHost_of_parse {text : String} (h : Url.parse text = some u)
    (hs : u.scheme = "http") : u.hasHost = true := by
  simp only [Url.parse, Url.read] at h
  split at h
  · next scheme rest _ =>
    obtain rfl : "http" = scheme := hs.symm.trans (scheme_of_readScheme h)
    obtain ⟨-, text, host, hhost, hnamed⟩ := host_of_readAuthority h
    simpa [hasHost, hhost] using Host.named?_ne_nil hnamed
  · cases h

end Url

end StreamFinder.Web
