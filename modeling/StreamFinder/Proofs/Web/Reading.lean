import StreamFinder.Proofs.Web.Host
import StreamFinder.Proofs.Web.Writing
import StreamFinder.Web.Redirect
/-!
# Web addresses are read as legible ones

Whatever a text has in the place of a user, a segment or a query, the marks
that would end the part are encoded when the address is read, and a host
with such a mark is none. So a web address that was read is legible, by
itself or against another one (`Url.Readable.of_read`), and so are the
addresses that redirects lead on to. Two of them that are written in the
same way are the same (`Url.Readable.eq_of_render`).
-/

namespace StreamFinder.Web

open Text

/-! ## Encoded texts -/

theorem mem_percentEncode {mustEncode : Char → Bool} {s : List Char} {c : Char}
    (h : c ∈ percentEncode mustEncode s) :
    c ∈ s ∧ mustEncode c = false ∨ ∃ b, c ∈ percentByte b := by
  obtain ⟨d, hd, hc⟩ := List.mem_flatMap.1 h
  split at hc
  · obtain ⟨b, -, hb⟩ := List.mem_flatMap.1 hc
    exact .inr ⟨b, hb⟩
  · next hplain =>
    rw [List.mem_singleton.1 hc]
    rw [Bool.or_eq_true, not_or, Bool.not_eq_true] at hplain
    exact .inl ⟨hd, by simpa using hplain.2⟩

theorem lacks_percentByte (b : UInt8) : Lacks ['/', '?', '#', '@', ':'] (percentByte b) := by
  have hdigit : ∀ n < 16, upperHexDigit n ∉ ['/', '?', '#', '@', ':'] := by decide
  have hb := b.toNat_lt
  refine lacks_cons.2 ⟨by decide, lacks_cons.2 ⟨hdigit _ (by omega), ?_⟩⟩
  exact lacks_cons.2 ⟨hdigit _ (by omega), lacks_nil _⟩

/-- An encoded text has none of the marks that are encoded. -/
theorem Url.lacks_encoded {mustEncode : Char → Bool} {marks s : List Char}
    (hsub : marks ⊆ ['/', '?', '#', '@', ':'])
    (h : ∀ c ∈ s, c ∈ marks → mustEncode c = true) :
    Lacks marks (encoded mustEncode s).toList := by
  intro c hc hmem
  rw [encoded, String.toList_ofList] at hc
  rcases mem_percentEncode hc with ⟨hs, hplain⟩ | ⟨b, hb⟩
  · rw [h c hs hmem] at hplain
    cases hplain
  · exact lacks_percentByte b c hb (hsub hmem)

/-! ## Hosts -/

theorem lacks_hexDigits (n : Nat) : Lacks ['/', '?', '#', '@', ']'] (Nat.toDigits 16 n) := by
  have hdigit : ∀ n < 16, n.digitChar ∉ ['/', '?', '#', '@', ']'] := by decide
  induction n using Nat.strongRecOn with
  | ind n ih =>
    rw [Nat.toDigits_eq_if (by decide)]
    split
    · next hn => exact lacks_cons.2 ⟨hdigit n hn, lacks_nil _⟩
    · exact (ih (n / 16) (by omega)).append (lacks_cons.2 ⟨hdigit _ (by omega), lacks_nil _⟩)

theorem Ipv6.lacks_joined (groups : List Nat) :
    Lacks ['/', '?', '#', '@', ']'] (joined groups) := by
  fun_induction joined groups with
  | case1 => exact lacks_nil _
  | case2 g => exact lacks_hexDigits g
  | case3 g rest _ ih => exact (lacks_hexDigits g).append (lacks_cons.2 ⟨by decide, ih⟩)

theorem Ipv6.lacks_render (groups : List Nat) :
    Lacks ['/', '?', '#', '@', ']'] (render groups) := by
  unfold render
  split
  split
  · exact lacks_joined groups
  · refine (lacks_joined _).append (lacks_cons.2 ⟨by decide, lacks_cons.2 ⟨by decide, ?_⟩⟩)
    exact lacks_joined _

theorem Ipv4.lacks_render (address : Nat) :
    Lacks ['/', '?', '#', '@', ':', '['] (render address) := by
  have hbyte (n : Nat) : Lacks ['/', '?', '#', '@', ':', '['] (toString n).toList := by
    rw [Nat.toString_eq_ofList_toDigits, String.toList_ofList]
    exact lacks_digits (by decide) n
  have hdot {s : List Char} (hs : Lacks ['/', '?', '#', '@', ':', '['] s) :
      Lacks ['/', '?', '#', '@', ':', '['] ('.' :: s) := lacks_cons.2 ⟨by decide, hs⟩
  exact (((hbyte _).append (hdot (hbyte _))).append (hdot (hbyte _))).append (hdot (hbyte _))

theorem Domain.lacks_of_parse {s name : List Char} (h : Domain.parse s = some name) :
    Lacks ['/', '?', '#', '@', ':', '['] name := by
  simp only [Domain.parse] at h
  split at h
  · cases h
  split at h
  · cases h
  next labels _ hallowed =>
  obtain rfl := Option.some.inj h
  rw [not_or, Bool.not_eq_true, List.any_eq_false] at hallowed
  intro c hc hmem
  have hforbidden : isForbidden c = true := by
    simp only [List.mem_cons, List.not_mem_nil, or_false] at hmem
    rcases hmem with rfl | rfl | rfl | rfl | rfl | rfl <;> decide
  exact hallowed.2 c hc hforbidden

/-- A host of a scheme that knows domain names is legible. -/
theorem Host.Legible.of_named? {s host : List Char} (h : Host.named? s = some host) :
    Host.Legible host := by
  have hne := Host.named?_ne_nil h
  unfold Host.named? at h
  split at h
  · unfold Host.ipv6? at h
    split at h
    · cases h
    · obtain ⟨groups, -, rfl⟩ := Option.map_eq_some_iff.mp h
      exact .bracketed (Ipv6.lacks_render groups)
  · split at h
    · cases h
    split at h
    · cases h
    next name hname =>
    split at h
    · obtain ⟨address, -, rfl⟩ := Option.map_eq_some_iff.mp h
      exact .plain hne (Ipv4.lacks_render address)
    · cases h
      exact .plain hne (Domain.lacks_of_parse hname)

/-! ## Paths and queries -/

namespace Url

/-- A segment of a walked path was there, or is empty, or is the text of a part. -/
theorem mem_walkPath {file : Bool} {start : List String} {parts : List (List Char)} {s : String}
    (h : s ∈ walkPath file start parts) :
    s ∈ start ∨ s = "" ∨ ∃ path, ∃ part ∈ parts, s = segmentText file path part := by
  -- what the rest of the walk leaves is left by the whole walk
  have hlater {start : List String} {first : List Char} {rest : List (List Char)}
      (h : s ∈ start ∨ s = "" ∨ ∃ path, ∃ part ∈ rest, s = segmentText file path part) :
      s ∈ start ∨ s = "" ∨ ∃ path, ∃ part ∈ first :: rest, s = segmentText file path part := by
    refine h.imp_right (Or.imp_right ?_)
    rintro ⟨path, part, hpart, rfl⟩
    exact ⟨path, part, List.mem_cons_of_mem _ hpart, rfl⟩
  fun_induction walkPath file start parts with
  | case1 path => exact .inl h
  | case2 path part hdots =>
    rcases List.mem_append.1 h with hs | hs
    · exact .inl (shortened_subset file path hs)
    · exact .inr (.inl (List.mem_singleton.1 hs))
  | case3 path part hdots hdot =>
    rcases List.mem_append.1 h with hs | hs
    · exact .inl hs
    · exact .inr (.inl (List.mem_singleton.1 hs))
  | case4 path part hdots hdot =>
    rcases List.mem_append.1 h with hs | hs
    · exact .inl hs
    · exact .inr (.inr ⟨path, part, List.mem_singleton_self part, List.mem_singleton.1 hs⟩)
  | case5 path part rest hne hdots ih =>
    exact hlater ((ih h).imp_left fun hs => shortened_subset file path hs)
  | case6 path part rest hne hdots hdot ih => exact hlater (ih h)
  | case7 path part rest hne hdots hdot ih =>
    rcases ih h with hs | hs
    · rcases List.mem_append.1 hs with hs | hs
      · exact .inl hs
      · exact .inr (.inr ⟨path, part, List.mem_cons_self, List.mem_singleton.1 hs⟩)
    · exact hlater (.inr hs)

theorem walkPath_ne_nil {file : Bool} {start : List String} {parts : List (List Char)}
    (h : parts ≠ []) : walkPath file start parts ≠ [] := by
  fun_induction walkPath file start parts with
  | case1 path => exact absurd rfl h
  | case2 => simp
  | case3 => simp
  | case4 => simp
  | case5 path part rest hne hdots ih => exact ih hne
  | case6 path part rest hne hdots hdot ih => exact ih hne
  | case7 path part rest hne hdots hdot ih => exact ih hne

/-- Segments without the marks that end a segment, a path or a query. -/
def LegibleSegments (list : List String) : Prop := ∀ s ∈ list, Lacks ['/', '?', '#'] s.toList

/-- Whether a scheme is one of the two of the web. -/
def IsWeb (scheme : String) : Prop := scheme = "http" ∨ scheme = "https"

theorem isSpecial_of_isWeb {scheme : String} (h : IsWeb scheme) : isSpecial scheme = true := by
  rcases h with rfl | rfl <;> decide

theorem ne_file_of_isWeb {scheme : String} (h : IsWeb scheme) : scheme ≠ "file" := by
  rcases h with rfl | rfl <;> decide

theorem legibleSegments_walkPath {start : List String} (hstart : LegibleSegments start)
    (s : List Char) :
    LegibleSegments (walkPath false start (splitAtChars (isSlash true) (splitPath s).1)) := by
  intro segment hsegment
  rcases mem_walkPath hsegment with hmem | rfl | ⟨path, part, hpart, rfl⟩
  · exact hstart segment hmem
  · exact lacks_nil _
  · refine lacks_encoded (by decide) fun c hc hmark => ?_
    obtain ⟨hfront, hslash⟩ := mem_splitAtChars hpart hc
    have hother := List.all_eq_true.1 List.all_takeWhile c hfront
    simp only [List.mem_cons, List.not_mem_nil, or_false] at hmark
    -- a slash would have ended the part, and the other two marks the whole path
    rcases hmark with rfl | rfl | rfl
    · cases hslash
    · cases hother
    · cases hother

theorem lacks_queryAndFragment (special : Bool) (s : List Char) :
    ∀ q ∈ (queryAndFragment special s).1, Lacks ['#'] q.toList := by
  unfold queryAndFragment
  intro q hq
  split at hq
  · cases hq
    refine lacks_encoded (by decide) fun c _ hmark => ?_
    rw [List.mem_singleton.1 hmark]
    simp [inQuery]
  · cases hq

variable {u v : Url} {base : Option Url}

/-- Other parts than those of the authority may be exchanged. -/
theorem LegibleAuthority.of_eq (h : u.LegibleAuthority) (hname : v.username = u.username)
    (hsecret : v.password = u.password) (hhost : v.host = u.host) : v.LegibleAuthority :=
  ⟨hname ▸ h.username, hsecret ▸ h.password, hhost ▸ h.host⟩

theorem Legible.withPath (h : u.LegibleAuthority) (hweb : IsWeb u.scheme) {start : List String}
    (hstart : LegibleSegments start) (s : List Char) : (Url.withPath u start s).Legible where
  toLegibleAuthority := h.of_eq rfl rfl rfl
  path := by
    have hpath : (Url.withPath u start s).path = .segments
        (walkPath false start (splitAtChars (isSlash true) (splitPath s).1)) := by
      have hfile : decide (u.scheme = "file") = false := decide_eq_false (ne_file_of_isWeb hweb)
      simp only [Url.withPath, isSpecial_of_isWeb hweb, hfile]
    refine ⟨_, hpath, walkPath_ne_nil ?_, legibleSegments_walkPath hstart s⟩
    exact List.ne_nil_of_length_pos (by rw [length_splitAtChars]; omega)
  query := lacks_queryAndFragment _ _

theorem Legible.withPathStart (h : u.LegibleAuthority) (hweb : IsWeb u.scheme) (s : List Char) :
    (Url.withPathStart u s).Legible := by
  have hspecial := isSpecial_of_isWeb hweb
  have hstart : LegibleSegments [] := nofun
  unfold Url.withPathStart
  simp only [hspecial]
  split
  · exact Legible.withPath h hweb hstart []
  · next c rest =>
    split
    · exact Legible.withPath h hweb hstart rest
    · exact Legible.withPath h hweb hstart (c :: rest)

/-! ## References -/

theorem Legible.of_readAuthority {scheme : String} (hweb : IsWeb scheme) {s : List Char}
    (h : readAuthority scheme s = some u) : u.Legible := by
  have hspecial := isSpecial_of_isWeb hweb
  simp only [readAuthority, hspecial, if_true] at h
  have hinfo (info : List Char) :
      Lacks ['/', '?', '#', '@', ':'] (encoded inUserInfo info).toList := by
    refine lacks_encoded (List.Subset.refl _) fun c _ hmark => ?_
    simp only [List.mem_cons, List.not_mem_nil, or_false] at hmark
    rcases hmark with rfl | rfl | rfl | rfl | rfl <;> decide
  split at h
  · cases h
  · cases h
  next host hhost _ =>
  have hlegible (name secret : List Char) (port : Option Nat) : LegibleAuthority
      { bare scheme with
        username := encoded inUserInfo name
        password := encoded inUserInfo secret
        host := some (String.ofList host)
        port := port } :=
    ⟨hinfo name, (hinfo secret).mono (by decide), host, rfl, .of_named? hhost⟩
  split at h
  · split at h
    · cases h
    · obtain ⟨⟨port, rest⟩, -, rfl⟩ := Option.map_eq_some_iff.mp h
      exact Legible.withPathStart (hlegible _ _ port) hweb rest
  · cases h
    exact Legible.withPathStart (hlegible _ _ none) hweb _

theorem Legible.of_readRelative (hv : v.Legible) (hweb : IsWeb v.scheme) {s : List Char}
    (h : readRelative v s = some u) : u.Legible := by
  obtain ⟨fragment, rfl⟩ | ⟨special, rest, rfl⟩ | ⟨rest, h⟩ | ⟨start, rest, hsub, rfl⟩ :=
    readRelative_cases h
  · exact { hv with }
  · exact { hv with query := lacks_queryAndFragment special rest }
  · exact .of_readAuthority hweb h
  · obtain ⟨list, hlist, -, hsegments⟩ := hv.path
    rw [segmentsOf, hlist] at hsub
    exact .withPath hv.toLegibleAuthority hweb (fun t ht => hsegments t (hsub ht)) rest

/-! ## The whole -/

/-- What holds of every address that was read: where the scheme ends can be
told, and in an address of the web where the other parts end. -/
structure Readable (u : Url) : Prop where
  scheme : Lacks [':'] u.scheme.toList
  legible : IsWeb u.scheme → u.Legible

theorem toLower_ne_colon {c : Char} (h : c ≠ ':') : c.toLower ≠ ':' := by
  unfold Char.toLower
  split
  · next hupper =>
    intro heq
    have hvalue : (c.val.toNat + 32) % 2 ^ 32 = 58 := congrArg (fun c : Char => c.val.toNat) heq
    have hlow : 65 ≤ c.val.toNat := UInt32.le_iff_toNat_le.1 hupper.1
    have hhigh : c.val.toNat ≤ 90 := UInt32.le_iff_toNat_le.1 hupper.2
    omega
  · exact h

theorem lacks_splitScheme {s rest : List Char} {scheme : String}
    (h : splitScheme s = some (scheme, rest)) : Lacks [':'] scheme.toList := by
  have hlower {front : List Char} (hfront : ∀ c ∈ front, c ≠ ':') :
      Lacks [':'] (String.ofList (front.map Char.toLower)).toList := by
    intro c hc hmark
    rw [String.toList_ofList] at hc
    obtain ⟨d, hd, rfl⟩ := List.mem_map.1 hc
    exact toLower_ne_colon (hfront d hd) (List.mem_singleton.1 hmark)
  cases s with
  | nil => cases h
  | cons c s =>
    simp only [splitScheme] at h
    split at h
    · next hletter =>
      split at h
      · cases h
        refine hlower (List.forall_mem_cons.2 ⟨?_, fun d hd => ?_⟩)
        · rintro rfl
          exact absurd hletter (by decide)
        · have hmark := List.all_eq_true.1 List.all_takeWhile d hd
          rintro rfl
          exact absurd hmark (by decide)
      · cases h
    · cases h

theorem Legible.of_readScheme {scheme : String} (hbase : ∀ b ∈ base, b.Readable)
    (hweb : IsWeb scheme) {s : List Char} (h : readScheme base scheme s = some u) :
    u.Legible := by
  simp only [readScheme, if_neg (ne_file_of_isWeb hweb), isSpecial_of_isWeb hweb, if_true] at h
  split at h
  · next b hb =>
    obtain ⟨hmem, hkept⟩ := Option.filter_eq_some_iff.1 hb
    obtain rfl : b.scheme = scheme := (of_decide_eq_true hkept).1
    exact .of_readRelative ((hbase b hmem).legible hweb) hweb h
  · exact .of_readAuthority hweb h

/-- **An address that was read is readable**, by itself or against another one. -/
theorem Readable.of_read (hbase : ∀ b ∈ base, b.Readable) {text : String}
    (h : read base text = some u) : u.Readable := by
  simp only [read] at h
  split at h
  · next scheme rest hsplit =>
    have hscheme := scheme_of_readScheme h
    exact ⟨hscheme ▸ lacks_splitScheme hsplit, fun hweb => .of_readScheme hbase (hscheme ▸ hweb) h⟩
  split at h
  · cases h
  next b =>
  have hb : b.Readable := hbase b rfl
  split at h
  · cases h
    exact ⟨hb.scheme, fun hweb => { hb.legible hweb with }⟩
  · cases h
  · split at h
    · next hfile =>
      have hscheme := scheme_of_readFile h
      exact ⟨hscheme.trans hfile.symm ▸ hb.scheme,
        fun hweb => absurd hscheme (ne_file_of_isWeb hweb)⟩
    · have hscheme := scheme_of_readRelative h
      exact ⟨hscheme ▸ hb.scheme,
        fun hweb => .of_readRelative (hb.legible (hscheme ▸ hweb)) (hscheme ▸ hweb) h⟩

/-- **Addresses that are written in the same way are the same**, if one of
them is of the web. -/
theorem Readable.eq_of_render (hu : u.Readable) (hv : v.Readable) (hweb : IsWeb u.scheme)
    (h : u.render = v.render) : u = v := by
  have hscheme := scheme_eq_of_render hu.scheme hv.scheme h
  exact (hu.legible hweb).eq_of_render (hv.legible (hscheme ▸ hweb)) hscheme h

end Url

namespace Redirect

open Url

variable {u v : Url} {text : String}

theorem readable_withoutUser (hu : u.Readable) : (withoutUser u).Readable := by
  unfold withoutUser
  split
  · refine ⟨hu.scheme, fun hweb => ?_⟩
    exact { hu.legible hweb with username := lacks_nil _, password := lacks_nil _ }
  · exact hu

/-- The address of a first request is one of the web, and readable. -/
theorem readable_of_requestUrl? (h : requestUrl? text = some u) : u.Readable ∧ IsWeb u.scheme := by
  unfold requestUrl? at h
  split at h
  · cases h
  next v hv =>
  simp only [Option.ite_none_right_eq_some, Option.some.injEq] at h
  obtain ⟨⟨-, hweb, -⟩, rfl⟩ := h
  have hbase : ∀ b ∈ (none : Option Url), b.Readable := by simp
  exact ⟨readable_withoutUser (.of_read hbase hv), hweb⟩

/-- So is every address that an answer leads on to. -/
theorem readable_of_target? {status : Nat} {location : Option String} (hu : u.Readable)
    (h : target? u status location = some v) : v.Readable := by
  unfold target? at h
  split at h
  · obtain ⟨reference, -, hjoin⟩ := Option.bind_eq_some_iff.1 (Option.filter_eq_some_iff.1 h).1
    exact .of_read (fun b hb => by cases hb; exact hu) hjoin
  · cases h

end Redirect

end StreamFinder.Web
