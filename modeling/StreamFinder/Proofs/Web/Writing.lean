import StreamFinder.Web.Url
/-!
# What the text of a web address tells

The parts of an address are told apart in its text by the marks between
them. A part goes as far as the first mark that ends it, so the text tells
the part if the part itself has none of these marks. Every web address that
is read is legible in this sense, and legible addresses are the same if
they are written in the same way (`Url.eq_of_render`).
-/

namespace StreamFinder.Web

/-! ## Texts and marks -/

/-- A text has none of some marks. -/
def Lacks (marks s : List Char) : Prop := ∀ c ∈ s, c ∉ marks

/-- A text is empty or begins with one of some marks. -/
def Stops (marks s : List Char) : Prop := ∀ c ∈ s.head?, c ∈ marks

/-- A part that may be there, behind its mark. -/
def behind (mark : Char) : Option (List Char) → List Char
  | none => []
  | some s => mark :: s

variable {marks fewer a b s t : List Char} {mark : Char}

theorem Lacks.mono (h : Lacks marks s) (hsub : fewer ⊆ marks) : Lacks fewer s :=
  fun c hc hmem => h c hc (hsub hmem)

theorem Lacks.append (hs : Lacks marks s) (ht : Lacks marks t) : Lacks marks (s ++ t) :=
  fun c hc => (List.mem_append.1 hc).elim (hs c) (ht c)

theorem lacks_nil (marks : List Char) : Lacks marks [] := nofun

theorem lacks_cons {c : Char} : Lacks marks (c :: s) ↔ c ∉ marks ∧ Lacks marks s :=
  List.forall_mem_cons

theorem lacks_behind {part : Option (List Char)} (hmark : mark ∉ marks)
    (h : ∀ s ∈ part, Lacks marks s) : Lacks marks (behind mark part) := by
  cases part with
  | none => exact lacks_nil marks
  | some s => exact lacks_cons.2 ⟨hmark, h s rfl⟩

theorem lacks_digits (hmarks : marks.any Char.isDigit = false) (n : Nat) :
    Lacks marks (Nat.toDigits 10 n) := by
  intro c hc hmem
  have hdigit : c.isDigit = true := Nat.isDigit_of_mem_toDigits (by decide) (by decide) hc
  exact List.any_eq_false.1 hmarks c hmem hdigit

theorem stops_nil (marks : List Char) : Stops marks [] := nofun

theorem stops_cons {c : Char} (h : c ∈ marks) (s : List Char) : Stops marks (c :: s) := by
  intro d hd
  cases hd
  exact h

theorem Stops.append (hs : Stops marks s) (ht : Stops marks t) : Stops marks (s ++ t) := by
  cases s with
  | nil => exact ht
  | cons c s => exact hs

theorem stops_behind (h : mark ∈ marks) (part : Option (List Char)) :
    Stops marks (behind mark part) := by
  cases part with
  | none => exact stops_nil marks
  | some s => exact stops_cons h s

theorem behind_inj {p q : Option (List Char)} (h : behind mark p = behind mark q) : p = q := by
  cases p <;> cases q <;> simp_all [behind]

/-- **A text goes as far as the first mark.** -/
theorem Lacks.cancel (ha : Lacks marks a) (hb : Lacks marks b) (hs : Stops marks s)
    (ht : Stops marks t) (h : a ++ s = b ++ t) : a = b ∧ s = t := by
  induction a generalizing b with
  | nil =>
    cases b with
    | nil => exact ⟨rfl, h⟩
    | cons c b =>
      obtain rfl : s = c :: (b ++ t) := h
      exact absurd (hs c rfl) (lacks_cons.1 hb).1
  | cons c a ih =>
    cases b with
    | nil =>
      obtain rfl : t = c :: (a ++ s) := h.symm
      exact absurd (ht c rfl) (lacks_cons.1 ha).1
    | cons d b =>
      obtain ⟨rfl, hrest⟩ := List.cons.inj h
      obtain ⟨rfl, rfl⟩ := ih (lacks_cons.1 ha).2 (lacks_cons.1 hb).2 hrest
      exact ⟨rfl, rfl⟩

/-- A part behind its mark, followed by a text that does not begin with that mark. -/
theorem behind_cancel {p q : Option (List Char)} (hmark : mark ∉ marks)
    (hp : ∀ a ∈ p, Lacks marks a) (hq : ∀ a ∈ q, Lacks marks a) (hs : Stops marks s)
    (ht : Stops marks t) (h : behind mark p ++ s = behind mark q ++ t) : p = q ∧ s = t := by
  obtain ⟨hparts, hrest⟩ := (lacks_behind hmark hp).cancel (lacks_behind hmark hq) hs ht h
  exact ⟨behind_inj hparts, hrest⟩

/-! ## Hosts -/

/-- A host that can be told from what is around it. -/
inductive Host.Legible : List Char → Prop where
  | bracketed {inner : List Char} (h : Lacks ['/', '?', '#', '@', ']'] inner) :
      Legible ('[' :: (inner ++ [']']))
  | plain {host : List Char} (hne : host ≠ []) (h : Lacks ['/', '?', '#', '@', ':', '['] host) :
      Legible host

namespace Host.Legible

variable {g h : List Char}

theorem lacks (hg : Legible g) : Lacks ['/', '?', '#', '@'] g := by
  cases hg with
  | bracketed hinner =>
    refine lacks_cons.2 ⟨by decide, (hinner.mono (by decide)).append ?_⟩
    exact lacks_cons.2 ⟨by decide, lacks_nil _⟩
  | plain _ hlacks => exact hlacks.mono (by decide)

/-- A host without brackets does not begin like one with brackets. -/
theorem plain_ne_bracketed (hne : h ≠ []) (hlacks : Lacks ['/', '?', '#', '@', ':', '['] h) :
    h ++ s ≠ '[' :: t := by
  cases h with
  | nil => exact absurd rfl hne
  | cons c rest =>
    intro heq
    obtain ⟨rfl, -⟩ := List.cons.inj heq
    exact absurd (lacks_cons.1 hlacks).1 (by decide)

/-- A host goes as far as its bracket, or else as far as a colon. -/
theorem cancel (hg : Legible g) (hh : Legible h) (hs : Stops [':'] s) (ht : Stops [':'] t)
    (heq : g ++ s = h ++ t) : g = h ∧ s = t := by
  cases hg with
  | @bracketed inner hinner =>
    cases hh with
    | @bracketed inner' hinner' =>
      simp only [List.cons_append, List.append_assoc, List.cons.injEq, true_and] at heq
      have hstops (rest : List Char) : Stops [']'] ([']'] ++ rest) := stops_cons (by decide) rest
      obtain ⟨rfl, hrest⟩ := (hinner.mono (by decide)).cancel (hinner'.mono (by decide))
        (hstops s) (hstops t) heq
      exact ⟨rfl, List.append_cancel_left hrest⟩
    | plain hne hlacks => exact absurd heq.symm (plain_ne_bracketed hne hlacks)
  | plain hne hlacks =>
    cases hh with
    | bracketed => exact absurd heq (plain_ne_bracketed hne hlacks)
    | plain hne' hlacks' =>
      exact (hlacks.mono (by decide)).cancel (hlacks'.mono (by decide)) hs ht heq

end Host.Legible

/-! ## Addresses -/

namespace Url

/-- The parts of an authority can be told from each other and from what is around them. -/
structure LegibleAuthority (u : Url) : Prop where
  username : Lacks ['/', '?', '#', '@', ':'] u.username.toList
  password : Lacks ['/', '?', '#', '@'] u.password.toList
  host : ∃ host, u.host = some (String.ofList host) ∧ Host.Legible host

/-- The parts of an address behind its scheme can be told from each other. -/
structure Legible (u : Url) : Prop extends LegibleAuthority u where
  path : ∃ list, u.path = .segments list ∧ list ≠ [] ∧
    ∀ s ∈ list, Lacks ['/', '?', '#'] s.toList
  query : ∀ q ∈ u.query, Lacks ['#'] q.toList

variable {u v : Url}

/-! ### Authorities -/

/-- The user and the password as they stand in a text. -/
def userText (u : Url) : List Char :=
  u.username.toList ++ behind ':' (if u.password = "" then none else some u.password.toList)

/-- The port as it stands in a text. -/
def portText (u : Url) : List Char := behind ':' (u.port.map (Nat.toDigits 10))

theorem toList_userInfo (u : Url) :
    u.userInfo.toList =
      if u.username = "" ∧ u.password = "" then [] else u.userText ++ ['@'] := by
  unfold userInfo userText
  split
  · rfl
  · by_cases hp : u.password = "" <;> simp [hp, behind]

theorem toList_hostPort (u : Url) :
    u.hostPort.toList = (u.host.getD "").toList ++ u.portText := by
  unfold hostPort portText
  cases u.port <;> simp [behind]

theorem lacks_portText (u : Url) : Lacks ['/', '?', '#', '@'] u.portText := by
  refine lacks_behind (by decide) fun digits hdigits => ?_
  obtain ⟨n, -, rfl⟩ := Option.map_eq_some_iff.mp hdigits
  exact lacks_digits (by decide) n

theorem port_eq_of_portText (h : u.portText = v.portText) : u.port = v.port := by
  refine (Option.map_inj_right fun m n hdigits => ?_).1 (behind_inj h)
  have hvalue := congrArg (Nat.ofDigitChars 10 · 0) hdigits
  simpa only [Nat.ofDigitChars_ten_toDigits] using hvalue

namespace LegibleAuthority

theorem lacks_userText (h : u.LegibleAuthority) : Lacks ['/', '?', '#', '@'] u.userText := by
  refine (h.username.mono (by decide)).append (lacks_behind (by decide) fun s hs => ?_)
  split at hs
  · cases hs
  · cases hs
    exact h.password

theorem lacks_userInfo (h : u.LegibleAuthority) : Lacks ['/', '?', '#'] u.userInfo.toList := by
  rw [toList_userInfo]
  split
  · exact lacks_nil _
  · exact (h.lacks_userText.mono (by decide)).append (lacks_cons.2 ⟨by decide, lacks_nil _⟩)

theorem lacks_hostPort (h : u.LegibleAuthority) :
    Lacks ['/', '?', '#', '@'] u.hostPort.toList := by
  obtain ⟨host, hhost, hlegible⟩ := h.host
  rw [toList_hostPort, hhost, Option.getD_some, String.toList_ofList]
  exact hlegible.lacks.append (lacks_portText u)

/-- A user goes as far as the colon before the password. -/
theorem userText_cancel (hu : u.LegibleAuthority) (hv : v.LegibleAuthority)
    (h : u.userText = v.userText) : u.username = v.username ∧ u.password = v.password := by
  obtain ⟨hname, hsecret⟩ := (hu.username.mono (by decide)).cancel (hv.username.mono (by decide))
    (stops_behind (List.mem_singleton_self ':') _) (stops_behind (List.mem_singleton_self ':') _) h
  refine ⟨String.toList_inj.1 hname, ?_⟩
  have hsame := behind_inj hsecret
  split at hsame <;> split at hsame
  · next hup hvp => exact hup.trans hvp.symm
  · cases hsame
  · cases hsame
  · exact String.toList_inj.1 (Option.some.inj hsame)

/-- A user and a password go as far as the at sign. -/
theorem userInfo_cancel (hu : u.LegibleAuthority) (hv : v.LegibleAuthority)
    (hs : Lacks ['@'] s) (ht : Lacks ['@'] t)
    (h : u.userInfo.toList ++ s = v.userInfo.toList ++ t) :
    u.username = v.username ∧ u.password = v.password ∧ s = t := by
  -- where one address has an at sign, the other one has it as well
  have hsign {rest : List Char} (hlacks : Lacks ['@'] rest) (w : Url) (more : List Char) :
      rest ≠ w.userText ++ ['@'] ++ more := by
    rintro rfl
    exact hlacks '@' (by simp) (by simp)
  rw [toList_userInfo, toList_userInfo] at h
  split at h <;> split at h
  · next hnone hnone' => exact ⟨hnone.1.trans hnone'.1.symm, hnone.2.trans hnone'.2.symm, h⟩
  · exact absurd h (hsign hs v t)
  · exact absurd h.symm (hsign ht u s)
  · rw [List.append_assoc, List.append_assoc] at h
    obtain ⟨huser, hrest⟩ :=
      (hu.lacks_userText.mono (by decide)).cancel (hv.lacks_userText.mono (by decide))
        (stops_cons (List.mem_singleton_self '@') s) (stops_cons (List.mem_singleton_self '@') t) h
    obtain ⟨hname, hsecret⟩ := hu.userText_cancel hv huser
    exact ⟨hname, hsecret, (List.cons.inj hrest).2⟩

/-- The text of a host and a port tells both. -/
theorem hostPort_cancel (hu : u.LegibleAuthority) (hv : v.LegibleAuthority)
    (h : u.hostPort.toList = v.hostPort.toList) : u.host = v.host ∧ u.port = v.port := by
  obtain ⟨host, hhost, hlegible⟩ := hu.host
  obtain ⟨host', hhost', hlegible'⟩ := hv.host
  rw [toList_hostPort, toList_hostPort, hhost, hhost'] at h
  simp only [Option.getD_some, String.toList_ofList] at h
  obtain ⟨rfl, hport⟩ := hlegible.cancel hlegible' (stops_behind (List.mem_singleton_self ':') _)
    (stops_behind (List.mem_singleton_self ':') _) h
  exact ⟨hhost.trans hhost'.symm, port_eq_of_portText hport⟩

/-- **An authority goes as far as the path**, and its text tells its parts. -/
theorem authority_cancel (hu : u.LegibleAuthority) (hv : v.LegibleAuthority)
    (hs : Stops ['/', '?', '#'] s) (ht : Stops ['/', '?', '#'] t)
    (h : u.authorityText.toList ++ s = v.authorityText.toList ++ t) :
    (u.username = v.username ∧ u.password = v.password) ∧
      (u.host = v.host ∧ u.port = v.port) ∧ s = t := by
  have htext {w : Url} (hw : w.LegibleAuthority) :
      w.authorityText.toList = ['/', '/'] ++ (w.userInfo.toList ++ w.hostPort.toList) := by
    obtain ⟨host, hhost, -⟩ := hw.host
    simp [authorityText, hhost]
  have hlacks {w : Url} (hw : w.LegibleAuthority) :
      Lacks ['/', '?', '#'] (w.userInfo.toList ++ w.hostPort.toList) :=
    hw.lacks_userInfo.append (hw.lacks_hostPort.mono (by decide))
  rw [htext hu, htext hv, List.append_assoc ['/', '/'], List.append_assoc ['/', '/']] at h
  obtain ⟨hboth, hrest⟩ := (hlacks hu).cancel (hlacks hv) hs ht (List.append_cancel_left h)
  obtain ⟨hname, hsecret, hplace⟩ := hu.userInfo_cancel hv (hu.lacks_hostPort.mono (by decide))
    (hv.lacks_hostPort.mono (by decide)) hboth
  exact ⟨⟨hname, hsecret⟩, hu.hostPort_cancel hv hplace, hrest⟩

end LegibleAuthority

/-! ### Paths -/

/-- Segments, each behind a slash. -/
def slashed (list : List String) : List Char := list.flatMap fun s => '/' :: s.toList

theorem toList_pathText {list : List String} (h : u.path = .segments list) :
    u.pathText.toList = slashed list := by
  simp [pathText, h, slashed, String.toList_join, List.flatMap_map]

theorem stops_slashed (list : List String) : Stops ['/'] (slashed list) := by
  cases list with
  | nil => exact stops_nil _
  | cons s rest => exact stops_cons (List.mem_singleton_self '/') _

theorem lacks_slashed {list : List String} (h : ∀ s ∈ list, Lacks ['?', '#'] s.toList) :
    Lacks ['?', '#'] (slashed list) := by
  intro c hc
  obtain ⟨s, hs, hmem⟩ := List.mem_flatMap.1 hc
  exact lacks_cons.2 ⟨by decide, h s hs⟩ c hmem

/-- The text of a path tells its segments. -/
theorem slashed_inj {list list' : List String} (hl : ∀ s ∈ list, Lacks ['/'] s.toList)
    (hl' : ∀ s ∈ list', Lacks ['/'] s.toList) (h : slashed list = slashed list') :
    list = list' := by
  induction list generalizing list' with
  | nil =>
    cases list' with
    | nil => rfl
    | cons s' rest' => cases h
  | cons s rest ih =>
    cases list' with
    | nil => cases h
    | cons s' rest' =>
      rw [List.forall_mem_cons] at hl hl'
      obtain ⟨hs, hrest⟩ := hl.1.cancel hl'.1 (stops_slashed rest) (stops_slashed rest')
        (List.cons.inj h).2
      rw [String.toList_inj.1 hs, ih hl.2 hl'.2 hrest]

/-! ### The whole -/

theorem toList_queryText (u : Url) :
    u.queryText.toList = behind '?' (u.query.map String.toList) := by
  unfold queryText
  cases u.query <;> simp [behind]

theorem toList_fragmentText (u : Url) :
    u.fragmentText.toList = behind '#' (u.fragment.map String.toList) := by
  unfold fragmentText
  cases u.fragment <;> simp [behind]

theorem toList_render (u : Url) :
    u.render.toList = u.scheme.toList ++ ':' :: (u.authorityText.toList ++ (u.pathText.toList ++
      (u.queryText.toList ++ u.fragmentText.toList))) := by
  simp [render]

theorem map_toList_inj {p q : Option String} (h : p.map String.toList = q.map String.toList) :
    p = q :=
  (Option.map_inj_right fun _ _ hs => String.toList_inj.1 hs).1 h

/-- A scheme goes as far as its colon. -/
theorem scheme_eq_of_render (hu : Lacks [':'] u.scheme.toList) (hv : Lacks [':'] v.scheme.toList)
    (h : u.render = v.render) : u.scheme = v.scheme := by
  have htext := congrArg String.toList h
  rw [toList_render, toList_render] at htext
  have hstops (rest : List Char) := stops_cons (List.mem_singleton_self ':') rest
  exact String.toList_inj.1 (hu.cancel hv (hstops _) (hstops _) htext).1

/-- **Legible addresses of one scheme that are written in the same way are the same.** -/
theorem Legible.eq_of_render (hu : u.Legible) (hv : v.Legible) (hscheme : u.scheme = v.scheme)
    (h : u.render = v.render) : u = v := by
  obtain ⟨list, hlist, hne, hsegments⟩ := hu.path
  obtain ⟨list', hlist', hne', hsegments'⟩ := hv.path
  have htext := congrArg String.toList h
  rw [toList_render, toList_render, hscheme, toList_pathText hlist, toList_pathText hlist',
    toList_queryText, toList_queryText, toList_fragmentText, toList_fragmentText] at htext
  have hstart (list : List String) (hne : list ≠ []) (rest : List Char) :
      Stops ['/', '?', '#'] (slashed list ++ rest) := by
    obtain ⟨s, more, rfl⟩ := List.exists_cons_of_ne_nil hne
    exact stops_cons (by decide) _
  obtain ⟨⟨hname, hsecret⟩, ⟨hhost, hport⟩, hbehind⟩ :=
    hu.toLegibleAuthority.authority_cancel hv.toLegibleAuthority (hstart list hne _)
      (hstart list' hne' _) (List.cons.inj (List.append_cancel_left htext)).2
  have hend (w : Url) : Stops ['?', '#'] (behind '?' (w.query.map String.toList) ++
      behind '#' (w.fragment.map String.toList)) :=
    (stops_behind (by decide) _).append (stops_behind (by decide) _)
  obtain ⟨hpath, hrest⟩ :=
    (lacks_slashed fun s hs => (hsegments s hs).mono (by decide)).cancel
      (lacks_slashed fun s hs => (hsegments' s hs).mono (by decide)) (hend u) (hend v) hbehind
  have hquery {w : Url} (hw : w.Legible) : ∀ q ∈ w.query.map String.toList, Lacks ['#'] q := by
    intro q hq
    obtain ⟨text, htext, rfl⟩ := Option.map_eq_some_iff.mp hq
    exact hw.query text htext
  obtain ⟨hqueries, hfragments⟩ := behind_cancel (by decide) (hquery hu) (hquery hv)
    (stops_behind (List.mem_singleton_self '#') _) (stops_behind (List.mem_singleton_self '#') _)
    hrest
  have hlists : list = list' :=
    slashed_inj (fun s hs => (hsegments s hs).mono (by decide))
      (fun s hs => (hsegments' s hs).mono (by decide)) hpath
  have hpaths : u.path = v.path := by rw [hlist, hlist', hlists]
  have hsearch := map_toList_inj hqueries
  have hmark := map_toList_inj (behind_inj hfragments)
  cases u
  cases v
  simp only [Url.mk.injEq]
  exact ⟨hscheme, hname, hsecret, hhost, hport, hpaths, hsearch, hmark⟩

end Url

end StreamFinder.Web
