import Mathlib.Data.List.Nodup
import StreamFinder.Proofs.Distinct
import StreamFinder.Proofs.Session.Freshness
/-!
# Who is announced, and when

A class that claims in the deprecated way is announced once in the life of
a session, under the name that it has at that time, whatever becomes of the
registry and of the cache afterwards. So the notices of a history are the
names of all deprecated claims, each at its first place
(`notices_ownStory`); a hit decides nothing anew and announces nobody.
-/

namespace StreamFinder.Session

open Plugin

/-! ## Announcing -/

namespace Notices

theorem insertSorted_perm (name : String) (names : List String) :
    (insertSorted name names).Perm (name :: names) := by
  induction names with
  | nil => exact List.Perm.refl _
  | cons other names ih =>
    unfold insertSorted
    split
    · exact List.Perm.refl _
    · exact (ih.cons other).trans (List.Perm.swap name other names)

theorem announced_perm (n : Notices) : n.announced.Perm n.names := by
  obtain ⟨names⟩ := n
  induction names with
  | nil => exact List.Perm.refl _
  | cons name names ih => exact (insertSorted_perm name _).trans (ih.cons name)

end Notices

/-- The names that are not known, each at its first place. -/
def fresh (names known : List String) : List String := (names.removeAll known).eraseDups

theorem fresh_cons_of_mem {name : String} {names known : List String} (h : name ∈ known) :
    fresh (name :: names) known = fresh names known := by
  simp [fresh, List.cons_removeAll, h]

theorem fresh_cons_of_notMem {name : String} {names known : List String} (h : name ∉ known) :
    fresh (name :: names) known = name :: fresh names (name :: known) := by
  have hnew : (name :: names).removeAll known = name :: names.removeAll known := by
    simp [List.cons_removeAll, h]
  have hlater : (names.removeAll known).filter (fun other => !other == name) =
      names.removeAll (name :: known) := by
    rw [List.removeAll_cons, List.removeAll, List.removeAll, List.filter_filter, List.filter_filter]
    simp only [Bool.and_comm]
  rw [fresh, hnew, List.eraseDups_cons, hlater]
  rfl

theorem fresh_congr {names known known' : List String}
    (h : ∀ name, name ∈ known ↔ name ∈ known') : fresh names known = fresh names known' := by
  have hsame : names.removeAll known = names.removeAll known' :=
    List.filter_congr fun name _ => by simp [h name]
  rw [fresh, hsame]
  rfl

variable {P : Type} {s : Session P} {history : List (Moment P)} {m : Moment P}
variable {names : Web.Names} {config : SessionConfig}

/-- The names of the contenders that claim in the deprecated way. -/
def deprecatedNames (contenders : List (Contender P)) : List String :=
  contenders.filterMap fun x =>
    if x.entrant.strategy.isLegacy then some x.entrant.name else none

/-- **Announcing them all reports the names that are new, and makes them known.** -/
theorem announceAll_eq (contenders : List (Contender P)) (n : Notices) :
    Decision.announceAll contenders n =
      ((fresh (deprecatedNames contenders) n.names).map .deprecated,
        ⟨(fresh (deprecatedNames contenders) n.names).reverse ++ n.names⟩) := by
  induction contenders generalizing n with
  | nil => rfl
  | cons x contenders ih =>
    cases hlegacy : x.entrant.strategy.isLegacy with
    | false => simp [Decision.announceAll, deprecatedNames, hlegacy, ih]
    | true =>
      have hnames : deprecatedNames (x :: contenders) =
          x.entrant.name :: deprecatedNames contenders := by
        simp [deprecatedNames, hlegacy]
      by_cases hknown : x.entrant.name ∈ n.names
      · rw [hnames, fresh_cons_of_mem hknown]
        simp [Decision.announceAll, hlegacy, Notices.announce, hknown, ih]
      · rw [hnames, fresh_cons_of_notMem hknown]
        simp [Decision.announceAll, hlegacy, Notices.announce, hknown, ih]

/-- A predicate claims exactly where its test holds. -/
theorem deprecatedNames_listOf (registry : Registry P) (url : String) :
    deprecatedNames (Contender.listOf registry.classes url) = deprecatedClaims registry url := by
  rw [deprecatedNames, Contender.listOf, List.filterMap_filterMap, deprecatedClaims]
  refine congrArg (fun f => registry.classes.filterMap f) (funext fun c => ?_)
  cases hc : c.strategy with
  | matchers ms =>
    cases Strategy.claim? (.matchers ms) url <;> simp [hc, Strategy.isLegacy]
  | legacy p =>
    by_cases ht : p.test url = true <;> simp [Strategy.claim?, ht, hc, Strategy.isLegacy]

theorem mem_deprecatedClaims {registry : Registry P} {url name : String} :
    name ∈ deprecatedClaims registry url ↔
      ∃ c ∈ registry.classes, ∃ p, c.strategy = .legacy p ∧ p.test url = true ∧ c.name = name := by
  rw [deprecatedClaims, List.mem_filterMap]
  refine exists_congr fun c => and_congr_right fun _ => ?_
  cases c.strategy with
  | matchers ms => simp
  | legacy p => simp

/-! ## Notices -/

namespace Event

@[simp] theorem notices_append (events more : List Event) :
    notices (events ++ more) = notices events ++ notices more := by
  simp [notices, reports]

@[simp] theorem notices_map_deprecated (names : List String) :
    notices ((names.map Report.deprecated).map .reported) = names.map .deprecated := by
  induction names with
  | nil => rfl
  | cons name names ih => exact congrArg (Report.deprecated name :: ·) ih

end Event

theorem notices_bind (decision : Decision P) : Event.notices (bind decision).2 = [] := by
  cases decision <;> rfl

/-- What a decision announces: the names that are new. -/
theorem decide_notices (s : Session P) (lead : String) :
    Event.notices (s.decide lead).2.2 =
        (fresh (deprecatedClaims s.registry lead) s.notices.names).map .deprecated ∧
      (s.decide lead).2.1.notices.names =
        (fresh (deprecatedClaims s.registry lead) s.notices.names).reverse ++ s.notices.names := by
  unfold decide
  rw [announceAll_eq, deprecatedNames_listOf]
  exact ⟨Event.notices_map_deprecated _, rfl⟩

/-! ## Steps -/

/-- What a step announces: of those that claim in the deprecated way, the
ones that are new. What the collaborator has to report stands before it. -/
structure Announces (m : Moment P) (own : List Event) : Prop where
  events : m.events = m.inquiry ++ own
  notices : Event.notices own = (fresh m.deprecated m.session.notices.names).map .deprecated
  names : (m.session.next m.step).1.notices.names =
    (fresh m.deprecated m.session.notices.names).reverse ++ m.session.notices.names

/-- A step that decides nothing anew announces nobody. -/
theorem Announces.of_target_none {own : List Event} (ht : m.target? = none)
    (hevents : m.events = m.inquiry ++ own) (hquiet : Event.notices own = [])
    (hsame : (m.session.next m.step).1.notices = m.session.notices) : Announces m own := by
  have hnone : m.deprecated = [] := by
    unfold Moment.deprecated
    rw [ht]
  refine ⟨hevents, ?_, ?_⟩
  · rw [hquiet, hnone]
    rfl
  · rw [hsame, hnone]
    rfl

variable {redirects : Redirects} {url lead : String} {follow : Bool}

theorem announces_of_hit {decision : Decision P}
    (hg : (s.cache.get ⟨normalized url, follow⟩).1 = some decision) :
    Announces ⟨s, .resolve redirects url follow⟩
      (.reported (.cacheHit (normalized url) follow) :: (bind decision).2) := by
  refine .of_target_none ?_ ?_ (notices_bind decision) ?_
  · simp [Moment.target?, Moment.misses, hg]
  · simp [Moment.events, Session.next, resolve_of_hit hg, Moment.inquiry, Moment.misses, hg]
  · simp [Session.next, resolve_of_hit hg]

/-- A resolve that misses asks where the address leads. -/
theorem inquiry_of_miss (redirects : Redirects)
    (hg : (s.cache.get ⟨normalized url, follow⟩).1 = none) :
    (⟨s, .resolve redirects url follow⟩ : Moment P).inquiry =
        (target redirects (normalized url) follow).2 ∧
      (⟨s, .resolve redirects url follow⟩ : Moment P).target? =
        (target redirects (normalized url) follow).1.toOption := by
  have hmiss : (⟨s, .resolve redirects url follow⟩ : Moment P).misses
      ⟨normalized url, follow⟩ = true := misses_resolve.2 ⟨rfl, hg⟩
  exact ⟨if_pos hmiss, if_pos hmiss⟩

theorem announces_of_failure {e : Web.HttpError}
    (hg : (s.cache.get ⟨normalized url, follow⟩).1 = none)
    (ht : (target redirects (normalized url) follow).1 = .error e) :
    Announces ⟨s, .resolve redirects url follow⟩ [] := by
  obtain ⟨hinquiry, htarget⟩ := inquiry_of_miss redirects hg
  refine .of_target_none ?_ ?_ rfl ?_
  · rw [htarget, ht]
    rfl
  · simp [Moment.events, Session.next, resolve_of_failure hg ht, hinquiry]
  · simp [Session.next, resolve_of_failure hg ht]

theorem announces_of_miss (hg : (s.cache.get ⟨normalized url, follow⟩).1 = none)
    (ht : (target redirects (normalized url) follow).1 = .ok lead) :
    Announces ⟨s, .resolve redirects url follow⟩
      ((s.decide lead).2.2 ++ (bind (.make s.registry lead)).2) := by
  obtain ⟨hinquiry, htarget⟩ := inquiry_of_miss redirects hg
  have hdeprecated : (⟨s, .resolve redirects url follow⟩ : Moment P).deprecated =
      deprecatedClaims s.registry lead := by
    unfold Moment.deprecated
    rw [htarget, ht]
    rfl
  obtain ⟨hnotices, hnames⟩ := decide_notices s lead
  refine ⟨?_, ?_, ?_⟩
  · simp [Moment.events, Session.next, resolve_of_miss hg ht, hinquiry]
  · rw [Event.notices_append, notices_bind, List.append_nil, hdeprecated]
    exact hnotices
  · rw [hdeprecated]
    simpa [Session.next, resolve_of_miss hg ht] using hnames

/-- **A step announces who claims anew**, and whatever it does besides is
not a notice. -/
theorem announces_ownEvents (m : Moment P) : Announces m m.ownEvents := by
  obtain ⟨own, h⟩ : ∃ own, Announces m own := by
    obtain ⟨s, a⟩ := m
    cases a with
    | change c => exact ⟨[], .of_target_none rfl rfl rfl rfl⟩
    | clearCache => exact ⟨[], .of_target_none rfl rfl rfl rfl⟩
    | resolve redirects url follow =>
      cases hg : (s.cache.get ⟨normalized url, follow⟩).1 with
      | some decision => exact ⟨_, announces_of_hit hg⟩
      | none =>
        cases ht : (target redirects (normalized url) follow).1 with
        | error e => exact ⟨_, announces_of_failure hg ht⟩
        | ok lead => exact ⟨_, announces_of_miss hg ht⟩
  have hown : m.ownEvents = own := by rw [Moment.ownEvents, h.events, List.drop_left]
  rw [hown]
  exact h

/-! ## Histories -/

theorem mem_announced {s : Session P} {name : String} :
    name ∈ s.notices.announced ↔ name ∈ s.notices.names :=
  (Notices.announced_perm s.notices).mem_iff

theorem deprecatedSoFar_cons (m : Moment P) (history : List (Moment P)) :
    deprecatedSoFar (m :: history) = deprecatedSoFar history ++ m.deprecated := by
  simp [deprecatedSoFar]

theorem ownStory_cons (m : Moment P) (history : List (Moment P)) :
    ownStory (m :: history) = ownStory history ++ m.ownEvents := by
  simp [ownStory]

theorem mem_deprecatedSoFar {name : String} :
    name ∈ deprecatedSoFar history ↔ ∃ m ∈ history, name ∈ m.deprecated := by
  simp [deprecatedSoFar]

theorem mem_deprecated {name : String} :
    name ∈ m.deprecated ↔ ∃ lead, m.target? = some lead ∧
      ∃ c ∈ m.session.registry.classes, ∃ p,
        c.strategy = .legacy p ∧ p.test lead = true ∧ c.name = name := by
  unfold Moment.deprecated
  cases m.target? with
  | none => simp
  | some lead => simp [mem_deprecatedClaims]

/-- Of all deprecated claims the first one of each name has been announced. -/
structure Recorded (s : Session P) (history : List (Moment P)) : Prop where
  names : s.notices.names = (deprecatedSoFar history).eraseDups.reverse
  notices : Event.notices (ownStory history) = (deprecatedSoFar history).eraseDups.map .deprecated

theorem Recorded.mem_names (h : Recorded s history) {name : String} :
    name ∈ s.notices.names ↔ name ∈ deprecatedSoFar history := by
  rw [h.names, List.mem_reverse, List.mem_eraseDups]

theorem Recorded.created (registry : Registry P) (h : create names config = .ok s) :
    Recorded (s.withRegistry registry) [] := by
  unfold create at h
  split at h
  · cases h
  · cases h
    exact ⟨rfl, rfl⟩

/-- **Every step keeps the record**: it adds the names that are new. -/
theorem Recorded.next (h : Recorded s history) (a : Step P) :
    Recorded (s.next a).1 (⟨s, a⟩ :: history) := by
  obtain ⟨-, hnotices, hnames⟩ := announces_ownEvents (⟨s, a⟩ : Moment P)
  have hnew : fresh (⟨s, a⟩ : Moment P).deprecated s.notices.names =
      fresh (⟨s, a⟩ : Moment P).deprecated (deprecatedSoFar history) :=
    fresh_congr fun _ => h.mem_names
  have hall : (deprecatedSoFar (⟨s, a⟩ :: history)).eraseDups =
      (deprecatedSoFar history).eraseDups ++
        fresh (⟨s, a⟩ : Moment P).deprecated s.notices.names := by
    rw [hnew, deprecatedSoFar_cons, List.eraseDups_append, fresh]
  refine ⟨?_, ?_⟩
  · rw [hnames, hall, List.reverse_append]
    exact congrArg _ h.names
  · rw [ownStory_cons, Event.notices_append, h.notices, hnotices, hall, List.map_append]

theorem Run.recorded (h : Run names config s history) : Recorded s history := by
  induction h with
  | created registry hs => exact .created registry hs
  | step a _ ih => exact ih.next a

/-- A name that has claimed in the deprecated way is in one notice. -/
theorem Recorded.count_notices (h : Recorded s history) {name : String}
    (hname : name ∈ s.notices.names) :
    (Event.notices (ownStory history)).count (.deprecated name) = 1 := by
  have hnodup : ((deprecatedSoFar history).eraseDups.map Report.deprecated).Nodup :=
    (nodup_eraseDups _).map fun _ _ heq => by cases heq; rfl
  rw [h.notices]
  exact List.count_eq_one_of_mem hnodup
    (List.mem_map_of_mem (List.mem_eraseDups.2 (h.mem_names.1 hname)))

theorem Recorded.nodup_announced (h : Recorded s history) : s.notices.announced.Nodup := by
  rw [(Notices.announced_perm s.notices).nodup_iff, h.names, List.nodup_reverse]
  exact nodup_eraseDups _

/-- Where the collaborator gives no notice, the session's own notices are all there are. -/
theorem notices_story (h : ∀ m ∈ history, Event.notices m.inquiry = []) :
    Event.notices (story history) = Event.notices (ownStory history) := by
  induction history with
  | nil => rfl
  | cons m history ih =>
    have hm : Event.notices m.events = Event.notices m.ownEvents := by
      rw [(announces_ownEvents m).events, Event.notices_append, h m List.mem_cons_self,
        List.nil_append]
    have hstory : story (m :: history) = story history ++ m.events := by simp [story]
    rw [hstory, ownStory_cons, Event.notices_append, Event.notices_append, hm,
      ih fun m hm => h m (List.mem_cons_of_mem _ hm)]

theorem notices_conclude (text : String) (requests : List Web.Request)
    (last : Except Web.RequestFailure (Web.Url × Nat)) :
    Event.notices ((Web.Redirect.conclude text requests last).reports.map .reported) = [] := by
  unfold Web.Redirect.conclude
  cases last with
  | error e => rfl
  | ok reached =>
    dsimp only
    split <;> rfl

/-- The notices of an inquiry are those that the collaborator reports. -/
theorem notices_target (redirects : Redirects) (url : String) (follow : Bool) :
    Event.notices (target redirects url follow).2 =
      if follow then Event.notices ((redirects url).reports.map .reported) else [] := by
  cases follow <;> rfl

theorem notices_overHttp (peer : Web.Peer) (client : Web.Client) (url : String) :
    Event.notices ((Redirects.overHttp peer client url).reports.map .reported) = [] := by
  unfold Redirects.overHttp Web.Redirect.resolve
  split
  · rfl
  · dsimp only
    split
    · exact notices_conclude _ _ _
    · split <;> exact notices_conclude _ _ _

/-- The collaborator that follows redirects over HTTP gives no notice. -/
theorem notices_inquiry_overHttp (peer : Web.Peer) (client : Web.Client) (url : String)
    (follow : Bool) :
    Event.notices (⟨s, .resolve (.overHttp peer client) url follow⟩ : Moment P).inquiry = [] := by
  unfold Moment.inquiry
  dsimp only
  split
  · rw [notices_target, notices_overHttp, ite_self]
  · rfl

theorem mem_putInto_self (c : PluginClass P) (classes : List (PluginClass P)) :
    c ∈ Registry.putInto c classes := by
  induction classes with
  | nil => exact List.mem_cons_self
  | cons d rest ih =>
    unfold Registry.putInto
    split
    · exact List.mem_cons_self
    · exact List.mem_cons_of_mem _ ih

/-- A renamed class is among the classes, under its new name. -/
theorem mem_classes_rename {registry : Registry P} {name : String} {c : PluginClass P}
    (h : registry.get? name = some c) (new : String) :
    c.renamed new ∈ (registry.apply (.rename name new)).classes := by
  simp only [Registry.apply, Registry.copyAs, h]
  exact mem_putInto_self _ _

/-- A class that claims the target of a step in the deprecated way is known
by its name afterwards, and by a notice of this step unless it was before. -/
theorem announced_of_mem_deprecated {name : String} (h : name ∈ m.deprecated) :
    name ∈ (m.session.next m.step).1.notices.announced ∧
      (name ∉ m.session.notices.announced → .deprecated name ∈ Event.notices m.ownEvents) := by
  obtain ⟨-, hnotices, hnames⟩ := announces_ownEvents m
  have hnew : name ∉ m.session.notices.names →
      name ∈ fresh m.deprecated m.session.notices.names := fun hn => by
    simp [fresh, List.removeAll, h, hn]
  rw [mem_announced, mem_announced, hnames, hnotices]
  refine ⟨?_, fun hn => List.mem_map_of_mem (hnew hn)⟩
  by_cases hn : name ∈ m.session.notices.names
  · exact List.mem_append_right _ hn
  · exact List.mem_append_left _ (List.mem_reverse.2 (hnew hn))

/-- **Who has claimed in the deprecated way is announced, and once.** In
every history the announced names are those of the classes whose predicate
has claimed the target of a resolve that missed the cache, whether they
have won or not. A step announces those among them that were not announced
before, in the order of their registration, and so the notices of the
whole history are the names of all such claims, each at its first place:
hits, failures, a cleared cache and changes of the registry announce
nobody and forget nobody. A class that is renamed is announced under its
new name. -/
theorem announced_once (h : Run names config s history) :
    (∀ name, name ∈ s.notices.announced ↔
      ∃ m ∈ history, ∃ lead, m.target? = some lead ∧
        ∃ c ∈ m.session.registry.classes, ∃ p,
          c.strategy = .legacy p ∧ p.test lead = true ∧ c.name = name) ∧
    s.notices.announced.Nodup ∧
    (∀ m ∈ history, m.events = m.inquiry ++ m.ownEvents) ∧
    Event.notices (ownStory history) = (deprecatedSoFar history).eraseDups.map .deprecated ∧
    (∀ name ∈ s.notices.announced,
      (Event.notices (ownStory history)).count (.deprecated name) = 1) ∧
    ((∀ m ∈ history, Event.notices m.inquiry = []) →
      Event.notices (story history) = Event.notices (ownStory history)) ∧
    (∀ a : Step P, Event.notices (⟨s, a⟩ : Moment P).ownEvents =
      (fresh (⟨s, a⟩ : Moment P).deprecated s.notices.announced).map .deprecated) ∧
    ∀ name new c p a lead, s.registry.get? name = some c → c.strategy = .legacy p →
      let renamed := (s.next (.change (.rename name new))).1
      (⟨renamed, a⟩ : Moment P).target? = some lead → p.test lead = true →
      new ∈ (renamed.next a).1.notices.announced ∧
      (new ∉ s.notices.announced →
        .deprecated new ∈ Event.notices (⟨renamed, a⟩ : Moment P).ownEvents) := by
  have hr := h.recorded
  refine ⟨fun name => ?_, hr.nodup_announced, fun m _ => (announces_ownEvents m).events,
    hr.notices, fun name hname => hr.count_notices (mem_announced.1 hname), notices_story,
    fun a => ?_, ?_⟩
  · rw [mem_announced, hr.mem_names, mem_deprecatedSoFar]
    simp only [mem_deprecated]
  · rw [(announces_ownEvents (⟨s, a⟩ : Moment P)).notices]
    rw [fresh_congr fun _ => mem_announced.symm]
  · intro name new c p a lead hc hp renamed ht hclaim
    have hmem : new ∈ (⟨renamed, a⟩ : Moment P).deprecated :=
      mem_deprecated.2 ⟨lead, ht, c.renamed new, mem_classes_rename hc new, p, hp, hclaim, rfl⟩
    exact announced_of_mem_deprecated hmem

/-- An address is resolved, the class is renamed, and then the same address
is resolved with an empty cache, and once more. -/
def renamedLater : List (Step Input) :=
  [.resolve direct "https://a" true, .change (.rename "any" "all"), .clearCache,
    .resolve direct "https://a" true, .resolve direct "https://a" true]

/-- Both names of the class are announced, each once, and in this order,
although the class of the first name has claimed twice. -/
theorem both_names_announced :
    ∃ s history, Run Web.localNames oneEntry s history ∧
      history.reverse.map Moment.step = renamedLater ∧
      deprecatedSoFar history = ["any", "any", "all"] ∧
      Event.notices (story history) = [.deprecated "any", .deprecated "all"] ∧
      (Event.notices (ownStory history)).count (.deprecated "any") = 1 ∧
      s.notices.announced = ["all", "any"] := by
  have hopened : Run Web.localNames oneEntry soleClass [] :=
    .created (s := { soleClass with registry := .empty }) soleClass.registry rfl
  have hrun := ((((hopened.step (.resolve direct "https://a" true)).step
    (.change (.rename "any" "all"))).step .clearCache).step
    (.resolve direct "https://a" true)).step (.resolve direct "https://a" true)
  obtain ⟨-, -, -, hown, hcount, hstory, -⟩ := announced_once hrun
  refine ⟨_, _, hrun, rfl, by decide, ?_, hcount "any" (by decide), by decide⟩
  rw [hstory, hown]
  · decide
  · decide

end StreamFinder.Session
