import StreamFinder.Proofs.Json.Compact
import StreamFinder.Session.Config
/-!
# The settings that a document makes

A configuration is read from an object member by member. What counts of an
object is which values it gives to each field (`ConfigField.given`): none,
and the field has its default; one of the type of the field, and the field
is set to it; anything else spoils the object. The order of the members has
no part in this, nor have members of other names, so a configuration is
read back from its own members in any order.
-/

namespace StreamFinder.Session

open Json

/-! ## Fields -/

namespace ConfigField

/-- Whether a JSON value has the type of a field. A number has it if it is
written as an integer without a sign and fits into 64 bits. -/
def Takes : ConfigField → Value → Prop
  | .userAgent, v => ∃ s, v = .text s
  | .httpProxy, v | .httpsProxy, v => ∃ p, v = .orNull .text p
  | .timeoutSeconds, v | .maxRedirects, v | .cacheCapacity, v => ∃ n < Nat.pow 2 64, v = .nat n

/-- The values that the members of an object give to a field, in their order. -/
def given (f : ConfigField) (members : List (Option String × Value)) : List Value :=
  members.filterMap fun (name, v) => if name = some f.name then some v else none

variable {f g : ConfigField} {name : String} {v : Value} {ms : List (Option String × Value)}

theorem ofName?_name (f : ConfigField) : ofName? f.name = some f := by
  cases f <;> decide

theorem name_of_ofName? (h : ofName? name = some f) : f.name = name := by
  have hfound := List.find?_some (p := fun f : ConfigField => decide (f.name = name)) h
  exact of_decide_eq_true hfound

theorem name_inj (h : f.name = g.name) : f = g := by
  have hsame := ofName?_name f
  rw [h, ofName?_name] at hsame
  exact (Option.some.inj hsame).symm

@[simp] theorem given_nil (f : ConfigField) : f.given [] = [] := rfl

theorem given_cons_self (f : ConfigField) (v : Value) (ms : List (Option String × Value)) :
    f.given ((some f.name, v) :: ms) = v :: f.given ms := by
  simp [given]

theorem given_cons_of_ne {m : Option String × Value} (h : m.1 ≠ some f.name) :
    f.given (m :: ms) = f.given ms := by
  simp [given, h]

theorem given_cons_field_of_ne (h : g ≠ f) : g.given ((some f.name, v) :: ms) = g.given ms :=
  given_cons_of_ne fun hname => h (name_inj (Option.some.inj hname)).symm

end ConfigField

open ConfigField

/-! ## One field is set -/

theorem word?_eq_some_iff {v : Value} {n : Nat} :
    word? v = some n ↔ n < Nat.pow 2 64 ∧ v = .nat n := by
  cases v with
  | number m =>
    obtain ⟨negative, whole, tail⟩ := m
    have hnat : Number.ofInt n = ⟨false, n, ""⟩ := by simp [Number.ofInt]
    rw [word?, Option.filter_eq_some_iff, Value.nat, hnat, Value.number.injEq, Number.mk.injEq]
    simp only [Value.nat?, Number.toNat?, Option.ite_none_right_eq_some, Option.some.injEq]
    constructor
    · rintro ⟨⟨⟨rfl, rfl⟩, rfl⟩, hfits⟩
      exact ⟨of_decide_eq_true hfits, rfl, rfl, rfl⟩
    · rintro ⟨hfits, rfl, rfl, rfl⟩
      exact ⟨⟨⟨rfl, rfl⟩, rfl⟩, decide_eq_true hfits⟩
  | _ => simp [word?, Value.nat?, Value.nat]

variable {c c' : SessionConfig} {f g : ConfigField} {v : Value}

theorem orNull_text_inj {p q : Option String} (h : Value.orNull .text p = Value.orNull .text q) :
    p = q := by
  cases p <;> cases q <;> simp_all [Value.orNull]

theorem nat_inj {m n : Nat} (h : Value.nat m = Value.nat n) : m = n := by
  have hwhole := congrArg (fun v => v.nat?) h
  simpa [Value.nat, Value.nat?, Number.ofInt, Number.toNat?] using hwhole

/-- A configuration is what its fields are. -/
theorem SessionConfig.ext_field (h : ∀ f, c.field f = c'.field f) : c = c' := by
  obtain ⟨userAgent, httpProxy, httpsProxy, timeoutSeconds, maxRedirects, cacheCapacity⟩ := c
  obtain ⟨userAgent', httpProxy', httpsProxy', timeoutSeconds', maxRedirects', cacheCapacity'⟩ := c'
  rw [SessionConfig.mk.injEq]
  exact ⟨Value.text.inj (h .userAgent), orNull_text_inj (h .httpProxy),
    orNull_text_inj (h .httpsProxy), nat_inj (h .timeoutSeconds), nat_inj (h .maxRedirects),
    nat_inj (h .cacheCapacity)⟩

theorem optionalText?_eq_some_iff {p : Option String} :
    optionalText? v = some p ↔ v = .orNull .text p := by
  cases v <;> cases p <;> simp [optionalText?, Value.orNull]

theorem text?_eq_some_iff {s : String} : v.text? = some s ↔ v = .text s := by
  cases v <;> simp [Value.text?]

/-- **A field is set to the value**, and the other fields stay. -/
theorem field_of_withField (h : c.withField f v = some c') (g : ConfigField) :
    c'.field g = if g = f then v else c.field g := by
  cases f with
  | userAgent =>
    obtain ⟨s, hs, rfl⟩ := Option.map_eq_some_iff.1 h
    obtain rfl := text?_eq_some_iff.1 hs
    cases g <;> rfl
  | httpProxy | httpsProxy =>
    obtain ⟨p, hp, rfl⟩ := Option.map_eq_some_iff.1 h
    obtain rfl := optionalText?_eq_some_iff.1 hp
    cases g <;> rfl
  | timeoutSeconds | maxRedirects | cacheCapacity =>
    obtain ⟨n, hn, rfl⟩ := Option.map_eq_some_iff.1 h
    obtain ⟨-, rfl⟩ := word?_eq_some_iff.1 hn
    cases g <;> rfl

/-- **A field takes the values of its type**, and no others. -/
theorem isSome_withField_iff : (c.withField f v).isSome = true ↔ f.Takes v := by
  cases f with
  | userAgent => simp [SessionConfig.withField, Takes, Option.isSome_iff_exists, text?_eq_some_iff]
  | httpProxy | httpsProxy =>
    simp [SessionConfig.withField, Takes, Option.isSome_iff_exists, optionalText?_eq_some_iff]
  | timeoutSeconds | maxRedirects | cacheCapacity =>
    simp [SessionConfig.withField, Takes, Option.isSome_iff_exists, word?_eq_some_iff]

/-! ## All members of an object -/

section Members

variable {members : List (Option String × Value)} {seen : List ConfigField}

/-- The member of a field sets it, if it has not been set. -/
theorem ofMembers_cons_field (f : ConfigField) (v : Value) (ms : List (Option String × Value)) :
    SessionConfig.ofMembers seen c ((some f.name, v) :: ms) =
      if f ∈ seen then none
      else (c.withField f v).bind fun c => SessionConfig.ofMembers (f :: seen) c ms := by
  rw [SessionConfig.ofMembers, ofName?_name]
  cases hset : c.withField f v <;> simp [hset]

/-- A member of another name is passed over. -/
theorem ofMembers_cons_other {name : String} (h : ofName? name = none) (v : Value)
    (ms : List (Option String × Value)) :
    SessionConfig.ofMembers seen c ((some name, v) :: ms) = SessionConfig.ofMembers seen c ms := by
  rw [SessionConfig.ofMembers, h]

/-- Whether each field is given one value of its type at most, and none if it has been set. -/
def Fit (seen : List ConfigField) (members : List (Option String × Value)) : Prop :=
  ∀ f, f.given members = [] ∨ f ∉ seen ∧ ∃ v, f.given members = [v] ∧ f.Takes v

theorem fit_nil (seen : List ConfigField) : Fit seen [] := fun _ => .inl rfl

theorem fit_cons_field : Fit seen ((some f.name, v) :: members) ↔
    f ∉ seen ∧ f.Takes v ∧ Fit (f :: seen) members := by
  constructor
  · intro h
    obtain hnone | ⟨hf, v', hgiven, htakes⟩ := h f
    · simp [given_cons_self] at hnone
    rw [given_cons_self, List.cons.injEq] at hgiven
    obtain ⟨rfl, hgiven⟩ := hgiven
    refine ⟨hf, htakes, fun g => ?_⟩
    by_cases hg : g = f
    · exact .inl (hg ▸ hgiven)
    · have hother := h g
      rw [given_cons_field_of_ne hg] at hother
      simpa [hg] using hother
  · rintro ⟨hf, htakes, hfit⟩ g
    by_cases hg : g = f
    · subst hg
      obtain hnone | ⟨hnot, -⟩ := hfit g
      · exact .inr ⟨hf, v, by rw [given_cons_self, hnone], htakes⟩
      · exact absurd List.mem_cons_self hnot
    · rw [given_cons_field_of_ne hg]
      simpa [hg] using hfit g

/-- A field that has been set is given nothing more. -/
theorem Fit.given_of_mem (h : Fit seen members) (hf : f ∈ seen) : f.given members = [] :=
  (h f).resolve_right fun hnot => hnot.1 hf

/-- Setting the field of the first member first makes no difference. -/
theorem getD_given_cons (hset : c.withField f v = some c') (hfit : Fit (f :: seen) members)
    (g : ConfigField) : (g.given members).head?.getD (c'.field g) =
      (g.given ((some f.name, v) :: members)).head?.getD (c.field g) := by
  rw [field_of_withField hset]
  split
  · next h =>
    subst h
    rw [hfit.given_of_mem List.mem_cons_self, given_cons_self]
    rfl
  · next h => rw [given_cons_field_of_ne h]

/-- **An object is read if it fits**, and sets the fields that it gives a value. -/
theorem ofMembers_eq_some_iff : SessionConfig.ofMembers seen c members = some c' ↔
    (∀ m ∈ members, m.1.isSome = true) ∧ Fit seen members ∧
      ∀ f, c'.field f = (f.given members).head?.getD (c.field f) := by
  induction members generalizing seen c with
  | nil =>
    simp only [SessionConfig.ofMembers, Option.some.injEq, List.not_mem_nil, false_implies,
      implies_true, fit_nil, given_nil, List.head?_nil, Option.getD_none, true_and]
    exact ⟨fun h _ => h ▸ rfl, fun h => SessionConfig.ext_field fun f => (h f).symm⟩
  | cons m ms ih =>
    obtain ⟨_ | name, v⟩ := m
    · simp [SessionConfig.ofMembers]
    · cases hname : ofName? name with
      | none =>
        have hgiven (f : ConfigField) : f.given ((some name, v) :: ms) = f.given ms :=
          given_cons_of_ne fun h => by
            rw [Option.some.inj h, ofName?_name] at hname
            cases hname
        rw [ofMembers_cons_other hname, ih]
        simp [Fit, hgiven]
      | some f =>
        obtain rfl := name_of_ofName? hname
        rw [ofMembers_cons_field, fit_cons_field, ← isSome_withField_iff (c := c)]
        -- a field that was set before spoils the object, and does not fit
        by_cases hf : f ∈ seen
        · simp [hf]
        cases hset : c.withField f v with
        | none => simp
        | some c₁ =>
          simp only [hf, if_false, Option.bind_some, ih, List.forall_mem_cons, Option.isSome_some,
            not_false_eq_true, true_and]
          refine and_congr_right fun _ => and_congr_right fun hfit => forall_congr' fun g => ?_
          rw [getD_given_cons hset hfit]

/-- A document that spells an object is read member by member. -/
theorem parse_of_spells {document : String} (h : SpellsDocument (.object members) document) :
    SessionConfig.parse document = SessionConfig.ofMembers [] .default members := by
  rw [SessionConfig.parse, parse_eq_of_spells h]
  rfl

end Members

/-! ## Configurations as documents -/

/-- The fields of a configuration can have any values of their types. -/
theorem exists_of_takes {vs : ConfigField → Value} (h : ∀ f : ConfigField, f.Takes (vs f)) :
    ∃ c : SessionConfig, ∀ f, c.field f = vs f := by
  obtain ⟨userAgent, huserAgent⟩ := h .userAgent
  obtain ⟨httpProxy, hhttpProxy⟩ := h .httpProxy
  obtain ⟨httpsProxy, hhttpsProxy⟩ := h .httpsProxy
  obtain ⟨timeoutSeconds, -, htimeoutSeconds⟩ := h .timeoutSeconds
  obtain ⟨maxRedirects, -, hmaxRedirects⟩ := h .maxRedirects
  obtain ⟨cacheCapacity, -, hcacheCapacity⟩ := h .cacheCapacity
  refine ⟨⟨userAgent, httpProxy, httpsProxy, timeoutSeconds, maxRedirects, cacheCapacity⟩,
    fun f => ?_⟩
  cases f <;> symm <;> assumption

namespace SessionConfig

/-- Whether the numbers of a configuration fit into 64 bits. -/
structure Fits (c : SessionConfig) : Prop where
  timeoutSeconds : c.timeoutSeconds < Nat.pow 2 64
  maxRedirects : c.maxRedirects < Nat.pow 2 64
  cacheCapacity : c.cacheCapacity < Nat.pow 2 64

/-- The members of a configuration, in some order. -/
def membersIn (c : SessionConfig) (order : List ConfigField) : List (Option String × Value) :=
  order.map fun f => (some f.name, c.field f)

/-- The configuration as a JSON document in compact form, with its members in some order. -/
def renderIn (c : SessionConfig) (order : List ConfigField) : String :=
  (Value.object (c.membersIn order)).render

theorem renderIn_all (c : SessionConfig) : c.renderIn ConfigField.all = c.render := by
  rfl

theorem fits_default : default.Fits := by
  constructor <;> decide

/-- The values of a configuration have the types of their fields. -/
theorem takes_field (hc : c.Fits) (f : ConfigField) : f.Takes (c.field f) := by
  cases f with
  | userAgent | httpProxy | httpsProxy => exact ⟨_, rfl⟩
  | timeoutSeconds => exact ⟨_, hc.timeoutSeconds, rfl⟩
  | maxRedirects => exact ⟨_, hc.maxRedirects, rfl⟩
  | cacheCapacity => exact ⟨_, hc.cacheCapacity, rfl⟩

theorem isProper_field (c : SessionConfig) (f : ConfigField) : (c.field f).IsProper := by
  have hproxy (p : Option String) : (Value.orNull .text p).IsProper := by
    cases p <;> trivial
  have hnat (n : Nat) : (Value.nat n).IsProper := ⟨[], [], rfl, .none, .none⟩
  cases f with
  | userAgent => trivial
  | httpProxy | httpsProxy => exact hproxy _
  | timeoutSeconds | maxRedirects | cacheCapacity => exact hnat _

theorem areProperMembers_membersIn (c : SessionConfig) (order : List ConfigField) :
    Value.AreProperMembers (c.membersIn order) := by
  induction order with
  | nil => trivial
  | cons f order ih => exact ⟨rfl, c.isProper_field f, ih⟩

/-- **In any order** a field is given its own value, and nothing else. -/
theorem given_membersIn (c : SessionConfig) {order : List ConfigField}
    (horder : order.Perm ConfigField.all) (f : ConfigField) :
    f.given (c.membersIn order) = [c.field f] := by
  have hall : f.given (c.membersIn ConfigField.all) = [c.field f] := by
    cases f <;> rfl
  have hperm : (f.given (c.membersIn order)).Perm (f.given (c.membersIn ConfigField.all)) :=
    (horder.map _).filterMap _
  -- a single value has no order
  rw [hall] at hperm
  exact List.perm_singleton.1 hperm

/-- **A configuration is read back from its members in any order.** -/
theorem parse_renderIn (hc : c.Fits) {order : List ConfigField}
    (horder : order.Perm ConfigField.all) : parse (c.renderIn order) = some c := by
  have hspells := Value.spellsDocument_render (v := .object (c.membersIn order))
    (c.areProperMembers_membersIn order)
  refine (parse_of_spells hspells).trans (ofMembers_eq_some_iff.2 ⟨?_, fun f => ?_, fun f => ?_⟩)
  · simp [membersIn]
  · exact .inr ⟨List.not_mem_nil, c.field f, c.given_membersIn horder f, takes_field hc f⟩
  · rw [c.given_membersIn horder]
    rfl

/-- **A configuration survives its JSON form.** It is read back from its
compact form, whatever the order of the members. A document of an object
that gives each field one value of its type, or none, makes the default
configuration with these fields set, whatever its other members are. A
field that is given two values, or one that is not of its type, spoils the
document; a number is of its type if it is written as an integer, without
a sign, and fits into 64 bits. So does a name that is no text, for it has
half of a surrogate pair. -/
theorem survives_json :
    (∀ c : SessionConfig, c.Fits → parse c.render = some c ∧
      ∀ order, order.Perm ConfigField.all → parse (c.renderIn order) = some c) ∧
    (∀ document members, SpellsDocument (.object members) document →
      (∀ m ∈ members, m.1.isSome = true) →
      (∀ f : ConfigField, f.given members = [] ∨ ∃ v, f.given members = [v] ∧ f.Takes v) →
      ∃ c, parse document = some c ∧
        ∀ f, c.field f = (f.given members).head?.getD (default.field f)) ∧
    (∀ document members, SpellsDocument (.object members) document → ∀ f : ConfigField,
      2 ≤ (f.given members).length ∨ (∃ v ∈ f.given members, ¬ f.Takes v) →
      parse document = none) ∧
    ∀ document members, SpellsDocument (.object members) document →
      (∃ m ∈ members, m.1 = none) → parse document = none := by
  refine ⟨fun c hc => ⟨?_, fun order horder => parse_renderIn hc horder⟩,
    fun document members hspells hnames hgiven => ?_, fun document members hspells f hbad => ?_,
    fun document members hspells hname => ?_⟩
  · exact renderIn_all c ▸ parse_renderIn hc (.refl _)
  · have htakes (f : ConfigField) : f.Takes ((f.given members).head?.getD (default.field f)) := by
      obtain hnone | ⟨v, hv, htakes⟩ := hgiven f
      · rw [hnone]
        exact takes_field fits_default f
      · rw [hv]
        exact htakes
    obtain ⟨c, hc⟩ := exists_of_takes htakes
    have hfit : Fit [] members := fun f => (hgiven f).imp_right fun h => ⟨List.not_mem_nil, h⟩
    exact ⟨c, (parse_of_spells hspells).trans (ofMembers_eq_some_iff.2 ⟨hnames, hfit, hc⟩), hc⟩
  · rw [parse_of_spells hspells, Option.eq_none_iff_forall_ne_some]
    intro c hread
    obtain ⟨-, hfit, -⟩ := ofMembers_eq_some_iff.1 hread
    obtain hnone | ⟨-, v, hv, htakes⟩ := hfit f
    · simp [hnone] at hbad
    · simp [hv, htakes] at hbad
  · rw [parse_of_spells hspells, Option.eq_none_iff_forall_ne_some]
    intro c hread
    obtain ⟨m, hm, hnone⟩ := hname
    simpa [hnone] using (ofMembers_eq_some_iff.1 hread).1 m hm

/-- A quotation mark, a control and a character beyond 16 bits survive, with the greatest number.
Neither blanks and escapes nor members of other names make a difference to a document; a limit
that is given twice or as `1.0` spoils it, and so does half of a surrogate pair as a name. -/
theorem odd_settings_survive :
    let odd : SessionConfig := ⟨"\"\x01\\𝄞", some "", none, Nat.pow 2 64 - 1, 0, 128⟩
    (parse odd.render = some odd ∧
      parse (odd.renderIn ConfigField.all.reverse) = some odd) ∧
    (∃ c, parse "\x7b\"\\u0078\" :[],\"max_redirects\":3\x7d" = some c ∧
      c.field .maxRedirects = .nat 3 ∧ ∀ f ≠ .maxRedirects, c.field f = default.field f) ∧
    parse "\x7b\"max_redirects\":3,\"max_redirects\":3\x7d" = none ∧
    parse "\x7b\"max_redirects\":1.0\x7d" = none ∧
    parse "\x7b\"\\ud800\":3\x7d" = none := by
  obtain ⟨hsurvives, hpartial, hspoilt, hgarbled⟩ := survives_json
  have hspace : IsSpace [] := Value.isSpace_nil
  have hblank : IsSpace [' '] := by simp [IsSpace, isSpace]
  have hlimit := spellsString_quote "max_redirects"
  have hthree : Spells (.nat 3) (Number.ofInt 3).render := .number ⟨[], [], rfl, .none, .none⟩
  intro odd
  refine ⟨?_, ?_, ?_, ?_, ?_⟩
  · have hodd := hsurvives odd ⟨by decide, by decide, by decide⟩
    exact ⟨hodd.1, hodd.2 _ ConfigField.all.reverse_perm⟩
  · have hname : SpellsString (some "x") "\"\\u0078\"".toList :=
      .quoted (.cons (.unit (n := 0x78) rfl) .nil)
    have hspells : SpellsDocument (.object [(some "x", .array []), (some "max_redirects", .nat 3)])
        "\x7b\"\\u0078\" :[],\"max_redirects\":3\x7d" :=
      ⟨[], _, [], hspace, .object hspace (.more hname hblank hspace (.emptyArray hspace) hspace
        hspace (.last hlimit hspace hspace hthree hspace)), hspace, rfl⟩
    obtain ⟨c, hc, hfields⟩ := hpartial _ _ hspells (by decide) (fun f => by
      cases f <;> first | exact .inl rfl | exact .inr ⟨_, rfl, 3, by decide, rfl⟩)
    refine ⟨c, hc, hfields _, fun f hf => ?_⟩
    cases f <;> first | exact hfields _ | exact absurd rfl hf
  · refine hspoilt _ [(some "max_redirects", .nat 3), (some "max_redirects", .nat 3)] ?_
      .maxRedirects (.inl (by decide))
    exact ⟨[], _, [], hspace, .object hspace (.more hlimit hspace hspace hthree hspace hspace
      (.last hlimit hspace hspace hthree hspace)), hspace, rfl⟩
  · have hone : Spells (.number ⟨false, 1, ".0"⟩) "1.0".toList :=
      .number ⟨['.', '0'], [], rfl, .some ⟨by decide, by simp⟩, .none⟩
    refine hspoilt _ [(some "max_redirects", .number ⟨false, 1, ".0"⟩)] ?_
      .maxRedirects (.inr ⟨_, List.mem_singleton_self _, ?_⟩)
    · exact ⟨[], _, [], hspace, .object hspace (.last hlimit hspace hspace hone hspace), hspace,
        rfl⟩
    · rintro ⟨n, -, hn⟩
      have htail : ".0" = "" := congrArg Number.tail (Value.number.inj hn)
      exact absurd htail (by decide)
  · have hname : SpellsString none "\"\\ud800\"".toList :=
      .quoted (.cons (.unit (n := 0xd800) rfl) .nil)
    refine hgarbled _ [(none, .nat 3)] ?_ ⟨_, List.mem_singleton_self _, rfl⟩
    exact ⟨[], _, [], hspace, .object hspace (.last hname hspace hspace hthree hspace), hspace, rfl⟩

end SessionConfig

end StreamFinder.Session
