import Mathlib.Data.List.TakeWhile
import StreamFinder.Json.Reader
import StreamFinder.Json.Writer
/-!
# The grammar of JSON

Which texts spell a value: any blanks between tokens, and in a string any
way to write a character. A string whose escapes denote half of a surrogate
pair is spelled as well, and has no contents.

What the grammar derives, the reader accepts (`parse_eq_of_spells`). The
reader is led by the next character, so the argument is about what may come
next: a value does not begin with a blank or a closing bracket, and what
follows a value cannot be a part of it, which for numbers has to be said
(`IsEnd`). The fuel of the reader is twice the length of the text, since
each item of an array costs two of it, one for the item and one for the
list, and is at least one character and a mark.
-/

namespace StreamFinder.Json

open Text

/-! ## Tokens -/

/-- Blanks between tokens. -/
def IsSpace (w : List Char) : Prop := ∀ c ∈ w, isSpace c = true

/-- A non-empty run of digits. -/
def IsDigits (ds : List Char) : Prop := ds ≠ [] ∧ ∀ c ∈ ds, c.isDigit = true

/-- The fraction of a number, or nothing. -/
inductive IsFraction : List Char → Prop where
  | none : IsFraction []
  | some {ds : List Char} (h : IsDigits ds) : IsFraction ('.' :: ds)

/-- The exponent of a number, or nothing. -/
inductive IsExponent : List Char → Prop where
  | none : IsExponent []
  | unsigned {e : Char} {ds : List Char} (he : e = 'e' ∨ e = 'E') (h : IsDigits ds) :
    IsExponent (e :: ds)
  | signed {e sign : Char} {ds : List Char} (he : e = 'e' ∨ e = 'E')
    (hsign : sign = '+' ∨ sign = '-') (h : IsDigits ds) : IsExponent (e :: sign :: ds)

/-- What follows the whole part of a number is a fraction and an exponent. -/
def Number.IsSpelled (n : Number) : Prop :=
  ∃ fraction exponent, n.tail.toList = fraction ++ exponent ∧ IsFraction fraction ∧
    IsExponent exponent

/-- How a piece of a string is spelled. -/
inductive SpellsPiece : Piece → List Char → Prop where
  /-- Any character but a control, the quotation mark and the backslash stands for itself. -/
  | plain {c : Char} (hcontrol : 0x20 ≤ c.toNat) (hquote : c ≠ '"') (hbackslash : c ≠ '\\') :
    SpellsPiece (.char c) [c]
  /-- Some characters are named by a letter or a mark. -/
  | escaped {e c : Char} (h : escapedChar? e = some c) : SpellsPiece (.char c) ['\\', e]
  /-- A code unit is written with four hexadecimal digits. -/
  | unit {a b c d : Char} {n : Nat} (h : codeUnit? a b c d = some n) :
    SpellsPiece (.unit n) ['\\', 'u', a, b, c, d]

/-- How the pieces of a string are spelled. -/
inductive SpellsPieces : List Piece → List Char → Prop where
  | nil : SpellsPieces [] []
  | cons {p : Piece} {ps : List Piece} {t ts : List Char} (h : SpellsPiece p t)
    (hs : SpellsPieces ps ts) : SpellsPieces (p :: ps) (t ++ ts)

/-- How a string is spelled; its contents are what its pieces join to, if they do. -/
inductive SpellsString : Option String → List Char → Prop where
  | quoted {pieces : List Piece} {t : List Char} (h : SpellsPieces pieces t) :
    SpellsString ((joinPieces pieces).map String.ofList) ('"' :: (t ++ ['"']))

/-! ## Values -/

mutual

/-- How a value is spelled. -/
inductive Spells : Value → List Char → Prop where
  | null : Spells .null ['n', 'u', 'l', 'l']
  | yes : Spells (.bool true) ['t', 'r', 'u', 'e']
  | no : Spells (.bool false) ['f', 'a', 'l', 's', 'e']
  | number {n : Number} (h : n.IsSpelled) : Spells (.number n) n.render
  | text {s : String} {t : List Char} (h : SpellsString (some s) t) : Spells (.text s) t
  | garbled {t : List Char} (h : SpellsString none t) : Spells .garbled t
  | emptyArray {w : List Char} (hw : IsSpace w) : Spells (.array []) ('[' :: (w ++ [']']))
  | array {items : List Value} {w t : List Char} (hw : IsSpace w) (h : SpellsItems items t) :
    Spells (.array items) ('[' :: (w ++ t))
  | emptyObject {w : List Char} (hw : IsSpace w) :
    Spells (.object []) ('\x7b' :: (w ++ ['\x7d']))
  | object {members : List (Option String × Value)} {w t : List Char} (hw : IsSpace w)
    (h : SpellsMembers members t) : Spells (.object members) ('\x7b' :: (w ++ t))

/-- How the items of an array are spelled, up to the closing bracket. -/
inductive SpellsItems : List Value → List Char → Prop where
  | last {v : Value} {t w : List Char} (h : Spells v t) (hw : IsSpace w) :
    SpellsItems [v] (t ++ (w ++ [']']))
  | more {v : Value} {vs : List Value} {t w w' ts : List Char} (h : Spells v t) (hw : IsSpace w)
    (hw' : IsSpace w') (hs : SpellsItems vs ts) :
    SpellsItems (v :: vs) (t ++ (w ++ ',' :: (w' ++ ts)))

/-- How the members of an object are spelled, up to the closing brace. -/
inductive SpellsMembers : List (Option String × Value) → List Char → Prop where
  | last {name : Option String} {v : Value} {k w₁ w₂ t w : List Char} (hk : SpellsString name k)
    (hw₁ : IsSpace w₁) (hw₂ : IsSpace w₂) (h : Spells v t) (hw : IsSpace w) :
    SpellsMembers [(name, v)] (k ++ (w₁ ++ ':' :: (w₂ ++ (t ++ (w ++ ['\x7d'])))))
  | more {name : Option String} {v : Value} {ms : List (Option String × Value)}
    {k w₁ w₂ t w w' ts : List Char} (hk : SpellsString name k) (hw₁ : IsSpace w₁)
    (hw₂ : IsSpace w₂) (h : Spells v t) (hw : IsSpace w) (hw' : IsSpace w')
    (hs : SpellsMembers ms ts) :
    SpellsMembers ((name, v) :: ms)
      (k ++ (w₁ ++ ':' :: (w₂ ++ (t ++ (w ++ ',' :: (w' ++ ts))))))

end

/-- How a document is spelled: a value with blanks around it. -/
def SpellsDocument (v : Value) (document : String) : Prop :=
  ∃ w t w', IsSpace w ∧ Spells v t ∧ IsSpace w' ∧ document.toList = w ++ (t ++ w')

/-! ## What comes next -/

variable {w s t rest ds : List Char} {c : Char} {v : Value} {fuel : Nat}

/-- What may follow a value: nothing, a blank, or a mark that parts or closes. -/
def IsEnd (rest : List Char) : Prop :=
  ∀ c ∈ rest.head?, isSpace c = true ∨ c = ',' ∨ c = ']' ∨ c = '\x7d'

theorem isSpace_iff : isSpace c = true ↔ c = ' ' ∨ c = '\n' ∨ c = '\r' ∨ c = '\t' := by
  simp [isSpace, or_assoc]

theorem isEnd_nil : IsEnd [] := by simp [IsEnd]

/-- Blanks in front of a mark that ends a value end it. -/
theorem IsSpace.isEnd_append (hw : IsSpace w) (hrest : IsEnd rest) : IsEnd (w ++ rest) := by
  cases w with
  | nil => exact hrest
  | cons b w =>
    intro c hc
    obtain rfl : b = c := by simpa using hc
    exact .inl (hw b List.mem_cons_self)

/-- **Blanks are skipped** up to a character that is none. -/
theorem skipSpace_append (hw : IsSpace w) (hc : isSpace c = false) :
    skipSpace (w ++ c :: s) = c :: s := by
  rw [skipSpace, List.dropWhile_append_of_pos hw, List.dropWhile_cons_of_neg (by simp [hc])]

/-- A text does not go on with a digit. -/
def NoDigit (rest : List Char) : Prop := ∀ c ∈ rest.head?, c.isDigit = false

/-- A digit, a point and the letters of an exponent do not end a value. -/
theorem IsEnd.not_numeral (hrest : IsEnd rest) :
    NoDigit rest ∧ (∀ s, rest ≠ '.' :: s) ∧ ∀ e s, rest = e :: s → ¬ (e = 'e' ∨ e = 'E') := by
  have hhead {c : Char} {s : List Char} (h : rest = c :: s) :
      c = ' ' ∨ c = '\n' ∨ c = '\r' ∨ c = '\t' ∨ c = ',' ∨ c = ']' ∨ c = '\x7d' := by
    have hc := hrest c (by rw [h]; rfl)
    rwa [isSpace_iff, or_assoc, or_assoc, or_assoc] at hc
  refine ⟨fun c hc => ?_, fun s h => ?_, fun e s h => ?_⟩
  · obtain ⟨s, rfl⟩ : ∃ s, rest = c :: s := List.head?_eq_some_iff.1 hc
    obtain rfl | rfl | rfl | rfl | rfl | rfl | rfl := hhead rfl <;> rfl
  · exact absurd (hhead h) (by decide)
  · rintro (rfl | rfl) <;> exact absurd (hhead h) (by decide)

/-! ## Numbers are read back -/

/-- A run of digits is read up to what is no digit. -/
theorem readDigits_append (hds : IsDigits ds) (hrest : NoDigit rest) :
    readDigits (ds ++ rest) = some (ds, rest) := by
  have htake : (ds ++ rest).takeWhile Char.isDigit = ds := by
    rw [List.takeWhile_append_of_pos hds.2]
    cases rest with
    | nil => simp
    | cons c rest => simp [hrest c rfl]
  have hdrop : (ds ++ rest).dropWhile Char.isDigit = rest := by
    rw [List.dropWhile_append_of_pos hds.2]
    cases rest with
    | nil => rfl
    | cons c rest => exact List.dropWhile_cons_of_neg (by simp [hrest c rfl])
  obtain ⟨d, ds, rfl⟩ := List.exists_cons_of_ne_nil hds.1
  simp only [readDigits, htake, hdrop]

theorem isDigits_toDigits (n : Nat) : IsDigits (Nat.toDigits 10 n) :=
  ⟨Nat.toDigits_ne_nil, fun _ => Nat.isDigit_of_mem_toDigits (by decide) (by decide)⟩

/-- Only zero is written with a zero in front. -/
theorem toDigits_ne_zero_cons {n : Nat} (hn : n ≠ 0) (ds : List Char) :
    Nat.toDigits 10 n ≠ '0' :: ds := by
  induction n using Nat.strongRecOn generalizing ds with
  | _ n ih =>
    rw [Nat.toDigits_eq_if (by decide)]
    split
    · next hlt =>
      have hdigit : ∀ d < 10, d ≠ 0 → Nat.digitChar d ≠ '0' := by decide
      exact fun h => hdigit n hlt hn (List.cons.inj h).1
    · next hge =>
      have hne : Nat.toDigits 10 (n / 10) ≠ [] := Nat.toDigits_ne_nil
      obtain ⟨d, rest, hd⟩ := List.exists_cons_of_ne_nil hne
      intro h
      rw [hd, List.cons_append, List.cons.injEq] at h
      exact ih (n / 10) (by omega) (by omega) rest (h.1 ▸ hd)

/-- The whole part is written without leading zeros, and so read back. -/
theorem readWhole_append (n : Nat) (hrest : NoDigit rest) :
    readWhole (Nat.toDigits 10 n ++ rest) = some (n, rest) := by
  have hvalue : decimalValue (Nat.toDigits 10 n) = n := Nat.ofDigitChars_ten_toDigits
  obtain ⟨d, ds, hds⟩ := List.exists_cons_of_ne_nil (isDigits_toDigits n).1
  have hread := readDigits_append (isDigits_toDigits n) hrest
  rw [hds, List.cons_append] at hread ⊢
  by_cases hn : n = 0
  · subst hn
    cases hds
    rfl
  · have hd : d ≠ '0' := fun h => toDigits_ne_zero_cons hn ds (h ▸ hds)
    simp [readWhole, hd, hread, ← hds, hvalue]

theorem readFraction_append {f : List Char} (hf : IsFraction f) (hrest : NoDigit rest)
    (hpoint : ∀ s, rest ≠ '.' :: s) : readFraction (f ++ rest) = some (f, rest) := by
  cases hf with
  | none =>
    rw [List.nil_append, readFraction]
    exact hpoint
  | some hds => simp [readFraction, readDigits_append hds hrest]

theorem readExponent_append {e : List Char} (he : IsExponent e) (hrest : IsEnd rest) :
    readExponent (e ++ rest) = some (e, rest) := by
  obtain ⟨hdigit, -, hletter⟩ := hrest.not_numeral
  cases he with
  | none =>
    cases rest with
    | nil => rfl
    | cons c rest => simp [readExponent, hletter c rest rfl]
  | unsigned he hds =>
    obtain ⟨d, ds', rfl⟩ := List.exists_cons_of_ne_nil hds.1
    have hd := hds.2 d List.mem_cons_self
    have hread := readDigits_append hds hdigit
    have hplus : d ≠ '+' := by rintro rfl; cases hd
    have hminus : d ≠ '-' := by rintro rfl; cases hd
    simp only [List.cons_append] at hread ⊢
    simp [readExponent, he, hplus, hminus, hread]
  | signed he hsign hds =>
    have hread := readDigits_append hds hdigit
    obtain rfl | rfl := hsign <;> simp [readExponent, he, hread]

/-- An exponent begins with neither a digit nor a point, nor does what ends a value. -/
theorem IsExponent.leads {e : List Char} (he : IsExponent e) (hrest : IsEnd rest) :
    NoDigit (e ++ rest) ∧ ∀ s, e ++ rest ≠ '.' :: s := by
  have hletter {e : Char} (h : e = 'e' ∨ e = 'E') (s : List Char) :
      NoDigit (e :: s) ∧ ∀ s', e :: s ≠ '.' :: s' := by
    obtain rfl | rfl := h <;> simp [NoDigit]
  cases he with
  | none => exact ⟨hrest.not_numeral.1, hrest.not_numeral.2.1⟩
  | unsigned he _ => exact hletter he _
  | signed he _ _ => exact hletter he _

theorem IsFraction.leads {f : List Char} (hf : IsFraction f) (hrest : NoDigit rest) :
    NoDigit (f ++ rest) := by
  cases hf with
  | none => exact hrest
  | some => simp [NoDigit]

/-- **A number is read back** in front of what ends it. -/
theorem readNumber_append {n : Number} (hn : n.IsSpelled) (hrest : IsEnd rest) :
    readNumber (n.render ++ rest) = some (n, rest) := by
  obtain ⟨negative, whole, tail⟩ := n
  obtain ⟨f, e, htail, hf, he⟩ := hn
  obtain ⟨hexponent, hpoint⟩ := he.leads hrest
  have hunsigned (negative : Bool) :
      readUnsigned negative (Nat.toDigits 10 whole ++ (f ++ (e ++ rest))) =
        some (⟨negative, whole, tail⟩, rest) := by
    have hback : String.ofList (f ++ e) = tail := by rw [← htail, String.ofList_toList]
    simp only [readUnsigned, readWhole_append whole (hf.leads hexponent),
      readFraction_append hf hexponent hpoint, readExponent_append he hrest, hback]
  have hdigits : (toString whole).toList = Nat.toDigits 10 whole := by
    rw [Nat.toString_eq_ofList_toDigits, String.toList_ofList]
  simp only [Number.render, hdigits, htail, List.append_assoc]
  cases negative with
  | true => exact hunsigned true
  | false =>
    obtain ⟨d, ds, hds⟩ := List.exists_cons_of_ne_nil (isDigits_toDigits whole).1
    have hd : d ≠ '-' := by
      rintro rfl
      exact absurd ((isDigits_toDigits whole).2 '-' (by simp [hds])) (by decide)
    have hread := hunsigned false
    rw [hds, List.cons_append] at hread ⊢
    simpa [readNumber, hd] using hread

/-! ## Strings are read back -/

theorem ne_u_of_escapedChar? {e c : Char} (h : escapedChar? e = some c) : e ≠ 'u' := by
  rintro rfl
  cases h

/-- A piece is read as it is spelled, whatever follows. -/
theorem readPieces_append {p : Piece} (h : SpellsPiece p t) (s : List Char) :
    readPieces (t ++ s) = (readPieces s).map fun (ps, rest) => (p :: ps, rest) := by
  cases h with
  | @plain c hcontrol hquote hbackslash =>
    have hc : ¬ (c.toNat < 0x20 ∨ c = '\\') := by simp [hbackslash, hcontrol]
    rw [List.singleton_append, readPieces, if_neg hc]
    · exact hquote
    · exact fun _ _ _ _ _ h _ => hbackslash h
    · exact fun _ _ h _ => hbackslash h
  | @escaped e c h =>
    have hu := ne_u_of_escapedChar? h
    rw [List.cons_append, List.singleton_append, readPieces, h]
    · cases readPieces s <;> rfl
    · exact fun _ _ _ _ _ h _ => hu h
  | unit h =>
    simp only [List.cons_append, List.nil_append, readPieces, h]
    cases readPieces s <;> rfl

theorem readPieces_quote {pieces : List Piece} (h : SpellsPieces pieces t) (rest : List Char) :
    readPieces (t ++ '"' :: rest) = some (pieces, rest) := by
  induction h with
  | nil => rfl
  | cons h _ ih => rw [List.append_assoc, readPieces_append h, ih, Option.map_some]

/-- **A string is read back**, whatever follows. -/
theorem readString_append {contents : Option String} {k : List Char}
    (h : SpellsString contents k) :
    ∃ body, k = '"' :: body ∧
      ∀ rest, readString (body ++ rest) = some (contents, rest) := by
  cases h with
  | quoted h =>
    refine ⟨_, rfl, fun rest => ?_⟩
    simp [readString, readPieces_quote h]

/-! ## Values are read back -/

theorem isSpace_of_isDigit (h : c.isDigit = true) : isSpace c = false := by
  rw [Bool.eq_false_iff, ne_eq, isSpace_iff]
  rintro (rfl | rfl | rfl | rfl) <;> cases h

/-- A number begins with a minus sign or a digit. -/
theorem exists_render_eq_cons (n : Number) :
    ∃ c s, n.render = c :: s ∧ (c = '-' ∨ c.isDigit = true) := by
  obtain ⟨d, ds, hds⟩ := List.exists_cons_of_ne_nil (isDigits_toDigits n.whole).1
  have hd : d.isDigit = true := (isDigits_toDigits n.whole).2 d (by simp [hds])
  cases hneg : n.negative with
  | true => exact ⟨'-', Nat.toDigits 10 n.whole ++ n.tail.toList, by simp [Number.render, hneg],
      .inl rfl⟩
  | false => exact ⟨d, ds ++ n.tail.toList, by simp [Number.render, hneg, hds], .inr hd⟩

/-- A value begins with neither a blank nor a closing bracket. -/
theorem Spells.leads (h : Spells v t) : ∃ c s, t = c :: s ∧ isSpace c = false ∧ c ≠ ']' := by
  have hstring {contents : Option String} (h : SpellsString contents t) :
      ∃ c s, t = c :: s ∧ isSpace c = false ∧ c ≠ ']' := by
    obtain ⟨body, rfl, -⟩ := readString_append h
    exact ⟨'"', body, rfl, rfl, by decide⟩
  cases h with
  | @number n h =>
    obtain ⟨c, s, hrender, rfl | hdigit⟩ := exists_render_eq_cons n
    · exact ⟨'-', s, hrender, rfl, by decide⟩
    · refine ⟨c, s, hrender, isSpace_of_isDigit hdigit, ?_⟩
      rintro rfl
      cases hdigit
  | text h => exact hstring h
  | garbled h => exact hstring h
  | null | yes | no => exact ⟨_, _, rfl, rfl, by decide⟩
  | emptyArray | array => exact ⟨'[', _, rfl, rfl, by decide⟩
  | emptyObject | object => exact ⟨'\x7b', _, rfl, rfl, by decide⟩

/-- Items begin like their first one. -/
theorem SpellsItems.leads {vs : List Value} (h : SpellsItems vs t) :
    ∃ c s, t = c :: s ∧ isSpace c = false ∧ c ≠ ']' := by
  cases h with
  | last h | more h =>
    obtain ⟨c, s, rfl, hc⟩ := h.leads
    exact ⟨c, _, rfl, hc⟩

/-- Members begin with a quotation mark. -/
theorem SpellsMembers.leads {ms : List (Option String × Value)} (h : SpellsMembers ms t) :
    ∃ s, t = '"' :: s := by
  cases h with
  | last hk | more hk =>
    obtain ⟨body, rfl, -⟩ := readString_append hk
    exact ⟨_, rfl⟩

/-! ### One step of the reader -/

/-- What begins like a number is read as one. -/
theorem readValue_number (hc : c = '-' ∨ c.isDigit = true) :
    readValue (fuel + 1) (c :: s) =
      (readNumber (c :: s)).map fun (n, rest) => (.number n, rest) := by
  have hne {d : Char} (hd : ¬ (d = '-' ∨ d.isDigit = true)) : c ≠ d := fun h => hd (h ▸ hc)
  have hquote : c ≠ '"' := hne (by decide)
  have hbracket : c ≠ '[' := hne (by decide)
  have hbrace : c ≠ '\x7b' := hne (by decide)
  have hn : c ≠ 'n' := hne (by decide)
  have ht : c ≠ 't' := hne (by decide)
  have hf : c ≠ 'f' := hne (by decide)
  simp [readValue, hquote, hbracket, hbrace, hn, ht, hf]

theorem readValue_array {items : List Value} (hw : IsSpace w) (hc : isSpace c = false)
    (hclose : c ≠ ']') (h : readItems fuel (c :: s) = some (items, rest)) :
    readValue (fuel + 1) ('[' :: (w ++ c :: s)) = some (.array items, rest) := by
  simp [readValue, skipSpace_append hw hc, hclose, h]

theorem readValue_object {members : List (Option String × Value)} (hw : IsSpace w)
    (h : readMembers fuel ('"' :: s) = some (members, rest)) :
    readValue (fuel + 1) ('\x7b' :: (w ++ '"' :: s)) = some (.object members, rest) := by
  simp [readValue, skipSpace_append hw (c := '"') rfl, h]

theorem readItems_last (h : readValue fuel s = some (v, w ++ ']' :: rest)) (hw : IsSpace w) :
    readItems (fuel + 1) s = some ([v], rest) := by
  simp [readItems, h, skipSpace_append hw (c := ']') rfl]

theorem readItems_more {w' s' : List Char} {vs : List Value}
    (h : readValue fuel s = some (v, w ++ ',' :: (w' ++ c :: s'))) (hw : IsSpace w)
    (hw' : IsSpace w') (hc : isSpace c = false) (hs : readItems fuel (c :: s') = some (vs, rest)) :
    readItems (fuel + 1) s = some (v :: vs, rest) := by
  simp [readItems, h, skipSpace_append hw (c := ',') rfl, skipSpace_append hw' hc, hs]

section Members

variable {name : Option String} {k w₁ w₂ : List Char} {ms : List (Option String × Value)}

theorem readMembers_last (hk : SpellsString name k) (hw₁ : IsSpace w₁) (hw₂ : IsSpace w₂)
    (hc : isSpace c = false) (h : readValue fuel (c :: s) = some (v, w ++ '\x7d' :: rest))
    (hw : IsSpace w) :
    readMembers (fuel + 1) (k ++ (w₁ ++ ':' :: (w₂ ++ c :: s))) = some ([(name, v)], rest) := by
  obtain ⟨body, rfl, hread⟩ := readString_append hk
  simp [readMembers, hread, skipSpace_append hw₁ (c := ':') rfl, skipSpace_append hw₂ hc, h,
    skipSpace_append hw (c := '\x7d') rfl]

theorem readMembers_more {w' s' : List Char} (hk : SpellsString name k) (hw₁ : IsSpace w₁)
    (hw₂ : IsSpace w₂) (hc : isSpace c = false)
    (h : readValue fuel (c :: s) = some (v, w ++ ',' :: (w' ++ '"' :: s'))) (hw : IsSpace w)
    (hw' : IsSpace w') (hs : readMembers fuel ('"' :: s') = some (ms, rest)) :
    readMembers (fuel + 1) (k ++ (w₁ ++ ':' :: (w₂ ++ c :: s))) = some ((name, v) :: ms, rest) := by
  obtain ⟨body, rfl, hread⟩ := readString_append hk
  simp [readMembers, hread, skipSpace_append hw₁ (c := ':') rfl, skipSpace_append hw₂ hc, h,
    skipSpace_append hw (c := ',') rfl, skipSpace_append hw' (c := '"') rfl, hs]

end Members

/-! ### All steps -/

theorem isEnd_comma (s : List Char) : IsEnd (',' :: s) := by simp [IsEnd]

theorem isEnd_bracket (s : List Char) : IsEnd (']' :: s) := by simp [IsEnd]

theorem isEnd_brace (s : List Char) : IsEnd ('\x7d' :: s) := by simp [IsEnd]

mutual

/-- **A value is read back** in front of what ends it. -/
theorem readValue_append : ∀ {v t}, Spells v t → ∀ fuel rest, 2 * t.length ≤ fuel → IsEnd rest →
    readValue fuel (t ++ rest) = some (v, rest)
  -- no value is spelled by the empty text, so there is fuel for the first step
  | _, _, h, 0, _, hfuel, _ => by
    obtain ⟨c, s, rfl, -⟩ := h.leads
    simp at hfuel
  | _, _, .null, fuel + 1, _, _, _ => by simp [readValue, expect]
  | _, _, .yes, fuel + 1, _, _, _ => by simp [readValue, expect]
  | _, _, .no, fuel + 1, _, _, _ => by simp [readValue, expect]
  | _, _, .text h, fuel + 1, _, _, _ => by
    obtain ⟨body, rfl, hread⟩ := readString_append h
    simp [readValue, hread]
  | _, _, .garbled h, fuel + 1, _, _, _ => by
    obtain ⟨body, rfl, hread⟩ := readString_append h
    simp [readValue, hread]
  | _, _, @Spells.number n h, fuel + 1, rest, _, hrest => by
    obtain ⟨c, s, hrender, hc⟩ := exists_render_eq_cons n
    have hread := readNumber_append h hrest
    rw [hrender, List.cons_append] at hread ⊢
    rw [readValue_number hc, hread, Option.map_some]
  | _, _, .emptyArray hw, fuel + 1, _, _, _ => by
    simp [readValue, skipSpace_append hw (c := ']') rfl]
  | _, _, .emptyObject hw, fuel + 1, _, _, _ => by
    simp [readValue, skipSpace_append hw (c := '\x7d') rfl]
  | _, _, .array hw h, fuel + 1, rest, hfuel, _ => by
    simp only [List.length_cons, List.length_append] at hfuel
    have hread := readItems_append h fuel rest (by omega)
    -- the first item tells the reader that the array is not empty
    obtain ⟨c, s, rfl, hc, hclose⟩ := h.leads
    simpa using readValue_array hw hc hclose hread
  | _, _, .object hw h, fuel + 1, rest, hfuel, _ => by
    simp only [List.length_cons, List.length_append] at hfuel
    have hread := readMembers_append h fuel rest (by omega)
    obtain ⟨s, rfl⟩ := h.leads
    simpa using readValue_object hw hread

theorem readItems_append : ∀ {vs t}, SpellsItems vs t → ∀ fuel rest, 2 * t.length ≤ fuel →
    readItems fuel (t ++ rest) = some (vs, rest)
  | _, _, h, 0, _, hfuel => by
    obtain ⟨c, s, rfl, -⟩ := h.leads
    simp at hfuel
  | _, _, .last h hw, fuel + 1, rest, hfuel => by
    simp only [List.length_cons, List.length_append] at hfuel
    have hread := readValue_append h fuel _ (by omega) (hw.isEnd_append (isEnd_bracket rest))
    simpa using readItems_last hread hw
  | _, _, @SpellsItems.more v vs t w w' ts h hw hw' hs, fuel + 1, rest, hfuel => by
    simp only [List.length_cons, List.length_append] at hfuel
    have hread := readValue_append h fuel _ (by omega)
      (hw.isEnd_append (isEnd_comma (w' ++ (ts ++ rest))))
    have hmore := readItems_append hs fuel rest (by omega)
    obtain ⟨c, s, rfl, hc, -⟩ := hs.leads
    simpa using readItems_more hread hw hw' hc hmore

theorem readMembers_append : ∀ {ms t}, SpellsMembers ms t → ∀ fuel rest, 2 * t.length ≤ fuel →
    readMembers fuel (t ++ rest) = some (ms, rest)
  | _, _, h, 0, _, hfuel => by
    obtain ⟨s, rfl⟩ := h.leads
    simp at hfuel
  | _, _, .last hk hw₁ hw₂ h hw, fuel + 1, rest, hfuel => by
    simp only [List.length_cons, List.length_append] at hfuel
    have hread := readValue_append h fuel _ (by omega) (hw.isEnd_append (isEnd_brace rest))
    obtain ⟨c, s, rfl, hc, -⟩ := h.leads
    simpa using readMembers_last hk hw₁ hw₂ hc hread hw
  | _, _, @SpellsMembers.more name v ms k w₁ w₂ t w w' ts hk hw₁ hw₂ h hw hw' hs, fuel + 1, rest,
      hfuel => by
    simp only [List.length_cons, List.length_append] at hfuel
    have hread := readValue_append h fuel _ (by omega)
      (hw.isEnd_append (isEnd_comma (w' ++ (ts ++ rest))))
    have hmore := readMembers_append hs fuel rest (by omega)
    obtain ⟨s', rfl⟩ := hs.leads
    obtain ⟨c, s, rfl, hc, -⟩ := h.leads
    simpa using readMembers_more hk hw₁ hw₂ hc hread hw hw' hmore

end

/-- **What the grammar derives, the reader accepts**, and reads as what it spells. -/
theorem parse_eq_of_spells {document : String} (h : SpellsDocument v document) :
    parse document = some v := by
  obtain ⟨w, t, w', hw, hv, hw', hdocument⟩ := h
  have hend : IsEnd w' := by simpa using hw'.isEnd_append isEnd_nil
  have hlength : t.length ≤ document.toList.length := by
    rw [hdocument, List.length_append, List.length_append]
    omega
  have hread := readValue_append hv (2 * document.toList.length + 1) w' (by omega) hend
  have hrest : skipSpace w' = [] := List.dropWhile_eq_nil_iff.2 hw'
  obtain ⟨c, s, rfl, hc, -⟩ := hv.leads
  have hstart : skipSpace document.toList = c :: s ++ w' := by
    rw [hdocument, List.cons_append, skipSpace_append hw hc]
  simp only [parse, hstart, hread, hrest, if_true]

end StreamFinder.Json
