import StreamFinder.Proofs.Json.Grammar
/-!
# The compact form

The compact form of a value spells it, so it is read back as the value it
was made of (`parse_render`). Two values have no form of their own: a
garbled string, and a number that goes on with what is no fraction and no
exponent. In a string only control characters are written as code units,
and since these are halves of no pair, the pieces join as they were taken
apart.
-/

namespace StreamFinder.Json

/-! ## Strings -/

/-- A code unit that is half of no pair is the character of that number. -/
theorem joinPieces_unit {n : Nat} (hn : n < 0xd800) (ps : List Piece) :
    joinPieces (.unit n :: ps) = (joinPieces ps).map (Char.ofNat n :: ·) := by
  have hleading : isLeading n = false := by simp [isLeading]; omega
  have htrailing : isTrailing n = false := by simp [isTrailing]; omega
  match ps with
  | [] | .char _ :: _ | .unit _ :: _ => simp [joinPieces, hleading, htrailing]

/-- A control character is written with four hexadecimal digits. -/
theorem codeUnit?_digits {n : Nat} (hn : n < 0x20) :
    codeUnit? '0' '0' (Nat.digitChar (n / 16)) (Nat.digitChar (n % 16)) = some n := by
  have hall : ∀ n < 0x20,
      codeUnit? '0' '0' (Nat.digitChar (n / 16)) (Nat.digitChar (n % 16)) = some n := by decide
  exact hall n hn

/-- **A character is spelled by its escape.** -/
theorem exists_piece (c : Char) : ∃ p, SpellsPiece p (escape c) ∧
    ∀ ps, joinPieces (p :: ps) = (joinPieces ps).map (c :: ·) := by
  have hchar {t : List Char} (h : SpellsPiece (.char c) t) :
      ∃ p, SpellsPiece p t ∧ ∀ ps, joinPieces (p :: ps) = (joinPieces ps).map (c :: ·) :=
    ⟨.char c, h, fun _ => rfl⟩
  unfold escape
  split_ifs with hquote hbackslash hb hf hn hr ht hcontrol
  · exact hchar (.escaped (by rw [hquote]; rfl))
  · exact hchar (.escaped (by rw [hbackslash]; rfl))
  · exact hchar (.escaped (by rw [hb]; rfl))
  · exact hchar (.escaped (by rw [hf]; rfl))
  · exact hchar (.escaped (by rw [hn]; rfl))
  · exact hchar (.escaped (by rw [hr]; rfl))
  · exact hchar (.escaped (by rw [ht]; rfl))
  · refine ⟨.unit c.toNat, .unit (codeUnit?_digits hcontrol), fun ps => ?_⟩
    rw [joinPieces_unit (by omega), Char.ofNat_toNat]
  · exact hchar (.plain (by omega) hquote hbackslash)

/-- The escapes of a text spell pieces that join to it. -/
theorem exists_pieces (s : List Char) :
    ∃ pieces, SpellsPieces pieces (s.flatMap escape) ∧ joinPieces pieces = some s := by
  induction s with
  | nil => exact ⟨[], .nil, rfl⟩
  | cons c s ih =>
    obtain ⟨p, hp, hjoin⟩ := exists_piece c
    obtain ⟨ps, hps, hs⟩ := ih
    exact ⟨p :: ps, .cons hp hps, by rw [hjoin, hs, Option.map_some]⟩

/-- **A text is spelled by its quoted form.** -/
theorem spellsString_quote (s : String) : SpellsString (some s) (quote s) := by
  obtain ⟨pieces, hpieces, hjoin⟩ := exists_pieces s.toList
  have hspells := SpellsString.quoted hpieces
  rwa [hjoin, Option.map_some, String.ofList_toList] at hspells

/-! ## Values -/

namespace Value

mutual

/-- Whether a value has a form of its own. -/
def IsProper : Value → Prop
  | .null | .bool _ | .text _ => True
  | .garbled => False
  | .number n => n.IsSpelled
  | .array items => AreProper items
  | .object members => AreProperMembers members

/-- Whether all items of an array have a form of their own. -/
def AreProper : List Value → Prop
  | [] => True
  | v :: vs => v.IsProper ∧ AreProper vs

/-- Whether all members of an object have names and values with a form of their own. -/
def AreProperMembers : List (Option String × Value) → Prop
  | [] => True
  | (name, v) :: ms => name.isSome = true ∧ v.IsProper ∧ AreProperMembers ms

end

theorem spellsString_name {name : Option String} (h : name.isSome = true) :
    SpellsString name (quote (name.getD "")) := by
  obtain ⟨s, rfl⟩ := Option.isSome_iff_exists.1 h
  exact spellsString_quote s

/-- No blanks are written. -/
theorem isSpace_nil : IsSpace [] := by simp [IsSpace]

mutual

/-- **A value is spelled by its compact form.** -/
theorem spells_chars : ∀ {v : Value}, v.IsProper → Spells v v.chars
  | .null, _ => .null
  | .bool true, _ => .yes
  | .bool false, _ => .no
  | .text s, _ => .text (spellsString_quote s)
  | .number _, h => .number h
  | .array [], _ => .emptyArray isSpace_nil
  | .array (v :: vs), h =>
    .array (w := []) isSpace_nil (spellsItems_chars (List.cons_ne_nil v vs) h)
  | .object [], _ => .emptyObject isSpace_nil
  | .object (m :: ms), h =>
    .object (w := []) isSpace_nil (spellsMembers_chars (List.cons_ne_nil m ms) h)

theorem spellsItems_chars : ∀ {vs : List Value}, vs ≠ [] → AreProper vs →
    SpellsItems vs (commaSeparated (itemChars vs) ++ [']'])
  | [], hne, _ => absurd rfl hne
  | [v], _, h => .last (spells_chars h.1) isSpace_nil
  | v :: v' :: vs, _, h => by
    have hmore := spellsItems_chars (List.cons_ne_nil v' vs) h.2
    simpa [itemChars, commaSeparated] using
      SpellsItems.more (spells_chars h.1) isSpace_nil isSpace_nil hmore

theorem spellsMembers_chars : ∀ {ms : List (Option String × Value)}, ms ≠ [] →
    AreProperMembers ms → SpellsMembers ms (commaSeparated (memberChars ms) ++ ['\x7d'])
  | [], hne, _ => absurd rfl hne
  | [(name, v)], _, h => by
    simpa [memberChars, commaSeparated] using SpellsMembers.last (spellsString_name h.1)
      isSpace_nil isSpace_nil (spells_chars h.2.1) isSpace_nil
  | (name, v) :: m :: ms, _, h => by
    have hmore := spellsMembers_chars (List.cons_ne_nil m ms) h.2.2
    simpa [memberChars, commaSeparated] using SpellsMembers.more (spellsString_name h.1)
      isSpace_nil isSpace_nil (spells_chars h.2.1) isSpace_nil isSpace_nil hmore

end

/-- A document in compact form spells its value. -/
theorem spellsDocument_render {v : Value} (h : v.IsProper) : SpellsDocument v v.render :=
  ⟨[], v.chars, [], isSpace_nil, spells_chars h, isSpace_nil, by simp [render]⟩

/-- **What is written in compact form is read back.** -/
theorem parse_render {v : Value} (h : v.IsProper) : parse v.render = some v :=
  parse_eq_of_spells (spellsDocument_render h)

end Value

end StreamFinder.Json
