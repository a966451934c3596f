import StreamFinder.Web.Header
/-!
# Adding to header fields

A value is added behind the others of its name, or takes their place; both
put something in the place of the values of one name (`update`). What a
name has afterwards is a matter of the name without its case, and the
values of other names stay (`values_append`, `values_replace`). Each name
still stands once and in lower case (`IsProper`), so its values are all
that is sent under it.
-/

namespace StreamFinder.Web.Header

theorem sameName_iff {a b : String} : sameName a b = true ↔ lowered a = lowered b := by
  simp [sameName]

theorem toLower_toLower (c : Char) : c.toLower.toLower = c.toLower := by
  by_cases hupper : c.val ≥ 'A'.val ∧ c.val ≤ 'Z'.val
  · have hval : c.toLower.val = c.val + 32 := congrArg Char.val (dif_pos hupper)
    refine dif_neg ?_
    simp only [hval, ge_iff_le, UInt32.le_iff_toNat_le, UInt32.toNat_add, UInt32.reduceToNat,
      Char.reduceVal] at hupper ⊢
    omega
  · have hsame : c.toLower = c := dif_neg hupper
    rw [hsame, hsame]

theorem lowered_lowered (name : String) : lowered (lowered name) = lowered name := by
  simp only [lowered, String.toList_ofList, List.map_map, String.ofList_inj]
  exact List.map_congr_left fun c _ => toLower_toLower c

theorem sameName_congr {a b : String} (h : lowered a = lowered b) (name : String) :
    sameName name a = sameName name b := by
  simp [sameName, h]

/-- The values under a name in a list of lines, in their order. -/
def valuesUnder (lines : List (String × String)) (name : String) : List String :=
  lines.filterMap fun (key, value) => if sameName name key then some value else none

theorem valuesUnder_append (lines more : List (String × String)) (name : String) :
    valuesUnder (lines ++ more) name = valuesUnder lines name ++ valuesUnder more name :=
  List.filterMap_append

/-- Each line has its value under its own name. -/
theorem mem_valuesUnder {lines : List (String × String)} {line : String × String}
    (h : line ∈ lines) : line.2 ∈ valuesUnder lines line.1 :=
  List.mem_filterMap.2 ⟨line, h, by simp [sameName]⟩

theorem exists_line_of_mem_valuesUnder {lines : List (String × String)} {name value : String}
    (h : value ∈ valuesUnder lines name) : ∃ line ∈ lines, line.2 = value := by
  obtain ⟨line, hline, hvalue⟩ := List.mem_filterMap.1 h
  exact ⟨line, hline, (Option.ite_none_right_eq_some.1 hvalue).2 |> Option.some.inj⟩

/-- The lines of several things, each with one name for all its values. -/
theorem valuesUnder_flatMap {α : Type} (things : List α) (key : α → String)
    (values : α → List String) (name : String) :
    valuesUnder (things.flatMap fun x => (values x).map (key x, ·)) name =
      things.flatMap fun x => if sameName name (key x) then values x else [] := by
  induction things with
  | nil => rfl
  | cons x things ih =>
    rw [List.flatMap_cons, List.flatMap_cons, valuesUnder_append, ih, valuesUnder,
      List.filterMap_map]
    congr 1
    split
    · next hx =>
      refine (congrArg (List.filterMap · (values x)) (funext fun _ => ?_)).trans List.filterMap_some
      exact if_pos hx
    · next hx => exact List.filterMap_eq_nil_iff.2 fun _ _ => if_neg hx

namespace Fields

variable {fields : Fields}

/-- The names of the fields. -/
def keys (fields : Fields) : List String := fields.map Prod.fst

/-- Whether each name stands once, and in lower case. -/
structure IsProper (fields : Fields) : Prop where
  nodup : fields.keys.Nodup
  isLower : ∀ key ∈ fields.keys, lowered key = key

/-- The fields with other values under a name. -/
def update (fields : Fields) (name : String) (change : List String → List String) : Fields :=
  match fields with
  | [] => [(lowered name, change [])]
  | (key, held) :: rest =>
    if key = lowered name then (key, change held) :: rest
    else (key, held) :: update rest name change

theorem append_eq_update (fields : Fields) (name value : String) :
    fields.append name value = fields.update name (· ++ [value]) := by
  induction fields with
  | nil => rfl
  | cons field rest ih => simp only [append, update, ih]

theorem replace_eq_update (fields : Fields) (name value : String) :
    fields.replace name value = fields.update name fun _ => [value] := by
  induction fields with
  | nil => rfl
  | cons field rest ih => simp only [replace, update, ih]

/-! ## The values of a name -/

@[simp] theorem values_nil (name : String) : values [] name = [] := rfl

theorem values_cons (key : String) (held : List String) (rest : Fields) (name : String) :
    values ((key, held) :: rest) name = if lowered name = key then held else rest.values name := by
  rw [values, List.lookup_cons]
  by_cases h : lowered name = key
  · simp [h]
  · rw [beq_eq_false_iff_ne.2 h, if_neg h, values]

theorem values_of_not_mem {name : String} (h : lowered name ∉ fields.keys) :
    fields.values name = [] := by
  induction fields with
  | nil => rfl
  | cons field rest ih =>
    obtain ⟨hkey, hrest⟩ := not_or.1 (mt List.mem_cons.2 h)
    rw [values_cons, if_neg hkey, ih hrest]

/-- **Only the values of the name are changed**, in whatever case it is written. -/
theorem values_update (fields : Fields) (name other : String)
    (change : List String → List String) :
    (fields.update name change).values other =
      if sameName other name then change (fields.values other) else fields.values other := by
  simp only [sameName_iff]
  induction fields with
  | nil => simp [update, values_cons]
  | cons field rest ih =>
    obtain ⟨key, held⟩ := field
    rw [update]
    by_cases hkey : key = lowered name
    · subst hkey
      by_cases hother : lowered other = lowered name <;> simp [values_cons, hother]
    · rw [if_neg hkey, values_cons, values_cons, ih]
      by_cases hother : lowered other = key
      · simp [hother, hkey]
      · simp [hother]

/-- **A value is added behind those of its name.** -/
theorem values_append (fields : Fields) (name value other : String) :
    (fields.append name value).values other =
      fields.values other ++ if sameName other name then [value] else [] := by
  rw [append_eq_update, values_update]
  split <;> simp

/-- **A value takes the place of those of its name.** -/
theorem values_replace (fields : Fields) (name value other : String) :
    (fields.replace name value).values other =
      if sameName other name then [value] else fields.values other := by
  rw [replace_eq_update, values_update]

/-! ## Each name once -/

theorem keys_cons (key : String) (held : List String) (rest : Fields) :
    keys ((key, held) :: rest) = key :: keys rest :=
  rfl

theorem keys_update (fields : Fields) (name : String) (change : List String → List String) :
    (fields.update name change).keys =
      if lowered name ∈ fields.keys then fields.keys else fields.keys ++ [lowered name] := by
  induction fields with
  | nil => rfl
  | cons field rest ih =>
    obtain ⟨key, held⟩ := field
    rw [update]
    by_cases hkey : key = lowered name
    · simp [hkey, keys_cons]
    · simp only [hkey, if_false, keys_cons, List.mem_cons, Ne.symm hkey, false_or, ih]
      split <;> rfl

theorem IsProper.update (h : fields.IsProper) (name : String)
    (change : List String → List String) : (fields.update name change).IsProper := by
  have hkeys := keys_update fields name change
  split at hkeys
  · exact ⟨hkeys ▸ h.nodup, hkeys ▸ h.isLower⟩
  · next hname =>
    refine ⟨?_, fun key hkey => ?_⟩
    · rw [hkeys, List.nodup_append]
      have hother : ∀ key ∈ fields.keys, key ≠ lowered name := fun key hkey heq =>
        hname (heq ▸ hkey)
      exact ⟨h.nodup, List.pairwise_singleton _ _, by simpa using hother⟩
    · rw [hkeys, List.mem_append, List.mem_singleton] at hkey
      obtain hkey | rfl := hkey
      · exact h.isLower key hkey
      · exact lowered_lowered name

theorem IsProper.append (h : fields.IsProper) (name value : String) :
    (fields.append name value).IsProper := by
  rw [append_eq_update]
  exact h.update name _

theorem IsProper.replace (h : fields.IsProper) (name value : String) :
    (fields.replace name value).IsProper := by
  rw [replace_eq_update]
  exact h.update name _

/-! ## Line by line -/

/-- **Under a name stands what proper fields have under it**, one field after the other. -/
theorem IsProper.flatMap_eq (h : fields.IsProper) (name : String) :
    (fields.flatMap fun (key, held) => if sameName name key then held else []) =
      fields.values name := by
  induction fields with
  | nil => rfl
  | cons field rest ih =>
    obtain ⟨key, held⟩ := field
    have hlower : lowered key = key := h.isLower key List.mem_cons_self
    obtain ⟨hnew, hnodup⟩ := List.nodup_cons.1 h.nodup
    have hrest : IsProper rest := ⟨hnodup, fun key hkey => h.isLower key (.tail _ hkey)⟩
    rw [List.flatMap_cons, ih hrest, values_cons]
    simp only [sameName_iff, hlower]
    by_cases hname : lowered name = key
    · rw [if_pos hname, if_pos hname, values_of_not_mem (hname ▸ hnew), List.append_nil]
    · rw [if_neg hname, if_neg hname, List.nil_append]

theorem IsProper.filter (h : fields.IsProper) (p : String × List String → Bool) :
    IsProper (fields.filter p) := by
  have hkeys : (keys (fields.filter p)).Sublist fields.keys := List.filter_sublist.map Prod.fst
  exact ⟨h.nodup.sublist hkeys, fun key hkey => h.isLower key (hkeys.subset hkey)⟩

/-- Of fields that are told by their names, a name has all values or none. -/
theorem values_filter (q : String → Bool) (fields : Fields) (name : String) :
    values (fields.filter fun field => q field.1) name =
      if q (lowered name) then fields.values name else [] := by
  induction fields with
  | nil => simp
  | cons field rest ih =>
    obtain ⟨key, held⟩ := field
    rw [List.filter_cons, values_cons]
    by_cases hname : lowered name = key
    · subst hname
      split <;> simp_all [values_cons]
    · split <;> simp_all [values_cons]

end Fields

end StreamFinder.Web.Header
