import Mathlib.Data.List.TakeWhile
import StreamFinder.Text.Blank
/-!
# The words of a text

A text is read from its front: white space, a word, and a rest that is empty
or begins with white space. That is the one equation of `words`
(`words_eq_cons_iff`), and which word is the second one is told by using it
twice.
-/

namespace StreamFinder.Text

/-- A text begins with a word, behind white space or none, and then a rest,
before which the word ends. -/
structure Leads (text word rest : List Char) : Prop where
  split : ∃ blanks, text = blanks ++ word ++ rest ∧ ∀ c ∈ blanks, isBlank c = true
  ne_nil : word ≠ []
  unbroken : ∀ c ∈ word, isBlank c = false
  ends : ∀ c ∈ rest.head?, isBlank c = true

/-- The second word of a text. -/
def HasSecondWord (text word : List Char) : Prop :=
  ∃ first rest last, Leads text first rest ∧ Leads rest word last

variable {c : Char} {s text word rest blanks : List Char}

theorem words_nil : words [] = [] := rfl

/-- White space at the front belongs to no word. -/
theorem words_cons_of_isBlank (hc : isBlank c = true) (s : List Char) :
    words (c :: s) = words s := by
  simp only [words, List.foldr_cons]
  split <;> simp_all

theorem words_append_of_isBlank (h : ∀ c ∈ blanks, isBlank c = true) (s : List Char) :
    words (blanks ++ s) = words s := by
  induction blanks with
  | nil => rfl
  | cons c blanks ih =>
    rw [List.cons_append, words_cons_of_isBlank (h c (List.mem_cons_self ..))]
    exact ih fun d hd => h d (List.mem_cons_of_mem _ hd)

/-- Where a word ends, its last character stands alone. -/
theorem words_cons_of_ends (hc : isBlank c = false) (hends : ∀ d ∈ rest.head?, isBlank d = true) :
    words (c :: rest) = [c] :: words rest := by
  cases rest with
  | nil => simp [words, hc]
  | cons d rest =>
    have hd : isBlank d = true := hends d rfl
    simp only [words, List.foldr_cons]
    split <;> split at * <;> simp_all

/-- Any other character of a word is put in front of the word that follows it. -/
theorem words_cons_cons {d : Char} {others : List (List Char)} (hc : isBlank c = false)
    (hd : isBlank d = false) (h : words (d :: rest) = word :: others) :
    words (c :: d :: rest) = (c :: word) :: others := by
  simp only [words, List.foldr_cons] at h ⊢
  split at h <;> simp_all

theorem words_append (hne : word ≠ []) (hword : ∀ c ∈ word, isBlank c = false)
    (hends : ∀ c ∈ rest.head?, isBlank c = true) :
    words (word ++ rest) = word :: words rest := by
  induction word with
  | nil => exact absurd rfl hne
  | cons c word ih =>
    have hc : isBlank c = false := hword c (List.mem_cons_self ..)
    cases word with
    | nil => exact words_cons_of_ends hc hends
    | cons d word =>
      have hd : isBlank d = false := hword d (by simp)
      exact words_cons_cons hc hd
        (ih (List.cons_ne_nil _ _) fun e he => hword e (List.mem_cons_of_mem _ he))

/-- **The words of a text are its first one and those of the rest.** -/
theorem Leads.words_eq (h : Leads text word rest) : words text = word :: words rest := by
  obtain ⟨blanks, rfl, hblanks⟩ := h.split
  rw [List.append_assoc, words_append_of_isBlank hblanks, words_append h.ne_nil h.unbroken h.ends]

/-- A text is white space or begins with a word. -/
theorem words_eq_nil_or_leads (text : List Char) :
    words text = [] ∨ ∃ word rest, Leads text word rest := by
  have hsplit : text.takeWhile isBlank ++ text.dropWhile isBlank = text :=
    List.takeWhile_append_dropWhile
  have hblanks : ∀ c ∈ text.takeWhile isBlank, isBlank c = true :=
    fun c hc => List.mem_takeWhile_imp hc
  cases hbody : text.dropWhile isBlank with
  | nil =>
    rw [← hsplit, words_append_of_isBlank hblanks, hbody]
    exact Or.inl rfl
  | cons first more =>
    have hfirst : isBlank first = false := by
      have hhead := List.head?_dropWhile_not isBlank text
      rw [hbody] at hhead
      simpa using hhead
    right
    refine ⟨(first :: more).takeWhile (!isBlank ·), (first :: more).dropWhile (!isBlank ·),
      ⟨_, ?_, hblanks⟩, ?_, fun c hc => ?_, fun c hc => ?_⟩
    · rw [List.append_assoc, List.takeWhile_append_dropWhile, ← hbody, hsplit]
    · rw [List.takeWhile_cons_of_pos (by simp [hfirst])]
      exact List.cons_ne_nil _ _
    · simpa using List.mem_takeWhile_imp hc
    · have hhead := List.head?_dropWhile_not (!isBlank ·) (first :: more)
      rw [Option.mem_def.1 hc] at hhead
      simpa using hhead

theorem words_eq_cons_iff {others : List (List Char)} : words text = word :: others ↔
    ∃ rest, Leads text word rest ∧ words rest = others := by
  constructor
  · intro h
    rcases words_eq_nil_or_leads text with hnil | ⟨first, rest, hleads⟩
    · rw [hnil] at h
      cases h
    · rw [hleads.words_eq] at h
      obtain ⟨rfl, hothers⟩ := List.cons.inj h
      exact ⟨rest, hleads, hothers⟩
  · rintro ⟨rest, hleads, rfl⟩
    exact hleads.words_eq

/-- **The second word of a text is what is read second.** -/
theorem getElem?_words_one_iff : (words text)[1]? = some word ↔ HasSecondWord text word := by
  constructor
  · intro h
    cases hwords : words text with
    | nil => simp [hwords] at h
    | cons first others =>
      obtain ⟨rest, hleads, hrest⟩ := words_eq_cons_iff.1 hwords
      rw [hwords, List.getElem?_cons_succ, ← List.head?_eq_getElem?, List.head?_eq_some_iff] at h
      obtain ⟨more, rfl⟩ := h
      obtain ⟨last, hlast, -⟩ := words_eq_cons_iff.1 hrest
      exact ⟨first, rest, last, hleads, hlast⟩
  · rintro ⟨first, rest, last, hfirst, hsecond⟩
    rw [hfirst.words_eq, hsecond.words_eq]
    rfl

end StreamFinder.Text
