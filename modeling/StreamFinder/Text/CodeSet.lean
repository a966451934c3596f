/-!
# Sets of code points

A set of code points is kept as its edges: the places, in ascending order,
at which it begins and ends. So `[0x30, 0x3a]` are the ASCII digits. Two
sets with the same members have the same edges, which makes equality of
sets decidable, and every operation on sets is one walk along two lists of
edges (`combineEdges`), of which `has_combine` says what it does to the
members.

Tables are written as text, ranges in hexadecimal separated by blanks:
`41-5a` is a range, `b5` a single code point and `100-12e/2` every second
code point of a range (`CodeSet.read`).
-/

namespace StreamFinder.Text

/-- A set of code points, as the places where it begins and ends. -/
structure CodeSet where
  edges : List Nat
  ascending : edges.Pairwise (· < ·)
deriving DecidableEq

namespace CodeSet

instance : Repr CodeSet := ⟨fun s => reprPrec s.edges⟩

instance : Hashable CodeSet := ⟨fun s => hash (s.edges.take 2)⟩

/-- The state behind the edges up to `n`, from the state before them. -/
def insideAt (n : Nat) : Bool → List Nat → Bool
  | inside, [] => inside
  | inside, e :: es => if n < e then inside else insideAt n (!inside) es

/-- Whether a code point is in the set. -/
def has (s : CodeSet) (n : Nat) : Bool := insideAt n false s.edges

/-- Whether a character is in the set. -/
def hasChar (s : CodeSet) (c : Char) : Bool := s.has c.toNat

/-! ## Operations -/

/-- An edge at `place`, between the states `v` and `v'`, in front of later edges. -/
def turn (place : Nat) (v v' : Bool) (rest : List Nat) : List Nat :=
  if v = v' then rest else place :: rest

/-- The edges of a combination of two sets, in the states `a` and `b`
before their edges. Where a list has come to its end, the edges of the
other one count all or not at all. -/
def combineEdges (f : Bool → Bool → Bool) : Bool → Bool → List Nat → List Nat → List Nat
  | a, _, [], ys => if f a false = f a true then [] else ys
  | _, b, xs, [] => if f false b = f true b then [] else xs
  | a, b, x :: xs, y :: ys =>
    if x < y then turn x (f a b) (f (!a) b) (combineEdges f (!a) b xs (y :: ys))
    else if y < x then turn y (f a b) (f a (!b)) (combineEdges f a (!b) (x :: xs) ys)
    else turn x (f a b) (f (!a) (!b)) (combineEdges f (!a) (!b) xs ys)
termination_by _ _ xs ys => xs.length + ys.length

/-- An edge of a combination is an edge of one of the sets. -/
theorem mem_of_mem_combineEdges {f : Bool → Bool → Bool} {n : Nat} {a b : Bool}
    {xs ys : List Nat} (h : n ∈ combineEdges f a b xs ys) : n ∈ xs ∨ n ∈ ys := by
  fun_induction combineEdges f a b xs ys <;> grind [turn]

/-- An edge of a combination lies behind whatever the edges of both sets lie behind. -/
theorem lt_of_mem_combineEdges {f : Bool → Bool → Bool} {m n : Nat} {a b : Bool}
    {xs ys : List Nat} (hx : ∀ e ∈ xs, m < e) (hy : ∀ e ∈ ys, m < e)
    (h : n ∈ combineEdges f a b xs ys) : m < n :=
  (mem_of_mem_combineEdges h).elim (hx n) (hy n)

/-- The edges of a combination ascend. -/
theorem combineEdges_ascending (f : Bool → Bool → Bool) (a b : Bool) (xs ys : List Nat)
    (hx : xs.Pairwise (· < ·)) (hy : ys.Pairwise (· < ·)) :
    (combineEdges f a b xs ys).Pairwise (· < ·) := by
  fun_induction combineEdges f a b xs ys with
  | case1 | case2 | case3 | case4 => first | exact hx | exact hy
  | case5 a b x xs y ys hlt ih =>
    have hx := List.pairwise_cons.1 hx
    have hy' := List.pairwise_cons.1 hy
    have hall : ∀ e ∈ y :: ys, x < e := fun e he =>
      (List.mem_cons.1 he).elim (fun h => h ▸ hlt) fun h => Nat.lt_trans hlt (hy'.1 e h)
    unfold turn
    split
    · exact ih hx.2 hy
    · exact List.pairwise_cons.2 ⟨fun e he => lt_of_mem_combineEdges hx.1 hall he, ih hx.2 hy⟩
  | case6 a b x xs y ys _ hlt ih =>
    have hx' := List.pairwise_cons.1 hx
    have hy := List.pairwise_cons.1 hy
    have hall : ∀ e ∈ x :: xs, y < e := fun e he =>
      (List.mem_cons.1 he).elim (fun h => h ▸ hlt) fun h => Nat.lt_trans hlt (hx'.1 e h)
    unfold turn
    split
    · exact ih hx hy.2
    · exact List.pairwise_cons.2 ⟨fun e he => lt_of_mem_combineEdges hall hy.1 he, ih hx hy.2⟩
  | case7 a b x xs y ys _ _ ih =>
    have hx := List.pairwise_cons.1 hx
    have hy := List.pairwise_cons.1 hy
    have heq : y = x := by omega
    unfold turn
    split
    · exact ih hx.2 hy.2
    · exact List.pairwise_cons.2
        ⟨fun e he => lt_of_mem_combineEdges hx.1 (heq ▸ hy.1) he, ih hx.2 hy.2⟩

/-- A combination of two sets; the empty sets must give the empty set. -/
def combine (f : Bool → Bool → Bool) (s t : CodeSet) : CodeSet :=
  ⟨combineEdges f false false s.edges t.edges,
    combineEdges_ascending f false false s.edges t.edges s.ascending t.ascending⟩

/-- No code point. -/
def empty : CodeSet := ⟨[], .nil⟩

/-- The code points from `first` to `last`, both included. -/
def range (first last : Nat) : CodeSet :=
  if h : first ≤ last then
    ⟨[first, last + 1], .cons (fun _ he => List.mem_singleton.1 he ▸ Nat.lt_succ_of_le h)
      (List.pairwise_singleton _ _)⟩
  else empty

/-- The one code point. -/
def single (n : Nat) : CodeSet := ⟨[n, n + 1], by simp⟩

/-- The members of either set. -/
def union (s t : CodeSet) : CodeSet := combine (· || ·) s t

/-- The members of both sets. -/
def inter (s t : CodeSet) : CodeSet := combine (· && ·) s t

/-- The members of the first set that the second does not hold. -/
def diff (s t : CodeSet) : CodeSet := combine (fun a b => a && !b) s t

/-- The members of exactly one of the sets. -/
def symmDiff (s t : CodeSet) : CodeSet := combine (· != ·) s t

/-- The code points of characters: all but the surrogates. -/
def all : CodeSet := ⟨[0, 0xd800, 0xe000, 0x110000], by decide⟩

/-- The code points of characters that the set does not hold. -/
def compl (s : CodeSet) : CodeSet := diff all s

/-- The members of one of several sets. -/
def unionOf (sets : List CodeSet) : CodeSet := sets.foldr union empty

/-- The code points of the characters from the one to the other. -/
def ofChars (first last : Char) : CodeSet := inter (range first.toNat last.toNat) all

/-- Whether no code point from 128 on is in the set. -/
def isAscii (s : CodeSet) : Bool := s.edges.all (· ≤ 0x80)

/-- The one code point of a set that has only one. -/
def single? (s : CodeSet) : Option Nat :=
  match s.edges with
  | [a, b] => if b = a + 1 then some a else none
  | _ => none

/-- The ranges of a set, as first and last code points. -/
def ranges (s : CodeSet) : List (Nat × Nat) :=
  let rec pairs : List Nat → List (Nat × Nat)
    | a :: b :: rest => (a, b - 1) :: pairs rest
    | _ => []
  pairs s.edges

/-! ## Members of a combination -/

/-- Before the first edge nothing changes. -/
theorem insideAt_of_lt {n : Nat} {es : List Nat} (inside : Bool) (h : ∀ e ∈ es, n < e) :
    insideAt n inside es = inside := by
  cases es with
  | nil => rfl
  | cons e es => simp [insideAt, h e (by simp)]

/-- A function that turns over with its argument may be applied before or after the edges. -/
theorem insideAt_map {g : Bool → Bool} (hg : g false ≠ g true) (n : Nat) (b : Bool)
    (es : List Nat) : insideAt n (g b) es = g (insideAt n b es) := by
  have turn (b : Bool) : g (!b) = !g b := by
    cases b <;> cases h : g false <;> cases h' : g true <;> simp_all
  induction es generalizing b with
  | nil => rfl
  | cons e es ih => simp only [insideAt]; split <;> simp [← turn, ih]

/-- An edge at `x`, written only where it changes the state, in front of later edges. -/
theorem insideAt_turn {x : Nat} {es : List Nat} (n : Nat) (v v' : Bool) (h : ∀ e ∈ es, x < e) :
    insideAt n v (turn x v v' es) = if n < x then v else insideAt n v' es := by
  unfold turn
  by_cases hv : v = v'
  · by_cases hn : n < x
    · simp [hv, hn, insideAt_of_lt v' fun e he => Nat.lt_trans hn (h e he)]
    · simp [hv, hn]
  · have : v' = !v := by cases v <;> cases v' <;> simp_all
    simp [insideAt, this]

/-- Behind the edges of a combination the state is the combination of the states. -/
theorem insideAt_combineEdges (f : Bool → Bool → Bool) (n : Nat) (a b : Bool)
    (xs ys : List Nat) (hx : xs.Pairwise (· < ·)) (hy : ys.Pairwise (· < ·)) :
    insideAt n (f a b) (combineEdges f a b xs ys) = f (insideAt n a xs) (insideAt n b ys) := by
  fun_induction combineEdges f a b xs ys with
  | case1 a b ys h =>
    have const (c d : Bool) : f a c = f a d := by cases c <;> cases d <;> simp [h]
    exact const _ _
  | case2 a b ys h => exact insideAt_map (g := f a) h n b ys
  | case3 a b xs _ h =>
    have const (c d : Bool) : f c b = f d b := by cases c <;> cases d <;> simp [h]
    exact const _ _
  | case4 a b xs _ h => exact insideAt_map (g := (f · b)) h n a xs
  | case5 a b x xs y ys hlt ih =>
    have hx := List.pairwise_cons.1 hx
    have hy' := List.pairwise_cons.1 hy
    have hall : ∀ e ∈ y :: ys, x < e := fun e he =>
      (List.mem_cons.1 he).elim (fun h => h ▸ hlt) fun h => Nat.lt_trans hlt (hy'.1 e h)
    rw [insideAt_turn n _ _ fun e he => lt_of_mem_combineEdges hx.1 hall he]
    by_cases hn : n < x
    · simp [hn, insideAt, Nat.lt_trans hn hlt]
    · simp only [hn, ↓reduceIte, ih hx.2 hy]
      simp [insideAt, hn]
  | case6 a b x xs y ys _ hlt ih =>
    have hx' := List.pairwise_cons.1 hx
    have hy := List.pairwise_cons.1 hy
    have hall : ∀ e ∈ x :: xs, y < e := fun e he =>
      (List.mem_cons.1 he).elim (fun h => h ▸ hlt) fun h => Nat.lt_trans hlt (hx'.1 e h)
    rw [insideAt_turn n _ _ fun e he => lt_of_mem_combineEdges hall hy.1 he]
    by_cases hn : n < y
    · simp [hn, insideAt, Nat.lt_trans hn hlt]
    · simp only [hn, ↓reduceIte, ih hx hy.2]
      simp [insideAt, hn]
  | case7 a b x xs y ys _ _ ih =>
    have hx := List.pairwise_cons.1 hx
    have hy := List.pairwise_cons.1 hy
    obtain rfl : y = x := by omega
    rw [insideAt_turn n _ _ fun e he => lt_of_mem_combineEdges hx.1 hy.1 he]
    by_cases hn : n < y
    · simp [hn, insideAt]
    · simp [hn, insideAt, ih hx.2 hy.2]

/-- A combination holds what the combined answers of the two sets say. -/
theorem has_combine {f : Bool → Bool → Bool} (hf : f false false = false) (s t : CodeSet)
    (n : Nat) : (combine f s t).has n = f (s.has n) (t.has n) := by
  have := insideAt_combineEdges f n false false s.edges t.edges s.ascending t.ascending
  rwa [hf] at this

@[simp] theorem has_empty (n : Nat) : empty.has n = false := rfl

@[simp] theorem has_union (s t : CodeSet) (n : Nat) :
    (union s t).has n = (s.has n || t.has n) := has_combine rfl s t n

@[simp] theorem has_inter (s t : CodeSet) (n : Nat) :
    (inter s t).has n = (s.has n && t.has n) := has_combine rfl s t n

@[simp] theorem has_diff (s t : CodeSet) (n : Nat) :
    (diff s t).has n = (s.has n && !t.has n) := has_combine rfl s t n

/-- A range holds what lies between its ends. -/
theorem has_range (first last n : Nat) :
    (range first last).has n = (first ≤ n && n ≤ last) := by
  unfold range has
  split
  · grind [insideAt]
  · grind [insideAt, empty]

/-! ## Reading tables -/

/-- The value of a lower-case hexadecimal digit; other characters count
as zero, and no table holds one. -/
def hexValue (c : Char) : Nat :=
  if c.isDigit then c.toNat - '0'.toNat else c.toNat + 10 - 'a'.toNat

/-- What has been read of a table: the ranges so far, newest first, the
numbers of the word being read, newest first, and the number being read. -/
structure Reading where
  done : List (Nat × Nat)
  numbers : List Nat
  value : Nat
  started : Bool

/-- The ranges of a word: a single code point, a range, or the code points
of a range at every so many steps. -/
def wordRanges (numbers : List Nat) : List (Nat × Nat) :=
  match numbers with
  | [n] => [(n, n)]
  | [first, last] => [(first, last)]
  | [first, last, step] =>
    (List.range ((last - first) / step + 1)).map fun i => (first + i * step, first + i * step)
  | _ => []

/-- The word being read is complete. -/
def Reading.finish (r : Reading) : Reading :=
  if r.started then
    ⟨(wordRanges (r.value :: r.numbers).reverse).reverse ++ r.done, [], 0, false⟩
  else r

/-- One character of a table. -/
def Reading.next (r : Reading) (c : Char) : Reading :=
  if c = ' ' then r.finish
  else if c = '-' ∨ c = '/' then ⟨r.done, r.value :: r.numbers, 0, true⟩
  else ⟨r.done, r.numbers, 16 * r.value + hexValue c, true⟩

/-- The set that the lines of a table write. -/
def read (lines : List String) : CodeSet :=
  let readLine (r : Reading) (line : String) : Reading :=
    (line.toList.foldl Reading.next r).finish
  (lines.foldl readLine ⟨[], [], 0, false⟩).done.foldl
    (fun s (first, last) => union (range first last) s) empty

end CodeSet

end StreamFinder.Text
