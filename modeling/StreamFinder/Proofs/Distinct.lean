/-!
# What comes first in a list

Of the entries of a list that are equal, `List.eraseDups` keeps the first
one. Leaving entries out and keeping first ones can be done in either
order, and so the entries behind the first one are those that differ from
it, each once.
-/

namespace StreamFinder

variable {α : Type} [BEq α] [LawfulBEq α]

theorem eraseDups_filter (p : α → Bool) (l : List α) :
    (l.filter p).eraseDups = l.eraseDups.filter p := by
  -- the recursion is on a shorter list, not on the tail
  induction h : l.length using Nat.strongRecOn generalizing l with
  | ind n ih =>
    cases l with
    | nil => rfl
    | cons a l =>
      have hshorter : (l.filter fun b => !b == a).length < n := by
        rw [← h]
        exact Nat.lt_succ_of_le (List.length_filter_le _ _)
      have hrest := ih _ hshorter _ rfl
      rw [List.filter_filter] at hrest
      rw [List.eraseDups_cons]
      cases hp : p a with
      | true =>
        rw [List.filter_cons_of_pos hp, List.filter_cons_of_pos hp, List.eraseDups_cons,
          List.filter_filter, ← hrest]
        simp only [Bool.and_comm]
      | false =>
        have hnot : ¬ p a = true := Bool.eq_false_iff.1 hp
        have hsame : (l.filter fun b => p b && !b == a) = l.filter p := by
          refine List.filter_congr fun b _ => ?_
          cases hb : b == a with
          | true => rw [eq_of_beq hb, hp]; rfl
          | false => simp
        rw [List.filter_cons_of_neg hnot, List.filter_cons_of_neg hnot, ← hrest, hsame]

theorem eraseDups_cons_eq (a : α) (l : List α) :
    (a :: l).eraseDups = a :: l.eraseDups.filter fun b => !b == a := by
  rw [List.eraseDups_cons, eraseDups_filter]

theorem nodup_eraseDups (l : List α) : l.eraseDups.Nodup := by
  induction l with
  | nil => exact List.nodup_nil
  | cons a l ih =>
    rw [eraseDups_cons_eq]
    exact List.nodup_cons.2 ⟨by simp, ih.filter _⟩

end StreamFinder
