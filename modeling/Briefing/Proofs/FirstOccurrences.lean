import Mathlib.Data.Finset.Card
import Mathlib.Data.List.Perm.Basic

namespace Briefing

section

variable {α : Type} [DecidableEq α]

structure FirstOccurrences (all kept : List α) : Prop where
  nodup : kept.Nodup
  mem_iff : ∀ x, x ∈ kept ↔ x ∈ all
  ordered : kept.Pairwise fun x y => all.idxOf x < all.idxOf y

theorem FirstOccurrences.unique {all as bs : List α} (ha : FirstOccurrences all as)
    (hb : FirstOccurrences all bs) : as = bs := by
  have perm : as.Perm bs := by
    refine (List.perm_ext_iff_of_nodup ha.nodup hb.nodup).mpr fun x => ?_
    rw [ha.mem_iff, hb.mem_iff]
  refine perm.eq_of_pairwise ?_ ha.ordered hb.ordered
  intro x y _ _ before after
  exact absurd before (Nat.lt_asymm after)

-- The recursion of `eraseDups` is on a filtered tail, and so is the induction.
theorem eraseDups_filter (keep : α → Bool) :
    ∀ xs : List α, (xs.filter keep).eraseDups = xs.eraseDups.filter keep
  | [] => rfl
  | x :: xs => by
      have swap : (xs.filter keep).filter (fun y => !y == x) =
          (xs.filter fun y => !y == x).filter keep := by
        simp only [List.filter_filter, Bool.and_comm]
      have ih := eraseDups_filter keep (xs.filter fun y => !y == x)
      rw [List.eraseDups_cons]
      by_cases kept : keep x = true
      · rw [List.filter_cons_of_pos kept, List.filter_cons_of_pos kept, List.eraseDups_cons, swap, ih]
      · have absent : (xs.filter keep).filter (fun y => !y == x) = xs.filter keep := by
          refine List.filter_eq_self.mpr fun y hy => ?_
          have : y ≠ x := fun same => kept (same ▸ (List.mem_filter.mp hy).2)
          simpa using this
        rw [List.filter_cons_of_neg kept, List.filter_cons_of_neg kept, ← ih, ← swap, absent]
termination_by xs => xs.length
decreasing_by
  have := List.length_filter_le (fun y => !y == x) xs
  simp only [List.length_cons]
  omega

theorem eraseDups_cons_filter (x : α) (xs : List α) :
    (x :: xs).eraseDups = x :: xs.eraseDups.filter fun y => !y == x := by
  rw [List.eraseDups_cons, eraseDups_filter]

theorem firstOccurrences_eraseDups (xs : List α) : FirstOccurrences xs xs.eraseDups := by
  induction xs with
  | nil => exact ⟨List.nodup_nil, fun _ => Iff.rfl, List.Pairwise.nil⟩
  | cons x xs ih =>
      have apart : ∀ y ∈ xs.eraseDups.filter (fun y => !y == x), y ≠ x := by
        intro y hy
        simpa using (List.mem_filter.mp hy).2
      have later : ∀ y, y ≠ x → (x :: xs).idxOf y = xs.idxOf y + 1 := by
        intro y other
        exact List.idxOf_cons_ne xs other.symm
      refine ⟨?_, fun _ => List.mem_eraseDups, ?_⟩
      · rw [eraseDups_cons_filter]
        exact List.nodup_cons.mpr ⟨fun self => apart x self rfl, ih.nodup.filter _⟩
      · rw [eraseDups_cons_filter]
        refine List.pairwise_cons.mpr ⟨fun y hy => ?_, ?_⟩
        · rw [List.idxOf_cons_self, later y (apart y hy)]
          exact Nat.succ_pos _
        · refine (ih.ordered.filter _).imp_of_mem fun {y z} hy hz before => ?_
          rw [later y (apart y hy), later z (apart z hz)]
          exact Nat.succ_lt_succ before

theorem eraseDups_append (xs ys : List α) :
    (xs ++ ys).eraseDups = xs.eraseDups ++ ys.eraseDups.filter fun y => y ∉ xs := by
  have rest : ys.removeAll xs = ys.filter fun y => y ∉ xs := by
    simp [List.removeAll]
  rw [List.eraseDups_append, rest, eraseDups_filter]

theorem length_eraseDups (xs : List α) : xs.eraseDups.length = xs.toFinset.card := by
  have same : xs.eraseDups.toFinset = xs.toFinset := by
    ext x
    simp
  rw [← same, List.toFinset_card_of_nodup (firstOccurrences_eraseDups xs).nodup]

end

end Briefing
