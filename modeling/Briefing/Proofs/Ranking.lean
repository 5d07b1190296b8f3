import Briefing.Scoring

namespace Briefing.Scoring

def Descending (es : List ScoredEntry) : Prop := es.Pairwise fun a b => ranksBefore a b

def tied (rank : Int) (es : List ScoredEntry) : List ScoredEntry :=
  es.filter fun e => e.score.rank == rank

theorem ranksBefore_trans (a b c : ScoredEntry) (hab : ranksBefore a b) (hbc : ranksBefore b c) :
    ranksBefore a c := by
  simp only [ranksBefore, decide_eq_true_eq] at *
  omega

theorem ranksBefore_total (a b : ScoredEntry) : ranksBefore a b || ranksBefore b a := by
  simp only [ranksBefore, Bool.or_eq_true, decide_eq_true_eq]
  omega

theorem descending_mergeSort (es : List ScoredEntry) : Descending (es.mergeSort ranksBefore) :=
  List.pairwise_mergeSort ranksBefore_trans ranksBefore_total es

theorem descending_tied (rank : Int) (es : List ScoredEntry) : Descending (tied rank es) := by
  refine List.pairwise_of_forall_mem_list ?_
  intro a ha b hb
  have rankA := (List.mem_filter.mp ha).2
  have rankB := (List.mem_filter.mp hb).2
  simp only [beq_iff_eq] at rankA rankB
  simp [ranksBefore, rankA, rankB]

theorem tied_mergeSort (rank : Int) (es : List ScoredEntry) :
    tied rank (es.mergeSort ranksBefore) = tied rank es := by
  have kept : (tied rank es).Sublist (es.mergeSort ranksBefore) :=
    List.sublist_mergeSort ranksBefore_trans ranksBefore_total (descending_tied rank es)
      List.filter_sublist
  have same : tied rank (tied rank es) = tied rank es := by simp [tied, List.filter_filter]
  have inside : (tied rank es).Sublist (tied rank (es.mergeSort ranksBefore)) :=
    same ▸ kept.filter _
  have perm : (tied rank (es.mergeSort ranksBefore)).Perm (tied rank es) :=
    (List.mergeSort_perm es ranksBefore).filter _
  exact (inside.eq_of_length perm.length_eq.symm).symm

theorem rank_le_of_descending {a : ScoredEntry} {as : List ScoredEntry}
    (sorted : Descending (a :: as)) {e : ScoredEntry} (he : e ∈ a :: as) :
    e.score.rank ≤ a.score.rank := by
  rcases List.mem_cons.mp he with rfl | he
  · exact Int.le_refl _
  · simpa [ranksBefore] using (List.pairwise_cons.mp sorted).1 e he

theorem mem_of_tied_eq {as bs : List ScoredEntry} (same : ∀ rank, tied rank as = tied rank bs)
    {e : ScoredEntry} (he : e ∈ as) : e ∈ bs := by
  have h : e ∈ tied e.score.rank as := List.mem_filter.mpr ⟨he, by simp⟩
  rw [same] at h
  exact (List.mem_filter.mp h).1

theorem eq_of_tied_eq {as bs : List ScoredEntry} (ha : Descending as) (hb : Descending bs)
    (same : ∀ rank, tied rank as = tied rank bs) : as = bs := by
  induction as generalizing bs with
  | nil =>
      cases bs with
      | nil => rfl
      | cons b bs =>
          exact absurd (mem_of_tied_eq (fun rank => (same rank).symm) List.mem_cons_self)
            List.not_mem_nil
  | cons a as ih =>
      cases bs with
      | nil => exact absurd (mem_of_tied_eq same List.mem_cons_self) List.not_mem_nil
      | cons b bs =>
          have below := rank_le_of_descending hb (mem_of_tied_eq same List.mem_cons_self)
          have above := rank_le_of_descending ha
            (mem_of_tied_eq (fun rank => (same rank).symm) List.mem_cons_self)
          have equal : b.score.rank = a.score.rank := Int.le_antisymm above below
          have first := same a.score.rank
          simp only [tied, List.filter_cons, equal, beq_self_eq_true, if_true,
            List.cons.injEq] at first
          obtain ⟨rfl, -⟩ := first
          refine congrArg (a :: ·) (ih (List.pairwise_cons.mp ha).2 (List.pairwise_cons.mp hb).2 ?_)
          intro rank
          have h := same rank
          simp only [tied, List.filter_cons] at h ⊢
          split at h
          · exact (List.cons.inj h).2
          · exact h

theorem mergeSort_filter (keep : ScoredEntry → Bool) (es : List ScoredEntry) :
    (es.filter keep).mergeSort ranksBefore = (es.mergeSort ranksBefore).filter keep := by
  refine eq_of_tied_eq (descending_mergeSort _) ((descending_mergeSort es).sublist
    List.filter_sublist) ?_
  intro rank
  have swap (xs : List ScoredEntry) : tied rank (xs.filter keep) = (tied rank xs).filter keep := by
    simp only [tied, List.filter_filter, Bool.and_comm]
  rw [tied_mergeSort, swap, swap, tied_mergeSort]

variable (scoring : ScoringSettings) (keywords : List String) (now : Instant)

theorem ranked_filter (keep : Entry → Bool) (entries : List Entry) :
    ranked scoring keywords now (entries.filter keep) =
      (ranked scoring keywords now entries).filter fun e => keep e.entry := by
  rw [ranked, ranked, ← mergeSort_filter, List.filter_map]
  rfl

theorem mem_ranked {e : ScoredEntry} {entries : List Entry} :
    e ∈ ranked scoring keywords now entries ↔
      ∃ x ∈ entries, scored scoring keywords now x = e := by
  rw [ranked, List.mem_mergeSort, List.mem_map]

theorem map_entry_ranked_perm (entries : List Entry) :
    ((ranked scoring keywords now entries).map ScoredEntry.entry).Perm entries := by
  have h := (List.mergeSort_perm (entries.map (scored scoring keywords now)) ranksBefore).map
    ScoredEntry.entry
  have same : (entries.map (scored scoring keywords now)).map ScoredEntry.entry = entries := by
    rw [List.map_map]
    exact List.map_id _
  rwa [same] at h

theorem length_ranked (entries : List Entry) :
    (ranked scoring keywords now entries).length = entries.length := by
  rw [ranked, List.length_mergeSort, List.length_map]

theorem ranked_eq_nil {entries : List Entry} :
    ranked scoring keywords now entries = [] ↔ entries = [] := by
  rw [← List.length_eq_zero_iff, length_ranked, List.length_eq_zero_iff]

theorem tokens_of_mem_ranked {e : ScoredEntry} {entries : List Entry}
    (he : e ∈ ranked scoring keywords now entries) : e.tokens = Briefing.tokens e.entry.content := by
  obtain ⟨x, -, rfl⟩ := (mem_ranked scoring keywords now).mp he
  rfl

end Briefing.Scoring
