import Briefing.Settings.Validity

namespace Briefing.Settings

theorem firstBroken_eq_none {rules : List (Bool × SettingsFault)} :
    firstBroken rules = none ↔ ∀ r ∈ rules, r.1 = true := by
  induction rules with
  | nil => simp [firstBroken]
  | cons r rules ih =>
      obtain ⟨kept, fault⟩ := r
      cases kept with
      | false => simp [firstBroken]
      | true => simpa [firstBroken] using ih

theorem ascending_iff {buckets : List RecencyBucket} :
    ascending buckets = true ↔ buckets.Pairwise fun a b => a.maxAgeDays < b.maxAgeDays := by
  induction buckets with
  | nil => simp [ascending]
  | cons a rest ih =>
      cases rest with
      | nil => simp [ascending]
      | cons b rest =>
          rw [ascending, Bool.and_eq_true, decide_eq_true_eq, ih, List.pairwise_cons (a := a)]
          refine and_congr_left fun later => ⟨fun next c hc => ?_, fun all => all b List.mem_cons_self⟩
          rcases List.mem_cons.mp hc with rfl | deeper
          · exact next
          · exact Int.lt_trans next ((List.pairwise_cons.mp later).1 c deeper)

def Unwrapped (s : Settings) : Prop := s.packet.taskPercent + s.packet.conventionPercent < 1 <<< 32

instance (s : Settings) : Decidable s.Unwrapped := inferInstanceAs (Decidable (_ < _))

theorem Unwrapped.percentSum_eq {s : Settings} (h : s.Unwrapped) :
    percentSum s.packet = s.packet.taskPercent + s.packet.conventionPercent :=
  Nat.mod_eq_of_lt h

structure Valid (s : Settings) : Prop where
  percents : percentSum s.packet ≤ 100
  splitFloor : s.packet.splitFloorPercent ≤ 50
  fullContent : s.packet.fullContentPercent ≤ 100
  bucketOrder : ascending s.scoring.recencyBuckets = true
  staleScore : isLiveScore s.scoring.staleScore = true
  bucketScores : ∀ b ∈ s.scoring.recencyBuckets, isLiveScore b.score = true
  saturation : s.scoring.relevanceSaturation ≠ 0

theorem fault?_eq_none_iff {s : Settings} : s.fault? = none ↔ s.Valid := by
  rw [fault?, firstBroken_eq_none]
  simp only [rules, List.mem_cons, List.not_mem_nil, or_false, forall_eq_or_imp, forall_eq,
    decide_eq_true_eq, Bool.and_eq_true, List.all_eq_true, bne_iff_ne]
  constructor
  · rintro ⟨percents, splitFloor, fullContent, bucketOrder, ⟨staleScore, bucketScores⟩, saturation⟩
    exact ⟨percents, splitFloor, fullContent, bucketOrder, staleScore, bucketScores, saturation⟩
  · rintro ⟨percents, splitFloor, fullContent, bucketOrder, staleScore, bucketScores, saturation⟩
    exact ⟨percents, splitFloor, fullContent, bucketOrder, ⟨staleScore, bucketScores⟩, saturation⟩

def terse : Settings := { packet := { instruction := "Confirm." } }

theorem fault?_terse : terse.fault? = none := by decide +kernel

end Briefing.Settings
