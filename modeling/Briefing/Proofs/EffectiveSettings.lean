import Briefing.Proofs.BinaryUnits
import Briefing.Settings.File

namespace Briefing.Settings

structure Sound (s : Settings) : Prop where
  percents : s.packet.taskPercent + s.packet.conventionPercent ≤ 100
  splitFloor : s.packet.splitFloorPercent ≤ 50
  fullContent : s.packet.fullContentPercent ≤ 100
  ages : s.scoring.recencyBuckets.Pairwise fun a b => a.maxAgeDays < b.maxAgeDays
  staleScore : s.scoring.staleScore.InUnit
  bucketScores : ∀ b ∈ s.scoring.recencyBuckets, b.score.InUnit
  saturation : 1 ≤ s.scoring.relevanceSaturation

theorem Sound.unwrapped {s : Settings} (h : s.Sound) : s.Unwrapped :=
  Nat.lt_of_le_of_lt h.percents (by decide)

theorem Sound.valid {s : Settings} (h : s.Sound) : s.Valid :=
  ⟨h.unwrapped.percentSum_eq ▸ h.percents, h.splitFloor, h.fullContent, ascending_iff.mpr h.ages,
    Binary64.inUnit_iff_isLiveScore.mp h.staleScore,
    fun b hb => Binary64.inUnit_iff_isLiveScore.mp (h.bucketScores b hb),
    Nat.ne_of_gt h.saturation⟩

theorem Valid.sound {s : Settings} (h : s.Valid) (whole : s.Unwrapped) : s.Sound :=
  ⟨whole.percentSum_eq ▸ h.percents, h.splitFloor, h.fullContent, ascending_iff.mp h.bucketOrder,
    Binary64.inUnit_iff_isLiveScore.mpr h.staleScore,
    fun b hb => Binary64.inUnit_iff_isLiveScore.mpr (h.bucketScores b hb),
    Nat.pos_of_ne_zero h.saturation⟩

def Breaks (s : Settings) : SettingsFault → Prop
  | .percentSum => 100 < s.packet.taskPercent + s.packet.conventionPercent
  | .splitFloor => 50 < s.packet.splitFloorPercent
  | .fullContent => 100 < s.packet.fullContentPercent
  | .bucketOrder => ¬ s.scoring.recencyBuckets.Pairwise fun a b => a.maxAgeDays < b.maxAgeDays
  | .scoreRange => ¬ s.scoring.staleScore.InUnit ∨ ∃ b ∈ s.scoring.recencyBuckets, ¬ b.score.InUnit
  | .noSaturation => s.scoring.relevanceSaturation = 0

def checkOrder : List SettingsFault :=
  [.percentSum, .splitFloor, .fullContent, .bucketOrder, .scoreRange, .noSaturation]

def FirstBroken (s : Settings) (fault : SettingsFault) : Prop :=
  ∃ earlier later, checkOrder = earlier ++ fault :: later ∧ s.Breaks fault ∧
    ∀ f ∈ earlier, ¬ s.Breaks f

theorem broken_iff {s : Settings} (whole : s.Unwrapped) :
    ∀ r ∈ s.rules, r.1 = false ↔ s.Breaks r.2 := by
  have live (x : Binary64) : isLiveScore x = false ↔ ¬ x.InUnit := by
    rw [Binary64.inUnit_iff_isLiveScore, Bool.not_eq_true]
  simp only [rules, whole.percentSum_eq, List.mem_cons, List.not_mem_nil, or_false,
    forall_eq_or_imp, forall_eq, Breaks,
    decide_eq_false_iff_not, Nat.not_le, ← ascending_iff, Bool.not_eq_true, Bool.and_eq_false_iff,
    List.all_eq_false, live, bne_eq_false_iff_eq, iff_self, and_true]

theorem firstBroken_eq_some {P : SettingsFault → Prop} {rules : List (Bool × SettingsFault)}
    (meaning : ∀ r ∈ rules, r.1 = false ↔ P r.2) {fault : SettingsFault} :
    firstBroken rules = some fault ↔
      ∃ earlier later, rules.map Prod.snd = earlier ++ fault :: later ∧ P fault ∧
        ∀ f ∈ earlier, ¬ P f := by
  induction rules with
  | nil => simp [firstBroken]
  | cons r rules ih =>
      obtain ⟨kept, first⟩ := r
      have head := meaning (kept, first) List.mem_cons_self
      have tail := ih fun r hr => meaning r (List.mem_cons_of_mem _ hr)
      cases kept with
      | false =>
          rw [firstBroken, if_neg Bool.false_ne_true, Option.some.injEq]
          constructor
          · rintro rfl
            exact ⟨[], rules.map Prod.snd, rfl, head.mp rfl, by simp⟩
          · rintro ⟨earlier, later, same, -, unbroken⟩
            cases earlier with
            | nil => exact (List.cons.inj same).1
            | cons f earlier =>
                have broken := unbroken f List.mem_cons_self
                rw [← (List.cons.inj same).1] at broken
                exact absurd (head.mp rfl) broken
      | true =>
          have holds : ¬ P first := fun broken => Bool.noConfusion (head.mpr broken)
          rw [firstBroken, if_pos rfl, tail]
          constructor
          · rintro ⟨earlier, later, same, broken, unbroken⟩
            refine ⟨first :: earlier, later, ?_, broken, List.forall_mem_cons.mpr ⟨holds, unbroken⟩⟩
            rw [List.map_cons, same]
            rfl
          · rintro ⟨earlier, later, same, broken, unbroken⟩
            cases earlier with
            | nil =>
                obtain rfl : first = fault := (List.cons.inj same).1
                exact absurd broken holds
            | cons f earlier =>
                exact ⟨earlier, later, (List.cons.inj same).2, broken,
                  (List.forall_mem_cons.mp unbroken).2⟩

theorem fault?_eq_some_iff {s : Settings} (whole : s.Unwrapped) {fault : SettingsFault} :
    s.fault? = some fault ↔ s.FirstBroken fault :=
  firstBroken_eq_some (broken_iff whole)

inductive Update where
  | load (disk : Disk) (path : String)
  | override (directory budget : Option String)

def update (s : Settings) : Update → Settings
  | .load disk path => (loadFrom disk path).toOption.getD s
  | .override directory budget => s.override directory budget

/-- Of the files that are loaded, none gives percentages with a sum that is cut off. -/
def Update.Unwrapped : Update → Prop
  | .load disk path => ∀ loaded, loadFrom disk path = .ok loaded → loaded.Unwrapped
  | .override .. => True

theorem validated_eq_ok {s loaded : Settings} (h : validated s = .ok loaded) : loaded.Valid := by
  unfold validated at h
  split at h
  · rename_i accepted
    obtain rfl := Except.ok.inj h
    exact fault?_eq_none_iff.mp accepted
  · cases h

theorem valid_default : ({} : Settings).Valid := fault?_eq_none_iff.mp (by decide +kernel)

theorem valid_loadFrom {disk : Disk} {path : String} {loaded : Settings}
    (h : loadFrom disk path = .ok loaded) : loaded.Valid := by
  unfold loadFrom at h
  split at h
  · obtain rfl := Except.ok.inj h
    exact valid_default
  · split at h
    · cases h
    · split at h
      · cases h
      · exact validated_eq_ok h

theorem update_induction {P : Settings → Prop} {s : Settings} (h : P s) {u : Update}
    (loads : ∀ disk path loaded, u = .load disk path → loadFrom disk path = .ok loaded → P loaded)
    (overrides : ∀ s directory budget, P s → P (s.override directory budget)) : P (s.update u) := by
  cases u with
  | load disk path =>
      cases loaded : loadFrom disk path with
      | error fault => simpa [update, loaded, Except.toOption] using h
      | ok t => simpa [update, loaded, Except.toOption] using loads disk path t rfl loaded
  | override directory budget => exact overrides s directory budget h

theorem Valid.override {s : Settings} (h : s.Valid) (directory budget : Option String) :
    (s.override directory budget).Valid :=
  ⟨h.percents, h.splitFloor, h.fullContent, h.bucketOrder, h.staleScore, h.bucketScores, h.saturation⟩

theorem Valid.update {s : Settings} (h : s.Valid) (u : Update) : (s.update u).Valid :=
  update_induction h (fun _ _ _ _ loaded => valid_loadFrom loaded) fun _ _ _ h => h.override _ _

theorem Unwrapped.update {s : Settings} (h : s.Unwrapped) {u : Update} (whole : u.Unwrapped) :
    (s.update u).Unwrapped := by
  refine update_induction h ?_ fun _ _ _ h => h
  rintro disk path loaded rfl ok
  exact whole loaded ok

theorem Valid.updates {s : Settings} (h : s.Valid) (us : List Update) :
    (us.foldl Settings.update s).Valid := by
  induction us generalizing s with
  | nil => exact h
  | cons u us ih => exact ih (h.update u)

theorem Unwrapped.updates {s : Settings} (h : s.Unwrapped) {us : List Update}
    (whole : ∀ u ∈ us, u.Unwrapped) : (us.foldl Settings.update s).Unwrapped := by
  induction us generalizing s with
  | nil => exact h
  | cons u us ih =>
      obtain ⟨first, others⟩ := List.forall_mem_cons.mp whole
      exact ih (h.update first) others

/-- Only settings that are accepted are ever in force, and they are sound; whatever is refused breaks a
promise. Percentages with a sum that is cut off are the exception. -/
structure Guarded : Prop where
  checked : ∀ us : List Update, (us.foldl update {}).fault? = none
  current : ∀ us : List Update, (∀ u ∈ us, u.Unwrapped) → (us.foldl update {}).Sound
  accepted : ∀ s : Settings, s.Unwrapped → (s.fault? = none ↔ s.Sound)
  refused : ∀ (s : Settings) (fault : SettingsFault), s.Unwrapped →
    (s.fault? = some fault ↔ s.FirstBroken fault)

theorem settings_guarded : Guarded where
  checked us := fault?_eq_none_iff.mpr (valid_default.updates us)
  current us whole :=
    (valid_default.updates us).sound (Unwrapped.updates (by decide) whole)
  accepted _ whole :=
    ⟨fun accepted => (fault?_eq_none_iff.mp accepted).sound whole,
      fun sound => fault?_eq_none_iff.mpr sound.valid⟩
  refused _ _ whole := fault?_eq_some_iff whole

def sharedOut : Disk :=
  ⟨.directory ⟨0o755, ⟨0, 0⟩⟩ [(localFile, .file ⟨0o644, ⟨0, 0⟩⟩
    (some "[packet]\ntask_pct = 99\nconvention_pct = 1\n"))], []⟩

def greedy : Settings :=
  { packet := { taskPercent := 99, conventionPercent := 2, splitFloorPercent := 51 } }

theorem settings_guarded_sharedOut :
    let us := [.override none (some "12"), .load sharedOut localFile]
    (∀ u ∈ us, u.Unwrapped) ∧ (us.foldl update {}).Sound ∧
      (us.foldl update {}).packet.taskPercent = 99 ∧
        greedy.Unwrapped ∧ greedy.FirstBroken .percentSum := by
  have loads : (loadFrom sharedOut localFile).toOption =
      some { packet := { taskPercent := 99, conventionPercent := 1 } } := by decide +kernel
  have whole : ∀ u ∈ [Update.override none (some "12"), .load sharedOut localFile], u.Unwrapped := by
    simp only [List.forall_mem_cons, List.not_mem_nil, false_implies, implies_true, and_true]
    refine ⟨trivial, fun loaded ok => ?_⟩
    rw [ok] at loads
    obtain rfl := Option.some.inj loads
    decide
  refine ⟨whole, settings_guarded.current _ whole, ?_, by decide, ?_⟩
  · simp [update, loads]
  · exact (settings_guarded.refused greedy .percentSum (by decide)).mp (by decide +kernel)

/-- The sum of these percentages is cut off to nothing. -/
example :
    ({ packet := { taskPercent := 2 ^ 31, conventionPercent := 2 ^ 31 } } : Settings).fault? = none := by
  decide +kernel

end Briefing.Settings
