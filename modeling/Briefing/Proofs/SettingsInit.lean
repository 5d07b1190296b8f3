import Briefing.Proofs.DiskFiles
import Briefing.Proofs.EffectiveSettings
import Briefing.Proofs.FileTrees
import Briefing.Proofs.SettingsReload

namespace Briefing

namespace Settings

theorem prepareParent_snd {path parent : String} (above : Path.parent? path = some parent) (d : Disk)
    (now : Instant) :
    (prepareParent d now path).2 = (d.makeAll now newDirectoryMode parent).disk := by
  simp only [prepareParent, above]
  split <;> rename_i made <;> rw [made]

theorem made_prepareParent (d : Disk) (now : Instant) (path : String) :
    Disk.Made now newDirectoryMode (Path.Begins · path) d (prepareParent d now path).2 := by
  cases above : Path.parent? path with
  | none =>
      rw [prepareParent, above]
      exact .none d
  | some parent =>
      rw [prepareParent_snd above]
      exact Disk.made_makeAll ((Path.Begins.refl path).parent? above) d now newDirectoryMode

inductive Course (d : Disk) (now : Instant) (path : String) (force : Bool) :
    Except InitFault Bool × Disk → Prop where
  | refused (there : d.present path = true) (unforced : force = false) :
      Course d now path force (.ok false, d)
  | failed (fault : InitFault) {d' : Disk}
      (made : Disk.Made now newDirectoryMode (Path.Begins · path) d d') :
      Course d now path force (.error fault, d')
  | written {d' : Disk} (free : force = false → d.present path = false)
      (success : (prepareParent d now path).2.write now newFileMode path (some defaultToml) = .ok d') :
      Course d now path force (.ok true, d')

theorem course (d : Disk) (now : Instant) (path : String) (force : Bool) :
    Course d now path force (init d now path force) := by
  have made := made_prepareParent d now path
  unfold init
  split
  · rename_i there
    rw [Bool.and_eq_true, Bool.not_eq_true'] at there
    exact .refused there.1 there.2
  · rename_i free
    split
    · rename_i fault d' prepared
      rw [prepared] at made
      exact .failed fault made
    · rename_i d' prepared
      rw [prepared] at made
      split
      · exact .failed _ made
      · rename_i success
        refine .written ?_ (by rw [prepared]; exact success)
        intro unforced
        simpa [unforced] using free

section

variable {d d' : Disk} {now : Instant} {path : String} {force : Bool}

/-- Making the directories of a path brings nothing new into its reach: it does not turn back, or its
directory is there. -/
def Straight (d : Disk) (path : String) : Prop :=
  ".." ∉ Path.names path ∨ ∀ parent ∈ Path.parent? path, d.hasDirectory parent = true

instance (d : Disk) (path : String) : Decidable (Straight d path) :=
  inferInstanceAs (Decidable (_ ∨ ∀ parent ∈ Path.parent? path, d.hasDirectory parent = true))

theorem Straight.grows (h : Straight d path) (grows : Disk.Grows now d d') : Straight d' path :=
  h.imp id fun there parent above => grows.hasDirectory (there parent above)

structure Request where
  now : Instant
  path : String

end

end Settings

end Briefing
