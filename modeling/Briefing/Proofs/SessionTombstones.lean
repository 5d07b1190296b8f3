import Briefing.Proofs.CooldownRuns
import Briefing.Proofs.DiskPaths

namespace Briefing.Cooldown

theorem ne_of_isSafe {c : Char} (h : isSafe c = true) : c ≠ '/' ∧ c ≠ '.' := by
  constructor <;>
  · rintro rfl
    exact absurd h (by decide)

theorem isSafe_of_mem {session : List Char} {c : Char}
    (h : c ∈ (filePrefix ++ sanitized session).toList) : isSafe c = true := by
  rw [String.toList_append, List.mem_append] at h
  rcases h with label | name
  · have safe : filePrefix.toList.all isSafe = true := by decide
    exact List.all_eq_true.mp safe c label
  · rw [sanitized, String.toList_ofList] at name
    obtain ⟨b, -, rfl⟩ := List.mem_map.mp name
    split
    · assumption
    · decide

theorem plain_tombstone (session : List Char) : Path.Plain (filePrefix ++ sanitized session) where
  named := by
    intro empty
    have label := congrArg String.toList empty
    rw [String.toList_append, String.toList_empty, List.append_eq_nil_iff] at label
    exact absurd label.1 (by decide)
  flat := fun _ hc => (ne_of_isSafe (isSafe_of_mem hc)).1
  undotted := fun _ hc => (ne_of_isSafe (isSafe_of_mem hc)).2

theorem inDirectory_of_named {session : String} (named : Text.trim session.toList ≠ [])
    (directory : String) (windowSeconds : Nat) :
    ∃ c, inDirectory directory session windowSeconds = some c ∧
      c.tombstone = Path.join directory (filePrefix ++ sanitized (Text.trim session.toList)) := by
  unfold inDirectory
  split
  · contradiction
  · refine ⟨_, rfl, ?_⟩
    simp only

/-- Making a directory leaves the way to it as it is: the way does not turn back, or the directory is
there. -/
def Settled (disk : Disk) (directory : String) : Prop :=
  ".." ∉ Path.names directory ∨ disk.hasDirectory directory = true

theorem Settled.touch {disk : Disk} {directory : String} (h : Settled disk directory) (c : Cooldown)
    (now : Instant) : Settled (c.touch disk now) directory :=
  h.imp id (c.grows_touch disk now).hasDirectory

section

variable {directory name other : String} {c : Cooldown} {disk : Disk}

theorem agree_prepare (h : Path.Plain name) (h' : Path.Plain other)
    (place : c.tombstone = Path.join directory name) (settled : Settled disk directory)
    (now : Instant) : Disk.Agree (Path.join directory other) disk (c.prepare disk now).disk := by
  simp only [prepare, place, Path.parent?_join h]
  rcases settled with forth | there
  · exact Disk.agree_makeAll_forward forth h' disk now directoryMode
  · rw [Disk.disk_makeAll_of_there there]
    exact Disk.Agree.refl _ disk

theorem agree_touch (h : Path.Plain name) (h' : Path.Plain other) (apart : name ≠ other)
    (place : c.tombstone = Path.join directory name) (settled : Settled disk directory)
    (now : Instant) : Disk.Agree (Path.join directory other) disk (c.touch disk now) := by
  have before := agree_prepare h h' place settled now
  unfold touch
  split
  · exact Disk.Agree.refl _ disk
  · split
    · rename_i made prepared
      rwa [prepared] at before
    · rename_i made prepared
      rw [prepared] at before
      split
      · rename_i written success
        rw [place] at success
        exact before.trans (Disk.agree_write h h' apart success)
      · exact before

end

theorem isActive_congr {d : Cooldown} {disk disk' : Disk} (h : Disk.Agree d.tombstone disk disk')
    (now : Instant) : d.isActive disk' now = d.isActive disk now := by
  rw [Bool.eq_iff_iff, isActive_iff, isActive_iff]
  simp only [h _]

def touchAll (c : Cooldown) (disk : Disk) (touches : List (Nat × Instant)) : Disk :=
  touches.foldl (fun disk t => touch { c with windowSeconds := t.1 } disk t.2) disk

theorem agree_touchAll {directory name other : String} (h : Path.Plain name) (h' : Path.Plain other)
    (apart : name ≠ other) {c : Cooldown} (place : c.tombstone = Path.join directory name)
    {disk : Disk} (settled : Settled disk directory) (touches : List (Nat × Instant)) :
    Disk.Agree (Path.join directory other) disk (c.touchAll disk touches) := by
  induction touches generalizing disk with
  | nil => exact Disk.Agree.refl _ disk
  | cons t touches ih =>
      have first := agree_touch (c := { c with windowSeconds := t.1 }) h h' apart place settled t.2
      exact first.trans (ih (settled.touch _ t.2))

theorem isActive_of_shared {c d : Cooldown} {disk : Disk} {now : Instant}
    (same : c.tombstone = d.tombstone) (limited : d.windowSeconds ≠ 0) (h : c.Records disk now) :
    d.isActive (c.touch disk now) now = true := by
  obtain ⟨n, there, fresh⟩ := node_touch h
  refine isActive_iff.mpr ⟨limited, n, same ▸ there, ?_⟩
  rw [fresh, Instant.nanosecondsSince_self]
  omega

structure Separated (directory : String) (first second : List Char) (c d : Cooldown) : Prop where
  paths : c.tombstone = d.tombstone ↔ sanitized first = sanitized second
  silenced : sanitized first = sanitized second → d.windowSeconds ≠ 0 →
    ∀ disk now, c.Records disk now → d.isActive (c.touch disk now) now = true
  independent : sanitized first ≠ sanitized second →
    ∀ disk, Settled disk directory → ∀ touches now,
      d.isActive (c.touchAll disk touches) now = d.isActive disk now

theorem join_tombstone_inj (directory : String) (first second : List Char) :
    Path.join directory (filePrefix ++ sanitized first) =
        Path.join directory (filePrefix ++ sanitized second) ↔
      sanitized first = sanitized second := by
  constructor
  · intro same
    have names := Path.join_injective directory (plain_tombstone first).single
      (plain_tombstone second).single same
    rwa [← String.toList_inj, String.toList_append, String.toList_append, List.append_cancel_left_eq,
      String.toList_inj] at names
  · intro same
    rw [same]

theorem separated {directory : String} {first second : List Char} {c d : Cooldown}
    (here : c.tombstone = Path.join directory (filePrefix ++ sanitized first))
    (there : d.tombstone = Path.join directory (filePrefix ++ sanitized second)) :
    Separated directory first second c d := by
  have paths : c.tombstone = d.tombstone ↔ sanitized first = sanitized second := by
    rw [here, there, join_tombstone_inj]
  refine ⟨paths, fun same limited _ _ => isActive_of_shared (paths.mpr same) limited, ?_⟩
  intro differ disk settled touches now
  have apart : filePrefix ++ sanitized first ≠ filePrefix ++ sanitized second := by
    intro same
    exact differ (paths.mp (by rw [here, there, same]))
  have agree := agree_touchAll (plain_tombstone first) (plain_tombstone second) apart here settled touches
  exact isActive_congr (there.symm ▸ agree) now

theorem sessions_separated (directory : String) {first second : String} (window window' : Nat)
    (named : Text.trim first.toList ≠ []) (named' : Text.trim second.toList ≠ []) :
    ∃ c d, inDirectory directory first window = some c ∧
      inDirectory directory second window' = some d ∧
        Separated directory (Text.trim first.toList) (Text.trim second.toList) c d := by
  obtain ⟨c, hc, here⟩ := inDirectory_of_named named directory window
  obtain ⟨d, hd, there⟩ := inDirectory_of_named named' directory window'
  exact ⟨c, d, hc, hd, separated here there⟩

theorem sessions_separated_words :
    Text.trim " one".toList ≠ [] ∧ Text.trim "two".toList ≠ [] ∧
      ∃ c d, inDirectory "run/ctxpack" " one" 600 = some c ∧
        inDirectory "run/ctxpack" "two" 900 = some d ∧ c.tombstone ≠ d.tombstone ∧
          ∀ touches now, d.isActive (c.touchAll CommandLine.project touches) now = false := by
  have named : Text.trim " one".toList ≠ [] := by decide
  have named' : Text.trim "two".toList ≠ [] := by decide
  refine ⟨named, named', ?_⟩
  obtain ⟨c, d, hc, hd, separated⟩ := sessions_separated "run/ctxpack" 600 900 named named'
  have differ : sanitized (Text.trim " one".toList) ≠ sanitized (Text.trim "two".toList) := by decide
  refine ⟨c, d, hc, hd, fun same => differ (separated.paths.mp same), fun touches now => ?_⟩
  rw [separated.independent differ CommandLine.project (Or.inl (by decide)) touches now]
  obtain rfl := Option.some.inj hd
  rfl

def collision : Cooldown := ⟨"state/ctx-agent-a_b", 600⟩

theorem sessions_collide :
    Text.trim "a.b".toList ≠ [] ∧ Text.trim "a/b".toList ≠ [] ∧
      Text.trim "a.b".toList ≠ Text.trim "a/b".toList ∧
        inDirectory "state" "a.b" 600 = some collision ∧
          inDirectory "state" "a/b" 600 = some collision ∧
            collision.isActive CommandLine.project ⟨1000, 0⟩ = false ∧
              collision.isActive (collision.touch CommandLine.project ⟨1000, 0⟩) ⟨1000, 0⟩ = true := by
  decide +kernel

/-- A way that turns back makes the other tombstone on the way, even if the names differ. -/
example :
    isActive ⟨"ctx-agent-b/../ctx-agent-b", 600⟩
      (touch ⟨"ctx-agent-b/../ctx-agent-a", 600⟩ CommandLine.project ⟨1000, 0⟩) ⟨1000, 0⟩ = true := by
  decide +kernel

end Briefing.Cooldown
