import Briefing.CommandLine.Run
import Briefing.Proofs.DiskPlaces
import Briefing.Proofs.Trimming
import Mathlib.Data.List.Chain

namespace Briefing

theorem Instant.nanosecondsSince_trans (a b c : Instant) :
    a.nanosecondsSince c = a.nanosecondsSince b + b.nanosecondsSince c := by
  unfold nanosecondsSince
  omega

theorem Instant.nanosecondsSince_self (a : Instant) : a.nanosecondsSince a = 0 := by
  unfold nanosecondsSince
  omega

namespace Cooldown

theorem isActive_iff {c : Cooldown} {disk : Disk} {now : Instant} :
    c.isActive disk now = true ↔ c.windowSeconds ≠ 0 ∧ ∃ n, disk.node c.tombstone = .ok n ∧
      now.nanosecondsSince n.stamp.modified < c.windowSeconds * 1000000000 := by
  unfold isActive isFresh
  cases disk.node c.tombstone with
  | error fault => simp
  | ok n => simp

theorem inDirectory_of_blank {session : String} (blank : Text.blankText session = true)
    (directory : String) (windowSeconds : Nat) : inDirectory directory session windowSeconds = none := by
  rw [inDirectory, Text.blankText_iff.mp blank]

theorem windowSeconds_of_mem {directory session : String} {windowSeconds : Nat} {c : Cooldown}
    (h : c ∈ inDirectory directory session windowSeconds) : c.windowSeconds = windowSeconds := by
  unfold inDirectory at h
  split at h
  · cases h
  · obtain rfl := Option.some.inj h
    rfl

/-- A touch succeeds: the directory of the tombstone is there or can be made, and the tombstone can
be written in it. -/
def Records (c : Cooldown) (disk : Disk) (now : Instant) : Prop :=
  c.windowSeconds ≠ 0 ∧ ∃ made written, c.prepare disk now = ⟨none, made⟩ ∧
    made.write now fileMode c.tombstone (some "") = .ok written

theorem node_touch {c : Cooldown} {disk : Disk} {now : Instant} (h : c.Records disk now) :
    ∃ n, (c.touch disk now).node c.tombstone = .ok n ∧ n.stamp.modified = now := by
  obtain ⟨limited, made, written, prepared, success⟩ := h
  obtain ⟨stamp, there, fresh⟩ := Disk.node_of_write success
  refine ⟨.file stamp (some ""), ?_, fresh⟩
  rw [touch, if_neg limited]
  simp only [prepared, success]
  exact there

theorem grows_prepare (c : Cooldown) (disk : Disk) (now : Instant) :
    Disk.Grows now disk (c.prepare disk now).disk := by
  unfold prepare
  split
  · exact Disk.Grows.refl now disk
  · exact Disk.grows_makeDirectories disk now _ _ _

theorem grows_touch (c : Cooldown) (disk : Disk) (now : Instant) :
    Disk.Grows now disk (c.touch disk now) := by
  have before := c.grows_prepare disk now
  unfold touch
  split
  · exact Disk.Grows.refl now disk
  · split
    · rename_i made prepared
      rw [prepared] at before
      exact before
    · rename_i made prepared
      rw [prepared] at before
      split
      · rename_i written success
        exact before.trans (Disk.grows_write success)
      · exact before

def Marked (c : Cooldown) (disk : Disk) (time : Instant) : Prop :=
  ∃ n, disk.node c.tombstone = .ok n ∧ 0 ≤ n.stamp.modified.nanosecondsSince time

theorem Marked.touch {c : Cooldown} {disk : Disk} {time now : Instant} (h : c.Marked disk time)
    (later : 0 ≤ now.nanosecondsSince time) : c.Marked (c.touch disk now) time := by
  obtain ⟨n, there, young⟩ := h
  obtain ⟨n', there', kept⟩ := (c.grows_touch disk now).node there
  refine ⟨n', there', ?_⟩
  rcases kept.modified with same | fresh
  · rwa [same]
  · rwa [fresh]

theorem Marked.elapsed {c : Cooldown} {disk : Disk} {time now : Instant} (h : c.Marked disk time)
    (ended : c.isActive disk now = false) :
    (c.windowSeconds : Int) * 1000000000 ≤ now.nanosecondsSince time ∨ c.windowSeconds = 0 := by
  obtain ⟨n, there, young⟩ := h
  by_cases unlimited : c.windowSeconds = 0
  · exact Or.inr unlimited
  · have old : ¬ now.nanosecondsSince n.stamp.modified < c.windowSeconds * 1000000000 := by
      intro fresh
      rw [isActive_iff.mpr ⟨unlimited, n, there, fresh⟩] at ended
      cases ended
    have sum := now.nanosecondsSince_trans n.stamp.modified time
    omega

end Cooldown

theorem Packet.render_ne_empty (p : Packet) (generated : Instant) (format : Format) :
    p.render generated format ≠ "" := by
  intro empty
  have nothing := congrArg String.toList empty
  cases format with
  | markdown => simp [render, markdown, titleLine, line] at nothing
  | json => simp [render] at nothing

namespace CommandLine

structure Invocation where
  request : AgentRequest
  world : World

namespace Invocation

def outcome (i : Invocation) : Outcome := (i.request.run i.world).1

def after (i : Invocation) : Disk := (i.request.run i.world).2

def Emits (i : Invocation) : Prop := i.outcome.output ≠ ""

def Fails (i : Invocation) : Prop := i.outcome.exit ≠ 0

def Loads (i : Invocation) : Prop :=
  ∃ s context, settings i.world = .ok s ∧
    Context.load i.world.disk (i.request.directory.getD s.contextDirectory) = .ok context

def Suppressed (cooldown : Option Cooldown) (i : Invocation) : Prop :=
  (∃ s, settings i.world = .ok s) ∧ ∃ c ∈ cooldown, c.isActive i.world.disk i.world.now = true

def Records (cooldown : Option Cooldown) (i : Invocation) : Prop :=
  i.Emits ∧ ∃ c ∈ cooldown, c.Records i.world.disk i.world.now

structure Uses (directory : String) (session : Option String) (window : Nat) (i : Invocation) :
    Prop where
  directory : stateDirectory i.world.environment = directory
  session : i.request.session = session
  window : ∀ s, settings i.world = .ok s → i.request.cooldown.getD s.agent.cooldownSeconds = window

/-- The clock does not go back between two runs, and nothing else touches the tombstone. -/
structure Follows (cooldown : Option Cooldown) (a b : Invocation) : Prop where
  later : 0 ≤ b.world.now.nanosecondsSince a.world.now
  untouched : ∀ c ∈ cooldown, b.world.disk.node c.tombstone = a.after.node c.tombstone

end Invocation

def sharedCooldown (directory : String) (session : Option String) (window : Nat) : Option Cooldown :=
  session.bind fun session => Cooldown.inDirectory directory session window

theorem windowSeconds_of_shared {directory : String} {session : Option String} {window : Nat}
    {c : Cooldown} (h : sharedCooldown directory session window = some c) :
    c.windowSeconds = window := by
  obtain ⟨name, -, found⟩ := Option.bind_eq_some_iff.mp h
  exact Cooldown.windowSeconds_of_mem found

namespace Invocation

section

variable {directory : String} {session : Option String} {window : Nat} {i : Invocation}

theorem Uses.cooldownOf (h : i.Uses directory session window) {s : Settings}
    (ok : settings i.world = .ok s) :
    i.request.cooldownOf i.world.environment s = sharedCooldown directory session window := by
  rw [AgentRequest.cooldownOf, h.directory, h.session, h.window s ok, sharedCooldown]

inductive Course (cooldown : Option Cooldown) (i : Invocation) : Prop
  | failed : ¬ i.Loads → ¬ i.Suppressed cooldown → i.Fails → i.outcome.output = "" →
      i.after = i.world.disk → Course cooldown i
  | suppressed : i.Suppressed cooldown → i.outcome = {} → i.after = i.world.disk → Course cooldown i
  | emitted : i.Loads → ¬ i.Suppressed cooldown → i.Emits → i.outcome.exit = 0 →
      i.after = touched cooldown i.world → Course cooldown i

theorem Uses.course (h : i.Uses directory session window) :
    Course (sharedCooldown directory session window) i := by
  cases ok : settings i.world with
  | error failure =>
      have run : i.request.run i.world = (failure.outcome, i.world.disk) := by
        unfold AgentRequest.run
        rw [ok]
      refine .failed ?_ ?_ ?_ ?_ ?_
      · rintro ⟨s, context, loaded, -⟩
        rw [ok] at loaded
        cases loaded
      · rintro ⟨⟨s, loaded⟩, -⟩
        rw [ok] at loaded
        cases loaded
      · simp [Fails, outcome, run, Failure.outcome]
      · simp [outcome, run, Failure.outcome]
      · simp [after, run]
  | ok s =>
      have same := h.cooldownOf ok
      cases active : (sharedCooldown directory session window).any fun c =>
          c.isActive i.world.disk i.world.now with
      | true =>
          have run : i.request.run i.world = ({}, i.world.disk) := by
            unfold AgentRequest.run
            rw [ok]
            exact if_pos (same ▸ active)
          refine .suppressed ⟨⟨s, ok⟩, (Option.any_eq_true _ _).mp active⟩ ?_ ?_
          · simp [outcome, run]
          · simp [after, run]
      | false =>
          have quiet : ¬ i.Suppressed (sharedCooldown directory session window) := by
            rintro ⟨-, silent⟩
            rw [(Option.any_eq_true _ _).mpr silent] at active
            cases active
          have run : i.request.run i.world =
              i.request.emit i.world s (sharedCooldown directory session window) := by
            unfold AgentRequest.run
            rw [ok, ← same]
            exact if_neg (by rw [same, active]; decide)
          cases load : Context.load i.world.disk (i.request.directory.getD s.contextDirectory) with
          | error fault =>
              refine .failed ?_ quiet ?_ ?_ ?_
              · rintro ⟨t, context, loaded, found⟩
                rw [ok] at loaded
                obtain rfl := Except.ok.inj loaded
                rw [load] at found
                cases found
              · simp [Fails, outcome, run, AgentRequest.emit, packetOf, load, Except.map, Failure.outcome]
              · simp [outcome, run, AgentRequest.emit, packetOf, load, Except.map, Failure.outcome]
              · simp [after, run, AgentRequest.emit, packetOf, load, Except.map]
          | ok context =>
              refine .emitted ⟨s, context, ok, load⟩ quiet ?_ ?_ ?_
              · simp [Emits, outcome, run, AgentRequest.emit, packetOf, load, Except.map,
                  Packet.render_ne_empty]
              · simp [outcome, run, AgentRequest.emit, packetOf, load, Except.map]
              · simp [after, run, AgentRequest.emit, packetOf, load, Except.map]

theorem Uses.failed (h : i.Uses directory session window) (fails : i.Fails) :
    i.outcome.output = "" ∧ i.after = i.world.disk := by
  cases h.course with
  | failed _ _ _ silent after => exact ⟨silent, after⟩
  | suppressed _ silent _ =>
      rw [Fails, silent] at fails
      exact absurd rfl fails
  | emitted _ _ _ success _ => exact absurd success fails

theorem Uses.emitted (h : i.Uses directory session window) (emits : i.Emits) :
    ¬ i.Suppressed (sharedCooldown directory session window) ∧
      i.after = touched (sharedCooldown directory session window) i.world := by
  cases h.course with
  | failed _ _ _ silent _ => exact absurd silent emits
  | suppressed _ silent _ =>
      rw [Emits, silent] at emits
      exact absurd rfl emits
  | emitted _ quiet _ _ after => exact ⟨quiet, after⟩

theorem Uses.emits (h : i.Uses directory session window) (loads : i.Loads)
    (quiet : ¬ i.Suppressed (sharedCooldown directory session window)) : i.Emits := by
  cases h.course with
  | failed unloaded _ _ _ _ => exact absurd loads unloaded
  | suppressed active _ _ => exact absurd active quiet
  | emitted _ _ emits _ _ => exact emits

theorem Uses.unchanged (h : i.Uses directory session window) (silent : ¬ i.Emits) :
    i.after = i.world.disk := by
  cases h.course with
  | failed _ _ _ _ after => exact after
  | suppressed _ _ after => exact after
  | emitted _ _ emits _ _ => exact absurd emits silent

theorem Uses.marked (h : i.Uses directory session window) {c : Cooldown}
    (shared : sharedCooldown directory session window = some c) {time : Instant}
    (young : c.Marked i.world.disk time) (later : 0 ≤ i.world.now.nanosecondsSince time) :
    c.Marked i.after time := by
  by_cases emits : i.Emits
  · rw [(h.emitted emits).2, shared]
    exact young.touch later
  · rw [h.unchanged emits]
    exact young

theorem Uses.marked_of_records (h : i.Uses directory session window) {c : Cooldown}
    (shared : sharedCooldown directory session window = some c) (emits : i.Emits)
    (records : c.Records i.world.disk i.world.now) :
    ∃ n, i.after.node c.tombstone = .ok n ∧ n.stamp.modified = i.world.now := by
  rw [(h.emitted emits).2, shared]
  exact Cooldown.node_touch records

theorem Uses.elapsed (h : i.Uses directory session window) {c : Cooldown}
    (shared : sharedCooldown directory session window = some c) (emits : i.Emits) {time : Instant}
    (young : c.Marked i.world.disk time) (later : 0 ≤ i.world.now.nanosecondsSince time) :
    (window : Int) * 1000000000 ≤ i.world.now.nanosecondsSince time := by
  have same := windowSeconds_of_shared shared
  obtain ⟨⟨s, context, ok, -⟩, quiet⟩ : i.Loads ∧ ¬ i.Suppressed _ := by
    cases h.course with
    | failed _ _ _ silent _ => exact absurd silent emits
    | suppressed _ silent _ =>
        rw [Emits, silent] at emits
        exact absurd rfl emits
    | emitted loads quiet _ _ _ => exact ⟨loads, quiet⟩
  have ended : c.isActive i.world.disk i.world.now = false := by
    rw [← Bool.not_eq_true]
    exact fun active => quiet ⟨⟨s, ok⟩, c, shared, active⟩
  rcases young.elapsed ended with enough | unlimited
  · rwa [same] at enough
  · rw [same] at unlimited
    rw [unlimited]
    simpa using later

/-- The tombstone's time never goes back, so that all later runs see a tombstone that is no older. -/
theorem apart_of_marked {c : Cooldown} (shared : sharedCooldown directory session window = some c)
    {time : Instant} {runs : List Invocation} (uses : ∀ j ∈ runs, Uses directory session window j)
    (chain : (i :: runs).IsChain (Follows (some c))) (young : c.Marked i.after time)
    (later : 0 ≤ i.world.now.nanosecondsSince time) {b : Invocation} (hb : b ∈ runs)
    (emits : b.Emits) : (window : Int) * 1000000000 ≤ b.world.now.nanosecondsSince time := by
  induction runs generalizing i with
  | nil => cases hb
  | cons j runs ih =>
      obtain ⟨follows, chain⟩ := List.isChain_cons_cons.mp chain
      have uses' := uses j List.mem_cons_self
      have later' : 0 ≤ j.world.now.nanosecondsSince time := by
        have sum := j.world.now.nanosecondsSince_trans i.world.now time
        have step := follows.later
        omega
      have young' : c.Marked j.world.disk time := by
        obtain ⟨n, there, new⟩ := young
        exact ⟨n, (follows.untouched c rfl).trans there, new⟩
      rcases List.mem_cons.mp hb with rfl | deeper
      · exact uses'.elapsed shared emits young' later'
      · exact ih (fun k hk => uses k (List.mem_cons_of_mem j hk)) chain
          (uses'.marked shared young' later') later' deeper

theorem untouched_of_silent {c : Cooldown} {a b : Invocation} {between : List Invocation}
    (uses : ∀ j ∈ between, Uses directory session window j)
    (chain : (a :: between ++ [b]).IsChain (Follows (some c)))
    (silent : ∀ j ∈ between, ¬ j.Emits) :
    b.world.disk.node c.tombstone = a.after.node c.tombstone := by
  induction between generalizing a with
  | nil => exact (List.isChain_cons_cons.mp chain).1.untouched c rfl
  | cons j between ih =>
      obtain ⟨follows, chain⟩ := List.isChain_cons_cons.mp chain
      have rest := ih (fun k hk => uses k (List.mem_cons_of_mem j hk)) chain
        fun k hk => silent k (List.mem_cons_of_mem j hk)
      rw [rest, (uses j List.mem_cons_self).unchanged (silent j List.mem_cons_self)]
      exact follows.untouched c rfl

theorem Follows.skip {cooldown : Option Cooldown} {a b : Invocation} (first : Follows cooldown a i)
    (second : Follows cooldown i b) (same : i.after = i.world.disk) : Follows cooldown a b where
  later := by
    have sum := b.world.now.nanosecondsSince_trans i.world.now a.world.now
    have := first.later
    have := second.later
    omega
  untouched := by
    intro c hc
    rw [second.untouched c hc, same, first.untouched c hc]

theorem isChain_skip {cooldown : Option Cooldown} {before later : List Invocation}
    (chain : (before ++ i :: later).IsChain (Follows cooldown)) (same : i.after = i.world.disk) :
    (before ++ later).IsChain (Follows cooldown) := by
  obtain ⟨first, second, join⟩ := List.isChain_append.mp chain
  refine List.isChain_append.mpr ⟨first, second.tail, ?_⟩
  intro a ha b hb
  exact (join a ha i rfl).skip (second.rel_head? hb) same

end

end Invocation

open Invocation

structure Spaced (directory : String) (session : Option String) (window : Nat)
    (runs : List Invocation) : Prop where
  apart : runs.Pairwise fun a b =>
    a.Records (sharedCooldown directory session window) → b.Emits →
      (window : Int) * 1000000000 ≤ b.world.now.nanosecondsSince a.world.now
  suppressed : ∀ i ∈ runs, i.Suppressed (sharedCooldown directory session window) →
    i.outcome = {} ∧ i.after = i.world.disk
  failed : ∀ i ∈ runs, i.Fails → i.outcome.output = "" ∧ i.after = i.world.disk
  blameless : ∀ before i later, runs = before ++ i :: later → i.Fails →
    (before ++ later).IsChain (Follows (sharedCooldown directory session window))
  resumed : ∀ before a between b later, runs = before ++ a :: between ++ b :: later →
    a.Records (sharedCooldown directory session window) → (∀ i ∈ between, ¬ i.Emits) →
      (window : Int) * 1000000000 ≤ b.world.now.nanosecondsSince a.world.now → b.Loads → b.Emits
  unlimited : window = 0 ∨ session.all Text.blankText = true → ∀ i ∈ runs,
    ¬ i.Suppressed (sharedCooldown directory session window) ∧ (i.Loads → i.Emits) ∧
      i.after = i.world.disk

section

variable {directory : String} {session : Option String} {window : Nat} {runs : List Invocation}

theorem pairwise_apart (uses : ∀ i ∈ runs, Uses directory session window i)
    (chain : runs.IsChain (Follows (sharedCooldown directory session window))) :
    runs.Pairwise fun a b => a.Records (sharedCooldown directory session window) → b.Emits →
      (window : Int) * 1000000000 ≤ b.world.now.nanosecondsSince a.world.now := by
  induction runs with
  | nil => exact List.Pairwise.nil
  | cons a runs ih =>
      have later := fun j hj => uses j (List.mem_cons_of_mem a hj)
      refine List.pairwise_cons.mpr ⟨?_, ih later chain.tail⟩
      rintro b hb ⟨emitted, c, shared, records⟩ emits
      have shared := Option.mem_def.mp shared
      obtain ⟨n, there, fresh⟩ :=
        (uses a List.mem_cons_self).marked_of_records shared emitted records
      rw [shared] at chain
      refine apart_of_marked shared later chain ⟨n, there, ?_⟩ ?_ hb emits
      · rw [fresh]
        exact Int.le_of_eq (Instant.nanosecondsSince_self _).symm
      · exact Int.le_of_eq (Instant.nanosecondsSince_self _).symm

theorem emits_of_elapsed {before between later : List Invocation} {a b : Invocation}
    (split : runs = before ++ a :: between ++ b :: later)
    (uses : ∀ i ∈ runs, Uses directory session window i)
    (chain : runs.IsChain (Follows (sharedCooldown directory session window)))
    (records : a.Records (sharedCooldown directory session window))
    (silent : ∀ i ∈ between, ¬ i.Emits)
    (ended : (window : Int) * 1000000000 ≤ b.world.now.nanosecondsSince a.world.now)
    (loads : b.Loads) : b.Emits := by
  obtain ⟨emitted, c, shared, records⟩ := records
  have shared := Option.mem_def.mp shared
  have part : a :: between ++ [b] <:+: runs := ⟨before, later, by simp [split]⟩
  obtain ⟨n, there, fresh⟩ :=
    (uses a (part.subset (by simp))).marked_of_records shared emitted records
  have chain := chain.infix part
  rw [shared] at chain
  have same := untouched_of_silent (fun j hj => uses j (part.subset (by simp [hj]))) chain silent
  refine (uses b (part.subset (by simp))).emits loads ?_
  rintro ⟨-, d, hd, active⟩
  rw [shared] at hd
  obtain rfl := Option.some.inj hd
  obtain ⟨-, m, found, young⟩ := Cooldown.isActive_iff.mp active
  rw [same, there] at found
  obtain rfl := Except.ok.inj found
  rw [fresh, windowSeconds_of_shared shared] at young
  omega

theorem Invocation.Uses.unlimited {i : Invocation} (uses : i.Uses directory session window)
    (free : window = 0 ∨ session.all Text.blankText = true) :
    ¬ i.Suppressed (sharedCooldown directory session window) ∧ (i.Loads → i.Emits) ∧
      i.after = i.world.disk := by
  have idle : ∀ c ∈ sharedCooldown directory session window, c.windowSeconds = 0 := by
    intro c hc
    rcases free with zero | blank
    · rw [windowSeconds_of_shared hc, zero]
    · obtain ⟨name, named, found⟩ := Option.bind_eq_some_iff.mp hc
      rw [named] at blank
      rw [Cooldown.inDirectory_of_blank blank] at found
      cases found
  have quiet : ¬ i.Suppressed (sharedCooldown directory session window) := by
    rintro ⟨-, c, hc, active⟩
    exact (Cooldown.isActive_iff.mp active).1 (idle c hc)
  refine ⟨quiet, fun loads => uses.emits loads quiet, ?_⟩
  by_cases emits : i.Emits
  · rw [(uses.emitted emits).2]
    unfold touched
    split
    · rfl
    · rename_i c shared
      exact if_pos (idle c shared)
  · exact uses.unchanged emits

theorem runs_spaced (uses : ∀ i ∈ runs, Uses directory session window i)
    (chain : runs.IsChain (Follows (sharedCooldown directory session window))) :
    Spaced directory session window runs where
  apart := pairwise_apart uses chain
  suppressed := by
    intro i hi active
    cases (uses i hi).course with
    | failed _ quiet _ _ _ => exact absurd active quiet
    | suppressed _ silent after => exact ⟨silent, after⟩
    | emitted _ quiet _ _ _ => exact absurd active quiet
  failed := by
    intro i hi fails
    exact (uses i hi).failed fails
  blameless := by
    intro before i later split fails
    have same := (uses i (by simp [split])).failed fails
    rw [split] at chain
    exact isChain_skip chain same.2
  resumed := fun _ _ _ _ _ split records silent ended loads =>
    emits_of_elapsed split uses chain records silent ended loads
  unlimited := fun free i hi => (uses i hi).unlimited free

end

def project : Disk :=
  ⟨.directory ⟨0o755, ⟨0, 0⟩⟩ [(".context", .directory ⟨0o755, ⟨0, 0⟩⟩ [])], []⟩

def askedAt (seconds : Int) (disk : Disk) : Invocation :=
  ⟨{ session := some " s ", cooldown := some 600 }, ⟨disk, {}, ⟨seconds, 0⟩⟩⟩

def firstAsked : Invocation := askedAt 1000 project

def askedAgain : Invocation := askedAt 1300 firstAsked.after

def askedLater : Invocation := askedAt 1600 askedAgain.after

theorem uses_askedAt (seconds : Int) (disk : Disk) :
    Uses "/tmp/ctxpack-0" (some " s ") 600 (askedAt seconds disk) where
  directory := by
    have default : stateDirectory {} = "/tmp/ctxpack-0" := by decide +kernel
    exact default
  session := rfl
  window := fun _ _ => rfl

theorem follows_askedAt (cooldown : Option Cooldown) {a : Invocation} {seconds : Int}
    (later : 0 ≤ (⟨seconds, 0⟩ : Instant).nanosecondsSince a.world.now) :
    Follows cooldown a (askedAt seconds a.after) := ⟨later, fun _ _ => rfl⟩

theorem runs_spaced_asked :
    let shared := sharedCooldown "/tmp/ctxpack-0" (some " s ") 600
    let runs := [firstAsked, askedAgain, askedLater]
    (∀ i ∈ runs, Uses "/tmp/ctxpack-0" (some " s ") 600 i) ∧ runs.IsChain (Follows shared) ∧
      firstAsked.Records shared ∧ askedAgain.Suppressed shared ∧ askedAgain.outcome = {} ∧
      askedLater.Emits := by
  intro shared runs
  have uses : ∀ i ∈ runs, Uses "/tmp/ctxpack-0" (some " s ") 600 i := by
    simp only [runs, List.mem_cons, List.not_mem_nil, or_false, forall_eq_or_imp, forall_eq]
    exact ⟨uses_askedAt _ _, uses_askedAt _ _, uses_askedAt _ _⟩
  have chain : runs.IsChain (Follows shared) := by
    refine List.isChain_cons_cons.mpr ⟨follows_askedAt _ (by decide), ?_⟩
    exact List.isChain_cons_cons.mpr ⟨follows_askedAt _ (by decide), List.isChain_singleton _⟩
  have quiet : ¬ firstAsked.Suppressed shared := by
    rintro ⟨-, c, hc, active⟩
    obtain rfl := Option.some.inj hc
    cases active
  have emits := (uses firstAsked (by simp [runs])).emits ⟨_, _, rfl, rfl⟩ quiet
  have records : firstAsked.Records shared := ⟨emits, _, rfl, by decide, _, _, rfl, rfl⟩
  have suppressed : askedAgain.Suppressed shared := ⟨⟨_, rfl⟩, _, rfl, rfl⟩
  have spaced := runs_spaced uses chain
  have silent := (spaced.suppressed askedAgain (by simp [runs]) suppressed).1
  refine ⟨uses, chain, records, suppressed, silent, ?_⟩
  refine spaced.resumed [] firstAsked [askedAgain] askedLater [] rfl records ?_ (by decide)
    ⟨_, _, rfl, rfl⟩
  intro i hi emits
  obtain rfl := List.mem_singleton.mp hi
  rw [Emits, silent] at emits
  exact emits rfl

end CommandLine

end Briefing
