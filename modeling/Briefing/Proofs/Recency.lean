import Briefing.Proofs.CalendarDays
import Briefing.Proofs.Stages
import Briefing.Proofs.Validity
import Mathlib.Data.List.Basic

namespace Briefing

namespace Scoring

/-- The bucket with the smallest age limit that an age keeps to, or none where it keeps to no limit. -/
def Tightest (buckets : List RecencyBucket) (age : Int) : Option RecencyBucket → Prop
  | some b => b ∈ buckets ∧ age ≤ b.maxAgeDays ∧
      ∀ c ∈ buckets, age ≤ c.maxAgeDays → b.maxAgeDays ≤ c.maxAgeDays
  | none => ∀ c ∈ buckets, c.maxAgeDays < age

def bucketPlace (buckets : List RecencyBucket) : Option RecencyBucket → Nat
  | some b => buckets.idxOf b
  | none => buckets.length

theorem bucketScore_eq (age : Int) (buckets : List RecencyBucket) :
    bucketScore age buckets =
      (buckets.find? fun b => age ≤ b.maxAgeDays).map RecencyBucket.score := by
  induction buckets with
  | nil => rfl
  | cons b bs ih =>
      rw [bucketScore, ih, List.find?_cons]
      by_cases fits : age ≤ b.maxAgeDays <;> simp [fits]

section

variable {buckets : List RecencyBucket}
variable (rising : buckets.Pairwise fun a b => a.maxAgeDays < b.maxAgeDays)
include rising

theorem tightest_find? (age : Int) :
    Tightest buckets age (buckets.find? fun b => age ≤ b.maxAgeDays) := by
  cases found : buckets.find? fun b => age ≤ b.maxAgeDays with
  | none =>
      intro c hc
      simpa using List.find?_eq_none.mp found c hc
  | some b =>
      obtain ⟨fits, before, after, rfl, passed⟩ := List.find?_eq_some_iff_append.mp found
      refine ⟨List.mem_append_right _ List.mem_cons_self, by simpa using fits, ?_⟩
      intro c hc room
      rcases List.mem_append.mp hc with hc | hc
      · have short := passed c hc
        simp [room] at short
      · rcases List.mem_cons.mp hc with rfl | hc
        · exact Int.le_refl _
        · have later := (List.pairwise_append.mp rising).2.1
          exact Int.le_of_lt ((List.pairwise_cons.mp later).1 c hc)

theorem idxOf_le_of_maxAgeDays_le {a b : RecencyBucket} (ha : a ∈ buckets) (hb : b ∈ buckets)
    (h : a.maxAgeDays ≤ b.maxAgeDays) : buckets.idxOf a ≤ buckets.idxOf b := by
  refine Nat.le_of_not_lt fun before => ?_
  have less := List.pairwise_iff_getElem.mp rising (buckets.idxOf b) (buckets.idxOf a)
    (List.idxOf_lt_length_of_mem hb) (List.idxOf_lt_length_of_mem ha) before
  rw [List.getElem_idxOf, List.getElem_idxOf] at less
  omega

theorem bucketPlace_mono {age older : Int} (h : age ≤ older) {found later : Option RecencyBucket}
    (young : Tightest buckets age found) (old : Tightest buckets older later) :
    bucketPlace buckets found ≤ bucketPlace buckets later := by
  cases later with
  | none =>
      cases found with
      | none => exact Nat.le_refl _
      | some b => exact List.idxOf_le_length
  | some c =>
      obtain ⟨listed, fits, -⟩ := old
      cases found with
      | none =>
          have short := young c listed
          omega
      | some b =>
          have below := young.2.2 c listed (h.trans fits)
          exact idxOf_le_of_maxAgeDays_le rising young.1 listed below

theorem Tightest.unique {age : Int} {found other : Option RecencyBucket}
    (h : Tightest buckets age found) (h' : Tightest buckets age other) : found = other := by
  have place : bucketPlace buckets found = bucketPlace buckets other :=
    Nat.le_antisymm (bucketPlace_mono rising (Int.le_refl age) h h')
      (bucketPlace_mono rising (Int.le_refl age) h' h)
  cases found with
  | none =>
      cases other with
      | none => rfl
      | some c => exact absurd (h c h'.1) (Int.not_lt.mpr h'.2.1)
  | some b =>
      cases other with
      | none => exact absurd (h' b h.1) (Int.not_lt.mpr h.2.1)
      | some c => exact congrArg some ((List.idxOf_inj h.1).mp place)

theorem tightest_iff {age : Int} {found : Option RecencyBucket} :
    Tightest buckets age found ↔ (buckets.find? fun b => age ≤ b.maxAgeDays) = found :=
  ⟨fun h => (tightest_find? rising age).unique rising h,
    fun same => same ▸ tightest_find? rising age⟩

end

variable {scoring : ScoringSettings}

theorem ageInDays_eq (date : Date) (now : Instant) :
    ageInDays date now = now.date.dayNumber - date.dayNumber := by
  rw [ageInDays, Instant.dayNumber_date]

theorem recency_of_tightest
    (rising : scoring.recencyBuckets.Pairwise fun a b => a.maxAgeDays < b.maxAgeDays)
    {now : Instant} {e : Entry} {date : Date} (dated : e.date? = some date)
    {found : Option RecencyBucket}
    (h : Tightest scoring.recencyBuckets (now.date.dayNumber - date.dayNumber) found) :
    recency scoring now e = (found.map RecencyBucket.score).getD scoring.staleScore := by
  rw [← ageInDays_eq, tightest_iff rising] at h
  rw [recency, dated]
  simp only [bucketScore_eq, h]

theorem recency_undated {now : Instant} {e : Entry} (undated : e.date? = none) :
    recency scoring now e = scoring.staleScore := by
  rw [recency, undated]

theorem recency_sameDay {now later : Instant} (same : now.date = later.date) (e : Entry) :
    recency scoring now e = recency scoring later e := by
  simp only [recency, ageInDays_eq, same]

theorem ranked_congr {now later : Instant} {entries : List Entry}
    (same : ∀ e ∈ entries, recency scoring now e = recency scoring later e)
    (keywords : List String) :
    ranked scoring keywords now entries = ranked scoring keywords later entries := by
  have alike : entries.map (scored scoring keywords now) =
      entries.map (scored scoring keywords later) := by
    refine List.map_congr_left fun e he => ?_
    rw [scored, scored, score, score, same e he]
  rw [ranked, ranked, alike]

def SameBucket (scoring : ScoringSettings) (now later : Instant) (e : Entry) : Prop :=
  ∀ date, e.date? = some date → ∀ found,
    Tightest scoring.recencyBuckets (now.date.dayNumber - date.dayNumber) found ↔
      Tightest scoring.recencyBuckets (later.date.dayNumber - date.dayNumber) found

theorem SameBucket.recency_eq
    (rising : scoring.recencyBuckets.Pairwise fun a b => a.maxAgeDays < b.maxAgeDays)
    {now later : Instant} {e : Entry} (h : SameBucket scoring now later e) :
    recency scoring now e = recency scoring later e := by
  cases dated : e.date? with
  | none => rw [recency_undated dated, recency_undated dated]
  | some date =>
      have early := tightest_find? rising (now.date.dayNumber - date.dayNumber)
      have late := (h date dated _).mp early
      rw [recency_of_tightest rising dated early, recency_of_tightest rising dated late]

end Scoring

namespace Packet

theorem assemble_congr {settings : Settings} {now later : Instant} {sources : Sources}
    (same : ∀ e ∈ sources.decisions ++ sources.learnings,
      Scoring.recency settings.scoring now e = Scoring.recency settings.scoring later e)
    (budget : Nat) :
    assemble settings now sources budget = assemble settings later sources budget := by
  have alike (keywords : List String) (remaining : Nat) :
      knowledge settings now sources keywords remaining =
        knowledge settings later sources keywords remaining := by
    have decisions := Scoring.ranked_congr
      (fun e he => same e (List.mem_append_left _ he)) keywords
    have learnings := Scoring.ranked_congr
      (fun e he => same e (List.mem_append_right _ he)) keywords
    rw [knowledge, knowledge, decisions, learnings]
  simp only [assemble, staged, alike]

end Packet

/-- Recency goes by the days from the date of an entry to that of the clock, and by the tightest
bucket for so many days. The clock shows in nothing else, however the budget is shared. -/
structure DatedByDay (settings : Settings) : Prop where
  days : NumberedDays
  fits : ∀ age, ∃! found, Scoring.Tightest settings.scoring.recencyBuckets age found
  dated : ∀ now (e : Entry) date found, e.date? = some date →
    Scoring.Tightest settings.scoring.recencyBuckets (now.date.dayNumber - date.dayNumber) found →
      Scoring.recency settings.scoring now e =
        (found.map RecencyBucket.score).getD settings.scoring.staleScore
  undated : ∀ now (e : Entry), e.date? = none →
    Scoring.recency settings.scoring now e = settings.scoring.staleScore
  older : ∀ (now : Instant) (date earlier : Date) found later,
    earlier.dayNumber ≤ date.dayNumber →
    Scoring.Tightest settings.scoring.recencyBuckets (now.date.dayNumber - date.dayNumber) found →
    Scoring.Tightest settings.scoring.recencyBuckets (now.date.dayNumber - earlier.dayNumber) later →
      Scoring.bucketPlace settings.scoring.recencyBuckets found ≤
        Scoring.bucketPlace settings.scoring.recencyBuckets later
  sameBuckets : ∀ now later (sources : Sources),
    (∀ e ∈ sources.decisions ++ sources.learnings,
      Scoring.SameBucket settings.scoring now later e) →
    ∀ (packet : PacketSettings) budget,
      Packet.assemble { settings with packet := packet } now sources budget =
        Packet.assemble { settings with packet := packet } later sources budget
  sameDay : ∀ now later : Instant, now.date = later.date →
    (∀ e, Scoring.recency settings.scoring now e = Scoring.recency settings.scoring later e) ∧
      ∀ (packet : PacketSettings) sources budget,
        Packet.assemble { settings with packet := packet } now sources budget =
          Packet.assemble { settings with packet := packet } later sources budget

theorem dated_byDay {settings : Settings} (accepted : settings.fault? = none) :
    DatedByDay settings := by
  have rising := Settings.ascending_iff.mp (Settings.fault?_eq_none_iff.mp accepted).bucketOrder
  refine ⟨numberedDays, ?_, ?_, fun _ _ => Scoring.recency_undated, ?_, ?_, ?_⟩
  · intro age
    exact ⟨_, Scoring.tightest_find? rising age,
      fun other h => h.unique rising (Scoring.tightest_find? rising age)⟩
  · intro now e date found read
    exact Scoring.recency_of_tightest rising read
  · intro now date earlier found later before young old
    exact Scoring.bucketPlace_mono rising (by omega) young old
  · intro now later sources same packet
    exact Packet.assemble_congr fun e he => (same e he).recency_eq rising
  · intro now later same
    refine ⟨Scoring.recency_sameDay same, fun packet sources => ?_⟩
    exact Packet.assemble_congr fun e _ => Scoring.recency_sameDay same e

def leapNote : Entry :=
  Entry.ofLines ⟨"2024-02-28-090000", "2024-02-28", "Leap"⟩ ["## [2024-02-28-090000] Leap"]

/-- Over the leap day, the seventh of March is eight days after the note. The packets of two weeks
later are the same, and so are those of the first and the last second before 1970. -/
theorem dated_byDay_leap :
    let monthOld : RecencyBucket := ⟨30, Binary64.ofRatio 7 10⟩
    let sources : Sources := { decisions := [leapNote] }
    Settings.terse.fault? = none ∧
      (leapNote.date? = some ⟨2024, 2, 28⟩ ∧
        Scoring.Tightest Settings.terse.scoring.recencyBuckets
          ((⟨1709769600, 0⟩ : Instant).date.dayNumber - (⟨2024, 2, 28⟩ : Date).dayNumber)
          (some monthOld)) ∧
      Scoring.recency Settings.terse.scoring ⟨1709769600, 0⟩ leapNote = monthOld.score ∧
      Packet.assemble Settings.terse ⟨1709769600, 0⟩ sources 40 =
        Packet.assemble Settings.terse ⟨1710979199, 0⟩ sources 40 ∧
      Packet.assemble Settings.terse ⟨-86400, 0⟩ sources 40 =
        Packet.assemble Settings.terse ⟨-1, 999999999⟩ sources 40 := by
  have rising := Settings.ascending_iff.mp
    (Settings.fault?_eq_none_iff.mp Settings.fault?_terse).bucketOrder
  have byDay := dated_byDay Settings.fault?_terse
  have read : leapNote.date? = some ⟨2024, 2, 28⟩ := by decide +kernel
  have tight : Scoring.Tightest Settings.terse.scoring.recencyBuckets
      ((⟨1709769600, 0⟩ : Instant).date.dayNumber - (⟨2024, 2, 28⟩ : Date).dayNumber)
      (some ⟨30, Binary64.ofRatio 7 10⟩) :=
    (Scoring.tightest_iff rising).mpr (by decide +kernel)
  refine ⟨Settings.fault?_terse, ⟨read, tight⟩, byDay.dated _ _ _ _ read tight, ?_,
    (byDay.sameDay _ _ (by decide)).2 Settings.terse.packet _ _⟩
  refine byDay.sameBuckets _ _ _ ?_ Settings.terse.packet _
  intro e he date dated found
  obtain rfl : e = leapNote := by simpa using he
  obtain rfl : ⟨2024, 2, 28⟩ = date := Option.some.inj (read.symm.trans dated)
  have tight' : Scoring.Tightest Settings.terse.scoring.recencyBuckets
      ((⟨1710979199, 0⟩ : Instant).date.dayNumber - (⟨2024, 2, 28⟩ : Date).dayNumber)
      (some ⟨30, Binary64.ofRatio 7 10⟩) :=
    (Scoring.tightest_iff rising).mpr (by decide +kernel)
  constructor
  · intro early
    exact early.unique rising tight ▸ tight'
  · intro late
    exact late.unique rising tight' ▸ tight

end Briefing
