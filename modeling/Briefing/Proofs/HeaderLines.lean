import Briefing.Entry.Blocks
import Briefing.Proofs.Trimming

namespace Briefing.Header

structure Digits (count : Nat) (s : List Char) : Prop where
  length : s.length = count
  decimal : ∀ c ∈ s, '0' ≤ c ∧ c ≤ '9'

inductive DateText : List Char → Prop where
  | dashed {year month day : List Char} (years : Digits 4 year) (months : Digits 2 month)
      (days : Digits 2 day) : DateText (year ++ '-' :: (month ++ '-' :: day))

def stamp (date time : List Char) : List Char := date ++ '-' :: time

def inLine (date time rest : List Char) : List Char :=
  "## [".toList ++ (stamp date time ++ ("] ".toList ++ rest))

theorem isDigit_iff {c : Char} : c.isDigit = true ↔ '0' ≤ c ∧ c ≤ '9' := by
  simp [Char.isDigit, Char.le_def]

theorem Digits.nil : Digits 0 [] := ⟨rfl, by simp⟩

theorem digits_cons {n : Nat} {c : Char} {s : List Char} :
    Digits (n + 1) (c :: s) ↔ ('0' ≤ c ∧ c ≤ '9') ∧ Digits n s := by
  constructor
  · rintro ⟨length, decimal⟩
    obtain ⟨first, rest⟩ := List.forall_mem_cons.mp decimal
    exact ⟨first, by simpa using length, rest⟩
  · rintro ⟨first, length, rest⟩
    exact ⟨by simpa using length, List.forall_mem_cons.mpr ⟨first, rest⟩⟩

theorem length_date {date : List Char} (h : DateText date) : date.length = dateWidth := by
  obtain ⟨years, months, days⟩ := h
  simp [dateWidth, years.length, months.length, days.length]

theorem length_stamp {date time : List Char} (h : DateText date) (h' : Digits 6 time) :
    (stamp date time).length = timestampWidth := by
  simp [stamp, length_date h, h'.length, dateWidth, timestampWidth]

section shapes

theorem hasShape_nil {s : List Char} : hasShape [] s = true ↔ s = [] := by
  cases s <;> simp [hasShape]

theorem hasShape_append {p q s : List Char} :
    hasShape (p ++ q) s = true ↔ ∃ a b, s = a ++ b ∧ hasShape p a = true ∧ hasShape q b = true := by
  induction p generalizing s with
  | nil => simp [hasShape_nil]
  | cons d p ih =>
      constructor
      · intro h
        cases s with
        | nil => simp [hasShape] at h
        | cons c s =>
            rw [List.cons_append, hasShape, Bool.and_eq_true] at h
            obtain ⟨a, b, rfl, front, back⟩ := ih.mp h.2
            exact ⟨c :: a, b, rfl, by rw [hasShape, h.1, front]; rfl, back⟩
      · rintro ⟨a, b, rfl, front, back⟩
        cases a with
        | nil => simp [hasShape] at front
        | cons c a =>
            rw [hasShape, Bool.and_eq_true] at front
            rw [List.cons_append, List.cons_append, hasShape, front.1, ih.mpr ⟨a, b, rfl, front.2, back⟩]
            rfl

theorem hasShape_zeros {n : Nat} {s : List Char} :
    hasShape (List.replicate n '0') s = true ↔ Digits n s := by
  induction n generalizing s with
  | zero =>
      rw [List.replicate_zero, hasShape_nil]
      exact ⟨fun h => h ▸ Digits.nil, fun h => List.length_eq_zero_iff.mp h.length⟩
  | succ n ih =>
      rw [List.replicate_succ]
      cases s with
      | nil => exact ⟨fun h => by simp [hasShape] at h, fun h => by cases h.length⟩
      | cons c s => rw [hasShape, if_pos rfl, Bool.and_eq_true, isDigit_iff, ih, digits_cons]

theorem hasShape_mark {m : Char} (plain : m ≠ '0') {p s : List Char} :
    hasShape (m :: p) s = true ↔ ∃ t, s = m :: t ∧ hasShape p t = true := by
  cases s with
  | nil => simp [hasShape]
  | cons c s => simp [hasShape, plain, and_assoc]

theorem length_of_hasShape {p s : List Char} (h : hasShape p s = true) : s.length = p.length := by
  fun_induction hasShape p s with
  | case1 => rfl
  | case2 d p c s ih =>
      rw [Bool.and_eq_true] at h
      rw [List.length_cons, List.length_cons, ih h.2]
  | case3 => cases h

theorem hasShape_date {s : List Char} :
    hasShape (stampShape.take dateWidth) s = true ↔ DateText s := by
  have shape : stampShape.take dateWidth = List.replicate 4 '0' ++ '-' ::
      (List.replicate 2 '0' ++ '-' :: List.replicate 2 '0') := by decide
  simp only [shape, hasShape_append, hasShape_zeros, hasShape_mark (m := '-') (by decide)]
  constructor
  · rintro ⟨year, _, rfl, years, _, rfl, month, _, rfl, months, day, rfl, days⟩
    exact .dashed years months days
  · rintro ⟨years, months, days⟩
    exact ⟨_, _, rfl, years, _, rfl, _, _, rfl, months, _, rfl, days⟩

theorem hasShape_stamp {s : List Char} :
    hasShape stampShape s = true ↔
      ∃ date time, DateText date ∧ Digits 6 time ∧ s = stamp date time ++ "] ".toList := by
  have shape : stampShape = stampShape.take dateWidth ++ '-' ::
      (List.replicate 6 '0' ++ ']' :: ' ' :: []) := by decide
  rw [shape]
  simp only [hasShape_append, hasShape_date, hasShape_zeros, hasShape_nil,
    hasShape_mark (m := '-') (by decide), hasShape_mark (m := ']') (by decide),
    hasShape_mark (m := ' ') (by decide)]
  constructor
  · rintro ⟨date, _, rfl, dated, _, rfl, time, _, rfl, timed, _, rfl, _, rfl, rfl⟩
    exact ⟨date, time, dated, timed, by simp [stamp]⟩
  · rintro ⟨date, time, dated, timed, rfl⟩
    exact ⟨date, _, by simp [stamp], dated, _, rfl, time, _, rfl, timed, _, rfl, _, rfl, rfl⟩

theorem read?_of_shape {line : String} {h : Header} :
    read? line = some h ↔
      ∃ s rest, Text.trimEnd line.toList = opening ++ (s ++ rest) ∧
        (hasShape stampShape s = true ∧ rest ≠ [] ∧ '\n' ∉ rest) ∧
        h = ⟨String.ofList (s.take timestampWidth), String.ofList (s.take dateWidth),
          String.ofList (Text.trim rest)⟩ := by
  unfold read?
  generalize Text.trimEnd line.toList = t
  cases opened : opening.isPrefixOf? t with
  | none =>
      refine ⟨nofun, ?_⟩
      rintro ⟨s, rest, rfl, -⟩
      rw [List.isPrefixOf?_eq_some_iff_append_eq.mpr rfl] at opened
      cases opened
  | some u =>
      obtain rfl := List.isPrefixOf?_eq_some_iff_append_eq.mp opened
      simp only [Option.ite_none_right_eq_some, Option.some.injEq, Bool.and_eq_true]
      constructor
      · rintro ⟨⟨⟨fits, named⟩, oneLine⟩, rfl⟩
        refine ⟨_, _, by rw [List.take_append_drop], ⟨fits, by simpa using named, ?_⟩, rfl⟩
        intro feed
        simpa using List.all_eq_true.mp oneLine '\n' feed
      · rintro ⟨s, rest, same, ⟨fits, named, oneLine⟩, rfl⟩
        obtain rfl := List.append_cancel_left same
        rw [← length_of_hasShape fits, List.take_left, List.drop_left]
        refine ⟨⟨⟨fits, by simpa using named⟩, ?_⟩, rfl⟩
        refine List.all_eq_true.mpr fun c hc => ?_
        have other : c ≠ '\n' := fun feed => oneLine (feed ▸ hc)
        simpa using other

end shapes

structure Title (s : List Char) : Prop where
  named : s ≠ []
  tight : Text.Tight s
  oneLine : '\n' ∉ s

structure Spells (line date time rest : List Char) : Prop where
  dated : DateText date
  timed : Digits 6 time
  named : rest ≠ []
  oneLine : '\n' ∉ rest
  whole : Text.trimEnd line = inLine date time rest

def ofParts (date time title : List Char) : Header :=
  ⟨String.ofList (stamp date time), String.ofList date, String.ofList title⟩

theorem ofParts_eq {date time : List Char} (dated : DateText date) (timed : Digits 6 time)
    (closing title : List Char) :
    ofParts date time title =
      ⟨String.ofList ((stamp date time ++ closing).take timestampWidth),
        String.ofList ((stamp date time ++ closing).take dateWidth), String.ofList title⟩ := by
  have whole : (stamp date time ++ closing).take timestampWidth = stamp date time := by
    rw [← length_stamp dated timed, List.take_left]
  have front : (stamp date time ++ closing).take dateWidth = date := by
    rw [stamp, List.append_assoc, ← length_date dated, List.take_left]
  rw [whole, front, ofParts]

theorem read?_eq_some {line : String} {h : Header} :
    read? line = some h ↔
      ∃ date time rest, Spells line.toList date time rest ∧ h = ofParts date time (Text.trim rest) := by
  rw [read?_of_shape]
  constructor
  · rintro ⟨_, rest, whole, ⟨fits, named, oneLine⟩, rfl⟩
    obtain ⟨date, time, dated, timed, rfl⟩ := hasShape_stamp.mp fits
    refine ⟨date, time, rest, ⟨dated, timed, named, oneLine, ?_⟩, ?_⟩
    · rw [whole, inLine, List.append_assoc]
      rfl
    · exact (ofParts_eq dated timed _ _).symm
  · rintro ⟨date, time, rest, ⟨dated, timed, named, oneLine, whole⟩, rfl⟩
    refine ⟨stamp date time ++ "] ".toList, rest, ?_, ⟨?_, named, oneLine⟩, ofParts_eq dated timed _ _⟩
    · rw [whole, inLine, List.append_assoc]
      rfl
    · exact hasShape_stamp.mpr ⟨date, time, dated, timed, rfl⟩

theorem getLast?_inLine (date time : List Char) {rest : List Char} (named : rest ≠ []) :
    (inLine date time rest).getLast? = rest.getLast? := by
  rw [inLine, List.getLast?_append, List.getLast?_append, List.getLast?_append,
    List.getLast?_eq_some_getLast named]
  rfl

theorem Spells.title {line date time rest : List Char} (h : Spells line date time rest) :
    Title (Text.trim rest) where
  named := by
    intro blank
    have last : rest.getLast h.named ∈ (Text.trimEnd line).getLast? := by
      rw [h.whole, getLast?_inLine date time h.named]
      exact List.getLast?_eq_some_getLast h.named
    have written := Text.last_trimEnd line _ last
    rw [Text.trim_eq_nil_iff.mp blank _ (List.getLast_mem h.named)] at written
    cases written
  tight := Text.tight_trim rest
  oneLine := fun feed => h.oneLine (Text.mem_of_mem_trim feed)

theorem spells_inLine {date time title gap tail : List Char} (dated : DateText date)
    (timed : Digits 6 time) (titled : Title title)
    (apart : ∀ c ∈ gap, Text.isBlank c = true ∧ c ≠ '\n')
    (blank : ∀ c ∈ tail, Text.isBlank c = true) :
    Spells (inLine date time (gap ++ title) ++ tail) date time (gap ++ title) where
  dated := dated
  timed := timed
  named := List.append_ne_nil_of_right_ne_nil gap titled.named
  oneLine := by
    rw [List.mem_append]
    rintro (before | inside)
    · exact (apart _ before).2 rfl
    · exact titled.oneLine inside
  whole := by
    refine Text.trimEnd_append ?_ blank
    rw [getLast?_inLine date time (List.append_ne_nil_of_right_ne_nil gap titled.named),
      List.getLast?_append_of_ne_nil gap titled.named]
    exact titled.tight.last

/-- Header lines are the lines of one form, and their parts are read back, with more white space
around the title or not. -/
structure ReadsLines : Prop where
  accepted : ∀ (line : String) (h : Header), read? line = some h ↔
    ∃ date time rest, Spells line.toList date time rest ∧ h = ofParts date time (Text.trim rest)
  titled : ∀ (line : String) (h : Header), read? line = some h → Title h.title.toList
  restored : ∀ date time title gap tail : List Char, DateText date → Digits 6 time → Title title →
    (∀ c ∈ gap, Text.isBlank c = true ∧ c ≠ '\n') → (∀ c ∈ tail, Text.isBlank c = true) →
      read? (String.ofList (inLine date time (gap ++ title) ++ tail)) =
        some (ofParts date time title)

theorem header_lines_read : ReadsLines where
  accepted := fun _ _ => read?_eq_some
  titled := by
    intro line h read
    obtain ⟨date, time, rest, spells, rfl⟩ := read?_eq_some.mp read
    rw [ofParts, String.toList_ofList]
    exact spells.title
  restored := by
    intro date time title gap tail dated timed titled apart blank
    refine read?_eq_some.mpr ⟨date, time, gap ++ title, ?_, ?_⟩
    · rw [String.toList_ofList]
      exact spells_inLine dated timed titled apart blank
    · rw [titled.tight.trim_append fun c hc => (apart c hc).1]

theorem header_lines_read_spaced :
    (DateText "0000-99-31".toList ∧ Digits 6 "246060".toList ∧ Title "] a\rb".toList ∧
      (∀ c ∈ "\u3000\t".toList, Text.isBlank c = true ∧ c ≠ '\n') ∧
        ∀ c ∈ " \r\n".toList, Text.isBlank c = true) ∧
      read? "## [0000-99-31-246060] \u3000\t] a\rb \r\n" =
        some ⟨"0000-99-31-246060", "0000-99-31", "] a\rb"⟩ := by
  have dated : DateText "0000-99-31".toList := hasShape_date.mp (by decide +kernel)
  have timed : Digits 6 "246060".toList := hasShape_zeros.mp (by decide +kernel)
  have titled : Title "] a\rb".toList :=
    ⟨by decide, Text.tight_trim " ] a\rb".toList, by decide +kernel⟩
  have apart : ∀ c ∈ "\u3000\t".toList, Text.isBlank c = true ∧ c ≠ '\n' := by
    simpa using (by decide +kernel : Text.isBlank '\u3000' = true ∧ Text.isBlank '\t' = true)
  have blank : ∀ c ∈ " \r\n".toList, Text.isBlank c = true :=
    List.all_eq_true.mp (by decide +kernel)
  have line : String.ofList (inLine "0000-99-31".toList "246060".toList
      ("\u3000\t".toList ++ "] a\rb".toList) ++ " \r\n".toList) =
        "## [0000-99-31-246060] \u3000\t] a\rb \r\n" := by decide +kernel
  have parts : ofParts "0000-99-31".toList "246060".toList "] a\rb".toList =
      ⟨"0000-99-31-246060", "0000-99-31", "] a\rb"⟩ := by decide +kernel
  refine ⟨⟨dated, timed, titled, apart, blank⟩, ?_⟩
  rw [← line, ← parts]
  exact header_lines_read.restored _ _ _ _ _ dated timed titled apart blank

end Briefing.Header
