import Briefing.Packet.TierReport
import Briefing.Proofs.TextLines

namespace Briefing.Text

theorem plain_alignLeft (width : Nat) {s : String} (h : Plain s.toList) :
    Plain (alignLeft width s).toList := by
  rw [alignLeft, String.toList_ofList, List.rightpad]
  exact plain_append.mpr ⟨h, plain_replicate_space _⟩

theorem plain_alignRight (width : Nat) {s : String} (h : Plain s.toList) :
    Plain (alignRight width s).toList := by
  rw [alignRight, String.toList_ofList, List.leftpad]
  exact plain_append.mpr ⟨plain_replicate_space _, h⟩

end Briefing.Text

namespace Briefing.Packet

open Text (Plain plain_append plain_toString)

def budgetNote (p : Packet) : String :=
  "Budget: " ++ toString p.budget ++ " tokens | Used: ~" ++ toString p.tokensUsed

def cells (name tokens items : String) : String :=
  "  " ++ Text.alignLeft 12 name ++ " " ++ Text.alignRight 7 tokens ++ "  " ++
    Text.alignRight 9 items

def tierNote (t : Tier) : String :=
  cells t.name (toString t.tokens) (toString t.included ++ "/" ++ toString t.total)

def skipNote (count : Nat) : String :=
  "  (" ++ toString count ++ " tier(s) skipped: budget exhausted)"

def reportLines (p : Packet) : List String :=
  p.budgetNote :: cells "tier" "tokens" "items" :: p.tiers.map tierNote ++
    if p.skippedTiers = 0 then [] else [skipNote p.skippedTiers]

theorem tierReport_eq_join (p : Packet) :
    p.tierReport = String.join (p.reportLines.map fun l => l ++ "\n") := by
  have rows : tierLine = (fun l => l ++ "\n") ∘ tierNote := rfl
  have head : tierRow "tier" "tokens" "items" = cells "tier" "tokens" "items" ++ "\n" := rfl
  rw [tierReport, reportLines, head, rows, skippedLine]
  split <;> simp [budgetNote, skipNote, String.append_assoc]

theorem plain_cells {name tokens items : String} (hn : Plain name.toList)
    (ht : Plain tokens.toList) (hi : Plain items.toList) :
    Plain (cells name tokens items).toList := by
  have gap : Plain " ".toList := by decide
  have gaps : Plain "  ".toList := by decide
  simp only [cells, String.toList_append, plain_append]
  exact ⟨⟨⟨⟨⟨gaps, Text.plain_alignLeft 12 hn⟩, gap⟩, Text.plain_alignRight 7 ht⟩, gaps⟩,
    Text.plain_alignRight 9 hi⟩

theorem plain_tierNote {t : Tier} (h : Plain t.name.toList) : Plain (tierNote t).toList := by
  refine plain_cells h (plain_toString t.tokens) ?_
  simp only [String.toList_append, plain_append]
  exact ⟨⟨plain_toString t.included, by decide⟩, plain_toString t.total⟩

theorem plain_reportLines {p : Packet} (h : ∀ t ∈ p.tiers, t.name ∈ Tier.names) :
    ∀ l ∈ p.reportLines, Plain l.toList := by
  have names : ∀ name ∈ Tier.names, Plain name.toList := by decide
  intro l hl
  simp only [reportLines, List.mem_append, List.mem_cons, List.mem_map] at hl
  rcases hl with (rfl | rfl | ⟨t, ht, rfl⟩) | note
  · simp only [budgetNote, String.toList_append, plain_append]
    exact ⟨⟨⟨by decide, plain_toString p.budget⟩, by decide⟩,
      plain_toString p.tokensUsed⟩
  · exact plain_cells (by decide) (by decide) (by decide)
  · exact plain_tierNote (names t.name (h t ht))
  · split at note
    · cases note
    · rw [List.mem_singleton.mp note]
      simp only [skipNote, String.toList_append, plain_append]
      exact ⟨⟨by decide, plain_toString p.skippedTiers⟩, by decide⟩

theorem lines_tierReport {p : Packet} (h : ∀ t ∈ p.tiers, t.name ∈ Tier.names) :
    Text.lines p.tierReport = p.reportLines := by
  rw [tierReport_eq_join]
  exact Text.lines_join fun l hl => (plain_reportLines h l hl).oneLine

theorem skipNote_ne_cells (count : Nat) {name : String} (start : name.toList.headD '(' ≠ '(')
    (tokens items : String) : skipNote count ≠ cells name tokens items := by
  intro same
  cases text : name.toList with
  | nil => exact start (by rw [text]; rfl)
  | cons c cs =>
      have third := congrArg (fun s : String => s.toList[2]?) same
      simp only [skipNote, cells, Text.alignLeft, List.rightpad, text, String.toList_append,
        String.toList_ofList] at third
      have bracket : '(' = c := by simpa using third
      exact start (by rw [text, bracket]; rfl)

theorem skipNote_ne_budgetNote (count : Nat) (p : Packet) : skipNote count ≠ p.budgetNote := by
  intro same
  have first := congrArg (fun s : String => s.toList.head?) same
  simp [skipNote, budgetNote] at first

theorem skipNote_inj {m n : Nat} (h : skipNote m = skipNote n) : m = n := by
  have digits : Nat.toDigits 10 m = Nat.toDigits 10 n := by
    simpa [skipNote, Nat.toString_eq_ofList_toDigits] using congrArg String.toList h
  calc m = Nat.ofDigitChars 10 (Nat.toDigits 10 m) 0 := Nat.ofDigitChars_ten_toDigits.symm
    _ = Nat.ofDigitChars 10 (Nat.toDigits 10 n) 0 := by rw [digits]
    _ = n := Nat.ofDigitChars_ten_toDigits

theorem skipNote_mem_lines_iff {p : Packet} (h : ∀ t ∈ p.tiers, t.name ∈ Tier.names)
    (count : Nat) :
    skipNote count ∈ Text.lines p.tierReport ↔ p.skippedTiers ≠ 0 ∧ count = p.skippedTiers := by
  have starts : ∀ name ∈ Tier.names, name.toList.headD '(' ≠ '(' := by decide
  rw [lines_tierReport h]
  constructor
  · intro note
    simp only [reportLines, List.mem_append, List.mem_cons, List.mem_map] at note
    rcases note with (same | same | ⟨t, ht, same⟩) | last
    · exact absurd same (skipNote_ne_budgetNote count p)
    · exact absurd same (skipNote_ne_cells count (by decide) _ _)
    · exact absurd same.symm (skipNote_ne_cells count (starts t.name (h t ht)) _ _)
    · split at last
      · cases last
      · rename_i some
        exact ⟨some, skipNote_inj (List.mem_singleton.mp last)⟩
  · rintro ⟨some, rfl⟩
    simp [reportLines, some]

end Briefing.Packet
