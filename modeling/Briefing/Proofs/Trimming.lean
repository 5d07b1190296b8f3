import Briefing.Text.Blank
import Mathlib.Data.List.Basic
import Mathlib.Data.List.TakeWhile

namespace Briefing.Text

theorem trimEnd_eq_nil_iff {s : List Char} : trimEnd s = [] ↔ ∀ c ∈ s, isBlank c = true := by
  simp only [trimEnd, List.reverse_eq_nil_iff, List.dropWhile_eq_nil_iff, List.mem_reverse]

theorem trim_eq_nil_iff {s : List Char} : trim s = [] ↔ ∀ c ∈ s, isBlank c = true := by
  rw [trim, trimEnd_eq_nil_iff, trimStart]
  constructor
  · intro h c hc
    rw [← List.takeWhile_append_dropWhile (p := isBlank) (l := s)] at hc
    rcases List.mem_append.mp hc with first | rest
    · exact List.all_eq_true.mp List.all_takeWhile c first
    · exact h c rest
  · intro h c hc
    exact h c ((List.dropWhile_sublist isBlank).subset hc)

theorem blankText_iff {s : String} : blankText s = true ↔ trim s.toList = [] := by
  rw [blankText, List.all_eq_true, trim_eq_nil_iff]

structure Tight (s : List Char) : Prop where
  first : ∀ c ∈ s.head?, isBlank c = false
  last : ∀ c ∈ s.getLast?, isBlank c = false

theorem head_dropWhile_blank (s : List Char) :
    ∀ c ∈ (s.dropWhile isBlank).head?, isBlank c = false := by
  intro c hc
  have h := List.head?_dropWhile_not isBlank s
  rw [Option.mem_def.mp hc] at h
  simpa using h

theorem dropWhile_blank_eq_self {s : List Char} (first : ∀ c ∈ s.head?, isBlank c = false) :
    s.dropWhile isBlank = s := by
  cases s with
  | nil => rfl
  | cons c s => exact List.dropWhile_cons_of_neg (by simp [first c rfl])

theorem prefix_trimEnd (s : List Char) : trimEnd s <+: s := by
  rw [trimEnd, ← List.reverse_suffix, List.reverse_reverse]
  exact List.dropWhile_suffix isBlank

theorem last_trimEnd (s : List Char) : ∀ c ∈ (trimEnd s).getLast?, isBlank c = false := by
  intro c hc
  rw [trimEnd, List.getLast?_reverse] at hc
  exact head_dropWhile_blank _ c hc

theorem tight_trim (s : List Char) : Tight (trim s) where
  first := by
    intro c hc
    obtain ⟨rest, same⟩ := prefix_trimEnd (trimStart s)
    refine head_dropWhile_blank s c ?_
    change c ∈ (trimStart s).head?
    rw [← same, List.head?_append, ← trim, Option.mem_def.mp hc]
    rfl
  last := last_trimEnd (trimStart s)

theorem trimEnd_append {s tail : List Char} (last : ∀ c ∈ s.getLast?, isBlank c = false)
    (blank : ∀ c ∈ tail, isBlank c = true) : trimEnd (s ++ tail) = s := by
  have blank' : ∀ c ∈ tail.reverse, isBlank c = true := fun c hc => blank c (List.mem_reverse.mp hc)
  have final : s.reverse.dropWhile isBlank = s.reverse := by
    refine dropWhile_blank_eq_self ?_
    rw [List.head?_reverse]
    exact last
  rw [trimEnd, List.reverse_append, List.dropWhile_append_of_pos blank', final, List.reverse_reverse]

theorem Tight.trim_append {gap s : List Char} (blank : ∀ c ∈ gap, isBlank c = true) (h : Tight s) :
    trim (gap ++ s) = s := by
  have start : trimStart (gap ++ s) = s := by
    rw [trimStart, List.dropWhile_append_of_pos blank, dropWhile_blank_eq_self h.first]
  have final := trimEnd_append h.last (List.forall_mem_nil (isBlank · = true))
  rw [List.append_nil] at final
  rw [trim, start, final]

theorem Tight.trim_eq {s : List Char} (h : Tight s) : trim s = s :=
  h.trim_append (List.forall_mem_nil (isBlank · = true))

theorem mem_of_mem_trim {s : List Char} {c : Char} (hc : c ∈ trim s) : c ∈ s :=
  (List.dropWhile_sublist isBlank).subset ((prefix_trimEnd _).subset hc)

theorem Tight.append {s t : List Char} (first : ∀ c ∈ s.head?, isBlank c = false) (some : s ≠ [])
    (h : Tight t) (other : t ≠ []) : Tight (s ++ t) where
  first := by
    intro c hc
    rw [List.head?_append_of_ne_nil _ some] at hc
    exact first c hc
  last := by
    intro c hc
    rw [List.getLast?_append_of_ne_nil _ other] at hc
    exact h.last c hc

end Briefing.Text
