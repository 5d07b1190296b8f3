import Briefing.Text.Lines

namespace Briefing.Text

structure OneLine (s : String) : Prop where
  no_feed : '\n' ∉ s.toList
  no_return : s.toList.getLast? ≠ some '\r'

theorem closeLine_reverse {s : List Char} (h : s.getLast? ≠ some '\r') :
    closeLine s.reverse = s := by
  unfold closeLine
  split
  · rename_i line same
    rw [← List.head?_reverse, same] at h
    exact absurd rfl h
  · exact List.reverse_reverse s

theorem linesFrom_append {s : List Char} (h : '\n' ∉ s) (line rest : List Char) :
    linesFrom line (s ++ '\n' :: rest) = closeLine (s.reverse ++ line) :: linesFrom [] rest := by
  induction s generalizing line with
  | nil => simp [linesFrom]
  | cons c s ih =>
      have other : c ≠ '\n' := fun same => h (same ▸ List.mem_cons_self)
      have later : '\n' ∉ s := fun feed => h (List.mem_cons_of_mem c feed)
      rw [List.cons_append, linesFrom, if_neg other, ih later]
      simp

theorem lines_append {s : String} (h : OneLine s) (t : String) :
    lines (s ++ "\n" ++ t) = s :: lines t := by
  have text : (s ++ "\n" ++ t).toList = s.toList ++ '\n' :: t.toList := by simp
  rw [lines, text, linesFrom_append h.no_feed, List.append_nil, closeLine_reverse h.no_return]
  simp [lines]

theorem lines_join {ls : List String} (h : ∀ l ∈ ls, OneLine l) :
    lines (String.join (ls.map fun l => l ++ "\n")) = ls := by
  induction ls with
  | nil => simp [lines, linesFrom]
  | cons l ls ih =>
      rw [List.map_cons, String.join_cons, lines_append (h l List.mem_cons_self),
        ih fun x hx => h x (List.mem_cons_of_mem l hx)]

def Whole (s : String) : Prop := s.toList.getLast? ≠ some '\r'

instance (s : String) : Decidable (Whole s) :=
  inferInstanceAs (Decidable (s.toList.getLast? ≠ some '\r'))

theorem linesFrom_append_feed (line s rest : List Char) :
    linesFrom line (s ++ '\n' :: rest) = linesFrom line (s ++ ['\n']) ++ linesFrom [] rest := by
  induction s generalizing line with
  | nil => simp [linesFrom]
  | cons c s ih =>
      simp only [List.cons_append, linesFrom]
      split
      · rw [ih, List.cons_append]
      · exact ih (c :: line)

theorem linesFrom_feed (line : List Char) {s : List Char}
    (whole : (line.reverse ++ s).getLast? ≠ some '\r') :
    ∃ gap, linesFrom line (s ++ ['\n']) = linesFrom line s ++ gap ∧ ∀ l ∈ gap, l = [] := by
  induction s generalizing line with
  | nil =>
      cases line with
      | nil => exact ⟨[[]], rfl, by simp⟩
      | cons d line =>
          have closed := closeLine_reverse whole
          rw [List.append_nil, List.reverse_reverse] at closed
          exact ⟨[], by simp [linesFrom, closed], by simp⟩
  | cons c s ih =>
      simp only [List.cons_append, linesFrom]
      split
      · have later : (([] : List Char).reverse ++ s).getLast? ≠ some '\r' := by
          cases s with
          | nil => simp
          | cons d s => simpa using whole
        obtain ⟨gap, same, empty⟩ := ih [] later
        exact ⟨gap, by rw [same, List.cons_append], empty⟩
      · exact ih (c :: line) (by simpa using whole)

theorem lines_glue {p : String} (whole : Whole p) (t : String) :
    ∃ gap, lines (p ++ "\n" ++ t) = lines p ++ gap ++ lines t ∧ ∀ l ∈ gap, l = "" := by
  obtain ⟨gap, same, empty⟩ := linesFrom_feed [] (s := p.toList) whole
  refine ⟨gap.map String.ofList, ?_, ?_⟩
  · have text : (p ++ "\n" ++ t).toList = p.toList ++ '\n' :: t.toList := by simp
    rw [lines, text, linesFrom_append_feed, same, List.map_append, List.map_append]
    rfl
  · intro l hl
    obtain ⟨x, hx, rfl⟩ := List.mem_map.mp hl
    rw [empty x hx]

theorem closeLine_subset (line : List Char) : closeLine line ⊆ line := by
  unfold closeLine
  split
  · rename_i line
    intro c hc
    exact List.mem_cons_of_mem '\r' (List.mem_reverse.mp hc)
  · intro c hc
    exact List.mem_reverse.mp hc

theorem no_feed_of_mem_linesFrom {line s l : List Char} (read : '\n' ∉ line)
    (hl : l ∈ linesFrom line s) : '\n' ∉ l := by
  induction s generalizing line with
  | nil =>
      rw [linesFrom] at hl
      split at hl
      · cases hl
      · rw [List.mem_singleton.mp hl, List.mem_reverse]
        exact read
  | cons c s ih =>
      rw [linesFrom] at hl
      split at hl
      · rcases List.mem_cons.mp hl with rfl | later
        · exact fun feed => read (closeLine_subset line feed)
        · exact ih List.not_mem_nil later
      · rename_i other
        refine ih ?_ hl
        simp only [List.mem_cons, not_or]
        exact ⟨fun same => other same.symm, read⟩

theorem no_feed_of_mem_lines {s l : String} (hl : l ∈ lines s) : '\n' ∉ l.toList := by
  obtain ⟨x, hx, rfl⟩ := List.mem_map.mp hl
  rw [String.toList_ofList]
  exact no_feed_of_mem_linesFrom List.not_mem_nil hx

theorem linesFrom_flat {s : List Char} (h : '\n' ∉ s) (line : List Char) :
    linesFrom line s = if line = [] ∧ s = [] then [] else [line.reverse ++ s] := by
  induction s generalizing line with
  | nil =>
      rw [linesFrom]
      by_cases none : line = [] <;> simp [none]
  | cons c s ih =>
      have other : c ≠ '\n' := fun same => h (same ▸ List.mem_cons_self)
      have later : '\n' ∉ s := fun feed => h (List.mem_cons_of_mem c feed)
      rw [linesFrom, if_neg other, ih later]
      simp

theorem lines_of_no_feed {s : String} (h : '\n' ∉ s.toList) :
    lines s = if s = "" then [] else [s] := by
  rw [lines, linesFrom_flat h]
  by_cases none : s = "" <;> simp [none]

def withReturns (s : String) : String :=
  String.ofList (s.toList.flatMap fun c => if c = '\n' then ['\r', '\n'] else [c])

-- The line read so far holds no return of its own, which the feed would take away.
theorem linesFrom_withReturns {line s : List Char} (clean : line.head? ≠ some '\r')
    (h : '\r' ∉ s) :
    linesFrom line (s.flatMap fun c => if c = '\n' then ['\r', '\n'] else [c]) =
      linesFrom line s := by
  induction s generalizing line with
  | nil => rfl
  | cons c s ih =>
      have other : c ≠ '\r' := fun same => h (same ▸ List.mem_cons_self)
      have later : '\r' ∉ s := fun feed => h (List.mem_cons_of_mem c feed)
      rw [List.flatMap_cons]
      by_cases feed : c = '\n'
      · have closed : closeLine line = line.reverse := by
          rw [← List.reverse_reverse line, closeLine_reverse, List.reverse_reverse]
          rwa [List.getLast?_reverse]
        have opened : closeLine ('\r' :: line) = line.reverse := rfl
        have blank : ([] : List Char).head? ≠ some '\r' := by simp
        have rest := ih blank later
        simp [feed, linesFrom, opened, closed, rest]
      · rw [if_neg feed, List.singleton_append, linesFrom, if_neg feed, linesFrom, if_neg feed]
        exact ih (by simpa using other) later

theorem lines_withReturns {s : String} (h : '\r' ∉ s.toList) : lines (withReturns s) = lines s := by
  rw [lines, withReturns, String.toList_ofList, linesFrom_withReturns (by simp) h, lines]

def feeds (n : Nat) : String := String.ofList (List.replicate n '\n')

theorem lines_feeds_append (n : Nat) (t : String) :
    lines (feeds n ++ t) = List.replicate n "" ++ lines t := by
  have empty : OneLine "" := ⟨by simp, by simp⟩
  induction n with
  | zero => simp [feeds]
  | succ n ih =>
      have first : feeds (n + 1) ++ t = "" ++ "\n" ++ (feeds n ++ t) := by
        apply String.toList_injective
        simp [feeds, List.replicate_succ]
      rw [first, lines_append empty, ih, List.replicate_succ, List.cons_append]

theorem lines_unlines_append {ls : List String} (some : ls ≠ []) (h : ∀ l ∈ ls, OneLine l)
    (t : String) : lines (unlines ls ++ "\n" ++ t) = ls ++ lines t := by
  induction ls with
  | nil => exact absurd rfl some
  | cons l ls ih =>
      have first := h l List.mem_cons_self
      cases ls with
      | nil =>
          rw [unlines, String.intercalate_singleton, lines_append first]
          rfl
      | cons m ls =>
          have rest := ih (by simp) fun x hx => h x (List.mem_cons_of_mem l hx)
          have split : unlines (l :: m :: ls) ++ "\n" ++ t =
              l ++ "\n" ++ (unlines (m :: ls) ++ "\n" ++ t) := by
            simp only [unlines, String.intercalate_cons_cons, String.append_assoc]
          rw [split, lines_append first, rest, List.cons_append, List.cons_append, List.cons_append]

def Plain (s : List Char) : Prop := ∀ c ∈ s, c ≠ '\n' ∧ c ≠ '\r'

-- The characters are finitely many too, but a search through all of them takes too long.
instance (s : List Char) : Decidable (Plain s) :=
  List.decidableBAll (fun c => c ≠ '\n' ∧ c ≠ '\r') s

theorem plain_append {s t : List Char} : Plain (s ++ t) ↔ Plain s ∧ Plain t := by
  simp only [Plain, List.forall_mem_append]

theorem plain_replicate_space (n : Nat) : Plain (List.replicate n ' ') := by
  intro c hc
  rw [List.eq_of_mem_replicate hc]
  decide

theorem plain_toString (n : Nat) : Plain (toString n).toList := by
  intro c hc
  have listed : c ∈ Nat.toDigits 10 n := by rwa [← Nat.toList_repr]
  have digit : c.isDigit = true := Nat.isDigit_of_mem_toDigits (by decide) (by decide) listed
  constructor
  · rintro rfl
    exact absurd digit (by decide)
  · rintro rfl
    exact absurd digit (by decide)

theorem Plain.oneLine {s : String} (h : Plain s.toList) : OneLine s where
  no_feed := fun feed => (h '\n' feed).1 rfl
  no_return := fun last => (h '\r' (List.mem_of_getLast? last)).2 rfl

end Briefing.Text
