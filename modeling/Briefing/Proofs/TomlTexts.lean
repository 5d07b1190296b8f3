import Briefing.Proofs.TomlQuotes

namespace Briefing.Toml

theorem readText?_of_line {s : List Char} (doubles : ∀ u, s ≠ '"' :: '"' :: '"' :: u)
    (singles : ∀ u, s ≠ '\'' :: '\'' :: '\'' :: u) : readText? s = readLine? s := by
  unfold readText?
  split
  · exact absurd rfl (doubles _)
  · exact absurd rfl (singles _)
  · rfl

section choices

variable {s rest : List Char}

theorem readText?_basic (s : List Char) (next : rest.head? ≠ some '"') :
    readText? (writeAs s .basic ++ rest) = some (s, rest) := by
  have text : writeAs s .basic ++ rest = '"' :: (escapeText false 0 s ++ '"' :: rest) := by
    simp [writeAs]
  have enough : s.length < (escapeText false 0 s ++ '"' :: rest).length + 1 := by
    have longer := length_le_escapeText false 0 s
    rw [List.length_append]
    omega
  rw [text, readText?_of_line]
  · exact readBasic_escapeText 0 s enough rest
  · intro u same
    cases s with
    | nil => exact next (congrArg List.head? (List.cons.inj (List.cons.inj same).2).2)
    | cons c s =>
        obtain ⟨t, run, shows, -, written⟩ := escapeText_cons false 0 c s
        have quote : c ≠ '"' ∨ t.head? ≠ some '"' := by
          cases shows with
          | plain _ _ block => exact Or.inl fun same => Bool.false_ne_true (block same)
          | lineEnd block => cases block
          | escaped => exact Or.inr (by simp)
        have first : t.head? ≠ some '"' := by
          rcases quote with other | other
          · exact shows.head_ne other
          · exact other
        rw [written, List.append_assoc] at same
        have head := congrArg List.head? (List.cons.inj same).2
        rw [List.head?_append_of_ne_nil _ shows.ne_nil] at head
        exact first head
  · intro u same
    exact absurd (List.cons.inj same).1 (by decide)

theorem choose_literal (h : Quoting.choose s = .literal) :
    s.any needsEscape = false ∧ longestRun '\'' 0 s = 0 ∧ s.contains '\n' = false := by
  unfold Quoting.choose at h
  simp only at h
  split at h
  · cases h
  · split at h
    · rename_i chosen
      simp only [Bool.and_eq_true, Bool.not_eq_true', beq_iff_eq] at chosen
      exact ⟨chosen.1.1, chosen.1.2, chosen.2⟩
    · split at h
      · cases h
      · split at h
        · cases h
        · split at h <;> cases h

theorem choose_literalBlock (h : Quoting.choose s = .literalBlock) :
    s.any needsEscape = false ∧ longestRun '\'' 0 s ≤ 2 := by
  unfold Quoting.choose at h
  simp only at h
  split at h
  · cases h
  · split at h
    · cases h
    · split at h
      · cases h
      · split at h
        · rename_i chosen
          simpa using chosen
        · split at h <;> cases h

theorem isTextChar_of_shown {c : Char} (shown : needsEscape c = false) (line : c ≠ '\n') :
    isTextChar c = true := by
  simpa [needsEscape, line] using shown

theorem shown_of_any (h : s.any needsEscape = false) : ∀ c ∈ s, needsEscape c = false :=
  fun c hc => Bool.eq_false_iff.mpr fun hidden => by
    rw [List.any_eq_true.mpr ⟨c, hc, hidden⟩] at h
    cases h

theorem readText?_literal (h : Quoting.choose s = .literal) (next : rest.head? ≠ some '\'') :
    readText? (writeAs s .literal ++ rest) = some (s, rest) := by
  obtain ⟨controls, singles, lines⟩ := choose_literal h
  have quotes := not_mem_of_longestRun singles
  have shown : ∀ c ∈ s, isTextChar c = true := by
    intro c hc
    refine isTextChar_of_shown (shown_of_any controls c hc) ?_
    rintro rfl
    rw [List.contains_iff_mem.mpr hc] at lines
    cases lines
  have text : writeAs s .literal ++ rest = '\'' :: (s ++ '\'' :: rest) := by simp [writeAs]
  rw [text, readText?_of_line]
  · exact readLiteral_append shown quotes rest
  · intro u same
    exact absurd (List.cons.inj same).1 (by decide)
  · intro u same
    cases s with
    | nil => exact next (congrArg List.head? (List.cons.inj (List.cons.inj same).2).2)
    | cons c s =>
        obtain ⟨rfl, -⟩ := List.cons.inj (List.cons.inj same).2
        exact quotes List.mem_cons_self

theorem dropFirstLineEnd_append {t : List Char} (line : t.head? ≠ some '\n')
    (feed : t.head? ≠ some '\r') : dropFirstLineEnd t = t := by
  unfold dropFirstLineEnd
  split
  · exact absurd rfl line
  · exact absurd rfl feed
  · rfl

theorem dropFirstLineEnd_first {t : List Char} (opens : '\n' ∉ s → t.head? ≠ some '\n')
    (feed : '\n' ∉ s → t.head? ≠ some '\r') : dropFirstLineEnd (firstLineEnd s ++ t) = t := by
  unfold firstLineEnd
  by_cases lines : '\n' ∈ s
  · rw [if_pos (List.contains_iff_mem.mpr lines)]
    rfl
  · rw [if_neg (by simpa using lines), List.nil_append]
    exact dropFirstLineEnd_append (opens lines) (feed lines)

theorem readText?_literalBlock (h : Quoting.choose s = .literalBlock)
    (next : rest.head? ≠ some '\'') :
    readText? (writeAs s .literalBlock ++ rest) = some (s, rest) := by
  obtain ⟨controls, singles⟩ := choose_literalBlock h
  have shown := shown_of_any controls
  have text : writeAs s .literalBlock ++ rest =
      '\'' :: '\'' :: '\'' :: (firstLineEnd s ++ (s ++ '\'' :: '\'' :: '\'' :: rest)) := by
    simp [writeAs]
  have dropped : dropFirstLineEnd (firstLineEnd s ++ (s ++ '\'' :: '\'' :: '\'' :: rest)) =
      s ++ '\'' :: '\'' :: '\'' :: rest := by
    refine dropFirstLineEnd_first ?_ ?_
    · intro lines
      cases s with
      | nil => simp
      | cons c s => simpa using fun same : c = '\n' => lines (same ▸ List.mem_cons_self)
    · intro _
      cases s with
      | nil => simp
      | cons c s =>
          have plain := shown c List.mem_cons_self
          simpa using fun same : c = '\r' => absurd (same ▸ plain) (by decide)
  rw [text, readText?, dropped]
  refine readLiteralBlock_append shown singles ?_ next
  simp only [List.length_append]
  omega

theorem readText?_basicBlock (s : List Char) (next : rest.head? ≠ some '"') :
    readText? (writeAs s .basicBlock ++ rest) = some (s, rest) := by
  have text : writeAs s .basicBlock ++ rest =
      '"' :: '"' :: '"' ::
        (firstLineEnd s ++ (escapeText true 0 s ++ '"' :: '"' :: '"' :: rest)) := by
    simp [writeAs]
  have opens : ∀ d, isTextChar d = false → (d = '\n' → '\n' ∉ s) →
      (escapeText true 0 s ++ '"' :: '"' :: '"' :: rest).head? ≠ some d := by
    intro d control line head
    cases s with
    | nil =>
        obtain rfl := Option.some.inj head
        cases control
    | cons c s =>
        obtain ⟨t, run, shows, -, written⟩ := escapeText_cons true 0 c s
        rw [written, List.append_assoc, List.head?_append_of_ne_nil _ shows.ne_nil] at head
        cases shows with
        | plain printable =>
            obtain rfl := Option.some.inj head
            rw [printable] at control
            cases control
        | lineEnd =>
            obtain rfl := Option.some.inj head
            exact line rfl List.mem_cons_self
        | escaped =>
            obtain rfl := Option.some.inj head
            cases control
  have dropped : dropFirstLineEnd
      (firstLineEnd s ++ (escapeText true 0 s ++ '"' :: '"' :: '"' :: rest)) =
        escapeText true 0 s ++ '"' :: '"' :: '"' :: rest :=
    dropFirstLineEnd_first (fun lines => opens '\n' rfl fun _ => lines)
      (fun _ => opens '\r' rfl fun same => absurd same (by decide))
  rw [text, readText?, dropped]
  refine readBasicBlock_escapeText (Nat.zero_le 2) s ?_ next
  have longer := length_le_escapeText true 0 s
  simp only [List.length_append]
  omega

theorem readText?_writeText (s : List Char) (double : rest.head? ≠ some '"')
    (single : rest.head? ≠ some '\'') : readText? (writeText s ++ rest) = some (s, rest) := by
  rw [writeText]
  cases chosen : Quoting.choose s with
  | basic => exact readText?_basic s double
  | literal => exact readText?_literal chosen single
  | basicBlock => exact readText?_basicBlock s double
  | literalBlock => exact readText?_literalBlock chosen single

theorem head?_writeText (s : List Char) :
    (writeText s).head? = some '"' ∨ (writeText s).head? = some '\'' := by
  rw [writeText]
  cases Quoting.choose s with
  | basic => exact Or.inl rfl
  | literal => exact Or.inr rfl
  | basicBlock => exact Or.inl rfl
  | literalBlock => exact Or.inr rfl

end choices

end Briefing.Toml
