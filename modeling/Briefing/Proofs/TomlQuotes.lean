import Briefing.Toml.Text
import Mathlib.Data.List.Basic

namespace Briefing.Toml

section runs

variable {q : Char} {run run' : Nat} {s t rest : List Char}

theorem le_longestRun (q : Char) (run : Nat) (s : List Char) : run ≤ longestRun q run s := by
  cases s with
  | nil => exact Nat.le_refl run
  | cons c s =>
      rw [longestRun]
      split <;> exact Nat.le_max_left _ _

theorem longestRun_mono (h : run ≤ run') (q : Char) (s : List Char) :
    longestRun q run s ≤ longestRun q run' s := by
  induction s generalizing run run' with
  | nil => exact h
  | cons c s ih =>
      have next := ih (Nat.add_le_add_right h 1)
      rw [longestRun, longestRun]
      split <;> omega

theorem longestRun_append_right (q : Char) (run : Nat) (t s : List Char) :
    longestRun q 0 s ≤ longestRun q run (t ++ s) := by
  induction t generalizing run with
  | nil => exact longestRun_mono (Nat.zero_le run) q s
  | cons c t ih =>
      have next := ih (run + 1)
      have fresh := ih 0
      rw [List.cons_append, longestRun]
      split <;> omega

theorem quoteRun_le (q : Char) (run : Nat) (s : List Char) :
    run + quoteRun q s ≤ longestRun q run s := by
  induction s generalizing run with
  | nil => exact Nat.le_refl run
  | cons c s ih =>
      have next := ih (run + 1)
      rw [longestRun]
      by_cases same : c = q
      · have longer : quoteRun q (c :: s) = quoteRun q s + 1 := by simp [quoteRun, same]
        rw [if_pos same, longer]
        omega
      · have none : quoteRun q (c :: s) = 0 := by simp [quoteRun, same]
        rw [if_neg same, none]
        omega

theorem not_mem_of_longestRun (h : longestRun q 0 s = 0) : q ∉ s := by
  intro mem
  obtain ⟨a, b, rfl⟩ := List.append_of_mem mem
  have inner := longestRun_append_right q 0 a (q :: b)
  have one : 1 ≤ longestRun q (0 + 1) b := le_longestRun q 1 b
  rw [longestRun, if_pos rfl] at inner
  omega

theorem eq_replicate_of_quoteRun (h : quoteRun q t = t.length) : t = List.replicate t.length q := by
  refine List.eq_replicate_of_mem fun c hc => ?_
  have whole : t.takeWhile (· == q) = t := (List.takeWhile_prefix (· == q)).eq_of_length h
  have all := List.all_takeWhile (p := (· == q)) (l := t)
  rw [whole] at all
  simpa using List.all_eq_true.mp all c hc

/-- In front of three closing quotes, a text ends in quotes of its own only if it is nothing else. -/
theorem quoteRun_closing (short : quoteRun q t ≤ 2) (next : rest.head? ≠ some q) :
    (t = List.replicate t.length q ∧ t.length ≤ 2 ∧
        quoteRun q (t ++ q :: q :: q :: rest) = t.length + 3) ∨
      quoteRun q (t ++ q :: q :: q :: rest) < 3 := by
  have split : quoteRun q (t ++ q :: q :: q :: rest) =
      if quoteRun q t = t.length then t.length + quoteRun q (q :: q :: q :: rest)
      else quoteRun q t := by
    rw [quoteRun, List.takeWhile_append, apply_ite List.length, List.length_append]
    rfl
  have closing : quoteRun q (q :: q :: q :: rest) = 3 := by
    have none : rest.takeWhile (· == q) = [] := by
      cases rest with
      | nil => rfl
      | cons c s => exact List.takeWhile_cons_of_neg (by simpa using next)
    simp [quoteRun, none]
  rw [split]
  by_cases all : quoteRun q t = t.length
  · rw [if_pos all, closing]
    exact Or.inl ⟨eq_replicate_of_quoteRun all, by omega, rfl⟩
  · rw [if_neg all]
    exact Or.inr (by omega)

theorem closeBlock_closing (whole : t = List.replicate t.length q) (short : t.length ≤ 2) :
    closeBlock q (t.length + 3) (t ++ q :: q :: q :: rest) = some (t, rest) := by
  rw [closeBlock, if_pos (by omega), Nat.add_sub_cancel, ← whole, ← List.drop_drop, List.drop_left]
  rfl

end runs

theorem not_lineEnd_of_isTextChar {c : Char} (h : isTextChar c = true) : c ≠ '\n' ∧ c ≠ '\r' := by
  constructor <;>
  · rintro rfl
    exact absurd h (by decide)

structure Escape (e : List Char) (c : Char) : Prop where
  marked : ∃ k more, e = k :: more ∧ isSpace k = false ∧ k ≠ '\n' ∧ k ≠ '\r'
  reads : ∀ s, readEscape (e ++ s) = some (c, s)

inductive Shows (block : Bool) : List Char → Char → Prop
  | plain {c : Char} : isTextChar c = true → c ≠ '\\' → (c = '"' → block = true) →
      Shows block [c] c
  | lineEnd : block = true → Shows block ['\n'] '\n'
  | escaped {e : List Char} {c : Char} : Escape e c → Shows block ('\\' :: e) c

theorem Shows.ne_nil {block : Bool} {t : List Char} {c : Char} (h : Shows block t c) : t ≠ [] := by
  cases h <;> simp

theorem readBasic_shows {t : List Char} {c : Char} (h : Shows false t c) (fuel : Nat)
    (s : List Char) : readBasic (fuel + 1) (t ++ s) = Text.prepend [c] (readBasic fuel s) := by
  cases h with
  | plain printable slash quote =>
      rw [List.singleton_append, readBasic, if_neg, if_neg slash, if_pos printable]
      exact fun same => Bool.false_ne_true (quote same)
  | lineEnd block => cases block
  | escaped e =>
      rw [List.cons_append, readBasic, if_neg (by decide), if_pos rfl, e.reads]

theorem startsLineEnd_escape {e : List Char} {c : Char} (h : Escape e c) (s : List Char) :
    startsLineEnd ((e ++ s).dropWhile isSpace) = false := by
  obtain ⟨k, more, rfl, space, line, feed⟩ := h.marked
  rw [List.cons_append, List.dropWhile_cons_of_neg (by simp [space])]
  unfold startsLineEnd
  split
  · rename_i same
    exact absurd (List.cons.inj same).1 line
  · rename_i same
    exact absurd (List.cons.inj same).1 feed
  · rfl

theorem readBasicBlock_plain {c : Char} {s : List Char} (run : quoteRun '"' (c :: s) < 3)
    (slash : c ≠ '\\') (feed : c ≠ '\r') (allowed : (isTextChar c || c == '\n') = true)
    (fuel : Nat) :
    readBasicBlock (fuel + 1) (c :: s) = Text.prepend [c] (readBasicBlock fuel s) := by
  rw [readBasicBlock, if_neg (Nat.not_le.mpr run), if_pos allowed]
  · exact slash
  · exact fun _ same => absurd same feed

theorem readBasicBlock_shows {t : List Char} {c : Char} (h : Shows true t c) {s : List Char}
    (run : quoteRun '"' (t ++ s) < 3) (fuel : Nat) :
    readBasicBlock (fuel + 1) (t ++ s) = Text.prepend [c] (readBasicBlock fuel s) := by
  cases h with
  | plain printable slash _ =>
      have feed := (not_lineEnd_of_isTextChar printable).2
      exact readBasicBlock_plain run slash feed (by simp [printable]) fuel
  | lineEnd => exact readBasicBlock_plain run (by decide) (by decide) rfl fuel
  | escaped e =>
      rw [List.cons_append] at run ⊢
      rw [readBasicBlock, if_neg (Nat.not_le.mpr run)]
      simp [startsLineEnd_escape e, e.reads]

theorem readBasicBlock_closing {t rest : List Char} (whole : t = List.replicate t.length '"')
    (few : t.length ≤ 2) (run : quoteRun '"' (t ++ '"' :: '"' :: '"' :: rest) = t.length + 3)
    (fuel : Nat) : readBasicBlock (fuel + 1) (t ++ '"' :: '"' :: '"' :: rest) = some (t, rest) := by
  unfold readBasicBlock
  simp only [run]
  rw [if_pos (by omega), closeBlock_closing whole few]

theorem readLiteralBlock_append {s : List Char} (shown : ∀ c ∈ s, needsEscape c = false)
    (short : longestRun '\'' 0 s ≤ 2) {fuel : Nat} (enough : s.length < fuel) {rest : List Char}
    (next : rest.head? ≠ some '\'') :
    readLiteralBlock fuel (s ++ '\'' :: '\'' :: '\'' :: rest) = some (s, rest) := by
  have leading : quoteRun '\'' s ≤ 2 := by
    have bound := quoteRun_le '\'' 0 s
    omega
  induction s generalizing fuel with
  | nil =>
      obtain ⟨n, rfl⟩ := Nat.exists_eq_add_one_of_ne_zero (Nat.ne_of_gt enough)
      rcases quoteRun_closing leading next with ⟨whole, few, run⟩ | run
      · unfold readLiteralBlock
        simp only [run]
        rw [if_pos (by omega), closeBlock_closing whole few]
      · simp [quoteRun] at run
        omega
  | cons c s ih =>
      obtain ⟨n, rfl⟩ := Nat.exists_eq_add_one_of_ne_zero (Nat.ne_zero_of_lt enough)
      rcases quoteRun_closing leading next with ⟨whole, few, run⟩ | run
      · unfold readLiteralBlock
        simp only [run]
        rw [if_pos (by omega), closeBlock_closing whole few]
      · obtain ⟨plain, shown⟩ := List.forall_mem_cons.mp shown
        have inner := Nat.le_trans (longestRun_append_right '\'' 0 [c] s) short
        have bound := quoteRun_le '\'' 0 s
        have feed : c ≠ '\r' := by
          rintro rfl
          exact absurd plain (by decide)
        have allowed : (isTextChar c || c == '\n') = true := by
          cases printable : isTextChar c <;> simp_all [needsEscape]
        rw [List.cons_append] at run ⊢
        rw [readLiteralBlock, if_neg (Nat.not_le.mpr run), if_pos allowed,
          ih shown inner (Nat.lt_of_succ_lt_succ enough) (by omega)]
        · rfl
        · exact fun _ same => absurd same feed

theorem readLiteral_append {s : List Char} (shown : ∀ c ∈ s, isTextChar c = true)
    (quotes : '\'' ∉ s) (rest : List Char) : readLiteral (s ++ '\'' :: rest) = some (s, rest) := by
  have body : (s ++ '\'' :: rest).takeWhile (fun c => isTextChar c && c != '\'') = s := by
    rw [List.takeWhile_append_of_pos, List.takeWhile_cons_of_neg (by simp), List.append_nil]
    intro c hc
    have other : c ≠ '\'' := fun same => quotes (same ▸ hc)
    simp [shown c hc, other]
  simp only [readLiteral, body, List.drop_left]

theorem hexValue_upperHexDigit {n : Nat} (h : n < 16) : Text.hexValue (upperHexDigit n) = some n := by
  have all : ∀ k : Fin 16, Text.hexValue (upperHexDigit k.val) = some k.val := by decide
  exact all ⟨n, h⟩

theorem lt_of_not_isTextChar {c : Char} (h : isTextChar c = false) : c.toNat < 256 := by
  simp only [isTextChar, Bool.or_eq_false_iff, Bool.and_eq_false_iff, decide_eq_false_iff_not,
    bne_eq_false_iff_eq] at h
  omega

theorem escape_short {k c : Char} (h : shortEscape k = some c)
    (marked : isSpace k = false ∧ k ≠ '\n' ∧ k ≠ '\r') : Escape [k] c where
  marked := ⟨k, [], rfl, marked⟩
  reads := by
    intro s
    rw [List.singleton_append]
    unfold readEscape
    split
    · rename_i same
      obtain ⟨rfl, -⟩ := List.cons.inj same
      cases h
    · rename_i same
      obtain ⟨rfl, -⟩ := List.cons.inj same
      cases h
    · rename_i same
      obtain ⟨rfl, rfl⟩ := List.cons.inj same
      rw [h]
      rfl
    · rename_i same
      cases same

theorem escape_code {c : Char} (h : c.toNat < 256) :
    Escape ['u', '0', '0', upperHexDigit (c.toNat / 16), upperHexDigit (c.toNat % 16)] c where
  marked := ⟨'u', _, rfl, by decide, by decide, by decide⟩
  reads := by
    intro s
    have high := hexValue_upperHexDigit (n := c.toNat / 16) (by omega)
    have low := hexValue_upperHexDigit (n := c.toNat % 16) (by omega)
    have zero : Text.hexValue '0' = some 0 := by decide
    have number : 16 * (c.toNat / 16) + c.toNat % 16 = c.toNat := by omega
    have valid : c.toNat.isValidChar := c.valid
    simp [readEscape, scalar, Text.hexNumber, zero, high, low, number, valid]

theorem shows_short {block : Bool} {k c : Char} (h : shortEscape k = some c)
    (marked : isSpace k = false ∧ k ≠ '\n' ∧ k ≠ '\r') : Shows block ['\\', k] c :=
  .escaped (escape_short h marked)

theorem shows_escapeChar (block : Bool) {c : Char} (quote : c ≠ '"') :
    Shows block (escapeChar block c) c := by
  unfold escapeChar
  split
  · exact shows_short rfl (by decide)
  · exact shows_short rfl (by decide)
  · split
    · exact .lineEnd ‹_›
    · exact shows_short rfl (by decide)
  · exact shows_short rfl (by decide)
  · exact shows_short rfl (by decide)
  · exact shows_short rfl (by decide)
  · rename_i slash
    split
    · exact .plain ‹_› slash fun same => absurd same quote
    · rename_i control
      exact .escaped (escape_code (lt_of_not_isTextChar (Bool.eq_false_iff.mpr control)))

theorem escapeText_cons (block : Bool) (run : Nat) (c : Char) (s : List Char) :
    ∃ t run', Shows block t c ∧ run' ≤ 2 ∧
      escapeText block run (c :: s) = t ++ escapeText block run' s := by
  rw [escapeText]
  by_cases quote : c = '"'
  · subst quote
    rw [if_pos rfl]
    by_cases hidden : (if block then 2 else 0) < run + 1
    · rw [if_pos hidden]
      exact ⟨['\\', '"'], 0, shows_short rfl (by decide), Nat.zero_le 2, rfl⟩
    · rw [if_neg hidden]
      have inBlock : block = true := by
        cases block with
        | true => rfl
        | false => exact absurd (Nat.succ_pos run) hidden
      rw [inBlock, if_pos rfl] at hidden
      have plain : Shows block ['"'] '"' := .plain (by decide) (by decide) fun _ => inBlock
      exact ⟨['"'], run + 1, plain, Nat.le_of_not_lt hidden, rfl⟩
  · rw [if_neg quote]
    exact ⟨escapeChar block c, 0, shows_escapeChar block quote, Nat.zero_le 2, rfl⟩

theorem length_le_escapeText (block : Bool) (run : Nat) (s : List Char) :
    s.length ≤ (escapeText block run s).length := by
  induction s generalizing run with
  | nil => exact Nat.zero_le _
  | cons c s ih =>
      obtain ⟨t, run', shows, -, text⟩ := escapeText_cons block run c s
      have some := List.length_pos_iff.mpr shows.ne_nil
      have behind := ih run'
      rw [text, List.length_cons, List.length_append]
      omega

theorem readBasic_escapeText (run : Nat) (s : List Char) {fuel : Nat}
    (enough : s.length < fuel) (rest : List Char) :
    readBasic fuel (escapeText false run s ++ '"' :: rest) = some (s, rest) := by
  induction s generalizing run fuel with
  | nil =>
      obtain ⟨n, rfl⟩ := Nat.exists_eq_add_one_of_ne_zero (Nat.ne_of_gt enough)
      rfl
  | cons c s ih =>
      obtain ⟨n, rfl⟩ := Nat.exists_eq_add_one_of_ne_zero (Nat.ne_zero_of_lt enough)
      obtain ⟨t, run', shows, -, text⟩ := escapeText_cons false run c s
      rw [text, List.append_assoc, readBasic_shows shows, ih run' (Nat.lt_of_succ_lt_succ enough)]
      rfl

theorem eq_of_escapeText_replicate {n run : Nat} {s : List Char}
    (whole : escapeText true run s = List.replicate n '"') : s = escapeText true run s := by
  induction s generalizing n run with
  | nil => rfl
  | cons c s ih =>
      obtain ⟨t, run', shows, -, text⟩ := escapeText_cons true run c s
      rw [text] at whole ⊢
      cases n with
      | zero => exact absurd (List.append_eq_nil_iff.mp whole).1 shows.ne_nil
      | succ n =>
          rw [List.replicate_succ] at whole
          cases shows with
          | plain =>
              rw [List.singleton_append] at whole ⊢
              rw [← ih (List.cons.inj whole).2]
          | lineEnd => exact absurd (List.cons.inj whole).1 (by decide)
          | escaped => exact absurd (List.cons.inj whole).1 (by decide)

theorem Shows.head_ne {block : Bool} {t : List Char} {c : Char} (h : Shows block t c)
    (quote : c ≠ '"') : t.head? ≠ some '"' := by
  cases h with
  | plain => simpa using quote
  | lineEnd => decide
  | escaped => simp

theorem quoteRun_of_head_ne {t s : List Char} (solid : t ≠ []) (head : t.head? ≠ some '"') :
    quoteRun '"' (t ++ s) = 0 := by
  cases t with
  | nil => exact absurd rfl solid
  | cons c t =>
      have other : c ≠ '"' := by simpa using head
      simp [quoteRun, other]

theorem quoteRun_escapeText {run : Nat} (few : run ≤ 2) (s : List Char) :
    run + quoteRun '"' (escapeText true run s) ≤ 2 := by
  induction s generalizing run with
  | nil => exact few
  | cons c s ih =>
      rw [escapeText, if_pos rfl]
      by_cases quote : c = '"'
      · rw [if_pos quote]
        by_cases hidden : 2 < run + 1
        · rw [if_pos hidden]
          simpa [quoteRun] using few
        · have next : run + 1 + quoteRun '"' (escapeText true (run + 1) s) ≤ 2 :=
            ih (Nat.le_of_not_lt hidden)
          have longer : quoteRun '"' ('"' :: escapeText true (run + 1) s) =
              quoteRun '"' (escapeText true (run + 1) s) + 1 := by simp [quoteRun]
          rw [if_neg hidden, longer]
          omega
      · have shows := shows_escapeChar true quote
        rw [if_neg quote, quoteRun_of_head_ne shows.ne_nil (shows.head_ne quote)]
        exact few

theorem readBasicBlock_escapeText {run : Nat} (few : run ≤ 2) (s : List Char) {fuel : Nat}
    (enough : s.length < fuel) {rest : List Char} (next : rest.head? ≠ some '"') :
    readBasicBlock fuel (escapeText true run s ++ '"' :: '"' :: '"' :: rest) = some (s, rest) := by
  induction s generalizing run fuel with
  | nil =>
      obtain ⟨n, rfl⟩ := Nat.exists_eq_add_one_of_ne_zero (Nat.ne_of_gt enough)
      rcases quoteRun_closing (t := []) (Nat.zero_le 2) next with ⟨whole, short, closing⟩ | open'
      · exact readBasicBlock_closing whole short closing n
      · simp [quoteRun] at open'
        omega
  | cons c s ih =>
      obtain ⟨n, rfl⟩ := Nat.exists_eq_add_one_of_ne_zero (Nat.ne_zero_of_lt enough)
      have leading := quoteRun_escapeText few (c :: s)
      rcases quoteRun_closing (Nat.le_of_add_left_le leading) next with
        ⟨whole, short, closing⟩ | open'
      · rw [readBasicBlock_closing whole short closing n, ← eq_of_escapeText_replicate whole]
      · obtain ⟨t, run', shows, few', text⟩ := escapeText_cons true run c s
        rw [text, List.append_assoc] at open' ⊢
        rw [readBasicBlock_shows shows open', ih few' (Nat.lt_of_succ_lt_succ enough)]
        rfl

end Briefing.Toml
