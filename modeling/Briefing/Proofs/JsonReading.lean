import Briefing.Proofs.JsonGrammar

namespace Briefing.Json

section Strings

theorem readUnit_append {digits : List Char} {n : Nat} (h : Hex digits n) (s : List Char) :
    readUnit (digits ++ s) = some (n, s) := by
  obtain ⟨four, value⟩ := h
  have enough : ¬ (digits ++ s).length < 4 := by
    rw [List.length_append, four]
    omega
  rw [readUnit, if_neg enough, ← four, List.take_left, List.drop_left, value]
  rfl

theorem readEscape_short {e c : Char} (h : shortEscape e = some c) (s : List Char) :
    readEscape (e :: s) = some (c, s) := by
  unfold readEscape
  split
  · rename_i same
    obtain ⟨rfl, -⟩ := List.cons.inj same
    cases h
  · rename_i same
    obtain ⟨rfl, rfl⟩ := List.cons.inj same
    rw [h]
    rfl
  · rename_i same
    cases same

theorem readQuoted_escape {s rest : List Char} {c : Char} (h : readEscape s = some (c, rest))
    (fuel : Nat) :
    readQuoted (fuel + 1) ('\\' :: s) = Text.prepend [c] (readQuoted fuel rest) := by
  simp only [readQuoted, h]
  rfl

theorem readQuoted_spells {t : List Char} {c : Char} (h : Spells t c) (fuel : Nat)
    (s : List Char) :
    readQuoted (fuel + 1) (t ++ s) = Text.prepend [c] (readQuoted fuel s) := by
  cases h with
  | plain printable quote slash =>
      rw [List.singleton_append, readQuoted, if_neg quote, if_neg slash,
        if_neg (Nat.not_lt.mpr printable)]
  | short value => exact readQuoted_escape (readEscape_short value s) fuel
  | unit digits high low =>
      refine readQuoted_escape ?_ fuel
      simp [readEscape, readUnit_append digits, high, low]
  | halves first second high low =>
      refine readQuoted_escape ?_ fuel
      simp [readEscape, readUnit_append first, high, readLowHalf, readUnit_append second, low]

theorem readQuoted_spelled {t cs : List Char} (h : Spelled t cs) {fuel : Nat}
    (enough : cs.length < fuel) (rest : List Char) :
    readQuoted fuel (t ++ '"' :: rest) = some (cs, rest) := by
  induction h generalizing fuel with
  | nil =>
      obtain ⟨n, rfl⟩ := Nat.exists_eq_add_one_of_ne_zero (Nat.ne_of_gt enough)
      rfl
  | cons first _ ih =>
      obtain ⟨n, rfl⟩ := Nat.exists_eq_add_one_of_ne_zero (Nat.ne_zero_of_lt enough)
      rw [List.append_assoc, readQuoted_spells first, ih (Nat.lt_of_succ_lt_succ enough)]
      rfl

theorem Spells.ne_nil {t : List Char} {c : Char} (h : Spells t c) : t ≠ [] := by
  cases h <;> simp

theorem Spelled.length_le {t cs : List Char} (h : Spelled t cs) : cs.length ≤ t.length := by
  induction h with
  | nil => exact Nat.le_refl 0
  | cons first _ ih =>
      have some := List.length_pos_iff.mpr first.ne_nil
      rw [List.length_cons, List.length_append]
      omega

theorem readText_append {t : List Char} {s : String} (h : IsText t s) (rest : List Char) :
    readText (t ++ rest) = some (s, rest) := by
  cases h with
  | @mk body s spelled =>
      have room : s.toList.length < (body ++ '"' :: rest).length + 1 := by
        have small := spelled.length_le
        rw [List.length_append]
        omega
      have inner : '"' :: body ++ ['"'] ++ rest = '"' :: (body ++ '"' :: rest) := by simp
      rw [inner]
      simp only [readText, Text.expect, if_true, Option.bind_eq_bind, Option.bind_some,
        readQuoted_spelled spelled room rest, String.ofList_toList]

end Strings

section Numbers

def NoDigit (s : List Char) : Prop := ∀ c ∈ s.head?, c.isDigit = false

structure Ends (s : List Char) : Prop where
  digit : NoDigit s
  point : s.head? ≠ some '.'
  mark : s.head? ≠ some 'e' ∧ s.head? ≠ some 'E'

theorem Digits.head {ds : List Char} (h : Digits ds) : ∃ c cs, ds = c :: cs ∧ c.isDigit = true := by
  obtain ⟨some, all⟩ := h
  cases ds with
  | nil => exact absurd rfl some
  | cons c cs => exact ⟨c, cs, rfl, all c List.mem_cons_self⟩

theorem readDigits_append {ds s : List Char} (h : Digits ds) (next : NoDigit s) :
    readDigits (ds ++ s) = some (ds, s) := by
  have stop : s.takeWhile Char.isDigit = [] := by
    cases s with
    | nil => rfl
    | cons c s => exact List.takeWhile_cons_of_neg (by simp [next c rfl])
  rw [readDigits, List.takeWhile_append_of_pos h.2, stop, List.append_nil, List.drop_left]
  exact if_neg h.1

theorem readWhole_append {ds s : List Char} (h : Whole ds) (next : NoDigit s) :
    readWhole (ds ++ s) = some (ds, s) := by
  cases h with
  | zero => rfl
  | digits digits head =>
      unfold readWhole
      split
      · rename_i rest same
        obtain ⟨c, cs, rfl, -⟩ := digits.head
        obtain ⟨rfl, -⟩ := List.cons.inj same
        exact absurd rfl head
      · exact readDigits_append digits next

theorem readFraction_append {f ds s : List Char} (h : Fraction f ds) (next : NoDigit s)
    (point : s.head? ≠ some '.') : readFraction (f ++ s) = some (ds, s) := by
  cases h with
  | absent =>
      rw [List.nil_append]
      unfold readFraction
      split
      · exact absurd rfl point
      · rfl
  | digits digits => exact readDigits_append digits next

theorem readSign_digit {c : Char} (digit : c.isDigit = true) (s : List Char) :
    readSign (c :: s) = (false, c :: s) := by
  unfold readSign
  split
  · rename_i same
    obtain ⟨rfl, -⟩ := List.cons.inj same
    exact absurd digit (by decide)
  · rfl

theorem readExponentSign_digits {ds : List Char} (h : Digits ds) (s : List Char) :
    readExponentSign (ds ++ s) = (false, ds ++ s) := by
  obtain ⟨c, cs, rfl, digit⟩ := h.head
  unfold readExponentSign
  split
  · rename_i same
    obtain ⟨rfl, -⟩ := List.cons.inj same
    exact absurd digit (by decide)
  · exact readSign_digit digit (cs ++ s)

theorem readExponent_append {x s : List Char} {e : Int} (h : Exponent x e) (ends : Ends s) :
    readExponent (x ++ s) = some (e, s) := by
  cases h with
  | absent =>
      cases s with
      | nil => rfl
      | cons c s =>
          have other : ¬ (c = 'e' ∨ c = 'E') := by
            rintro (rfl | rfl)
            · exact ends.mark.1 rfl
            · exact ends.mark.2 rfl
          exact if_neg other
  | unsigned mark digits =>
      rw [List.cons_append, readExponent, if_pos mark, readExponentSign_digits digits]
      simp [readDigits_append digits ends.digit]
  | plus mark digits =>
      rw [List.cons_append, readExponent, if_pos mark]
      simp [readExponentSign, readDigits_append digits ends.digit]
  | minus mark digits =>
      rw [List.cons_append, readExponent, if_pos mark]
      simp [readExponentSign, readSign, readDigits_append digits ends.digit]

theorem Exponent.ends {x s : List Char} {e : Int} (h : Exponent x e) (ends : Ends s) :
    NoDigit (x ++ s) ∧ (x ++ s).head? ≠ some '.' := by
  have marked {mark : Char} (letter : mark = 'e' ∨ mark = 'E') (t : List Char) :
      NoDigit (mark :: t) ∧ (mark :: t).head? ≠ some '.' := by
    rcases letter with rfl | rfl <;> simp [NoDigit]
  cases h with
  | absent => exact ⟨ends.digit, ends.point⟩
  | unsigned letter => exact marked letter _
  | plus letter => exact marked letter _
  | minus letter => exact marked letter _

theorem Fraction.noDigit {f ds s : List Char} (h : Fraction f ds) (next : NoDigit s) :
    NoDigit (f ++ s) := by
  cases h with
  | absent => exact next
  | digits => simp [NoDigit]

theorem Whole.head {ds : List Char} (h : Whole ds) : ∃ c cs, ds = c :: cs ∧ c.isDigit = true := by
  cases h with
  | zero => exact ⟨'0', [], rfl, by decide⟩
  | digits digits => exact digits.head

theorem Whole.isDigit {ds : List Char} (h : Whole ds) : ∀ c ∈ ds, c.isDigit = true := by
  cases h with
  | zero =>
      intro c hc
      rw [List.mem_singleton.mp hc]
      rfl
  | digits digits => exact digits.2

theorem readSign_append {ds : List Char} (h : Whole ds) (negative : Bool) (s : List Char) :
    readSign (sign negative ++ (ds ++ s)) = (negative, ds ++ s) := by
  cases negative with
  | true => rfl
  | false =>
      obtain ⟨c, cs, rfl, digit⟩ := h.head
      exact readSign_digit digit (cs ++ s)

theorem readNumber_append {t : List Char} {j : Json} (h : IsNumber t j) {s : List Char}
    (ends : Ends s) : readNumber (t ++ s) = some (j, s) := by
  obtain ⟨whole, fraction, exponent⟩ := h
  have after := exponent.ends ends
  simp only [readNumber, List.append_assoc, readSign_append whole,
    readWhole_append whole (fraction.noDigit after.1),
    readFraction_append fraction after.1 after.2, readExponent_append exponent ends,
    Option.bind_eq_bind, Option.bind_some]

theorem IsNumber.head {t : List Char} {j : Json} (h : IsNumber t j) :
    ∃ c s, t = c :: s ∧ (c = '-' ∨ c.isDigit = true) := by
  cases h with
  | @mk negative digits f fraction x exponent whole _ _ =>
      obtain ⟨c, cs, rfl, digit⟩ := whole.head
      cases negative with
      | true => exact ⟨'-', _, rfl, Or.inl rfl⟩
      | false => exact ⟨c, _, rfl, Or.inr digit⟩

theorem ne_of_numeral {c d : Char} (first : c = '-' ∨ c.isDigit = true)
    (other : d ≠ '-' ∧ d.isDigit = false) : c ≠ d := by
  rintro rfl
  rcases first with dash | digit
  · exact other.1 dash
  · simp [other.2] at digit

end Numbers

section Values

theorem readScalar_number {c : Char} (h : c = '-' ∨ c.isDigit = true) (s : List Char) :
    readScalar (c :: s) = readNumber (c :: s) := by
  unfold readScalar
  split
  · rename_i same
    exact absurd (List.cons.inj same).1 (ne_of_numeral h (by decide))
  · rename_i same
    exact absurd (List.cons.inj same).1 (ne_of_numeral h (by decide))
  · rename_i same
    exact absurd (List.cons.inj same).1 (ne_of_numeral h (by decide))
  · rename_i same
    exact absurd (List.cons.inj same).1 (ne_of_numeral h (by decide))
  · rfl

def Opens (t : List Char) : Prop :=
  ∃ c s, t = c :: s ∧ isGap c = false ∧ c ≠ ']' ∧ c ≠ '}'

theorem skipGap_append {g : List Char} (h : Gap g) (s : List Char) :
    skipGap (g ++ s) = skipGap s :=
  List.dropWhile_append_of_pos h

theorem skipGap_opens {t : List Char} (h : Opens t) (s : List Char) : skipGap (t ++ s) = t ++ s := by
  obtain ⟨c, cs, rfl, solid, -⟩ := h
  exact List.dropWhile_cons_of_neg (by simp [solid])

theorem IsText.opens {t : List Char} {s : String} (h : IsText t s) : Opens t := by
  obtain ⟨-⟩ := h
  exact ⟨'"', _, rfl, by decide⟩

theorem IsNumber.opens {t : List Char} {j : Json} (h : IsNumber t j) : Opens t := by
  obtain ⟨c, s, rfl, first⟩ := h.head
  have other {d : Char} (letter : d ≠ '-' ∧ d.isDigit = false) : c ≠ d := ne_of_numeral first letter
  have space : c ≠ ' ' ∧ c ≠ '\t' := ⟨other (by decide), other (by decide)⟩
  have ends : c ≠ '\n' ∧ c ≠ '\r' := ⟨other (by decide), other (by decide)⟩
  refine ⟨c, s, rfl, ?_, other (by decide), other (by decide)⟩
  simp [isGap, space, ends]

theorem Denotes.opens {t : List Char} {j : Json} (h : Denotes t j) : Opens t := by
  cases h with
  | null => exact ⟨'n', _, rfl, by decide⟩
  | yes => exact ⟨'t', _, rfl, by decide⟩
  | no => exact ⟨'f', _, rfl, by decide⟩
  | number h => exact h.opens
  | text h => exact h.opens
  | noItems => exact ⟨'[', _, rfl, by decide⟩
  | items => exact ⟨'[', _, rfl, by decide⟩
  | noFields => exact ⟨'{', _, rfl, by decide⟩
  | fields => exact ⟨'{', _, rfl, by decide⟩

theorem Field.opens {value : List Char → Json → Prop} {t : List Char} {f : String × Json}
    (h : Field value t f) : Opens t := by
  obtain ⟨key, -, -, -⟩ := h
  obtain ⟨c, s, rfl, first⟩ := key.opens
  exact ⟨c, _, rfl, first⟩

def separators : List Char := [' ', '\t', '\n', '\r', ',', ']', '}']

theorem ends_of_separator {c : Char} (h : c ∈ separators) (s : List Char) : Ends (c :: s) := by
  have all : c.isDigit = false ∧ c ≠ '.' ∧ c ≠ 'e' ∧ c ≠ 'E' := by
    simp only [separators, List.mem_cons, List.not_mem_nil, or_false] at h
    rcases h with rfl | rfl | rfl | rfl | rfl | rfl | rfl <;> decide
  obtain ⟨digit, point, small, capital⟩ := all
  refine ⟨?_, ?_, ?_, ?_⟩
  · intro d hd
    obtain rfl : c = d := Option.some.inj hd
    exact digit
  · exact fun same => point (Option.some.inj same)
  · exact fun same => small (Option.some.inj same)
  · exact fun same => capital (Option.some.inj same)

theorem ends_nil : Ends [] where
  digit := by simp [NoDigit]
  point := by simp
  mark := by simp

theorem Ends.append {s : List Char} (h : Ends s) {g : List Char} (gap : Gap g) : Ends (g ++ s) := by
  cases g with
  | nil => exact h
  | cons d g =>
      have blank := gap d List.mem_cons_self
      refine ends_of_separator ?_ _
      simp only [isGap, Bool.or_eq_true, beq_iff_eq] at blank
      rcases blank with ((rfl | rfl) | rfl) | rfl <;> decide

theorem skipGap_solid {g : List Char} (gap : Gap g) {c : Char} (solid : isGap c = false)
    (s : List Char) : skipGap (g ++ c :: s) = c :: s := by
  rw [skipGap_append gap]
  exact List.dropWhile_cons_of_neg (by simp [solid])

theorem Parts.length_le {α : Type} {part : List Char → α → Prop} {t : List Char} {xs : List α}
    (h : Parts part t xs) : xs.length ≤ t.length + 1 := by
  induction h with
  | last => simp
  | more _ _ _ _ ih =>
      simp only [List.length_append, List.length_cons]
      omega

section

variable {α : Type} {part : List Char → α → Prop} {read : List Char → Option (α × List Char)}
  {close : Char} {n : Nat}

theorem readParts_append (closing : close = ']' ∨ close = '}')
    (opens : ∀ t x, part t x → Opens t)
    (reads : ∀ t x, part t x → t.length ≤ n → ∀ s, Ends s → read (t ++ s) = some (x, s))
    {t : List Char} {xs : List α} (h : Parts part t xs) (bound : t.length ≤ n) {fuel : Nat}
    (enough : xs.length ≤ fuel) (s : List Char) :
    readParts read close fuel (t ++ close :: s) = some (xs, s) := by
  have closed : close ∈ separators ∧ isGap close = false ∧ close ≠ ',' := by
    rcases closing with rfl | rfl <;> decide
  obtain ⟨listed, solid, other⟩ := closed
  induction h generalizing fuel with
  | @last a t b x before one after =>
      obtain ⟨k, rfl⟩ := Nat.exists_eq_add_one_of_ne_zero (Nat.ne_of_gt enough)
      simp only [List.length_append] at bound
      have start : skipGap (a ++ t ++ b ++ close :: s) = t ++ (b ++ close :: s) := by
        rw [List.append_assoc, List.append_assoc, skipGap_append before,
          skipGap_opens (opens t x one)]
      have value := reads t x one (by omega) (b ++ close :: s) ((ends_of_separator listed s).append after)
      simp only [readParts, start, value, skipGap_solid after solid, Option.bind_eq_bind,
        Option.bind_some, if_true]
  | @more a t b ts x xs before one after _ ih =>
      obtain ⟨k, rfl⟩ := Nat.exists_eq_add_one_of_ne_zero (Nat.ne_zero_of_lt enough)
      simp only [List.length_append, List.length_cons] at bound
      have start : skipGap (a ++ t ++ b ++ ',' :: ts ++ close :: s) =
          t ++ (b ++ ',' :: (ts ++ close :: s)) := by
        simp only [List.append_assoc, List.cons_append]
        rw [skipGap_append before, skipGap_opens (opens t x one)]
      have value := reads t x one (by omega) (b ++ ',' :: (ts ++ close :: s))
        ((ends_of_separator (by decide) _).append after)
      have comma : skipGap (b ++ ',' :: (ts ++ close :: s)) = ',' :: (ts ++ close :: s) :=
        skipGap_solid after (by decide) _
      simp only [readParts, start, value, comma, ih (by omega) (Nat.le_of_succ_le_succ enough),
        Option.bind_eq_bind, Option.bind_some, Option.map_some]

theorem skipGap_parts (opens : ∀ t x, part t x → Opens t) {t : List Char} {xs : List α}
    (h : Parts part t xs) (s : List Char) :
    ∃ c rest, skipGap (t ++ s) = c :: rest ∧ c ≠ ']' ∧ c ≠ '}' := by
  have start {a u : List Char} {x : α} (before : Gap a) (one : part u x) (rest : List Char) :
      ∃ c after, skipGap (a ++ (u ++ rest)) = c :: after ∧ c ≠ ']' ∧ c ≠ '}' := by
    rw [skipGap_append before, skipGap_opens (opens u x one)]
    obtain ⟨c, cs, rfl, -, other⟩ := opens u x one
    exact ⟨c, cs ++ rest, rfl, other⟩
  cases h with
  | last before one after =>
      simp only [List.append_assoc]
      exact start before one _
  | more before one after _ =>
      simp only [List.append_assoc]
      exact start before one _

theorem readBracketed_parts (closing : close = ']' ∨ close = '}')
    (opens : ∀ t x, part t x → Opens t)
    (reads : ∀ t x, part t x → t.length ≤ n → ∀ s, Ends s → read (t ++ s) = some (x, s))
    {t : List Char} {xs : List α} (h : Parts part t xs) (bound : t.length ≤ n) (s : List Char) :
    readBracketed read close (t ++ close :: s) = some (xs, s) := by
  obtain ⟨c, rest, start, other⟩ := skipGap_parts opens h (close :: s)
  have unclosed : c ≠ close := by
    rcases closing with rfl | rfl
    · exact other.1
    · exact other.2
  have room : xs.length ≤ (t ++ close :: s).length + 1 := by
    have small := h.length_le
    rw [List.length_append]
    omega
  rw [readBracketed, start, Text.expect, if_neg unclosed]
  exact readParts_append closing opens reads h bound room s

end

theorem readBracketed_gap {α : Type} (read : List Char → Option (α × List Char)) {close : Char}
    (solid : isGap close = false) {g : List Char} (gap : Gap g) (s : List Char) :
    readBracketed read close (g ++ close :: s) = some ([], s) := by
  rw [readBracketed, skipGap_solid gap solid, Text.expect, if_pos rfl]

theorem readField_append {value : List Char → Json → Prop}
    {read : List Char → Option (Json × List Char)} {n : Nat}
    (opens : ∀ t j, value t j → Opens t)
    (reads : ∀ t j, value t j → t.length ≤ n → ∀ s, Ends s → read (t ++ s) = some (j, s))
    {t : List Char} {f : String × Json} (h : Field value t f) (bound : t.length ≤ n)
    {s : List Char} (ends : Ends s) : readField read (t ++ s) = some (f, s) := by
  cases h with
  | @mk k a b t key j name before after one =>
      simp only [List.length_append, List.length_cons] at bound
      have text : k ++ a ++ ':' :: b ++ t ++ s = k ++ (a ++ ':' :: (b ++ (t ++ s))) := by simp
      have colon : skipGap (a ++ ':' :: (b ++ (t ++ s))) = ':' :: (b ++ (t ++ s)) :=
        skipGap_solid before (by decide) _
      have start : skipGap (b ++ (t ++ s)) = t ++ s := by
        rw [skipGap_append after, skipGap_opens (opens t j one)]
      simp only [text, readField, readText_append name, colon, Text.expect, if_true, start,
        reads t j one (by omega) s ends, Option.bind_eq_bind, Option.bind_some]

theorem readValue_scalar {c : Char} (h : c ≠ '[' ∧ c ≠ '{') (n : Nat) (s : List Char) :
    readValue (n + 1) (c :: s) = readScalar (c :: s) := by
  simp only [readValue]
  split
  · rename_i same
    exact absurd (List.cons.inj same).1 h.1
  · rename_i same
    exact absurd (List.cons.inj same).1 h.2
  · rfl

theorem readValue_append {n : Nat} {t : List Char} {j : Json} (h : Denotes t j)
    (bound : t.length ≤ n) {s : List Char} (ends : Ends s) :
    readValue n (t ++ s) = some (j, s) := by
  -- The depth that is left bounds the length of the text, and the parts of a value are shorter.
  induction n generalizing t j s with
  | zero =>
      obtain ⟨c, cs, rfl, -⟩ := h.opens
      cases bound
  | succ n ih =>
      have opens : ∀ t j, Denotes t j → Opens t := fun t j one => one.opens
      have reads : ∀ t j, Denotes t j → t.length ≤ n → ∀ s, Ends s →
          readValue n (t ++ s) = some (j, s) := fun t j one bound s ends => ih one bound ends
      cases h with
      | null => rfl
      | yes => rfl
      | no => rfl
      | number number =>
          obtain ⟨c, cs, rfl, first⟩ := number.head
          have plain : c ≠ '[' ∧ c ≠ '{' :=
            ⟨ne_of_numeral first (by decide), ne_of_numeral first (by decide)⟩
          rw [List.cons_append, readValue_scalar plain, readScalar_number first]
          exact readNumber_append number ends
      | @text t v text =>
          have value := readText_append text s
          obtain ⟨spelled⟩ := text
          rw [List.cons_append, List.cons_append] at value ⊢
          rw [readValue_scalar (by decide), readScalar, value]
          rfl
      | @noItems g gap =>
          have inner : '[' :: g ++ [']'] ++ s = '[' :: (g ++ ']' :: s) := by simp
          rw [inner, readValue, readBracketed_gap _ (by decide) gap]
          rfl
      | @items t js parts =>
          have inner : '[' :: t ++ [']'] ++ s = '[' :: (t ++ ']' :: s) := by simp
          simp only [List.cons_append, List.length_cons, List.length_append] at bound
          rw [inner, readValue, readBracketed_parts (Or.inl rfl) opens reads parts (by omega)]
          rfl
      | @noFields g gap =>
          have inner : '{' :: g ++ ['}'] ++ s = '{' :: (g ++ '}' :: s) := by simp
          rw [inner, readValue, readBracketed_gap _ (by decide) gap]
          rfl
      | @fields t fs parts =>
          have inner : '{' :: t ++ ['}'] ++ s = '{' :: (t ++ '}' :: s) := by simp
          simp only [List.cons_append, List.length_cons, List.length_append] at bound
          have named : ∀ t f, Field Denotes t f → t.length ≤ n → ∀ s, Ends s →
              readField (readValue n) (t ++ s) = some (f, s) :=
            fun t f one bound s ends => readField_append opens reads one bound ends
          rw [inner, readValue, readBracketed_parts (Or.inr rfl) (fun t f one => one.opens) named
            parts (by omega)]
          rfl

theorem read?_eq_some {text : String} {j : Json} (h : Reads text j) : read? text = some j := by
  obtain ⟨a, t, b, same, before, value, after⟩ := h
  have ends : Ends b := List.append_nil b ▸ ends_nil.append after
  have room : t.length ≤ text.toList.length + 1 := by
    rw [same, List.length_append, List.length_append]
    omega
  have start : skipGap text.toList = t ++ b := by
    rw [same, List.append_assoc, skipGap_append before, skipGap_opens value.opens]
  have rest : skipGap b = [] := List.dropWhile_eq_nil_iff.mpr after
  simp only [read?, start, readValue_append value room ends, rest, Option.bind_eq_bind,
    Option.bind_some, if_true]

end Values

end Briefing.Json
