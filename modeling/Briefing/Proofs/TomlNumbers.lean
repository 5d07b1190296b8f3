import Briefing.Proofs.DecimalReading
import Briefing.Proofs.JsonReading
import Briefing.Proofs.JsonWriting
import Briefing.Toml.Number

namespace Briefing

open Json (Digits Whole sign)

namespace Decimal

theorem whole_append {ds : List Char} (h : Digits ds) (lead : ds.head? ≠ some '0') (more : List Char)
    (digits : ∀ c ∈ more, c.isDigit = true) : Whole (ds ++ more) := by
  refine Whole.digits ⟨?_, fun c hc => ?_⟩ ?_
  · simp [h.1]
  · rcases List.mem_append.mp hc with hc | hc
    · exact h.2 c hc
    · exact digits c hc
  · rwa [List.head?_append_of_ne_nil _ h.1]

theorem isDigit_replicate_zero (n : Nat) : ∀ c ∈ List.replicate n '0', c.isDigit = true := by
  intro c hc
  rw [(List.mem_replicate.mp hc).2]
  decide

def places (d : Decimal) : List Char := if d.positional.2 = [] then ['0'] else d.positional.2

structure Spread (d : Decimal) (whole fraction : List Char) : Prop where
  front : Whole whole
  behind : Digits fraction
  value : Binary64.ofDecimal ⟨Nat.ofDigitChars 10 (whole ++ fraction) 0, -(fraction.length : Int)⟩ =
    Binary64.ofDecimal d

theorem spread_of_nonneg {d : Decimal} (pos : d.digits ≠ 0) (above : 0 ≤ d.exponent) :
    Spread d d.positional.1 d.places := by
  have layout : d.positional =
      (Nat.toDigits 10 d.digits ++ List.replicate d.exponent.toNat '0', []) := if_pos above
  rw [places, layout, if_pos rfl]
  refine ⟨?_, ⟨List.cons_ne_nil '0' [], by simp⟩, ?_⟩
  · exact whole_append (Json.digits_toDigits _) (Json.head_toDigits pos) _ (isDigit_replicate_zero _)
  · have shifted := Binary64.ofDecimal_shifts (d.exponent.toNat + 1) d.digits d.exponent
    rw [← shifted, Nat.ofDigitChars_append, Nat.ofDigitChars_append, Nat.ofDigitChars_ten_toDigits,
      Nat.ofDigitChars_replicate_zero]
    congr 2
    · rw [Nat.pow_succ', Nat.mul_assoc]
      rfl
    · simp only [List.length_singleton]
      omega

theorem spread_of_neg {d : Decimal} (pos : d.digits ≠ 0) (below : d.exponent < 0) :
    Spread d d.positional.1 d.places := by
  set ds := Nat.toDigits 10 d.digits with written
  set all := ds.leftpad (d.exponent.natAbs + 1) '0' with padded
  have zeros : all = List.replicate (d.exponent.natAbs + 1 - ds.length) '0' ++ ds := rfl
  have length : d.exponent.natAbs + 1 ≤ all.length := by
    rw [zeros, List.length_append, List.length_replicate]
    omega
  have digits : ∀ c ∈ all, c.isDigit = true := by
    intro c hc
    rcases List.mem_append.mp (zeros ▸ hc) with hc | hc
    · exact isDigit_replicate_zero _ c hc
    · exact (Json.digits_toDigits d.digits).2 c hc
  have layout : d.positional = (all.take (all.length - d.exponent.natAbs),
      all.drop (all.length - d.exponent.natAbs)) :=
    (if_neg (Int.not_le.mpr below)).trans List.splitAt_eq
  have count : (all.drop (all.length - d.exponent.natAbs)).length = d.exponent.natAbs := by
    rw [List.length_drop]
    omega
  have some : all.drop (all.length - d.exponent.natAbs) ≠ [] := by
    intro none
    rw [none, List.length_nil] at count
    omega
  rw [places, layout, if_neg some]
  refine ⟨?_, ⟨some, fun c hc => digits c (List.mem_of_mem_drop hc)⟩, ?_⟩
  · by_cases wide : d.exponent.natAbs + 1 ≤ ds.length
    · have plain : all = ds := by
        rw [zeros, Nat.sub_eq_zero_of_le wide, List.replicate_zero, List.nil_append]
      have front : ds.take (ds.length - d.exponent.natAbs) ≠ [] := by
        rw [ne_eq, List.take_eq_nil_iff]
        rintro (empty | empty)
        · omega
        · exact Nat.toDigits_ne_nil empty
      rw [plain]
      refine Whole.digits ⟨front, fun c hc => ?_⟩ ?_
      · exact (Json.digits_toDigits d.digits).2 c (List.mem_of_mem_take hc)
      · have lead := Json.head_toDigits pos
        rwa [← written, ← List.take_append_drop (ds.length - d.exponent.natAbs) ds,
          List.head?_append_of_ne_nil _ front] at lead
    · have total : all.length = d.exponent.natAbs + 1 := by
        rw [zeros, List.length_append, List.length_replicate]
        omega
      obtain ⟨k, hk⟩ : ∃ k, d.exponent.natAbs + 1 - ds.length = k + 1 :=
        ⟨d.exponent.natAbs - ds.length, by omega⟩
      have first : all.take (all.length - d.exponent.natAbs) = ['0'] := by
        rw [total, Nat.add_sub_cancel_left, zeros, hk, List.replicate_succ]
        rfl
      rw [first]
      exact Whole.zero
  · rw [List.take_append_drop, count, zeros, Nat.ofDigitChars_append, Nat.ofDigitChars_replicate_zero,
      Nat.mul_zero, written, Nat.ofDigitChars_ten_toDigits]
    have same : -(d.exponent.natAbs : Int) = d.exponent := by omega
    rw [same]

theorem spread_positional {d : Decimal} (pos : d.digits ≠ 0) : Spread d d.positional.1 d.places := by
  by_cases above : 0 ≤ d.exponent
  · exact spread_of_nonneg pos above
  · exact spread_of_neg pos (Int.not_le.mp above)

end Decimal

namespace Toml

def Ends (rest : List Char) : Prop := ∀ c ∈ rest.head?, c ∈ [',', ']', '\n']

def Delimits (rest : List Char) : Prop := ∀ c ∈ rest.head?, c ∈ ['.', ',', ']', '\n']

theorem Ends.delimits {rest : List Char} (h : Ends rest) : Delimits rest :=
  fun c hc => List.mem_cons_of_mem '.' (h c hc)

def wordMarks : List Char := ['_', '-', ':', 'e', 'E', 'x', 'o', 'b']

theorem Delimits.apart {rest : List Char} (h : Delimits rest) {c : Char} (hc : c ∈ rest.head?) :
    c.isDigit = false ∧ c ∉ wordMarks := by
  have mark := h c hc
  simp only [List.mem_cons, List.not_mem_nil, or_false] at mark
  rcases mark with rfl | rfl | rfl | rfl <;> decide

theorem moreDigits_cons {c : Char} (digit : c.isDigit = true) (s : List Char) :
    moreDigits Char.isDigit (c :: s) =
      (c :: (moreDigits Char.isDigit s).1, (moreDigits Char.isDigit s).2) := by
  cases s with
  | nil => simp [moreDigits, digit]
  | cons d s => simp [moreDigits, digit]

theorem moreDigits_append {ds rest : List Char} (digits : ∀ c ∈ ds, c.isDigit = true)
    (next : Delimits rest) : moreDigits Char.isDigit (ds ++ rest) = (ds, rest) := by
  induction ds with
  | nil =>
      cases rest with
      | nil => rfl
      | cons c s =>
          obtain ⟨digit, other⟩ := next.apart rfl
          have bar : c ≠ '_' := fun same => other (by simp [same, wordMarks])
          cases s with
          | nil => simp [moreDigits, digit]
          | cons d s => simp [moreDigits, digit, bar]
  | cons d ds ih =>
      obtain ⟨digit, digits⟩ := List.forall_mem_cons.mp digits
      rw [List.cons_append, moreDigits_cons digit, ih digits]

theorem readDigits_append {ds rest : List Char} (h : Digits ds) (next : Delimits rest) :
    readDigits Char.isDigit (ds ++ rest) = some (ds, rest) := by
  obtain ⟨c, cs, rfl, digit⟩ := h.head
  rw [List.cons_append, readDigits, if_pos digit,
    moreDigits_append (fun d hd => h.2 d (List.mem_cons_of_mem c hd)) next]

theorem readDecimalDigits_append {ds rest : List Char} (h : Whole ds) (next : Delimits rest) :
    readDecimalDigits (ds ++ rest) = some (ds, rest) := by
  cases h with
  | zero => rfl
  | digits digits lead =>
      unfold readDecimalDigits
      split
      · rename_i s same
        obtain ⟨c, cs, rfl, -⟩ := digits.head
        exact absurd (congrArg some (List.cons.inj same).1) lead
      · exact readDigits_append digits next

theorem readSign_append {ds : List Char} (h : Whole ds) (negative : Bool) (rest : List Char) :
    readSign (sign negative ++ (ds ++ rest)) = (negative, ds ++ rest) := by
  cases negative with
  | true => rfl
  | false =>
      obtain ⟨c, cs, rfl, digit⟩ := h.head
      simp only [sign, Bool.false_eq_true, if_false, List.nil_append, List.cons_append]
      unfold readSign
      split
      · rename_i same
        obtain ⟨rfl, -⟩ := List.cons.inj same
        exact absurd digit (by decide)
      · rename_i same
        obtain ⟨rfl, -⟩ := List.cons.inj same
        exact absurd digit (by decide)
      · rfl

section

variable {ds rest : List Char}

theorem expect_append (digits : ∀ c ∈ ds, c.isDigit = true) (next : Delimits rest) {mark : Char}
    (isMark : mark = '-' ∨ mark = ':') : Text.expect mark (ds ++ rest) = none := by
  cases ds with
  | cons c cs =>
      have digit := digits c List.mem_cons_self
      refine if_neg ?_
      rintro rfl
      rcases isMark with rfl | rfl <;> exact absurd digit (by decide)
  | nil =>
      cases rest with
      | nil => rfl
      | cons c s =>
          refine if_neg ?_
          rintro rfl
          exact (next.apart rfl).2 (by rcases isMark with rfl | rfl <;> decide)

/-- No date and no time starts with the digits of a number: the mark behind its own digits is not
there. -/
theorem expect_drop (digits : ∀ c ∈ ds, c.isDigit = true) (next : Delimits rest) {mark : Char}
    (isMark : mark = '-' ∨ mark = ':') {n : Nat} (long : ((ds ++ rest).take n).length = n)
    (taken : ((ds ++ rest).take n).all Char.isDigit = true) :
    Text.expect mark ((ds ++ rest).drop n) = none := by
  induction n generalizing ds with
  | zero => exact expect_append digits next isMark
  | succ n ih =>
      cases ds with
      | cons c cs =>
          have digits' := (List.forall_mem_cons.mp digits).2
          rw [List.cons_append, List.take_succ_cons] at long taken
          rw [List.all_cons, Bool.and_eq_true] at taken
          exact ih digits' (Nat.succ.inj long) taken.2
      | nil =>
          cases rest with
          | nil => cases long
          | cons c s =>
              have digit := List.all_eq_true.mp taken c (by simp)
              rw [(next.apart rfl).1] at digit
              cases digit

theorem readTwo_eq_some {low high n : Nat} {s s' : List Char}
    (h : readTwo low high s = some (n, s')) :
    (s.take 2).length = 2 ∧ (s.take 2).all Char.isDigit = true ∧ s' = s.drop 2 := by
  unfold readTwo at h
  split at h
  · simp only [Option.ite_none_right_eq_some, Bool.and_eq_true, Option.some.injEq,
      Prod.mk.injEq] at h
    obtain ⟨⟨⟨⟨first, second⟩, -⟩, -⟩, -, rfl⟩ := h
    simp [first, second]
  · cases h

theorem skipTime_append (digits : ∀ c ∈ ds, c.isDigit = true) (next : Delimits rest) :
    skipTime (ds ++ rest) = none := by
  unfold skipTime
  cases found : readTwo 0 23 (ds ++ rest) with
  | none => rfl
  | some pair =>
      obtain ⟨n, s⟩ := pair
      obtain ⟨long, taken, rfl⟩ := readTwo_eq_some found
      simp [expect_drop digits next (Or.inr rfl) long taken]

theorem skipDate_append (digits : ∀ c ∈ ds, c.isDigit = true) (next : Delimits rest) :
    skipDate (ds ++ rest) = none := by
  unfold skipDate
  simp only
  split
  · rename_i year
    simp [expect_drop digits next (Or.inl rfl) year.1 year.2]
  · rfl

theorem readMoment_append (whole : Whole ds) (negative : Bool) (next : Delimits rest) :
    readMoment (sign negative ++ (ds ++ rest)) = none := by
  have digits := whole.isDigit
  cases negative with
  | false =>
      simp [readMoment, skipMoment, sign, skipDate_append digits next, skipTime_append digits next]
  | true =>
      have date : skipDate ('-' :: (ds ++ rest)) = none := by
        refine if_neg ?_
        rintro ⟨-, year⟩
        cases year
      have time : skipTime ('-' :: (ds ++ rest)) = none := by
        unfold skipTime
        cases found : readTwo 0 23 ('-' :: (ds ++ rest)) with
        | none => rfl
        | some pair =>
            obtain ⟨-, taken, -⟩ := readTwo_eq_some found
            cases taken
      simp [readMoment, skipMoment, sign, date, time]

theorem readNamedFloat_append (whole : Whole ds) (negative : Bool) :
    readNamedFloat (sign negative ++ (ds ++ rest)) = none := by
  obtain ⟨c, cs, rfl, digit⟩ := whole.head
  unfold readNamedFloat
  rw [readSign_append whole]
  split
  · rename_i same
    obtain ⟨rfl, -⟩ := List.cons.inj (Prod.mk.inj same).2
    exact absurd digit (by decide)
  · rename_i same
    obtain ⟨rfl, -⟩ := List.cons.inj (Prod.mk.inj same).2
    exact absurd digit (by decide)
  · rfl

theorem readExponent_ends (ends : Ends rest) : readExponent rest = some (0, rest) := by
  cases rest with
  | nil => rfl
  | cons c s =>
      have other := (ends.delimits.apart rfl).2
      refine if_neg ?_
      rintro (rfl | rfl) <;> exact other (by decide)

theorem readFraction_ends (ends : Ends rest) : readFraction rest = some ([], rest) := by
  unfold readFraction
  split
  · rename_i s
    exact absurd (ends '.' rfl) (by decide)
  · rfl

theorem readFiniteFloat_integer (whole : Whole ds) (negative : Bool) (ends : Ends rest) :
    readFiniteFloat (sign negative ++ (ds ++ rest)) = none := by
  simp [readFiniteFloat, readSign_append whole, readDecimalDigits_append whole ends.delimits,
    readFraction_ends ends, readExponent_ends ends]

theorem readInteger_append (whole : Whole ds) (negative : Bool) (next : Delimits rest) :
    readInteger (sign negative ++ (ds ++ rest)) =
      integerValue (signed negative (Nat.ofDigitChars 10 ds 0)) rest := by
  have decimal : readDecimal (sign negative ++ (ds ++ rest)) =
      integerValue (signed negative (Nat.ofDigitChars 10 ds 0)) rest := by
    simp [readDecimal, readSign_append whole, readDecimalDigits_append whole next]
  have plain : ∀ mark ∈ ['x', 'o', 'b'], ∀ s,
      sign negative ++ (ds ++ rest) ≠ '0' :: mark :: s := by
    intro mark isMark s same
    cases negative with
    | true => cases same
    | false =>
        cases whole with
        | zero =>
            have behind : rest = mark :: s := (List.cons.inj same).2
            subst behind
            have letters : ['x', 'o', 'b'] ⊆ wordMarks := by simp [wordMarks]
            exact (next.apart rfl).2 (letters isMark)
        | digits digits lead =>
            obtain ⟨c, cs, rfl, -⟩ := digits.head
            exact lead (congrArg some (List.cons.inj same).1)
  unfold readInteger
  split
  · rename_i same
    exact absurd same (plain 'x' (by decide) _)
  · rename_i same
    exact absurd same (plain 'o' (by decide) _)
  · rename_i same
    exact absurd same (plain 'b' (by decide) _)
  · exact decimal

end

theorem writeInteger_eq (n : Int) : writeInteger n = sign (n < 0) ++ Nat.toDigits 10 n.natAbs := by
  unfold writeInteger sign
  by_cases negative : n < 0 <;> simp [negative]

theorem readNumber_integer {n : Int} (fits : isInteger n = true) {rest : List Char}
    (ends : Ends rest) : readNumber (writeInteger n ++ rest) = some (.integer n, rest) := by
  have whole := Json.whole_toDigits n.natAbs
  have value : signed (n < 0) n.natAbs = n := by
    simp only [signed, decide_eq_true_eq]
    split <;> omega
  rw [writeInteger_eq, List.append_assoc, readNumber, readMoment_append whole _ ends.delimits,
    readFiniteFloat_integer whole _ ends, readNamedFloat_append whole,
    readInteger_append whole _ ends.delimits, Nat.ofDigitChars_ten_toDigits, value]
  simp [integerValue, fits]

theorem readFiniteFloat_spread {x : Binary64} (nonneg : x.negative = false)
    (finite : x.isInfinite = false) {d : Decimal} {whole fraction : List Char}
    (spread : d.Spread whole fraction) (value : Binary64.ofDecimal d = x) {rest : List Char}
    (ends : Ends rest) :
    readFiniteFloat (whole ++ ('.' :: fraction ++ rest)) = some (.float x, rest) := by
  have point : Delimits ('.' :: fraction ++ rest) := by
    intro c hc
    obtain rfl := Option.some.inj hc
    exact List.mem_cons_self
  have start := readSign_append spread.front false ('.' :: fraction ++ rest)
  simp only [sign, Bool.false_eq_true, if_false, List.nil_append] at start
  have behind : readFraction ('.' :: fraction ++ rest) = some (fraction, rest) :=
    readDigits_append spread.behind ends.delimits
  have plain : withSign false x = x := by
    cases x
    exact congrArg (Binary64.mk · _ _) nonneg.symm
  have number := spread.value.trans value
  simp only [readFiniteFloat, start, readDecimalDigits_append spread.front point, behind,
    readExponent_ends ends, Option.bind_eq_bind, Option.bind_some, Int.zero_sub, number, finite]
  rw [if_neg]
  · simp [plain]
  · simp only [List.cons_append, List.length_cons, List.length_append]
    omega

section

variable {x : Binary64} (nonneg : x.negative = false) (pos : 0 < x.magnitude)
  (finite : x.magnitude < Binary64.infiniteMagnitude)
include nonneg pos finite

theorem writeFloat_eq :
    writeFloat x = x.shortest.positional.1 ++ '.' :: x.shortest.places := by
  have number : x.isNaN = false := by simp [Binary64.isNaN, Nat.le_of_lt finite]
  have bounded : x.isInfinite = false := by simp [Binary64.isInfinite, Nat.ne_of_lt finite]
  have nonzero : x.isZero = false := by simp [Binary64.isZero, Nat.ne_of_gt pos]
  simp [writeFloat, writeMagnitude, Decimal.places, number, bounded, nonzero, nonneg]

theorem spread_shortest : x.shortest.Spread x.shortest.positional.1 x.shortest.places := by
  refine Decimal.spread_positional fun zero => ?_
  have value := Binary64.ofDecimal_shortest nonneg pos finite
  rw [Binary64.ofDecimal, if_pos (Or.inl zero)] at value
  rw [← value] at pos
  cases pos

theorem readNumber_float {rest : List Char} (ends : Ends rest) :
    readNumber (writeFloat x ++ rest) = some (.float x, rest) := by
  have bounded : x.isInfinite = false := by simp [Binary64.isInfinite, Nat.ne_of_lt finite]
  have value := Binary64.ofDecimal_shortest nonneg pos finite
  have spread := spread_shortest nonneg pos finite
  have point : Delimits ('.' :: x.shortest.places ++ rest) := by
    intro c hc
    obtain rfl := Option.some.inj hc
    exact List.mem_cons_self
  have moment := readMoment_append spread.front false point
  simp only [sign, Bool.false_eq_true, if_false, List.nil_append] at moment
  rw [writeFloat_eq nonneg pos finite, List.append_assoc, readNumber, moment,
    readFiniteFloat_spread nonneg bounded spread value ends]
  rfl

end

end Toml

end Briefing
