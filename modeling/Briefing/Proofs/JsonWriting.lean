import Briefing.Proofs.JsonGrammar
import Mathlib.Data.List.Basic

namespace Briefing.Json

theorem spells_escaped (c : Char) : Spells (escaped c) c := by
  unfold escaped
  split
  · exact Spells.short rfl
  · exact Spells.short rfl
  · exact Spells.short rfl
  · exact Spells.short rfl
  · exact Spells.short rfl
  · exact Spells.short rfl
  · exact Spells.short rfl
  · rename_i quote slash _ _ _ _ _
    split
    · rename_i control
      have high := Text.hexValue_hexDigit (n := c.toNat / 16) (by omega)
      have low := Text.hexValue_hexDigit (n := c.toNat % 16) (by omega)
      have zero : Text.hexValue '0' = some 0 := by decide
      have number : 16 * (c.toNat / 16) + c.toNat % 16 = c.toNat := by omega
      have hex : Hex ['0', '0', Text.hexDigit (c.toNat / 16), Text.hexDigit (c.toNat % 16)]
          c.toNat := by
        refine ⟨rfl, ?_⟩
        simp [Text.hexNumber, zero, high, low, number]
      have unit := Spells.unit hex (by simp [isHighHalf]; omega) (by simp [isLowHalf]; omega)
      rwa [Char.ofNat_toNat] at unit
    · rename_i printable
      exact Spells.plain (Nat.le_of_not_lt printable) quote slash

theorem spelled_escaped (cs : List Char) : Spelled (cs.flatMap escaped) cs := by
  induction cs with
  | nil => exact Spelled.nil
  | cons c cs ih => exact Spelled.cons (spells_escaped c) ih

theorem isText_quoted (s : String) : IsText (quoted s) s := IsText.mk (spelled_escaped s.toList)

theorem digits_toDigits (n : Nat) : Digits (Nat.toDigits 10 n) :=
  ⟨Nat.toDigits_ne_nil, fun _ hc => Nat.isDigit_of_mem_toDigits (by decide) (by decide) hc⟩

theorem head_toDigits {n : Nat} (h : n ≠ 0) : (Nat.toDigits 10 n).head? ≠ some '0' := by
  induction n using Nat.strongRecOn with
  | _ n ih =>
      by_cases small : n < 10
      · rw [Nat.toDigits_of_lt_base small]
        have all : ∀ k < 10, k ≠ 0 → [k.digitChar].head? ≠ some '0' := by decide
        exact all n small h
      · rw [Nat.toDigits_of_base_le (by decide) (Nat.le_of_not_lt small),
          List.head?_append_of_ne_nil _ Nat.toDigits_ne_nil]
        exact ih (n / 10) (by omega) (by omega)

theorem whole_toDigits (n : Nat) : Whole (Nat.toDigits 10 n) := by
  by_cases zero : n = 0
  · rw [zero]
    exact Whole.zero
  · exact Whole.digits (digits_toDigits n) (head_toDigits zero)

theorem intText_eq (n : Int) : intText n = sign (n < 0) ++ Nat.toDigits 10 n.natAbs := by
  unfold intText sign
  split <;> simp_all

theorem signedDigits_toDigits (n : Int) :
    signedDigits (n < 0) (Nat.toDigits 10 n.natAbs) = n := by
  by_cases negative : n < 0
  · simp only [signedDigits, Nat.ofDigitChars_ten_toDigits, negative, decide_true, if_true]
    omega
  · simp only [signedDigits, Nat.ofDigitChars_ten_toDigits, negative, decide_false,
      Bool.false_eq_true, if_false]
    omega

theorem exponent_intText (n : Int) : Exponent ('e' :: intText n) n := by
  have digits := digits_toDigits n.natAbs
  have value := signedDigits_toDigits n
  rw [intText_eq]
  cases negative : decide (n < 0) with
  | true =>
      have marked := Exponent.minus (Or.inl rfl : 'e' = 'e' ∨ 'e' = 'E') digits
      rwa [← negative, value] at marked
  | false =>
      have marked := Exponent.unsigned (Or.inl rfl : 'e' = 'e' ∨ 'e' = 'E') digits
      rwa [← negative, value] at marked

theorem isNumber_numberText (m e : Int) : IsNumber (numberText m e) (.number m e) := by
  have whole := whole_toDigits m.natAbs
  have before {x : List Char} (h : Exponent x e) : IsNumber (intText m ++ x) (.number m e) := by
    have number := @IsNumber.mk (m < 0) _ [] [] x e whole Fraction.absent h
    rwa [List.append_nil, List.append_nil, signedDigits_toDigits, ← intText_eq, List.length_nil,
      Int.natCast_zero, Int.sub_zero] at number
  unfold numberText
  split
  · rename_i zero
    have whole := before (zero ▸ Exponent.absent)
    rwa [List.append_nil] at whole
  · exact before (exponent_intText e)

structure Layout.Spaced (l : Layout) : Prop where
  inner : ∀ depth, Gap (l.inner depth)
  outer : ∀ depth, Gap (l.outer depth)
  colon : ∃ a b, l.colon = a ++ ':' :: b ∧ Gap a ∧ Gap b

theorem gap_nil : Gap [] := fun _ hc => absurd hc List.not_mem_nil

theorem gap_newline (depth : Nat) : Gap (newline depth) := by
  intro c hc
  rcases List.mem_cons.mp hc with rfl | space
  · decide
  · rw [List.eq_of_mem_replicate space]
    decide

theorem spaced_pretty : pretty.Spaced where
  inner := fun depth => gap_newline (depth + 1)
  outer := gap_newline
  colon := ⟨[], [' '], rfl, gap_nil, by simp [Gap, isGap]⟩

def fieldText (l : Layout) (depth : Nat) (f : String × Json) : List Char :=
  quoted f.1 ++ l.colon ++ write l (depth + 1) f.2

theorem writeItems_eq (l : Layout) (depth : Nat) (items : List Json) :
    writeItems l depth items =
      items.flatMap fun x => ',' :: l.inner depth ++ write l (depth + 1) x := by
  induction items with
  | nil => rfl
  | cons item items ih => rw [writeItems, ih, List.flatMap_cons]

theorem writeFields_eq (l : Layout) (depth : Nat) (fs : List (String × Json)) :
    writeFields l depth fs = fs.flatMap fun f => ',' :: l.inner depth ++ fieldText l depth f := by
  induction fs with
  | nil => rfl
  | cons f fs ih =>
      rw [writeFields, ih, List.flatMap_cons]
      simp only [fieldText, List.append_assoc]

theorem parts_flatMap {α : Type} {part : List Char → α → Prop} {text : α → List Char}
    {a b : List Char} (before : Gap a) (after : Gap b) {x : α} {xs : List α}
    (each : ∀ y ∈ x :: xs, part (text y) y) :
    Parts part (a ++ text x ++ (xs.flatMap fun y => ',' :: a ++ text y) ++ b) (x :: xs) := by
  have first := each x List.mem_cons_self
  induction xs generalizing x with
  | nil => simpa using Parts.last before first after
  | cons y ys ih =>
      have later : ∀ z ∈ y :: ys, part (text z) z := fun z hz => each z (List.mem_cons_of_mem x hz)
      have rest := ih later (later y List.mem_cons_self)
      simpa using Parts.more before first gap_nil rest

theorem field_fieldText {l : Layout} (spaced : l.Spaced) {depth : Nat} {f : String × Json}
    (h : Denotes (write l (depth + 1) f.2) f.2) : Field Denotes (fieldText l depth f) f := by
  obtain ⟨a, b, colon, before, after⟩ := spaced.colon
  have field := Field.mk (isText_quoted f.1) before after h
  simpa [fieldText, colon] using field

theorem denotes_write {l : Layout} (spaced : l.Spaced) (depth : Nat) (j : Json) :
    Denotes (write l depth j) j := by
  cases j with
  | null =>
      rw [write]
      exact Denotes.null
  | bool b =>
      rw [write]
      cases b with
      | true => exact Denotes.yes
      | false => exact Denotes.no
  | number m e =>
      rw [write]
      exact Denotes.number (isNumber_numberText m e)
  | text s =>
      rw [write]
      exact Denotes.text (isText_quoted s)
  | array items =>
      cases items with
      | nil =>
          rw [write]
          exact Denotes.noItems gap_nil
      | cons item items =>
          have each : ∀ x ∈ item :: items, Denotes (write l (depth + 1) x) x :=
            fun x hx => denotes_write spaced (depth + 1) x
          have parts := parts_flatMap (spaced.inner depth) (spaced.outer depth) each
          rw [write, writeItems_eq]
          simpa using Denotes.items parts
  | object fields =>
      cases fields with
      | nil =>
          rw [write]
          exact Denotes.noFields gap_nil
      | cons f fs =>
          have each : ∀ x ∈ f :: fs, Field Denotes (fieldText l depth x) x :=
            fun x hx => field_fieldText spaced (denotes_write spaced (depth + 1) x.2)
          have parts := parts_flatMap (spaced.inner depth) (spaced.outer depth) each
          rw [write, writeFields_eq]
          simpa [fieldText] using Denotes.fields parts
termination_by sizeOf j
decreasing_by
  · have small := List.sizeOf_lt_of_mem hx
    simp only [array.sizeOf_spec]
    omega
  · have small := List.sizeOf_lt_of_mem hx
    have value : sizeOf x.2 < sizeOf x := by
      cases x
      simp only [Prod.mk.sizeOf_spec]
      omega
    simp only [object.sizeOf_spec]
    omega

theorem reads_prettyText (j : Json) : Reads j.prettyText j :=
  ⟨[], write pretty 0 j, [], by simp [prettyText], gap_nil, denotes_write spaced_pretty 0 j, gap_nil⟩

end Briefing.Json
