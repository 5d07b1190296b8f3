import Briefing.Proofs.Trimming
import Briefing.Settings.Overrides
import Mathlib.Data.List.Induction
import Mathlib.Data.Nat.Digits.Defs

namespace Briefing

structure CountText (s : List Char) (v : Nat) : Prop where
  small : v < 2 ^ 64
  digits : ∃ digits, (s = digits ∨ s = '+' :: digits) ∧ digits ≠ [] ∧
    (∀ c ∈ digits, c.isDigit = true) ∧
      Nat.ofDigits 10 (digits.reverse.map fun c => c.toNat - '0'.toNat) = v

theorem ofDigitChars_eq (digits : List Char) :
    Nat.ofDigitChars 10 digits 0 =
      Nat.ofDigits 10 (digits.reverse.map fun c => c.toNat - '0'.toNat) := by
  induction digits using List.reverseRecOn with
  | nil => rfl
  | append_singleton digits c ih =>
      rw [Nat.ofDigitChars_append, ih, List.reverse_append, List.reverse_singleton,
        List.singleton_append, List.map_cons, Nat.ofDigits_cons, Nat.add_comm]
      rfl

theorem readCount_eq_some {s : List Char} {v : Nat} : readCount s = some v ↔ CountText s v := by
  have limit : 1 <<< 64 = 2 ^ 64 := by decide
  unfold readCount
  simp only [limit, ofDigitChars_eq, List.all_eq_true, Option.ite_none_right_eq_some,
    Option.some.injEq]
  constructor
  · rintro ⟨⟨more, decimal, small⟩, rfl⟩
    refine ⟨small, _, ?_, more, decimal, rfl⟩
    split
    · exact Or.inr rfl
    · exact Or.inl rfl
  · rintro ⟨small, digits, rfl | rfl, more, decimal, rfl⟩
    · split
      · exact absurd (decimal '+' List.mem_cons_self) (by decide)
      · exact ⟨⟨more, decimal, small⟩, rfl⟩
    · exact ⟨⟨more, decimal, small⟩, rfl⟩

structure Overrides where
  directory : Option String
  budget : Option String
  deriving DecidableEq, Repr

namespace Overrides

variable {o first second : Overrides} {s : Settings}

def apply (o : Overrides) (s : Settings) : Settings := s.override o.directory o.budget

def NamesDirectory (o : Overrides) (directory : String) : Prop :=
  o.directory = some directory ∧ Text.trim directory.toList ≠ []

def SetsBudget (o : Overrides) (v : Nat) : Prop :=
  ∃ text, o.budget = some text ∧ CountText (Text.trim text.toList) v

theorem effectiveDirectory_eq_some {directory : String} :
    Settings.effectiveDirectory o.directory = some directory ↔ o.NamesDirectory directory := by
  rw [Settings.effectiveDirectory, Option.filter_eq_some_iff, NamesDirectory, Bool.not_eq_true',
    ← Bool.not_eq_true, Text.blankText_iff]

theorem effectiveBudget_eq_some {v : Nat} :
    Settings.effectiveBudget o.budget = some v ↔ o.SetsBudget v := by
  simp only [Settings.effectiveBudget, Option.bind_eq_some_iff, readCount_eq_some, SetsBudget]

theorem exists_namesDirectory :
    (∃ directory, o.NamesDirectory directory) ↔
      (Settings.effectiveDirectory o.directory).isSome = true := by
  simp only [Option.isSome_iff_exists, effectiveDirectory_eq_some]

theorem exists_setsBudget :
    (∃ v, o.SetsBudget v) ↔ (Settings.effectiveBudget o.budget).isSome = true := by
  simp only [Option.isSome_iff_exists, effectiveBudget_eq_some]

instance (o : Overrides) : Decidable (∃ directory, o.NamesDirectory directory) :=
  decidable_of_iff _ exists_namesDirectory.symm

instance (o : Overrides) : Decidable (∃ v, o.SetsBudget v) :=
  decidable_of_iff _ exists_setsBudget.symm

def followedBy (first second : Overrides) : Overrides where
  directory := if ∃ directory, second.NamesDirectory directory then second.directory
    else first.directory
  budget := if ∃ v, second.SetsBudget v then second.budget else first.budget

theorem effect_of_later {α : Type} {effect : Option String → Option α} (earlier : Option String)
    {later : Option String} {told : Prop} [Decidable told]
    (meaning : told ↔ (effect later).isSome = true) :
    effect (if told then later else earlier) = (effect later).or (effect earlier) := by
  split
  · rename_i said
    obtain ⟨x, found⟩ := Option.isSome_iff_exists.mp (meaning.mp said)
    rw [found, Option.some_or]
  · rename_i silent
    rw [Option.not_isSome_iff_eq_none.mp (meaning.not.mp silent), Option.none_or]

theorem apply_apply (s : Settings) (first second : Overrides) :
    second.apply (first.apply s) = (first.followedBy second).apply s := by
  have directory := effect_of_later first.directory (exists_namesDirectory (o := second))
  have budget := effect_of_later first.budget (exists_setsBudget (o := second))
  simp only [apply, Settings.override, followedBy, directory, budget, Option.getD_or]

theorem foldl_apply (s : Settings) (first : Overrides) (later : List Overrides) :
    later.foldl (fun s o => o.apply s) (first.apply s) =
      (later.foldl followedBy first).apply s := by
  induction later generalizing first with
  | nil => rfl
  | cons second later ih => rw [List.foldl_cons, List.foldl_cons, apply_apply, ih]

theorem apply_self (s : Settings) (o : Overrides) : o.apply (o.apply s) = o.apply s := by
  have same : o.followedBy o = o := by simp only [followedBy, ite_self]
  rw [apply_apply, same]

theorem getD_eq_iff {α : Type} {Tells : α → Prop} {effect : Option α}
    (meaning : ∀ x, effect = some x ↔ Tells x) {old x : α} :
    effect.getD old = x ↔ Tells x ∨ (∀ y, ¬ Tells y) ∧ x = old := by
  cases effect with
  | none =>
      have silent : ∀ y, ¬ Tells y := fun y told => by cases (meaning y).mpr told
      simp [silent, eq_comm]
  | some z =>
      simp only [Option.getD_some, ← meaning, Option.some.injEq]
      simp

/-- The last text that says something wins, for each of the two fields, and nothing else changes. -/
structure LastWins : Prop where
  frame : ∀ (o : Overrides) (s : Settings), ∃ directory budget,
    o.apply s = { s with contextDirectory := directory, tokenBudget := budget }
  directory : ∀ (o : Overrides) (s : Settings) (directory : String),
    (o.apply s).contextDirectory = directory ↔
      o.NamesDirectory directory ∨
        (∀ other, ¬ o.NamesDirectory other) ∧ directory = s.contextDirectory
  budget : ∀ (o : Overrides) (s : Settings) (v : Nat),
    (o.apply s).tokenBudget = v ↔
      o.SetsBudget v ∨ (∀ w, ¬ o.SetsBudget w) ∧ v = s.tokenBudget
  composed : ∀ (first second : Overrides) (s : Settings),
    second.apply (first.apply s) = (first.followedBy second).apply s
  repeated : ∀ (o : Overrides) (s : Settings), o.apply (o.apply s) = o.apply s
  run : ∀ (first : Overrides) (later : List Overrides) (s : Settings),
    (first :: later).foldl (fun s o => o.apply s) s = (later.foldl followedBy first).apply s

theorem overrides_last_wins : LastWins where
  frame := fun _ _ => ⟨_, _, rfl⟩
  directory := fun _ _ _ => getD_eq_iff fun _ => effectiveDirectory_eq_some
  budget := fun _ _ _ => getD_eq_iff fun _ => effectiveBudget_eq_some
  composed := fun first second s => apply_apply s first second
  repeated := fun o s => apply_self s o
  run := fun first later s => foldl_apply s first later

example :
    (Overrides.mk (some " docs ") (some "\u2003+0018446744073709551615\n")).apply {} =
        { contextDirectory := " docs ", tokenBudget := 2 ^ 64 - 1 } ∧
      (Overrides.mk (some "\u3000") (some "18446744073709551616")).apply {} = {} := by
  decide +kernel

end Overrides

end Briefing
