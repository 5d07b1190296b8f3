namespace Briefing

def sumOver {α : Type} (f : α → Nat) : List α → Nat
  | [] => 0
  | x :: xs => f x + sumOver f xs

theorem sumOver_append {α : Type} (f : α → Nat) (xs ys : List α) :
    sumOver f (xs ++ ys) = sumOver f xs + sumOver f ys := by
  induction xs with
  | nil => simp [sumOver]
  | cons x xs ih => simp [sumOver, ih, Nat.add_assoc]

theorem sumOver_perm {α : Type} (f : α → Nat) {xs ys : List α} (h : xs.Perm ys) :
    sumOver f xs = sumOver f ys := by
  induction h with
  | nil => rfl
  | cons x _ ih => simp [sumOver, ih]
  | swap x y l => simp only [sumOver, Nat.add_left_comm]
  | trans _ _ ih₁ ih₂ => exact ih₁.trans ih₂

theorem sumOver_map {α β : Type} (f : β → Nat) (g : α → β) (xs : List α) :
    sumOver f (xs.map g) = sumOver (fun x => f (g x)) xs := by
  induction xs with
  | nil => rfl
  | cons x xs ih => simp [sumOver, ih]

theorem le_sumOver {α : Type} (f : α → Nat) {x : α} {xs : List α} (h : x ∈ xs) :
    f x ≤ sumOver f xs := by
  induction h with
  | head xs => exact Nat.le_add_right (f x) (sumOver f xs)
  | tail y _ ih => exact Nat.le_trans ih (Nat.le_add_left _ (f y))

def tokens (s : String) : Nat := (s.length + 3) / 4

theorem tokens_pos {s : String} (h : s ≠ "") : 0 < tokens s := by
  have length : s.length ≠ 0 := by simpa using h
  simp only [tokens]
  omega

def totalTokens (items : List String) : Nat := sumOver tokens items

theorem totalTokens_append (xs ys : List String) :
    totalTokens (xs ++ ys) = totalTokens xs + totalTokens ys :=
  sumOver_append tokens xs ys

end Briefing
