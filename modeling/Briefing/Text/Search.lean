namespace Briefing.Text

def occursIn (needle : List Char) : List Char → Bool
  | [] => needle.isEmpty
  | c :: cs => needle.isPrefixOf (c :: cs) || occursIn needle cs

theorem occursIn_iff {needle : List Char} :
    ∀ {s : List Char}, occursIn needle s = true ↔ ∃ u v, s = u ++ needle ++ v := by
  intro s
  induction s with
  | nil => simp [occursIn]
  | cons c cs ih =>
      simp only [occursIn, Bool.or_eq_true, List.isPrefixOf_iff_prefix, ih]
      constructor
      · rintro (⟨v, hv⟩ | ⟨u, v, hv⟩)
        · exact ⟨[], v, by simp [← hv]⟩
        · exact ⟨c :: u, v, by simp [hv]⟩
      · rintro ⟨u, v, h⟩
        cases u with
        | nil => exact Or.inl ⟨v, by simpa using h.symm⟩
        | cons d u =>
            simp only [List.cons_append, List.cons.injEq] at h
            exact Or.inr ⟨u, v, h.2⟩

def contains (needle s : String) : Bool := occursIn needle.toList s.toList

end Briefing.Text
