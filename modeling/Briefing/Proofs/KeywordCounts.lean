import Briefing.Proofs.FirstOccurrences
import Briefing.Scoring

namespace Briefing

theorem Text.contains_iff {needle s : String} :
    contains needle s = true ↔ needle.toList <:+: s.toList := by
  rw [contains, occursIn_iff]
  exact exists₂_congr fun _ _ => eq_comm

theorem Binary64.ofRatio_zero (den : Nat) : ofRatio 0 den = zero := by
  have nothing : nearest (0 * unit) den = 0 := by
    simp [nearest, divEven, eq_comm]
  simp only [ofRatio, ofUnits, nothing, Nat.zero_min]
  rfl

namespace Scoring

theorem saturate_zero (saturation : Nat) : saturate 0 saturation = Binary64.zero := by
  have nothing : Binary64.ofNat 0 = Binary64.zero := Binary64.ofRatio_zero 1
  have units : Binary64.units Binary64.zero.magnitude = 0 := rfl
  rw [saturate, nothing, Binary64.divPositive, units, Binary64.ofRatio_zero]
  decide

def occurring (keywords : List String) (e : Entry) : Finset String :=
  (keywords.map Text.lowercase).toFinset.filter fun w =>
    w ≠ "" ∧ w.toList <:+: (Text.lowercase e.content).toList

theorem mem_occurring {keywords : List String} {e : Entry} {w : String} :
    w ∈ occurring keywords e ↔
      (∃ k ∈ keywords, Text.lowercase k = w) ∧
        w ≠ "" ∧ w.toList <:+: (Text.lowercase e.content).toList := by
  rw [occurring, Finset.mem_filter, List.mem_toFinset, List.mem_map]

theorem length_matchedKeywords (keywords : List String) (e : Entry) :
    (matchedKeywords keywords e).length = (occurring keywords e).card := by
  rw [matchedKeywords, length_eraseDups]
  congr 1
  ext w
  rw [mem_occurring, List.mem_toFinset, List.mem_filter, List.mem_map, Bool.and_eq_true,
    Bool.not_eq_true', ← Bool.not_eq_true, String.isEmpty_iff, Text.contains_iff]

theorem relevance_eq (scoring : ScoringSettings) (keywords : List String) (e : Entry) :
    relevance scoring keywords e =
      saturate (occurring keywords e).card scoring.relevanceSaturation := by
  rw [relevance, length_matchedKeywords]
  split
  · rename_i none
    have nothing : occurring keywords e = ∅ := by simp [none, occurring]
    rw [nothing, Finset.card_empty, saturate_zero]
  · rfl

theorem occurring_subset {keywords other : List String} (e : Entry) (part : other ⊆ keywords) :
    occurring other e ⊆ occurring keywords e := by
  intro w hw
  obtain ⟨⟨k, hk, lower⟩, occurs⟩ := mem_occurring.mp hw
  exact mem_occurring.mpr ⟨⟨k, part hk, lower⟩, occurs⟩

theorem occurring_append (keywords other : List String) (e : Entry) :
    occurring (keywords ++ other) e = occurring keywords e ∪ occurring other e := by
  simp only [occurring, List.map_append, List.toFinset_append, Finset.filter_union]

section

variable (before : List String) (k : String) (after : List String) (e : Entry)

theorem occurring_middle :
    occurring (before ++ k :: after) e = occurring [k] e ∪ occurring (before ++ after) e := by
  have alone : k :: after = [k] ++ after := rfl
  rw [alone, occurring_append, occurring_append, occurring_append, Finset.union_left_comm]

theorem card_occurring_single : (occurring [k] e).card ≤ 1 := by
  refine Finset.card_le_one.mpr fun v hv w hw => ?_
  obtain ⟨⟨_, hk, rfl⟩, -⟩ := mem_occurring.mp hv
  obtain ⟨⟨_, hk', rfl⟩, -⟩ := mem_occurring.mp hw
  rw [List.mem_singleton.mp hk, List.mem_singleton.mp hk']

theorem occurring_single_idle
    (idle : k = "" ∨ ¬ (Text.lowercase k).toList <:+: (Text.lowercase e.content).toList) :
    occurring [k] e = ∅ := by
  refine Finset.eq_empty_of_forall_notMem fun w hw => ?_
  obtain ⟨⟨_, hk, rfl⟩, nonempty, occurs⟩ := mem_occurring.mp hw
  rw [List.mem_singleton.mp hk] at nonempty occurs
  rcases idle with rfl | absent
  · exact nonempty rfl
  · exact absent occurs

end

/-- How the relevance of an entry depends on the keywords: only through the number of different ones
that occur, whatever their order, their spelling and how often they are given. -/
structure CountsKeywords (scoring : ScoringSettings) (e : Entry) : Prop where
  counted : ∀ keywords, relevance scoring keywords e =
    ((Binary64.ofNat (occurring keywords e).card).divPositive
      (Binary64.ofNat (max 1 scoring.relevanceSaturation))).lesser Binary64.one
  without : relevance scoring [] e = Binary64.zero
  reordered : ∀ keywords other : List String, other.Perm keywords →
    relevance scoring other e = relevance scoring keywords e
  repeated : ∀ before k after, k ∈ before ++ after →
    relevance scoring (before ++ k :: after) e = relevance scoring (before ++ after) e
  respelled : ∀ before k other after, Text.lowercase other = Text.lowercase k →
    relevance scoring (before ++ other :: after) e = relevance scoring (before ++ k :: after) e
  idle : ∀ before k after,
    k = "" ∨ ¬ (Text.lowercase k).toList <:+: (Text.lowercase e.content).toList →
      relevance scoring (before ++ k :: after) e = relevance scoring (before ++ after) e
  grows : ∀ before k after,
    (occurring (before ++ after) e).card ≤ (occurring (before ++ k :: after) e).card ∧
      (occurring (before ++ k :: after) e).card ≤ (occurring (before ++ after) e).card + 1

theorem relevance_countsKeywords (scoring : ScoringSettings) (e : Entry) :
    CountsKeywords scoring e where
  counted keywords := relevance_eq scoring keywords e
  without := if_pos rfl
  reordered keywords other perm := by
    have same : occurring other e = occurring keywords e :=
      (occurring_subset e perm.subset).antisymm (occurring_subset e perm.symm.subset)
    rw [relevance_eq, relevance_eq, same]
  repeated before k after known := by
    have old : occurring [k] e ⊆ occurring (before ++ after) e :=
      occurring_subset e (List.cons_subset.mpr ⟨known, List.nil_subset _⟩)
    rw [relevance_eq, relevance_eq, occurring_middle, Finset.union_eq_right.mpr old]
  respelled before k other after same := by
    have single : occurring [other] e = occurring [k] e := by
      simp only [occurring, List.map_cons, same]
    rw [relevance_eq, relevance_eq, occurring_middle, occurring_middle before k, single]
  idle before k after idle := by
    rw [relevance_eq, relevance_eq, occurring_middle, occurring_single_idle k e idle,
      Finset.empty_union]
  grows before k after := by
    have single := card_occurring_single k e
    rw [occurring_middle]
    constructor
    · exact Finset.card_le_card Finset.subset_union_right
    · have most := Finset.card_union_le (occurring [k] e) (occurring (before ++ after) e)
      omega

end Scoring

end Briefing
