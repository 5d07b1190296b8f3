import Briefing.Entry.Blocks
import Briefing.Proofs.Trimming
import Mathlib.Data.List.Basic

namespace Briefing

theorem Header.trim_ne_nil {l : String} {h : Header} (read : Header.read? l = some h) :
    Text.trim l.toList ≠ [] := by
  intro blank
  have nothing : Text.trimEnd l.toList = [] :=
    Text.trimEnd_eq_nil_iff.mpr (Text.trim_eq_nil_iff.mp blank)
  have unopened : opening.isPrefixOf? ([] : List Char) = none := by decide
  rw [Header.read?, nothing, unopened] at read
  cases read

namespace Entry

theorem dropBlankTail_append (ls : List String) :
    ∃ tail, ls = dropBlankTail ls ++ tail ∧ ∀ l ∈ tail, Text.trim l.toList = [] := by
  induction ls with
  | nil => exact ⟨[], rfl, by simp⟩
  | cons l ls ih =>
      obtain ⟨tail, same, blank⟩ := ih
      rw [dropBlankTail]
      split
      · rename_i nothing
        rw [nothing] at same
        split
        · rename_i empty
          refine ⟨l :: tail, by rw [same]; rfl, ?_⟩
          intro x hx
          rcases List.mem_cons.mp hx with rfl | hx
          · exact Text.blankText_iff.mp empty
          · exact blank x hx
        · exact ⟨tail, by rw [same]; rfl, blank⟩
      · exact ⟨tail, congrArg (l :: ·) same, blank⟩

theorem last_dropBlankTail (ls : List String) :
    ∀ l ∈ (dropBlankTail ls).getLast?, Text.trim l.toList ≠ [] := by
  induction ls with
  | nil => simp [dropBlankTail]
  | cons l ls ih =>
      rw [dropBlankTail]
      split
      · split
        · simp
        · rename_i written
          intro x hx
          obtain rfl : l = x := by simpa using hx
          exact fun blank => written (Text.blankText_iff.mpr blank)
      · rename_i kept written
        cases kept : dropBlankTail ls with
        | nil => exact absurd kept written
        | cons x xs =>
            rw [kept] at ih
            intro y hy
            exact ih y (by simpa using hy)

def isHeader (l : String) : Bool := (Header.read? l).isSome

theorem gather_none {l : String} (read : Header.read? l = none) (ls : List String) :
    gather (l :: ls) = (l :: (gather ls).1, (gather ls).2) := by
  simp only [gather, read]

theorem gather_some {l : String} {h : Header} (read : Header.read? l = some h) (ls : List String) :
    gather (l :: ls) =
      ([], ofLines h (l :: dropBlankTail (gather ls).1) :: (gather ls).2) := by
  simp only [gather, read]

theorem gather_fst (ls : List String) : (gather ls).1 = ls.takeWhile fun l => !isHeader l := by
  induction ls with
  | nil => rfl
  | cons l ls ih =>
      cases read : Header.read? l with
      | none => simp [gather_none read, isHeader, read, ih]
      | some h => simp [gather_some read, isHeader, read]

/-- Line `start` is the header of the entry, line `stop` is the first that is not in it, and from
there to line `next` all lines are blank. -/
structure Block (ls : List String) (start next : Nat) (e : Entry) (stop : Nat) : Prop where
  after : start < stop
  before : stop ≤ next
  header : ls[start]?.bind Header.read? = some e.header
  lines : e.lines = (ls.take stop).drop start
  last_written : ∃ l, ls[stop - 1]? = some l ∧ Text.trim l.toList ≠ []
  rest_blank : ∀ i, stop ≤ i → i < next → ∃ l, ls[i]? = some l ∧ Text.trim l.toList = []
  superseded : e.superseded = true ↔ ∃ l ∈ e.lines, supersededMark <+: Text.trim l.toList
  body : ∀ l ∈ e.lines.tail, Header.read? l = none

theorem superseded_ofLines (h : Header) (ls : List String) :
    (ofLines h ls).superseded = true ↔ ∃ l ∈ ls, supersededMark <+: Text.trim l.toList := by
  simp [ofLines, marksSuperseded, List.any_eq_true]

theorem block_of_append {l : String} {h : Header} (read : Header.read? l = some h)
    (pre kept tail rest : List String) (last : ∀ x ∈ kept.getLast?, Text.trim x.toList ≠ [])
    (blank : ∀ x ∈ tail, Text.trim x.toList = []) (plain : ∀ x ∈ kept, Header.read? x = none) :
    Block (pre ++ l :: kept ++ (tail ++ rest)) pre.length
      ((pre ++ l :: kept).length + tail.length) (ofLines h (l :: kept))
      (pre ++ l :: kept).length where
  after := by simp
  before := Nat.le_add_right _ _
  header := by simpa [ofLines] using read
  lines := by
    rw [List.take_left, List.drop_left]
    rfl
  last_written := by
    have final : (pre ++ l :: kept)[(pre ++ l :: kept).length - 1]? =
        some (kept.getLast?.getD l) := by
      rw [← List.getLast?_eq_getElem?, List.getLast?_append, List.getLast?_cons]
      rfl
    refine ⟨kept.getLast?.getD l, ?_, ?_⟩
    · rw [List.getElem?_append_left (by simp), final]
    · cases found : kept.getLast? with
      | none => exact Header.trim_ne_nil read
      | some x => exact last x found
  rest_blank := by
    intro i from_stop below
    have inside : i - (pre ++ l :: kept).length < tail.length := by omega
    refine ⟨tail[i - (pre ++ l :: kept).length], ?_, blank _ (List.getElem_mem inside)⟩
    rw [List.getElem?_append_right from_stop, List.getElem?_append_left inside,
      List.getElem?_eq_getElem inside]
  superseded := superseded_ofLines h (l :: kept)
  body := plain

def headerPlaces (start : Nat) (ls : List String) : List Nat := ls.findIdxs isHeader start

theorem headerPlaces_none {l : String} (read : Header.read? l = none) (start : Nat)
    (ls : List String) : headerPlaces start (l :: ls) = headerPlaces (start + 1) ls := by
  simp [headerPlaces, List.findIdxs_cons, isHeader, read]

theorem headerPlaces_some {l : String} {h : Header} (read : Header.read? l = some h) (start : Nat)
    (ls : List String) : headerPlaces start (l :: ls) = start :: headerPlaces (start + 1) ls := by
  simp [headerPlaces, List.findIdxs_cons, isHeader, read]

theorem first_headerPlace (start : Nat) (ls : List String) :
    (headerPlaces start ls ++ [start + ls.length])[0]? =
      some (start + (gather ls).1.length) := by
  induction ls generalizing start with
  | nil => rfl
  | cons l ls ih =>
      cases read : Header.read? l with
      | none =>
          simpa only [headerPlaces_none read, gather_none read, List.length_cons, Nat.add_assoc,
            Nat.add_comm 1] using ih (start + 1)
      | some h =>
          rw [headerPlaces_some read, gather_some read]
          rfl

theorem length_gather (start : Nat) (ls : List String) :
    (gather ls).2.length = (headerPlaces start ls).length := by
  induction ls generalizing start with
  | nil => rfl
  | cons l ls ih =>
      cases read : Header.read? l with
      | none => rw [gather_none read, headerPlaces_none read, ih (start + 1)]
      | some h =>
          rw [gather_some read, headerPlaces_some read, List.length_cons, List.length_cons,
            ih (start + 1)]

theorem gather_prefix (ls : List String) :
    ∃ rest, ls = (gather ls).1 ++ rest ∧ ∀ l ∈ (gather ls).1, Header.read? l = none := by
  rw [gather_fst]
  refine ⟨ls.dropWhile fun l => !isHeader l, List.takeWhile_append_dropWhile.symm, ?_⟩
  intro l hl
  simpa [isHeader] using List.mem_takeWhile_imp hl

-- The lines already read stay in front, so that places are counted from the start of the text.
theorem exists_block (pre ls : List String) {i : Nat} {e : Entry}
    (found : (gather ls).2[i]? = some e) :
    ∃ start next stop, (headerPlaces pre.length ls)[i]? = some start ∧
      (headerPlaces pre.length ls ++ [pre.length + ls.length])[i + 1]? = some next ∧
      Block (pre ++ ls) start next e stop := by
  induction ls generalizing pre i with
  | nil => cases found
  | cons l ls ih =>
      have moved : pre ++ l :: ls = pre ++ [l] ++ ls := by simp
      have width : (pre ++ [l]).length = pre.length + 1 := by simp
      have total : pre.length + (l :: ls).length = pre.length + 1 + ls.length := by
        rw [List.length_cons]
        omega
      cases read : Header.read? l with
      | none =>
          rw [gather_none read] at found
          rw [headerPlaces_none read, moved, total, ← width]
          exact ih (pre ++ [l]) found
      | some h =>
          rw [gather_some read] at found
          rw [headerPlaces_some read, total]
          cases i with
          | zero =>
              obtain ⟨rest, same, plain⟩ := gather_prefix ls
              obtain ⟨tail, split, blank⟩ := dropBlankTail_append (gather ls).1
              obtain rfl : ofLines h (l :: dropBlankTail (gather ls).1) = e := by simpa using found
              have last := last_dropBlankTail (gather ls).1
              generalize dropBlankTail (gather ls).1 = kept at split last ⊢
              have whole : pre ++ l :: kept ++ (tail ++ rest) = pre ++ l :: ls := by
                rw [List.append_assoc, List.cons_append, ← List.append_assoc kept, ← split, ← same]
              have next : pre.length + 1 + (gather ls).1.length =
                  (pre ++ l :: kept).length + tail.length := by
                rw [split]
                simp only [List.length_append, List.length_cons]
                omega
              have inside : ∀ x ∈ kept, Header.read? x = none := by
                intro x hx
                exact plain x (split ▸ List.mem_append_left tail hx)
              refine ⟨pre.length, _, _, rfl, ?_,
                whole ▸ block_of_append read pre kept tail rest last blank inside⟩
              rw [← next]
              exact first_headerPlace (pre.length + 1) ls
          | succ i =>
              rw [moved, ← width]
              exact ih (pre ++ [l]) found

theorem gather_restored (ls : List String) :
    ∃ gaps : List (List String), gaps.length = (gather ls).2.length ∧
      (∀ gap ∈ gaps, ∀ l ∈ gap, Text.trim l.toList = []) ∧
      (gather ls).1 ++ (List.zipWith (fun e gap => e.lines ++ gap) (gather ls).2 gaps).flatten =
        ls := by
  induction ls with
  | nil => exact ⟨[], rfl, by simp, rfl⟩
  | cons l ls ih =>
      obtain ⟨gaps, count, blank, same⟩ := ih
      cases read : Header.read? l with
      | none =>
          rw [gather_none read]
          exact ⟨gaps, count, blank, congrArg (l :: ·) same⟩
      | some h =>
          obtain ⟨tail, split, empty⟩ := dropBlankTail_append (gather ls).1
          rw [gather_some read]
          refine ⟨tail :: gaps, by simp [count], ?_, ?_⟩
          · intro gap hgap
            rcases List.mem_cons.mp hgap with rfl | later
            · exact empty
            · exact blank gap later
          · rw [List.zipWith_cons_cons, List.flatten_cons, ofLines, List.cons_append, ← split,
              List.nil_append, List.cons_append, same]

/-- The entries of a text, block by block, and the text put together from them again. -/
structure Partitioned (ls : List String) (es : List Entry) : Prop where
  count : es.length = (headerPlaces 0 ls).length
  blocks : ∀ i e, es[i]? = some e →
    ∃ start next stop, (headerPlaces 0 ls)[i]? = some start ∧
      (headerPlaces 0 ls ++ [ls.length])[i + 1]? = some next ∧ Block ls start next e stop
  restored : ∃ gaps : List (List String), gaps.length = es.length ∧
    (∀ gap ∈ gaps, ∀ l ∈ gap, Text.trim l.toList = []) ∧
    (ls.takeWhile fun l => !isHeader l) ++
      (List.zipWith (fun e gap => e.lines ++ gap) es gaps).flatten = ls

theorem blocks_partitioned (text : String) : Partitioned (Text.lines text) (blocks text) where
  count := length_gather 0 (Text.lines text)
  blocks := by
    intro i e found
    have h := exists_block [] (Text.lines text) found
    simpa using h
  restored := by
    rw [← gather_fst]
    exact gather_restored (Text.lines text)

end Entry

end Briefing
