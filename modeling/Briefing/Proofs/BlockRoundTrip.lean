import Briefing.Proofs.BlockEdits

namespace Briefing.Entry

open Text (OneLine Whole feeds)

def Stable (e : Entry) : Prop := gather e.lines = ([], [e])

theorem stable_of_mem_gather {ls : List String} {e : Entry} (he : e ∈ (gather ls).2) :
    Stable e := by
  induction ls with
  | nil => cases he
  | cons l ls ih =>
      cases read : Header.read? l with
      | none =>
          rw [gather_none read] at he
          exact ih he
      | some h =>
          rw [gather_some read] at he
          rcases List.mem_cons.mp he with rfl | later
          · obtain ⟨tail, split, -⟩ := dropBlankTail_append (gather ls).1
            obtain ⟨rest, -, plain⟩ := gather_prefix ls
            have inside : ∀ x ∈ dropBlankTail (gather ls).1, Header.read? x = none := by
              intro x hx
              exact plain x (split ▸ List.mem_append_left tail hx)
            change gather (l :: dropBlankTail (gather ls).1) = _
            rw [gather_some read, gather_plain inside, dropBlankTail_idem]
          · exact ih later

theorem mem_of_mem_gather {ls : List String} {e : Entry} (he : e ∈ (gather ls).2) {l : String}
    (hl : l ∈ e.lines) : l ∈ ls := by
  obtain ⟨i, found⟩ := List.mem_iff_getElem?.mp he
  obtain ⟨start, next, stop, -, -, block⟩ := exists_block [] ls found
  rw [List.nil_append] at block
  rw [block.lines] at hl
  exact List.mem_of_mem_take (List.mem_of_mem_drop hl)

theorem Stable.lines_ne_nil {e : Entry} (stable : Stable e) : e.lines ≠ [] := by
  intro nothing
  rw [Stable, nothing] at stable
  cases stable

structure Legible (e : Entry) : Prop where
  stable : Stable e
  lines : ∀ l ∈ e.lines, OneLine l

theorem legible_of_mem_blocks {text : String} (whole : ∀ l ∈ Text.lines text, Whole l) {e : Entry}
    (he : e ∈ blocks text) : Legible e where
  stable := stable_of_mem_gather he
  lines := by
    intro l hl
    have listed := mem_of_mem_gather he hl
    exact ⟨Text.no_feed_of_mem_lines listed, whole l listed⟩

def written (es : List Entry) (ends : List Nat) : String :=
  String.join (List.zipWith (fun e n => e.content ++ feeds n) es ends)

theorem written_cons (e : Entry) (n : Nat) (es : List Entry) (ends : List Nat) :
    written (e :: es) (n :: ends) = e.content ++ feeds n ++ written es ends := by
  rw [written, List.zipWith_cons_cons, String.join_cons]
  rfl

theorem lines_content_append {e : Entry} (legible : Legible e) (n : Nat) (t : String) :
    Text.lines (e.content ++ feeds (n + 1) ++ t) =
      e.lines ++ List.replicate n "" ++ Text.lines t := by
  have one : feeds (n + 1) = "\n" ++ feeds n := by
    apply String.toList_injective
    simp [feeds, List.replicate_succ]
  have split : e.content ++ feeds (n + 1) ++ t =
      Text.unlines e.lines ++ "\n" ++ (feeds n ++ t) := by
    simp only [content, one, String.append_assoc]
  rw [split, Text.lines_unlines_append legible.stable.lines_ne_nil legible.lines,
    Text.lines_feeds_append, List.append_assoc]

theorem gather_written {es : List Entry} (legible : ∀ e ∈ es, Legible e) {ends : List Nat}
    (count : ends.length = es.length) (apart : ∀ n ∈ ends, 0 < n) :
    gather (Text.lines (written es ends)) = ([], es) := by
  induction es generalizing ends with
  | nil => simp [written, Text.lines, Text.linesFrom, gather]
  | cons e es ih =>
      obtain ⟨n, ends, rfl⟩ := List.exists_cons_of_length_eq_add_one count
      obtain ⟨k, rfl⟩ := Nat.exists_eq_add_one_of_ne_zero
        (Nat.ne_of_gt (apart n List.mem_cons_self))
      have first := legible e List.mem_cons_self
      have rest := ih (fun x hx => legible x (List.mem_cons_of_mem e hx))
        (Nat.add_right_cancel count) fun m hm => apart m (List.mem_cons_of_mem _ hm)
      have blank : BlankLines (List.replicate k "") :=
        blankLines_of_empty fun l hl => List.eq_of_mem_replicate hl
      have opens : (gather (Text.lines (written es ends))).1 = [] := by rw [rest]
      have body : (gather (e.lines ++ List.replicate k "")).1 = [] := by
        have own : (gather e.lines).1 = [] := by rw [first.stable]
        rw [gather_fst_eq_nil, List.head?_append_of_ne_nil _ first.stable.lines_ne_nil]
        exact gather_fst_eq_nil.mp own
      rw [written_cons, lines_content_append first, gather_append _ opens, body,
        (gather_append_blank _ blank).2, first.stable, rest]
      rfl

theorem blocks_written {text : String} (whole : ∀ l ∈ Text.lines text, Whole l) {ends : List Nat}
    (count : ends.length = (blocks text).length) (apart : ∀ n ∈ ends, 0 < n) :
    blocks (written (blocks text) ends) = blocks text := by
  have legible : ∀ e ∈ blocks text, Legible e := fun e he => legible_of_mem_blocks whole he
  have read := gather_written legible count apart
  change (gather (Text.lines (written (blocks text) ends))).2 = blocks text
  rw [read]

theorem blocks_written_apart :
    let text := "# Log\n## [2026-02-19-143000] Index \n~~Superseded~~\n\n## [2026-02-10-090000] Log\nA\rB\n"
    ((∀ l ∈ Text.lines text, Whole l) ∧ [1, 3].length = (blocks text).length ∧
      ∀ n ∈ [1, 3], 0 < n) ∧
    blocks (written (blocks text) [1, 3]) = blocks text := by
  intro text
  have whole : ∀ l ∈ Text.lines text, Whole l := by decide +kernel
  have count : [1, 3].length = (blocks text).length := by decide +kernel
  exact ⟨⟨whole, count, by decide⟩, blocks_written whole count (by decide)⟩

end Briefing.Entry
