import Briefing.Proofs.BlockPartition
import Briefing.Proofs.TextLines

namespace Briefing.Entry

open Text (Whole)

def BlankLines (gap : List String) : Prop := ∀ l ∈ gap, Text.trim l.toList = []

theorem blankLines_of_empty {gap : List String} (empty : ∀ l ∈ gap, l = "") : BlankLines gap := by
  intro l hl
  rw [empty l hl]
  rfl

theorem read?_of_blank {l : String} (blank : Text.trim l.toList = []) : Header.read? l = none := by
  cases read : Header.read? l with
  | none => rfl
  | some h => exact absurd blank (Header.trim_ne_nil read)

theorem marksSuperseded_of_blank {l : String} (blank : Text.trim l.toList = []) :
    marksSuperseded l = false := by
  rw [marksSuperseded, blank]
  rfl

theorem dropBlankTail_cons_congr (l : String) {as bs : List String}
    (same : dropBlankTail as = dropBlankTail bs) :
    dropBlankTail (l :: as) = dropBlankTail (l :: bs) := by
  simp only [dropBlankTail, same]

theorem dropBlankTail_append_blank (as : List String) {gap : List String}
    (blank : BlankLines gap) : dropBlankTail (as ++ gap) = dropBlankTail as := by
  induction as with
  | nil =>
      induction gap with
      | nil => rfl
      | cons l gap ih =>
          have later : dropBlankTail gap = [] := ih fun x hx => blank x (List.mem_cons_of_mem l hx)
          have empty := Text.blankText_iff.mpr (blank l List.mem_cons_self)
          simp only [List.nil_append, dropBlankTail, later, empty, if_true]
  | cons l as ih => exact dropBlankTail_cons_congr l ih

theorem dropBlankTail_idem (ls : List String) :
    dropBlankTail (dropBlankTail ls) = dropBlankTail ls := by
  obtain ⟨tail, split, blank⟩ := dropBlankTail_append ls
  calc dropBlankTail (dropBlankTail ls) = dropBlankTail (dropBlankTail ls ++ tail) :=
        (dropBlankTail_append_blank _ blank).symm
    _ = dropBlankTail ls := by rw [← split]

theorem gather_plain {body : List String} (plain : ∀ x ∈ body, Header.read? x = none) :
    gather body = (body, []) := by
  induction body with
  | nil => rfl
  | cons l body ih =>
      rw [gather_none (plain l List.mem_cons_self), ih fun x hx => plain x (List.mem_cons_of_mem l hx)]

theorem gather_append (as : List String) {bs : List String} (first : (gather bs).1 = []) :
    gather (as ++ bs) = ((gather as).1, (gather as).2 ++ (gather bs).2) := by
  induction as with
  | nil => exact Prod.ext first rfl
  | cons l as ih =>
      cases read : Header.read? l with
      | none => simp only [List.cons_append, gather_none read, ih]
      | some h => simp only [List.cons_append, gather_some read, ih]

theorem gather_append_blank (as : List String) {gap : List String} (blank : BlankLines gap) :
    dropBlankTail (gather (as ++ gap)).1 = dropBlankTail (gather as).1 ∧
      (gather (as ++ gap)).2 = (gather as).2 := by
  induction as with
  | nil =>
      rw [List.nil_append, gather_plain fun l hl => read?_of_blank (blank l hl)]
      exact ⟨dropBlankTail_append_blank [] blank, rfl⟩
  | cons l as ih =>
      obtain ⟨body, entries⟩ := ih
      cases read : Header.read? l with
      | none =>
          simp only [List.cons_append, gather_none read]
          exact ⟨dropBlankTail_cons_congr l body, entries⟩
      | some h => simp only [List.cons_append, gather_some read, body, entries, and_self]

theorem gather_fst_eq_nil {ls : List String} :
    (gather ls).1 = [] ↔ ∀ l ∈ ls.head?, isHeader l = true := by
  rw [gather_fst]
  cases ls with
  | nil => simp
  | cons l ls => simp [List.takeWhile_cons]

theorem gather_block (pre : List String) {l : String} {h : Header} (read : Header.read? l = some h)
    {body post : List String} (plain : ∀ x ∈ body, Header.read? x = none)
    (first : (gather post).1 = []) :
    (gather (pre ++ l :: body ++ post)).2 =
      (gather pre).2 ++ ofLines h (l :: dropBlankTail body) :: (gather post).2 := by
  have block : gather (l :: (body ++ post)) =
      ([], ofLines h (l :: dropBlankTail body) :: (gather post).2) := by
    rw [gather_some read, gather_append body first, gather_plain plain, List.nil_append]
  have opens : (gather (l :: (body ++ post))).1 = [] := by rw [block]
  rw [List.append_assoc, List.cons_append, gather_append pre opens, block]

def Headed (text : String) : Prop := ∃ l ∈ (Text.lines text).head?, isHeader l = true

instance (text : String) : Decidable (Headed text) :=
  decidable_of_iff ((Text.lines text).head?.any isHeader = true)
    (Option.any_eq_true isHeader _)

theorem Headed.gather_fst {text : String} (headed : Headed text) :
    (gather (Text.lines text)).1 = [] := by
  obtain ⟨l, first, header⟩ := headed
  rw [gather_fst_eq_nil]
  intro x hx
  obtain rfl : l = x := Option.mem_unique first hx
  exact header

theorem Headed.whole_append {m : String} (headed : Headed m) (whole : Whole m) (p : String) :
    Whole (p ++ m) := by
  have written : m.toList ≠ [] := by
    intro nothing
    obtain ⟨l, first, -⟩ := headed
    rw [Text.lines, nothing] at first
    cases first
  rw [Whole, String.toList_append, List.getLast?_append_of_ne_nil _ written]
  exact whole

theorem blocks_glue {p t : String} (whole : Whole p) (headed : Headed t) :
    blocks (p ++ "\n" ++ t) = blocks p ++ blocks t := by
  obtain ⟨gap, same, empty⟩ := Text.lines_glue whole t
  have blank := blankLines_of_empty empty
  rw [blocks, same, gather_append _ headed.gather_fst, (gather_append_blank _ blank).2]
  rfl

theorem superseded_of_edit (h : Header) (l : String) (body : List String) :
    (ofLines h (l :: dropBlankTail body)).superseded = true ↔
      ∃ x ∈ l :: body, marksSuperseded x = true := by
  obtain ⟨tail, split, blank⟩ := dropBlankTail_append body
  have quiet : ∀ x ∈ tail, marksSuperseded x = false :=
    fun x hx => marksSuperseded_of_blank (blank x hx)
  have parts : (l :: body).any marksSuperseded =
      ((l :: dropBlankTail body).any marksSuperseded || tail.any marksSuperseded) := by
    rw [← List.any_append, List.cons_append, ← split]
  have none : tail.any marksSuperseded = false := by simpa using quiet
  rw [none, Bool.or_false] at parts
  rw [← List.any_eq_true, parts]
  rfl

structure LocalEdits : Prop where
  glued : ∀ p m q : String, Whole p → Whole m → Headed m → Headed q →
    blocks (p ++ "\n" ++ m ++ "\n" ++ q) = blocks p ++ blocks m ++ blocks q
  appended : ∀ p q : String, Whole p → Headed q →
    blocks (p ++ "\n" ++ q) = blocks p ++ blocks q
  replaced : ∀ (text edited : String) (pre body new post : List String) (l : String) (h : Header),
    Header.read? l = some h → (∀ x ∈ body, Header.read? x = none) →
    (∀ x ∈ new, Header.read? x = none) → (∀ x ∈ post.head?, isHeader x = true) →
    Text.lines text = pre ++ l :: body ++ post → Text.lines edited = pre ++ l :: new ++ post →
    ∃ before after,
      blocks text = before ++ ofLines h (l :: dropBlankTail body) :: after ∧
      blocks edited = before ++ ofLines h (l :: dropBlankTail new) :: after
  marked : ∀ (h : Header) (l : String) (new : List String),
    (ofLines h (l :: dropBlankTail new)).superseded = true ↔
      ∃ x ∈ l :: new, marksSuperseded x = true

theorem blocks_local_edits : LocalEdits where
  glued := by
    intro p m q wholeP wholeM headedM headedQ
    rw [blocks_glue (headedM.whole_append wholeM (p ++ "\n")) headedQ, blocks_glue wholeP headedM]
  appended := fun p q whole headed => blocks_glue whole headed
  replaced := by
    intro text edited pre body new post l h read plain plain' first same same'
    have opens := gather_fst_eq_nil.mpr first
    refine ⟨(gather pre).2, (gather post).2, ?_, ?_⟩
    · rw [blocks, same, gather_block pre read plain opens]
    · rw [blocks, same', gather_block pre read plain' opens]
  marked := superseded_of_edit

theorem blocks_local_edits_superseding :
    let l := "## [2026-02-19-143000] Index"
    let q := "## [2026-02-10-090000] Log"
    let h : Header := ⟨"2026-02-19-143000", "2026-02-19", "Index"⟩
    (Whole "# Log" ∧ Whole l ∧ Headed l ∧ Headed q) ∧
    blocks ("# Log" ++ "\n" ++ l ++ "\n" ++ q) = blocks "# Log" ++ blocks l ++ blocks q ∧
    ∃ before after,
      blocks (l ++ "\n" ++ q) = before ++ ofLines h [l] :: after ∧
      blocks (l ++ "\n~~Superseded~~\n" ++ q) = before ++ ofLines h [l, "~~Superseded~~"] :: after ∧
      (ofLines h [l, "~~Superseded~~"]).superseded = true := by
  intro l q h
  have wholes : Whole "# Log" ∧ Whole l := by decide
  have headed : Headed l ∧ Headed q := by decide +kernel
  obtain ⟨before, after, same, same'⟩ := blocks_local_edits.replaced (l ++ "\n" ++ q)
    (l ++ "\n~~Superseded~~\n" ++ q) [] [] ["~~Superseded~~"] [q] l h (by decide +kernel) (by simp)
    (by decide +kernel) (by decide +kernel) (by decide +kernel) (by decide +kernel)
  have marked := (blocks_local_edits.marked h l ["~~Superseded~~"]).mpr
    ⟨"~~Superseded~~", by simp, by decide⟩
  exact ⟨⟨wholes.1, wholes.2, headed.1, headed.2⟩,
    blocks_local_edits.glued "# Log" l q wholes.1 wholes.2 headed.1 headed.2,
    before, after, same, same', marked⟩

end Briefing.Entry
