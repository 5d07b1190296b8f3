import Briefing.Proofs.ItemSections
import Briefing.Proofs.SourceTexts

namespace Briefing

namespace Text

theorem trim_concat {c : Char} (blank : isBlank c = true) (s : List Char) :
    trim (s ++ [c]) = trim s := by
  rw [trim, trim, trimStart, trimStart, List.dropWhile_append]
  split
  · rename_i all
    have only : [c].dropWhile isBlank = [] := List.dropWhile_cons_of_pos blank
    rw [only, List.isEmpty_iff.mp all]
  · rw [trimEnd, List.reverse_append, List.reverse_singleton, List.singleton_append,
      List.dropWhile_cons_of_pos blank, ← trimEnd]

theorem trim_closeLine (line : List Char) : trim (closeLine line) = trim line.reverse := by
  unfold closeLine
  split
  · rename_i line
    rw [List.reverse_cons, trim_concat (by decide)]
  · rfl

theorem infix_trim (s : List Char) : trim s <:+: s :=
  (prefix_trimEnd (trimStart s)).isInfix.trans (List.dropWhile_suffix isBlank).isInfix

end Text

namespace Items

/-- A reader of lines that finds nothing in an empty one, and else a part of the line without white
space at its ends. -/
structure Excerpts (read : List Char → Option String) : Prop where
  nothing : read [] = none
  tight : ∀ line s, Text.Tight line → read line = some s → Text.Tight s.toList
  part : ∀ line s, read line = some s → s.toList <:+: line

theorem excerpts_textAfter {marks : List (List Char)} (marked : [] ∉ marks) :
    Excerpts (textAfter marks) where
  nothing := by
    have unmarked : marks.findSome? (·.isPrefixOf? []) = none := by
      rw [List.findSome?_eq_none_iff]
      intro mark listed
      cases mark with
      | nil => exact absurd listed marked
      | cons => rfl
    rw [textAfter, unmarked]
  tight := by
    intro line s _ h
    obtain ⟨mark, -, rest, -, text, -⟩ := textAfter_eq_some h
    rw [text]
    exact Text.tight_trim rest
  part := by
    intro line s h
    obtain ⟨mark, -, rest, same, text, -⟩ := textAfter_eq_some h
    rw [text, ← same]
    exact (Text.infix_trim rest).trans (List.suffix_append mark rest).isInfix

theorem excerpts_taskText : Excerpts taskText where
  nothing := by decide
  tight := by
    intro line s tight h
    obtain ⟨-, same⟩ := Option.ite_none_right_eq_some.mp h
    rwa [← Option.some.inj same, String.toList_ofList]
  part := by
    intro line s h
    obtain ⟨-, same⟩ := Option.ite_none_right_eq_some.mp h
    have whole : s.toList = line := by rw [← Option.some.inj same, String.toList_ofList]
    exact whole ▸ List.infix_rfl

theorem excerpts_bulletText : Excerpts bulletText := excerpts_textAfter (by decide)

theorem excerpts_ruleText : Excerpts ruleText where
  nothing := by decide
  tight := by
    intro line s tight h
    unfold ruleText at h
    split at h
    · exact (excerpts_textAfter (by decide)).tight line s tight h
    · exact excerpts_bulletText.tight line s tight h
  part := by
    intro line s h
    unfold ruleText at h
    split at h
    · exact (excerpts_textAfter (by decide)).part line s h
    · exact excerpts_bulletText.part line s h

def boxes : List String := ["- [ ]", "- [x]", "- [X]"]

def dashes : List String := ["- ", "* "]

def Starts (marks : List String) (l : String) : Prop :=
  ∃ mark ∈ marks, ∃ rest, Text.trimmed l = mark ++ rest

def After (marks : List String) (l i : String) : Prop :=
  i ≠ "" ∧ ∃ mark ∈ marks, ∃ rest, Text.trimmed l = mark ++ rest ∧ i = Text.trimmed rest

def IsTask (l i : String) : Prop := i = Text.trimmed l ∧ Starts ["- [ ]"] l

def IsRule (l i : String) : Prop := After boxes l i ∨ ¬Starts boxes l ∧ After dashes l i

def IsBullet (l i : String) : Prop := After dashes l i

section

variable {marks : List String} {l : String}

theorem trimmed_eq_append {mark rest : String} :
    Text.trimmed l = mark ++ rest ↔ Text.trim l.toList = mark.toList ++ rest.toList := by
  rw [← String.toList_inj, Text.toList_trimmed, String.toList_append]

theorem starts_iff : Starts marks l ↔ ∃ mark ∈ marks, mark.toList <+: Text.trim l.toList := by
  constructor
  · rintro ⟨mark, listed, rest, same⟩
    exact ⟨mark, listed, rest.toList, (trimmed_eq_append.mp same).symm⟩
  · rintro ⟨mark, listed, rest, same⟩
    refine ⟨mark, listed, String.ofList rest, trimmed_eq_append.mpr ?_⟩
    rw [String.toList_ofList, same]

theorem isCheckbox_iff :
    (isUnchecked (Text.trim l.toList) || isChecked (Text.trim l.toList)) = true ↔
      Starts boxes l := by
  rw [starts_iff]
  simp [boxes, isUnchecked, isChecked, unchecked, checkedMarks, List.isPrefixOf_iff_prefix]

-- Marks of one width: no second one can fit where the first does.
theorem textAfter_mark {width : Nat} (sized : ∀ mark ∈ marks, mark.toList.length = width)
    {mark : String} (listed : mark ∈ marks) (rest : List Char) :
    textAfter (marks.map String.toList) (mark.toList ++ rest) =
      if Text.trim rest = [] then none else some (String.ofList (Text.trim rest)) := by
  have opened : (marks.map String.toList).findSome? (·.isPrefixOf? (mark.toList ++ rest)) =
      some rest := by
    cases found : (marks.map String.toList).findSome? (·.isPrefixOf? (mark.toList ++ rest)) with
    | none =>
        have closed := List.findSome?_eq_none_iff.mp found _ (List.mem_map_of_mem listed)
        rw [List.isPrefixOf?_eq_some_iff_append_eq.mpr rfl] at closed
        cases closed
    | some after =>
        obtain ⟨other, listed', fits⟩ := List.exists_of_findSome?_eq_some found
        obtain ⟨mark', inside, rfl⟩ := List.mem_map.mp listed'
        have same := List.append_eq_of_isPrefixOf?_eq_some fits
        have wide := (sized mark' inside).trans (sized mark listed).symm
        rw [(List.append_inj same wide).2]
  rw [textAfter, opened]

theorem textAfter_iff {width : Nat} (sized : ∀ mark ∈ marks, mark.toList.length = width)
    {i : String} :
    textAfter (marks.map String.toList) (Text.trim l.toList) = some i ↔ After marks l i := by
  constructor
  · intro h
    obtain ⟨mark, listed, rest, same, text, written⟩ := textAfter_eq_some h
    obtain ⟨mark, inside, rfl⟩ := List.mem_map.mp listed
    refine ⟨fun empty => written (by rw [empty]; rfl), mark, inside, String.ofList rest, ?_, ?_⟩
    · rw [trimmed_eq_append, String.toList_ofList, same]
    · rw [← String.toList_inj, text, Text.toList_trimmed, String.toList_ofList]
  · rintro ⟨written, mark, listed, rest, same, rfl⟩
    rw [trimmed_eq_append.mp same, textAfter_mark sized listed, if_neg]
    · rfl
    · intro empty
      exact written (by rw [Text.trimmed, empty])

end

section

variable {l i : String}

theorem bulletText_iff : bulletText (Text.trim l.toList) = some i ↔ IsBullet l i := by
  have sized : ∀ mark ∈ dashes, mark.toList.length = 2 := by decide
  exact textAfter_iff sized

theorem ruleText_iff : ruleText (Text.trim l.toList) = some i ↔ IsRule l i := by
  have sized : ∀ mark ∈ boxes, mark.toList.length = 5 := by decide
  have boxed : textAfter (unchecked :: checkedMarks) (Text.trim l.toList) = some i ↔
      After boxes l i := textAfter_iff sized
  rw [ruleText, IsRule, ← isCheckbox_iff]
  split
  · rename_i box
    simp [box, boxed]
  · rename_i plain
    have none : ¬After boxes l i := by
      rintro ⟨-, mark, listed, rest, same, -⟩
      exact plain (isCheckbox_iff.mpr ⟨mark, listed, rest, same⟩)
    simp [plain, none, bulletText_iff, IsBullet]

theorem taskText_iff : taskText (Text.trim l.toList) = some i ↔ IsTask l i := by
  rw [IsTask, starts_iff, taskText, Option.ite_none_right_eq_some, Option.some.injEq, and_comm,
    eq_comm]
  simp [isUnchecked, unchecked, Text.trimmed, List.isPrefixOf_iff_prefix]

end

def found (read : List Char → Option String) (text : String) : List String :=
  (trimmedLines text).filterMap read

theorem trimmedLines_eq (text : String) :
    trimmedLines text = (Text.linesFrom [] text.toList).map Text.trim := by
  rw [trimmedLines, Text.lines, List.map_map]
  exact List.map_congr_left fun l _ => by rw [Function.comp_apply, String.toList_ofList]

section

variable {read : List Char → Option String}

theorem filterMap_linesFrom_feed (nothing : read [] = none) (line s : List Char) :
    ((Text.linesFrom line (s ++ ['\n'])).map Text.trim).filterMap read =
      ((Text.linesFrom line s).map Text.trim).filterMap read := by
  induction s generalizing line with
  | nil =>
      have ended : Text.linesFrom line ['\n'] = [Text.closeLine line] := rfl
      rw [List.nil_append, ended, List.map_singleton, Text.trim_closeLine, Text.linesFrom]
      split
      · rename_i empty
        rw [empty]
        exact List.filterMap_cons_none nothing
      · rfl
  | cons c s ih =>
      rw [List.cons_append, Text.linesFrom, Text.linesFrom]
      split
      · rw [List.map_cons, List.map_cons, List.filterMap_cons, List.filterMap_cons, ih []]
      · exact ih (c :: line)

theorem found_append (nothing : read [] = none) (a b : String) :
    found read (a ++ "\n" ++ b) = found read a ++ found read b := by
  have text : (a ++ "\n" ++ b).toList = a.toList ++ '\n' :: b.toList := by simp
  rw [found, found, found, trimmedLines_eq, trimmedLines_eq, trimmedLines_eq, text,
    Text.linesFrom_append_feed, List.map_append, List.filterMap_append,
    filterMap_linesFrom_feed nothing]

theorem found_line (nothing : read [] = none) {l : String} (no_feed : '\n' ∉ l.toList) :
    found read l = (read (Text.trim l.toList)).toList := by
  rw [found, trimmedLines, Text.lines_of_no_feed no_feed]
  split
  · rename_i empty
    have blank : read (Text.trim l.toList) = none := by rw [empty]; exact nothing
    rw [blank]
    rfl
  · rw [List.map_singleton, List.filterMap_cons]
    cases read (Text.trim l.toList) <;> rfl

theorem mem_found_line (nothing : read [] = none) {l i : String} (no_feed : '\n' ∉ l.toList) :
    i ∈ found read l ↔ read (Text.trim l.toList) = some i := by
  rw [found_line nothing no_feed, Option.mem_toList]

theorem found_eq_flatMap (nothing : read [] = none) (text : String) :
    found read text = (Text.lines text).flatMap (found read) := by
  rw [found, trimmedLines, List.filterMap_map, List.filterMap_eq_flatMap_toList]
  refine List.flatMap_congr ?_
  intro l listed
  exact (found_line nothing (Text.no_feed_of_mem_lines listed)).symm

end

/-- A reader of texts that takes each item from a line of its own, where `item` says which, and does
not look at line ends. -/
structure Linewise (item : String → String → Prop) (read : String → List String) : Prop where
  returns : ∀ t, '\r' ∉ t.toList → read (Text.withReturns t) = read t
  glued : ∀ a b, read (a ++ "\n" ++ b) = read a ++ read b
  by_line : ∀ t, read t = (Text.lines t).flatMap read
  single : ∀ l, '\n' ∉ l.toList → read l = [] ∨ ∃ i, read l = [i] ∧ i.toList <:+: l.toList
  of_line : ∀ l, '\n' ∉ l.toList → ∀ i, i ∈ read l ↔ item l i
  clean : ∀ t, ∀ i ∈ read t, Text.trimmed i = i ∧ '\n' ∉ i.toList

theorem linewise_found {read : List Char → Option String} {item : String → String → Prop}
    (h : Excerpts read) (shown : ∀ {l i}, read (Text.trim l.toList) = some i ↔ item l i) :
    Linewise item (found read) where
  returns := by
    intro t clean
    rw [found, trimmedLines, Text.lines_withReturns clean, found, trimmedLines]
  glued := found_append h.nothing
  by_line := found_eq_flatMap h.nothing
  single := by
    intro l no_feed
    rw [found_line h.nothing no_feed]
    cases shown : read (Text.trim l.toList) with
    | none => exact Or.inl rfl
    | some i => exact Or.inr ⟨i, rfl, (h.part _ i shown).trans (Text.infix_trim l.toList)⟩
  of_line := fun _ no_feed _ => (mem_found_line h.nothing no_feed).trans shown
  clean := by
    intro t i hi
    obtain ⟨line, listed, shown⟩ := List.mem_filterMap.mp hi
    have whole := item_of_mem_trimmedLines listed
    have tight := whole.tight
    have no_feed := whole.no_feed
    rw [String.toList_ofList] at tight no_feed
    refine ⟨?_, fun feed => no_feed ((h.part line i shown).subset feed)⟩
    rw [Text.trimmed, (h.tight line i tight shown).trim_eq, String.ofList_toList]

theorem linewise_activeTasks : Linewise IsTask activeTasks := by
  have same : activeTasks = found taskText := funext activeTasks_eq_filterMap
  exact same ▸ linewise_found excerpts_taskText taskText_iff

theorem linewise_rules : Linewise IsRule rules := linewise_found excerpts_ruleText ruleText_iff

theorem linewise_bullets : Linewise IsBullet bullets :=
  linewise_found excerpts_bulletText bulletText_iff

theorem rule_ne_empty {text i : String} (h : i ∈ rules text) : i ≠ "" := by
  obtain ⟨line, listed, shown⟩ := List.mem_filterMap.mp h
  obtain ⟨l, -, rfl⟩ := List.mem_map.mp listed
  rcases ruleText_iff.mp shown with boxed | ⟨-, dashed⟩
  · exact boxed.1
  · exact dashed.1

theorem bullet_ne_empty {text i : String} (h : i ∈ bullets text) : i ≠ "" := by
  rintro rfl
  exact (bullet_of_mem_bullets h).2 rfl

theorem rules_eq_bullets {text : String} (plain : ∀ l ∈ Text.lines text, ¬Starts boxes l) :
    rules text = bullets text := by
  refine List.filterMap_congr ?_
  intro line listed
  obtain ⟨l, inside, rfl⟩ := List.mem_map.mp listed
  exact if_neg fun box => plain l inside (isCheckbox_iff.mp box)

end Items

theorem Entry.blocks_withReturns {t : String} (clean : '\r' ∉ t.toList) :
    blocks (Text.withReturns t) = blocks t := by
  rw [blocks, Text.lines_withReturns clean, blocks]

theorem readAlike_withReturns {t : String} (clean : '\r' ∉ t.toList) :
    ReadAlike t (Text.withReturns t) where
  rules := Items.linewise_rules.returns t clean
  tasks := Items.linewise_activeTasks.returns t clean
  bullets := Items.linewise_bullets.returns t clean
  entries := Entry.blocks_withReturns clean

structure Context.WithReturns (c c' : Context) : Prop extends Context.SameListing c c' where
  texts : ∀ name ∈ knowledgeFiles,
    '\r' ∉ (c.text name).toList ∧ c'.text name = Text.withReturns (c.text name)

structure LineByLine : Prop where
  tasks : Items.Linewise Items.IsTask Items.activeTasks
  rules : Items.Linewise Items.IsRule Items.rules
  bullets : Items.Linewise Items.IsBullet Items.bullets
  entries : ∀ t, '\r' ∉ t.toList → Entry.blocks (Text.withReturns t) = Entry.blocks t
  sources : ∀ c c', Context.WithReturns c c' → c'.sources = c.sources
  written : ∀ t, (∀ i ∈ Items.rules t, i ≠ "") ∧ ∀ i ∈ Items.bullets t, i ≠ ""
  unchecked : ∀ t, (∀ l ∈ Text.lines t, ¬Items.Starts Items.boxes l) →
    Items.rules t = Items.bullets t

theorem readers_lineByLine : LineByLine where
  tasks := Items.linewise_activeTasks
  rules := Items.linewise_rules
  bullets := Items.linewise_bullets
  entries := fun _ clean => Entry.blocks_withReturns clean
  sources := by
    intro c c' h
    refine h.toSameListing.sources ?_
    intro name listed
    obtain ⟨clean, same⟩ := h.texts name listed
    rw [same]
    exact readAlike_withReturns clean
  written := fun _ => ⟨fun _ => Items.rule_ne_empty, fun _ => Items.bullet_ne_empty⟩
  unchecked := fun _ => Items.rules_eq_bullets

/-- A box without text is no rule, but to the reader of bullets it is a bullet. -/
example : Items.rules "- [ ]\r\n- [x] Test first\n* Short" = ["Test first", "Short"] ∧
    Items.bullets "- [ ]\r\n- [x] Test first\n* Short" = ["[ ]", "[x] Test first", "Short"] := by
  decide +kernel

end Briefing
