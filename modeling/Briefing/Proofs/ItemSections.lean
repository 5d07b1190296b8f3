import Briefing.Items
import Briefing.Packet.Markdown
import Briefing.Proofs.TextLines
import Briefing.Proofs.Trimming

namespace Briefing

open Text (OneLine Tight)

theorem Text.Tight.oneLine {s : String} (h : Tight s.toList) (no_feed : '\n' ∉ s.toList) :
    OneLine s where
  no_feed := no_feed
  no_return := fun last => absurd (h.last '\r' last) (by decide)

namespace Items

structure Item (s : String) : Prop where
  tight : Tight s.toList
  no_feed : '\n' ∉ s.toList

theorem item_of_mem_trimmedLines {text : String} {line : List Char}
    (h : line ∈ trimmedLines text) : Item (String.ofList line) := by
  obtain ⟨l, listed, rfl⟩ := List.mem_map.mp h
  rw [← Text.trimmed]
  refine ⟨?_, ?_⟩
  · rw [Text.toList_trimmed]
    exact Text.tight_trim l.toList
  · rw [Text.toList_trimmed]
    exact fun feed => Text.no_feed_of_mem_lines listed (Text.mem_of_mem_trim feed)

theorem textAfter_eq_some {marks : List (List Char)} {line : List Char} {s : String}
    (h : textAfter marks line = some s) :
    ∃ mark ∈ marks, ∃ rest, mark ++ rest = line ∧ s.toList = Text.trim rest ∧ s.toList ≠ [] := by
  unfold textAfter at h
  split at h
  · cases h
  · rename_i rest found
    split at h
    · cases h
    · rename_i written
      obtain rfl := Option.some.inj h
      obtain ⟨mark, listed, opened⟩ := List.exists_of_findSome?_eq_some found
      refine ⟨mark, listed, rest, List.append_eq_of_isPrefixOf?_eq_some opened, ?_⟩
      rw [String.toList_ofList]
      exact ⟨rfl, written⟩

theorem item_of_textAfter {marks : List (List Char)} {line : List Char} {s : String}
    (no_feed : '\n' ∉ line) (h : textAfter marks line = some s) : Item s ∧ s.toList ≠ [] := by
  obtain ⟨mark, -, rest, same, text, written⟩ := textAfter_eq_some h
  refine ⟨⟨?_, ?_⟩, written⟩
  · rw [text]
    exact Text.tight_trim rest
  · rw [text]
    intro feed
    exact no_feed (same ▸ List.mem_append_right mark (Text.mem_of_mem_trim feed))

def taskText (line : List Char) : Option String :=
  if isUnchecked line then some (String.ofList line) else none

theorem activeTasks_eq_filterMap (text : String) :
    activeTasks text = (trimmedLines text).filterMap taskText := by
  rw [activeTasks, ← List.filterMap_eq_map', List.filterMap_filter]
  rfl

theorem task_of_mem_activeTasks {text t : String} (h : t ∈ activeTasks text) :
    Item t ∧ isUnchecked t.toList = true := by
  obtain ⟨line, kept, rfl⟩ := List.mem_map.mp h
  obtain ⟨listed, unchecked⟩ := List.mem_filter.mp kept
  rw [String.toList_ofList]
  exact ⟨item_of_mem_trimmedLines listed, unchecked⟩

theorem bullet_of_mem_bullets {text b : String} (h : b ∈ bullets text) :
    Item b ∧ b.toList ≠ [] := by
  obtain ⟨line, listed, read⟩ := List.mem_filterMap.mp h
  have no_feed := (item_of_mem_trimmedLines listed).no_feed
  rw [String.toList_ofList] at no_feed
  exact item_of_textAfter no_feed read

theorem bulletText_dash {s : List Char} (tight : Tight s) (written : s ≠ []) :
    bulletText ('-' :: ' ' :: s) = some (String.ofList s) := by
  have opened : bulletMarks.findSome? (·.isPrefixOf? ('-' :: ' ' :: s)) = some s := by
    simp [bulletMarks, List.isPrefixOf?]
  rw [bulletText, textAfter, opened]
  simp only [tight.trim_eq, if_neg written]

end Items

namespace Packet

theorem lines_itemSection {title : String} (heading : OneLine ("## " ++ title))
    (body : String → String) {items : List String} (h : ∀ i ∈ items, OneLine (body i)) :
    Text.lines (itemSection title (fun i => line (body i)) items) =
      if items = [] then [] else ("## " ++ title) :: items.map body ++ [""] := by
  unfold itemSection
  split
  · rfl
  · have joined : Packet.heading title ++ String.join (items.map fun i => line (body i)) ++ line "" =
        String.join ((("## " ++ title) :: items.map body ++ [""]).map fun l => l ++ "\n") := by
      simp [Packet.heading, line, String.append_assoc, Function.comp_def]
    rw [joined]
    refine Text.lines_join ?_
    intro l hl
    rcases List.mem_append.mp hl with shown | last
    · rcases List.mem_cons.mp shown with rfl | listed
      · exact heading
      · obtain ⟨i, hi, rfl⟩ := List.mem_map.mp listed
        exact h i hi
    · rw [List.mem_singleton.mp last]
      exact ⟨by simp, by simp⟩

/-- A reader that sees nothing in the heading of a section and in its empty line gets the items back. -/
theorem filterMap_itemSection {title : String} (heading : OneLine ("## " ++ title))
    {body : String → String} {items : List String} (h : ∀ i ∈ items, OneLine (body i))
    {read : List Char → Option String} (above : read (Text.trim ("## " ++ title).toList) = none)
    (below : read [] = none) (back : ∀ i ∈ items, read (Text.trim (body i).toList) = some i) :
    (Items.trimmedLines (itemSection title (fun i => line (body i)) items)).filterMap read =
      items := by
  rw [Items.trimmedLines, lines_itemSection heading body h, List.filterMap_map]
  split
  · rename_i none
    rw [none]
    rfl
  · have inner : (items.map body).filterMap (read ∘ fun l => Text.trim l.toList) = items := by
      rw [List.filterMap_map]
      calc items.filterMap ((read ∘ fun l => Text.trim l.toList) ∘ body)
          = items.filterMap some := List.filterMap_congr back
        _ = items := List.filterMap_some
    have first : (read ∘ fun l => Text.trim l.toList) ("## " ++ title) = none := above
    have last : [""].filterMap (read ∘ fun l => Text.trim l.toList) = [] :=
      List.filterMap_cons_none below
    rw [List.filterMap_append, List.filterMap_cons_none first, inner, last, List.append_nil]

theorem activeTasks_taskSection {text : String} {tasks : List String}
    (h : ∀ t ∈ tasks, t ∈ Items.activeTasks text) :
    Items.activeTasks (taskSection tasks) = tasks := by
  rw [Items.activeTasks_eq_filterMap]
  refine filterMap_itemSection ⟨by decide, by decide⟩ ?_ (by decide) (by decide) ?_
  · intro t ht
    have item := (Items.task_of_mem_activeTasks (h t ht)).1
    exact item.tight.oneLine item.no_feed
  · intro t ht
    obtain ⟨item, unchecked⟩ := Items.task_of_mem_activeTasks (h t ht)
    rw [item.tight.trim_eq, Items.taskText, if_pos unchecked, String.ofList_toList]

theorem bullets_bulletSection {title text : String} (heading : OneLine ("## " ++ title))
    (above : Items.bulletText (Text.trim ("## " ++ title).toList) = none) {items : List String}
    (h : ∀ b ∈ items, b ∈ Items.bullets text) :
    Items.bullets (bulletSection title items) = items := by
  have tight : ∀ b ∈ items, Tight ("- " ++ b).toList := by
    intro b hb
    obtain ⟨item, written⟩ := Items.bullet_of_mem_bullets (h b hb)
    have dash : ∀ c ∈ "- ".toList.head?, Text.isBlank c = false := by
      intro c hc
      obtain rfl : '-' = c := Option.some.inj hc
      decide
    rw [String.toList_append]
    exact Tight.append dash (by decide) item.tight written
  refine filterMap_itemSection heading ?_ above (by decide) ?_
  · intro b hb
    refine (tight b hb).oneLine ?_
    rw [String.toList_append, List.mem_append]
    rintro (mark | feed)
    · exact absurd mark (by decide)
    · exact (Items.bullet_of_mem_bullets (h b hb)).1.no_feed feed
  · intro b hb
    obtain ⟨item, written⟩ := Items.bullet_of_mem_bullets (h b hb)
    rw [(tight b hb).trim_eq, String.toList_append]
    exact (Items.bulletText_dash item.tight written).trans (by rw [String.ofList_toList])

end Packet

end Briefing
