import Briefing.Disk.Path
import Mathlib.Data.List.TakeWhile

namespace Briefing.Path

def charNames (s : List Char) : List String :=
  ((s.splitOnP (· == '/')).filter (!·.isEmpty)).map String.ofList

theorem names_eq (path : String) : names path = charNames path.toList := rfl

theorem charNames_nil : charNames [] = [] := by
  rw [charNames, List.splitOnP_nil]
  rfl

theorem charNames_append (a b : List Char) : charNames (a ++ '/' :: b) = charNames a ++ charNames b := by
  rw [charNames, List.splitOnP_append_cons a b rfl, List.filter_append, List.map_append]
  rfl

theorem charNames_concat (a : List Char) : charNames (a ++ ['/']) = charNames a := by
  rw [charNames_append, charNames_nil, List.append_nil]

theorem charNames_flat {s : List Char} (named : s ≠ []) (flat : ∀ c ∈ s, c ≠ '/') :
    charNames s = [String.ofList s] := by
  have whole : s.splitOnP (· == '/') = [s] :=
    List.splitOnP_eq_singleton fun c hc => by simpa using flat c hc
  simp [charNames, whole, named]

theorem stripTail_suffix (s : List Char) : stripTail s <:+ s := by
  fun_induction stripTail s with
  | case1 => exact List.suffix_rfl
  | case2 rest _ ih => exact ih.trans (List.suffix_cons '/' rest)
  | case3 rest ih => exact ih.trans (List.suffix_cons '.' _)
  | case4 => exact List.suffix_rfl

theorem getLast?_stripTail (s : List Char) : (stripTail s).getLast? = s.getLast? := by
  fun_induction stripTail s with
  | case1 => rfl
  | case2 rest lone ih =>
      have more : rest ≠ [] := fun last => lone (last ▸ rfl)
      rw [ih, List.getLast?_cons, List.getLast?_eq_some_getLast more]
      rfl
  | case3 rest ih => rw [ih, List.getLast?_cons_cons]
  | case4 => rfl

theorem charNames_stripTail (s : List Char) :
    ∃ k, charNames s.reverse = charNames (stripTail s).reverse ++ List.replicate k "." := by
  fun_induction stripTail s with
  | case1 => exact ⟨0, (List.append_nil _).symm⟩
  | case2 rest _ ih =>
      obtain ⟨k, same⟩ := ih
      exact ⟨k, by rw [List.reverse_cons, charNames_concat, same]⟩
  | case3 rest ih =>
      obtain ⟨k, same⟩ := ih
      refine ⟨k + 1, ?_⟩
      have dot : charNames ['.'] = ["."] := charNames_flat (by simp) (by simp)
      rw [List.reverse_cons, List.reverse_cons, List.append_assoc, List.singleton_append,
        charNames_append, dot, List.replicate_succ', ← List.append_assoc, ← same, List.reverse_cons,
        charNames_concat]
  | case4 => exact ⟨0, (List.append_nil _).symm⟩

def tidy (path : String) : String := String.ofList (stripTail path.toList.reverse).reverse

theorem names_tidy (path : String) :
    ∃ k, names path = names (tidy path) ++ List.replicate k "." := by
  have same := charNames_stripTail path.toList.reverse
  rwa [List.reverse_reverse, ← String.toList_ofList (l := (stripTail _).reverse)] at same

theorem head?_tidy (path : String) : (tidy path).toList.head? = path.toList.head? := by
  rw [tidy, String.toList_ofList, List.head?_reverse, getLast?_stripTail, List.getLast?_reverse]

theorem isAbsolute_tidy (path : String) : isAbsolute (tidy path) = isAbsolute path := by
  rw [isAbsolute, head?_tidy, isAbsolute]

theorem tidy_front (path : String) : (tidy path).toList <+: path.toList := by
  rw [tidy, String.toList_ofList, ← List.reverse_suffix, List.reverse_reverse]
  exact stripTail_suffix path.toList.reverse

theorem parent?_stripTail {path parent : String} (h : parent? path = some parent) :
    parent = String.ofList
      (stripTail ((stripTail path.toList.reverse).dropWhile (· != '/'))).reverse := by
  unfold parent? at h
  split at h
  · cases h
  · cases h
  · exact (Option.some.inj h).symm

theorem parent?_eq {path parent : String} (h : parent? path = some parent) :
    ∃ front, parent = tidy (String.ofList front) ∧ charNames front <+: names path ∧
      (front.head? == some '/') = isAbsolute path := by
  have ended := parent?_stripTail h
  have top : (stripTail path.toList.reverse).getLast? = path.toList.head? := by
    rw [getLast?_stripTail, List.getLast?_reverse]
  have whole : names (tidy path) = charNames (stripTail path.toList.reverse).reverse := by
    rw [names_eq, tidy, String.toList_ofList]
  generalize stripTail path.toList.reverse = s at ended top whole
  refine ⟨(s.dropWhile (· != '/')).reverse, ?_, ?_, ?_⟩
  · rw [tidy, String.toList_ofList, List.reverse_reverse, ended]
  · obtain ⟨k, same⟩ := names_tidy path
    refine List.IsPrefix.trans ?_ ⟨_, same.symm⟩
    rw [whole]
    cases found : s.dropWhile (· != '/') with
    | nil => simp [charNames_nil]
    | cons c t =>
        have slash : c = '/' := by
          have stop := List.head_dropWhile_not (· != '/') (l := s) (by simp [found])
          simpa [found] using stop
        subst slash
        have split : s.takeWhile (· != '/') ++ '/' :: t = s := by
          rw [← found, List.takeWhile_append_dropWhile]
        refine ⟨charNames (s.takeWhile (· != '/')).reverse, ?_⟩
        rw [List.reverse_cons, charNames_concat, ← charNames_append]
        refine congrArg charNames ?_
        rw [← congrArg List.reverse split]
        simp
  · rw [isAbsolute, ← top, List.head?_reverse]
    cases found : s.dropWhile (· != '/') with
    | nil =>
        have flat : '/' ∉ s := fun mem => by simpa using List.dropWhile_eq_nil_iff.mp found '/' mem
        have other : s.getLast? ≠ some '/' := fun last => flat (List.mem_of_getLast? last)
        simp [other]
    | cons c t =>
        obtain ⟨front, split⟩ : c :: t <:+ s := found ▸ List.dropWhile_suffix _
        rw [← split, List.getLast?_append, List.getLast?_cons]
        rfl

theorem names_parent? {path parent : String} (h : parent? path = some parent) :
    names parent <+: names path := by
  obtain ⟨front, rfl, before, -⟩ := parent?_eq h
  obtain ⟨k, same⟩ := names_tidy (String.ofList front)
  rw [names_eq (String.ofList front), String.toList_ofList] at same
  exact List.IsPrefix.trans ⟨_, same.symm⟩ before

theorem isAbsolute_parent? {path parent : String} (h : parent? path = some parent) :
    isAbsolute parent = isAbsolute path := by
  obtain ⟨front, rfl, -, top⟩ := parent?_eq h
  rw [isAbsolute_tidy, isAbsolute, String.toList_ofList, top]

structure Begins (front path : String) : Prop where
  names : Path.names front <+: Path.names path
  top : isAbsolute front = isAbsolute path

theorem Begins.refl (path : String) : Begins path path := ⟨List.prefix_rfl, rfl⟩

theorem Begins.parent? {front path parent : String} (h : Begins front path)
    (above : parent? front = some parent) : Begins parent path :=
  ⟨(names_parent? above).trans h.names, (isAbsolute_parent? above).trans h.top⟩

theorem begins_tidy (path : String) : Begins (tidy path) path := by
  obtain ⟨k, split⟩ := names_tidy path
  exact ⟨⟨_, split.symm⟩, isAbsolute_tidy path⟩

structure Single (name : String) : Prop where
  named : name ≠ ""
  flat : ∀ c ∈ name.toList, c ≠ '/'

structure Plain (name : String) : Prop where
  named : name ≠ ""
  flat : ∀ c ∈ name.toList, c ≠ '/'
  undotted : ∀ c ∈ name.toList, c ≠ '.'

section

variable {name : String}

theorem Plain.single (h : Plain name) : Single name := ⟨h.named, h.flat⟩

theorem Single.ne_nil (h : Single name) : name.toList ≠ [] :=
  fun empty => h.named (by simpa using empty)

theorem Plain.ne_dots (h : Plain name) : name ≠ "." ∧ name ≠ ".." := by
  constructor <;>
  · rintro rfl
    exact h.undotted '.' (by simp) rfl

theorem Single.names (h : Single name) : names name = [name] := by
  rw [names_eq, charNames_flat h.ne_nil h.flat, String.ofList_toList]

theorem toList_join (h : Single name) (dir : String) :
    (dir = "" ∧ join dir name = name) ∨
      ∃ body, (join dir name).toList = body ++ '/' :: name.toList ∧
        (dir.toList = body ++ ['/'] ∨ dir.toList = body ∧ body ≠ []) := by
  have relative : ∀ rest, name.toList ≠ '/' :: rest :=
    fun rest slash => h.flat '/' (by simp [slash]) rfl
  unfold join
  split
  · rename_i slash
    exact absurd slash (relative _)
  · rename_i empty _
    exact Or.inl ⟨by simpa using empty, rfl⟩
  · rename_i last _
    obtain ⟨body, split⟩ := List.getLast?_eq_some_iff.mp last
    exact Or.inr ⟨body, by simp [split], Or.inl split⟩
  · rename_i last _
    refine Or.inr ⟨dir.toList, by simp, Or.inr ⟨rfl, ?_⟩⟩
    rintro empty
    rw [empty] at last
    cases last

theorem names_join (h : Single name) (dir : String) :
    Path.names (join dir name) = Path.names dir ++ [name] := by
  have last : charNames name.toList = [name] := h.names
  rcases toList_join h dir with ⟨rfl, same⟩ | ⟨body, joined, open' | ⟨closed, -⟩⟩
  · rw [same, h.names, names_eq, String.toList_empty, charNames_nil, List.nil_append]
  · rw [names_eq, names_eq, joined, charNames_append, last, open', charNames_concat]
  · rw [names_eq, names_eq, joined, charNames_append, last, closed]

theorem join_injective (dir : String) {other : String} (h : Single name) (h' : Single other)
    (same : join dir name = join dir other) : name = other := by
  have all := congrArg Path.names same
  rw [names_join h, names_join h'] at all
  simpa using all

theorem isAbsolute_join (h : Single name) (dir : String) :
    isAbsolute (join dir name) = isAbsolute dir := by
  rcases toList_join h dir with ⟨rfl, same⟩ | ⟨body, joined, open' | ⟨closed, more⟩⟩
  · have relative : name.toList.head? ≠ some '/' :=
      fun slash => h.flat '/' (List.mem_of_head? slash) rfl
    simp [isAbsolute, same, relative]
  · rw [isAbsolute, isAbsolute, joined, open']
    cases body <;> rfl
  · rw [isAbsolute, isAbsolute, joined, closed]
    cases body with
    | nil => exact absurd rfl more
    | cons c rest => rfl

theorem endsOpen_join (h : Single name) (dir : String) : endsOpen (join dir name) = false := by
  have closed : name.toList.getLast? ≠ some '/' :=
    fun slash => h.flat '/' (List.mem_of_getLast? slash) rfl
  have last : ∀ front : List Char, (front ++ name.toList).getLast? = name.toList.getLast? := by
    intro front
    rw [List.getLast?_append, List.getLast?_eq_some_getLast h.ne_nil]
    rfl
  rcases toList_join h dir with ⟨rfl, same⟩ | ⟨body, joined, -⟩
  · simp [endsOpen, same, closed]
  · rw [endsOpen, joined, ← List.singleton_append, ← List.append_assoc, last]
    simp [closed]

theorem stripTail_plain {s rest : List Char} (more : s ≠ []) (flat : ∀ c ∈ s, c ≠ '/')
    (undotted : ∀ c ∈ s, c ≠ '.') : stripTail (s ++ rest) = s ++ rest := by
  cases s with
  | nil => exact absurd rfl more
  | cons c s =>
      have slash := flat c List.mem_cons_self
      have dot := undotted c List.mem_cons_self
      rw [List.cons_append, stripTail]
      · exact fun same => slash (List.cons.inj same).1
      · exact fun _ same => slash (List.cons.inj same).1
      · exact fun _ same => dot (List.cons.inj same).1

theorem parent?_join (h : Plain name) (dir : String) : parent? (join dir name) = some (tidy dir) := by
  have more : name.toList.reverse ≠ [] := by simpa using h.single.ne_nil
  have flat : ∀ c ∈ name.toList.reverse, c ≠ '/' := fun c hc => h.flat c (List.mem_reverse.mp hc)
  have undotted : ∀ c ∈ name.toList.reverse, c ≠ '.' :=
    fun c hc => h.undotted c (List.mem_reverse.mp hc)
  have passed : ∀ rest,
      (name.toList.reverse ++ rest).dropWhile (· != '/') = rest.dropWhile (· != '/') :=
    fun rest => List.dropWhile_append_of_pos fun c hc => by simpa using flat c hc
  have kept : ∀ rest, stripTail (name.toList.reverse ++ rest) = name.toList.reverse ++ rest :=
    fun rest => stripTail_plain more flat undotted
  have general : ∀ rest, (join dir name).toList.reverse = name.toList.reverse ++ rest →
      parent? (join dir name) =
        some (String.ofList (stripTail (rest.dropWhile (· != '/'))).reverse) := by
    intro rest reversed
    unfold parent?
    rw [reversed, kept]
    split
    · rename_i empty
      exact absurd (List.append_eq_nil_iff.mp empty).1 more
    · rename_i slash
      cases start : name.toList.reverse with
      | nil => exact absurd start more
      | cons c s =>
          rw [start, List.cons_append] at slash
          exact absurd (List.cons.inj slash).1 (flat c (by simp [start]))
    · rw [passed]
  rcases toList_join h.single dir with ⟨rfl, same⟩ | ⟨body, joined, open' | ⟨closed, more⟩⟩
  · rw [general [] (by rw [same, List.append_nil])]
    rfl
  · rw [general ('/' :: body.reverse) (by simp [joined]), tidy, open',
      List.dropWhile_cons_of_neg (by simp), List.reverse_append, List.reverse_singleton,
      List.singleton_append]
  · rw [general ('/' :: body.reverse) (by simp [joined]), tidy, closed,
      List.dropWhile_cons_of_neg (by simp), stripTail]
    exact fun last => more (by simpa using last)

end

end Briefing.Path
