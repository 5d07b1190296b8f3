import Briefing.Proofs.TomlSections

namespace Briefing.Toml

/-- Keys to take out of a document: those of the document itself, with whole tables among them, and
those of a table. -/
structure Deletion where
  keys : String → Bool
  fields : String → String → Bool

def Statement.place (header : List String) : Statement → List String
  | .table path => path
  | .element path => path
  | .assign keys _ => header ++ keys

def Statement.nextHeader (header : List String) : Statement → List String
  | .table path => path
  | .element path => path
  | .assign _ _ => header

namespace Deletion

def covers (d : Deletion) : List String → Bool
  | [] => false
  | [key] => d.keys key
  | name :: key :: _ => d.keys name || d.fields name key

def left (d : Deletion) (header : List String) : List Statement → List Statement
  | [] => []
  | st :: sts =>
      (if d.covers (st.place header) then [] else [st]) ++ d.left (st.nextHeader header) sts

def part (d : Deletion) (p : Part) : Part where
  name := p.name
  pairs := p.pairs.filter fun e => !d.fields p.name e.1
  arrays := p.arrays.filter fun a => !d.fields p.name a.1

def outline (d : Deletion) (o : Outline) : Outline where
  pairs := o.pairs.filter fun e => !d.keys e.1
  parts := (o.parts.filter fun p => !d.keys p.name).map d.part

def nothing : Deletion where
  keys _ := false
  fields _ _ := false

theorem left_nothing (header : List String) (sts : List Statement) :
    nothing.left header sts = sts := by
  induction sts generalizing header with
  | nil => rfl
  | cons st sts ih =>
      have kept : nothing.covers (st.place header) = false := by
        unfold covers
        split <;> rfl
      rw [left, kept, ih]
      rfl

section left

variable (d : Deletion) (header : List String)

theorem mem_of_mem_left {st : Statement} {sts : List Statement} (h : st ∈ d.left header sts) :
    st ∈ sts := by
  induction sts generalizing header with
  | nil => exact h
  | cons first sts ih =>
      rw [left] at h
      rcases List.mem_append.mp h with kept | later
      · split at kept
        · cases kept
        · rw [List.mem_singleton.mp kept]
          exact List.mem_cons_self
      · exact List.mem_cons_of_mem _ (ih _ later)

theorem left_append (sts more : List Statement) :
    d.left header (sts ++ more) =
      d.left header sts ++ d.left (sts.foldl Statement.nextHeader header) more := by
  induction sts generalizing header with
  | nil => rfl
  | cons st sts ih => rw [List.cons_append, left, left, ih, List.append_assoc, List.foldl_cons]

theorem left_assignments (pairs : Entries) :
    d.left header (assignments pairs) =
      assignments (pairs.filter fun e => !d.covers (header ++ [e.1])) := by
  induction pairs with
  | nil => rfl
  | cons e pairs ih =>
      rw [assignments, List.map_cons, left, Statement.place, Statement.nextHeader]
      rw [assignments] at ih
      rw [ih]
      cases covered : d.covers (header ++ [e.1]) with
      | true => rw [if_pos rfl, List.filter_cons_of_neg (by simp [covered]), List.nil_append]
      | false => rw [if_neg Bool.false_ne_true, List.filter_cons_of_pos (by simp [covered])]; rfl

theorem left_element (name key : String) (pairs : Entries) :
    d.left header (elementStatements [name, key] pairs) =
      if d.covers [name, key] then [] else elementStatements [name, key] pairs := by
  -- a key below an element has a longer path, and goes with the whole array only
  have inside (k : String) : d.covers ([name, key] ++ [k]) = d.covers [name, key] := rfl
  rw [elementStatements, left, Statement.place, Statement.nextHeader, left_assignments]
  simp only [inside]
  cases d.covers [name, key] with
  | true => simp [assignments]
  | false =>
      have all : pairs.filter (fun _ => !false) = pairs := List.filter_eq_self.mpr fun _ _ => rfl
      rw [all]
      rfl

theorem left_elements (name key : String) (elements : List Entries) :
    d.left header (elements.flatMap (elementStatements [name, key])) =
      if d.covers [name, key] then [] else elements.flatMap (elementStatements [name, key]) := by
  induction elements generalizing header with
  | nil => cases d.covers [name, key] <;> rfl
  | cons pairs elements ih =>
      rw [List.flatMap_cons, left_append, left_element, ih]
      cases d.covers [name, key] <;> rfl

theorem left_arrays (name : String) (arrays : List (String × List Entries)) :
    d.left header (arrays.flatMap fun a => a.2.flatMap (elementStatements [name, a.1])) =
      (arrays.filter fun a => !d.covers [name, a.1]).flatMap fun a =>
        a.2.flatMap (elementStatements [name, a.1]) := by
  induction arrays generalizing header with
  | nil => rfl
  | cons a arrays ih =>
      rw [List.flatMap_cons, left_append, left_elements, ih]
      cases gone : d.covers [name, a.1] with
      | true => simp [gone]
      | false => simp [gone]

theorem left_part (p : Part) :
    d.left header p.statements = if d.keys p.name then [] else (d.part p).statements := by
  have fields (key : String) : d.covers [p.name, key] = (d.keys p.name || d.fields p.name key) := rfl
  rw [Part.statements, List.cons_append, left, Statement.place, Statement.nextHeader, left_append,
    left_assignments, left_arrays]
  simp only [List.singleton_append, fields]
  cases gone : d.keys p.name with
  | true => simp [covers, gone, assignments]
  | false => simp [covers, gone, Part.statements, part]

theorem left_parts (parts : List Part) :
    d.left header (parts.flatMap Part.statements) =
      ((parts.filter fun p => !d.keys p.name).map d.part).flatMap Part.statements := by
  induction parts generalizing header with
  | nil => rfl
  | cons p parts ih =>
      rw [List.flatMap_cons, left_append, left_part, ih]
      cases gone : d.keys p.name with
      | true => simp [gone]
      | false => simp [gone]

theorem left_statements (o : Outline) : d.left [] o.statements = (d.outline o).statements := by
  rw [Outline.statements, left_append, left_assignments, left_parts]
  rfl

end left

section entries

variable (d : Deletion)

theorem filter_held (gone : String → Bool) (key : String) (elements : List Entries) :
    (held key elements).filter (fun e => !gone e.1) = if gone key then [] else held key elements := by
  cases elements with
  | nil => exact (ite_self []).symm
  | cons first rest => cases hidden : gone key <;> simp [held, hidden]

theorem filter_flatMap_held (gone : String → Bool) (arrays : List (String × List Entries)) :
    (arrays.flatMap fun a => held a.1 a.2).filter (fun e => !gone e.1) =
      (arrays.filter fun a => !gone a.1).flatMap fun a => held a.1 a.2 := by
  induction arrays with
  | nil => rfl
  | cons a arrays ih =>
      rw [List.flatMap_cons, List.filter_append, filter_held, ih]
      cases hidden : gone a.1 with
      | true => simp [hidden]
      | false => simp [hidden]

theorem entries_part (p : Part) :
    (d.part p).entries = p.entries.filter fun e => !d.fields p.name e.1 := by
  rw [Part.entries, Part.entries, List.filter_append, Part.arrayEntries, Part.arrayEntries,
    filter_flatMap_held]
  rfl

theorem entries_outline (o : Outline) :
    (d.outline o).entries =
      (o.pairs ++ o.parts.map fun p => (p.name, Value.table .header (d.part p).entries)).filter
        fun e => !d.keys e.1 := by
  rw [List.filter_append, List.filter_map]
  simp [Outline.entries, outline, Function.comp_def, part]

theorem proper_part {p : Part} (h : p.Proper) : (d.part p).Proper where
  distinct := h.distinct.sublist
    ((List.filter_sublist.map _).append (List.filter_sublist.map _))
  elements := fun a ha => h.elements a (List.mem_filter.mp ha).1

theorem proper_outline {o : Outline} (h : o.Proper) : (d.outline o).Proper where
  distinct := by
    have same : (o.pairs ++ o.parts.map fun p => (p.name, Value.table .header (d.part p).entries)).map
        Prod.fst = o.entries.map Prod.fst := by
      simp [Outline.entries, Function.comp_def]
    have distinct := h.distinct
    rw [Distinct, ← same] at distinct
    rw [Distinct, entries_outline]
    exact distinct.sublist (List.filter_sublist.map _)
  parts := by
    intro p hp
    obtain ⟨q, hq, rfl⟩ := List.mem_map.mp hp
    exact d.proper_part (h.parts q (List.mem_filter.mp hq).1)

end entries

end Deletion

theorem lookup_filter (gone : String → Bool) (key : String) (es : Entries) :
    (es.filter fun e => !gone e.1).lookup key = if gone key then none else es.lookup key := by
  induction es with
  | nil => exact (ite_self none).symm
  | cons e es ih =>
      obtain ⟨k, v⟩ := e
      rw [List.filter_cons]
      by_cases same : key = k
      · subst same
        cases hidden : gone key with
        | true => simp [ih, hidden]
        | false => simp
      · have other : (key == k) = false := beq_eq_false_iff_ne.mpr same
        cases hidden : gone k with
        | true => simp [List.lookup_cons, other, ih]
        | false => simp [List.lookup_cons, other, ih]

end Briefing.Toml
