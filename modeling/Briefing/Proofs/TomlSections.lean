import Briefing.Toml.Writer

namespace Briefing.Toml

section entries

variable {key : String} {es : Entries}

theorem lookup_fresh (fresh : key ∉ es.map Prod.fst) : es.lookup key = none := by
  rw [List.lookup_eq_none_iff]
  intro e he
  simpa using fun same : key = e.1 => fresh (same ▸ List.mem_map_of_mem he)

theorem lookup_last (fresh : key ∉ es.map Prod.fst) (v : Value) :
    (es ++ [(key, v)]).lookup key = some v := by
  rw [List.lookup_append, lookup_fresh fresh, Option.none_or, List.lookup_cons_self]

theorem setEntry_fresh (fresh : key ∉ es.map Prod.fst) (v : Value) :
    setEntry key v es = es ++ [(key, v)] := by
  induction es with
  | nil => rfl
  | cons e es ih =>
      obtain ⟨other, fresh⟩ := not_or.mp (mt List.mem_cons.mpr fresh)
      rw [setEntry, if_neg (Ne.symm other), ih fresh, List.cons_append]

theorem setEntry_last (fresh : key ∉ es.map Prod.fst) (old v : Value) :
    setEntry key v (es ++ [(key, old)]) = es ++ [(key, v)] := by
  induction es with
  | nil => exact if_pos rfl
  | cons e es ih =>
      obtain ⟨other, fresh⟩ := not_or.mp (mt List.mem_cons.mpr fresh)
      rw [List.cons_append, setEntry, if_neg (Ne.symm other), ih fresh, List.cons_append]

theorem insertNew_fresh (fresh : key ∉ es.map Prod.fst) (v : Value) :
    insertNew key v es = some (es ++ [(key, v)]) := by
  rw [insertNew, lookup_fresh fresh, setEntry_fresh fresh]
  rfl

end entries

section reach

theorem within_append (f : Entries → Option Entries) (path more : List String) :
    within f (path ++ more) = within (within f more) path := by
  induction path with
  | nil => rfl
  | cons key path ih =>
      funext es
      rw [List.cons_append, within, within, ih]

def Reaches (path : List String) (put : Entries → Entries) : Prop :=
  ∀ (f : Entries → Option Entries) (sub : Entries), within f path (put sub) = (f sub).map put

theorem reaches_root : Reaches [] id := fun f sub => by rw [id, within, Option.map_id]; rfl

variable {path : List String} {put inner : Entries → Entries} {name : String} {es : Entries}

theorem Reaches.below (h : Reaches path put) (next : Reaches [name] inner) :
    Reaches (path ++ [name]) (put ∘ inner) := by
  intro f sub
  rw [within_append, Function.comp, h, next, Option.map_map]

theorem reaches_table (fresh : name ∉ es.map Prod.fst) :
    Reaches [name] fun sub => es ++ [(name, .table .header sub)] := by
  intro f sub
  rw [within, lookup_last fresh]
  simp only [within, setEntry_last fresh]

theorem reaches_tables (fresh : name ∉ es.map Prod.fst) (done : List Entries) :
    Reaches [name] fun sub => es ++ [(name, .tables (done ++ [sub]))] := by
  intro f sub
  rw [within, lookup_last fresh]
  simp [within, setEntry_last fresh, onLast, Function.comp_def]

end reach

section drafts

theorem addAll_of_foldlM {sts : List Statement} {d d' : Draft}
    (h : sts.foldlM Draft.add d = some d') (number : Nat) :
    d.addAll number sts = .ok d'.entries := by
  induction sts generalizing d number with
  | nil =>
      obtain rfl := Option.some.inj h
      rfl
  | cons st sts ih =>
      rw [List.foldlM_cons, Option.bind_eq_bind, Option.bind_eq_some_iff] at h
      obtain ⟨next, added, h⟩ := h
      rw [Draft.addAll, added]
      exact ih h (number + 1)

def assignments (pairs : Entries) : List Statement := pairs.map fun e => .assign [e.1] e.2

def elementStatements (path : List String) (pairs : Entries) : List Statement :=
  .element path :: assignments pairs

def held (key : String) : List Entries → Entries
  | [] => []
  | elements => [(key, .tables elements)]

theorem held_append (key : String) (done : List Entries) (sub : Entries) :
    held key (done ++ [sub]) = [(key, .tables (done ++ [sub]))] := by
  cases done <;> rfl

theorem keys_held (key : String) (elements : List Entries) :
    ((held key elements).map Prod.fst).Sublist [key] := by
  cases elements with
  | nil => exact List.nil_sublist _
  | cons => exact List.Sublist.refl _

def Distinct (es : Entries) : Prop := (es.map Prod.fst).Nodup

theorem Distinct.fresh {es more : Entries} {e : String × Value} (h : Distinct (es ++ e :: more)) :
    e.1 ∉ es.map Prod.fst := by
  rw [Distinct, List.map_append, List.map_cons, List.nodup_append] at h
  exact fun found => h.2.2 _ found _ List.mem_cons_self rfl

variable {path : List String} {put : Entries → Entries} {sub : Entries}

theorem foldlM_assignments (h : Reaches path put) {pairs : Entries}
    (distinct : Distinct (sub ++ pairs)) :
    (assignments pairs).foldlM Draft.add ⟨put sub, path⟩ = some ⟨put (sub ++ pairs), path⟩ := by
  induction pairs generalizing sub with
  | nil => rw [List.append_nil]; rfl
  | cons e pairs ih =>
      have fresh := distinct.fresh
      rw [List.append_cons] at distinct ⊢
      rw [assignments, List.map_cons, List.foldlM_cons, Draft.add, h, assign, insertNew_fresh fresh]
      exact ih distinct

variable {key : String}

theorem openElement_held (fresh : key ∉ sub.map Prod.fst) (done : List Entries) :
    openElement key (sub ++ held key done) = some (sub ++ [(key, .tables (done ++ [[]]))]) := by
  cases done with
  | nil =>
      rw [held, List.append_nil, openElement, lookup_fresh fresh, setEntry_fresh fresh]
      rfl
  | cons first done =>
      simp only [held, openElement, lookup_last fresh, setEntry_last fresh]

theorem foldlM_element (h : Reaches path put) (fresh : key ∉ sub.map Prod.fst) {pairs : Entries}
    (distinct : Distinct pairs) (done : List Entries) (header : List String) :
    (elementStatements (path ++ [key]) pairs).foldlM Draft.add
        ⟨put (sub ++ held key done), header⟩ =
      some ⟨put (sub ++ held key (done ++ [pairs])), path ++ [key]⟩ := by
  have pairs : Distinct ([] ++ pairs) := distinct
  have inside := foldlM_assignments (h.below (reaches_tables fresh done)) pairs
  rw [elementStatements, List.foldlM_cons, Draft.add, List.getLast?_concat]
  simp only [List.dropLast_concat, h _ _, openElement_held fresh, Option.map_some]
  rw [held_append]
  exact inside

theorem foldlM_elements (h : Reaches path put) (fresh : key ∉ sub.map Prod.fst)
    {elements : List Entries} (distinct : ∀ pairs ∈ elements, Distinct pairs)
    (done : List Entries) (header : List String) :
    ∃ last, (elements.flatMap (elementStatements (path ++ [key]))).foldlM Draft.add
        ⟨put (sub ++ held key done), header⟩ =
      some ⟨put (sub ++ held key (done ++ elements)), last⟩ := by
  induction elements generalizing done header with
  | nil => exact ⟨header, by rw [List.append_nil]; rfl⟩
  | cons pairs elements ih =>
      obtain ⟨first, distinct⟩ := List.forall_mem_cons.mp distinct
      obtain ⟨last, rest⟩ := ih distinct (done ++ [pairs]) (path ++ [key])
      refine ⟨last, ?_⟩
      rw [List.flatMap_cons, List.foldlM_append, foldlM_element h fresh first,
        List.append_cons done pairs elements]
      exact rest

end drafts

structure Part where
  name : String
  pairs : Entries
  arrays : List (String × List Entries)

namespace Part

def arrayEntries (p : Part) : Entries := p.arrays.flatMap fun a => held a.1 a.2

def entries (p : Part) : Entries := p.pairs ++ p.arrayEntries

def statements (p : Part) : List Statement :=
  .table [p.name] :: assignments p.pairs ++
    p.arrays.flatMap fun a => a.2.flatMap (elementStatements [p.name, a.1])

structure Proper (p : Part) : Prop where
  distinct : ((p.pairs.map Prod.fst) ++ p.arrays.map Prod.fst).Nodup
  elements : ∀ a ∈ p.arrays, ∀ pairs ∈ a.2, Distinct pairs

end Part

structure Outline where
  pairs : Entries
  parts : List Part

namespace Outline

def entries (o : Outline) : Entries :=
  o.pairs ++ o.parts.map fun p => (p.name, .table .header p.entries)

def statements (o : Outline) : List Statement :=
  assignments o.pairs ++ o.parts.flatMap Part.statements

structure Proper (o : Outline) : Prop where
  distinct : Distinct o.entries
  parts : ∀ p ∈ o.parts, p.Proper

end Outline

theorem foldlM_arrays {path : List String} {put : Entries → Entries} (h : Reaches path put)
    {arrays : List (String × List Entries)} {sub : Entries}
    (distinct : ((sub.map Prod.fst) ++ arrays.map Prod.fst).Nodup)
    (elements : ∀ a ∈ arrays, ∀ pairs ∈ a.2, Distinct pairs) (header : List String) :
    ∃ last, (arrays.flatMap fun a => a.2.flatMap (elementStatements (path ++ [a.1]))).foldlM
        Draft.add ⟨put sub, header⟩ =
      some ⟨put (sub ++ arrays.flatMap fun a => held a.1 a.2), last⟩ := by
  induction arrays generalizing sub header with
  | nil => exact ⟨header, by simp only [List.flatMap_nil, List.append_nil]; rfl⟩
  | cons a arrays ih =>
      obtain ⟨first, elements⟩ := List.forall_mem_cons.mp elements
      have fresh : a.1 ∉ sub.map Prod.fst := fun found =>
        (List.nodup_append.mp distinct).2.2 _ found _ List.mem_cons_self rfl
      obtain ⟨middle, opened⟩ := foldlM_elements h fresh first [] header
      have distinct : (((sub ++ held a.1 a.2).map Prod.fst) ++ arrays.map Prod.fst).Nodup := by
        rw [List.map_append, List.append_assoc]
        exact distinct.sublist (((keys_held a.1 a.2).append_right _).append_left _)
      obtain ⟨last, rest⟩ := ih distinct elements middle
      refine ⟨last, ?_⟩
      rw [held, List.append_nil, List.nil_append] at opened
      rw [List.flatMap_cons, List.flatMap_cons, List.foldlM_append, opened, ← List.append_assoc]
      exact rest

theorem foldlM_part {p : Part} (proper : p.Proper) {es : Entries}
    (fresh : p.name ∉ es.map Prod.fst) (header : List String) :
    ∃ last, p.statements.foldlM Draft.add ⟨es, header⟩ =
      some ⟨es ++ [(p.name, .table .header p.entries)], last⟩ := by
  have inside := reaches_table fresh
  have pairs : Distinct ([] ++ p.pairs) := (List.nodup_append.mp proper.distinct).1
  obtain ⟨last, arrays⟩ := foldlM_arrays inside proper.distinct proper.elements [p.name]
  have opened : Draft.add ⟨es, header⟩ (.table [p.name]) =
      some ⟨es ++ [(p.name, .table .header [])], [p.name]⟩ := by
    simp [Draft.add, within, openTable, lookup_fresh fresh, setEntry_fresh fresh]
  refine ⟨last, ?_⟩
  rw [Part.statements, List.cons_append, List.foldlM_cons, opened]
  simp only [Option.bind_eq_bind, Option.bind_some]
  rw [List.foldlM_append, foldlM_assignments inside pairs]
  exact arrays

theorem foldlM_parts {parts : List Part} (proper : ∀ p ∈ parts, p.Proper) {es : Entries}
    (distinct : Distinct (es ++ parts.map fun p => (p.name, .table .header p.entries)))
    (header : List String) :
    ∃ last, (parts.flatMap Part.statements).foldlM Draft.add ⟨es, header⟩ =
      some ⟨es ++ parts.map fun p => (p.name, .table .header p.entries), last⟩ := by
  induction parts generalizing es header with
  | nil => exact ⟨header, by rw [List.map_nil, List.append_nil]; rfl⟩
  | cons p parts ih =>
      obtain ⟨first, proper⟩ := List.forall_mem_cons.mp proper
      have fresh := distinct.fresh
      rw [List.map_cons, List.append_cons] at distinct ⊢
      obtain ⟨middle, opened⟩ := foldlM_part first fresh header
      obtain ⟨last, rest⟩ := ih proper distinct middle
      refine ⟨last, ?_⟩
      rw [List.flatMap_cons, List.foldlM_append, opened]
      exact rest

theorem build_statements {o : Outline} (proper : o.Proper) : build o.statements = .ok o.entries := by
  have distinct := proper.distinct
  have pairs : Distinct ([] ++ o.pairs) := by
    rw [Distinct, Outline.entries, List.map_append] at distinct
    exact (List.nodup_append.mp distinct).1
  obtain ⟨last, parts⟩ := foldlM_parts proper.parts proper.distinct []
  have whole : o.statements.foldlM Draft.add ⟨[], []⟩ = some ⟨o.entries, last⟩ := by
    rw [Outline.statements, List.foldlM_append]
    have top := foldlM_assignments reaches_root pairs
    rw [id, id] at top
    rw [top]
    exact parts
  exact addAll_of_foldlM whole 1

end Briefing.Toml
