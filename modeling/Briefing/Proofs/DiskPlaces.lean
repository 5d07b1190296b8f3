import Briefing.Disk

namespace Briefing

namespace Node

theorem lookup_putChild (name : String) (node : Node) (cs : List (String × Node)) (k : String) :
    (putChild name node cs).lookup k = if k = name then some node else cs.lookup k := by
  induction cs with
  | nil =>
      by_cases h : k = name
      · simp [putChild, h]
      · simp [putChild, h, List.lookup_cons, beq_eq_false_iff_ne.mpr h]
  | cons c cs ih =>
      obtain ⟨other, old⟩ := c
      rw [putChild]
      by_cases same : other = name
      · subst same
        rw [if_pos rfl, List.lookup_cons, List.lookup_cons]
        by_cases h : k = other
        · simp [h]
        · simp [h, beq_eq_false_iff_ne.mpr h]
      · rw [if_neg same, List.lookup_cons, List.lookup_cons, ih]
        by_cases h : k = other
        · subst h
          simp [same]
        · simp [beq_eq_false_iff_ne.mpr h]

theorem find?_append (n : Node) (p q : List String) :
    n.find? (p ++ q) = (n.find? p).bind fun m => m.find? q := by
  induction p generalizing n with
  | nil => rfl
  | cons name p ih =>
      simp only [List.cons_append, find?]
      cases n.children.lookup name with
      | none => rfl
      | some child => exact ih child

theorem find?_of_file {n : Node} (file : n.isDirectory = false) {q : List String} (deeper : q ≠ []) :
    n.find? q = none := by
  cases n with
  | directory s cs => cases file
  | file s c =>
      cases q with
      | nil => exact absurd rfl deeper
      | cons name q => rfl

theorem find?_put_self {root : Node} {dir : List String} {s : Stamp} {cs : List (String × Node)}
    (here : root.find? dir = some (directory s cs)) (now : Instant) (new : Node) (name : String) :
    (put now new root (dir ++ [name])).find? (dir ++ [name]) = some new := by
  induction dir generalizing root with
  | nil =>
      obtain rfl := Option.some.inj here
      simp only [List.nil_append, put]
      split <;> simp [find?, children, lookup_putChild]
  | cons d dir ih =>
      cases root with
      | file => cases here
      | directory t ds =>
          simp only [find?, children] at here
          cases found : ds.lookup d with
          | none =>
              rw [found] at here
              cases here
          | some child =>
              rw [found] at here
              simp only [List.cons_append, put, found, find?, children, lookup_putChild, if_true]
              exact ih here

theorem find?_put_apart (now : Instant) (new : Node) {root : Node} {p q : List String}
    (below : ¬ p <+: q) (above : ¬ q <+: p) : (put now new root p).find? q = root.find? q := by
  induction p generalizing root q with
  | nil => exact absurd List.nil_prefix below
  | cons name p ih =>
      cases root with
      | file => rfl
      | directory s cs =>
          cases q with
          | nil => exact absurd List.nil_prefix above
          | cons k q =>
              by_cases same : k = name
              · subst same
                have inner : ¬ p <+: q ∧ ¬ q <+: p := by
                  simpa [List.cons_prefix_cons] using And.intro below above
                cases found : cs.lookup k with
                | some child =>
                    simp only [put, found, find?, children, lookup_putChild, if_true]
                    exact ih inner.1 inner.2
                | none =>
                    have deeper : p ≠ [] := fun last => inner.1 (last ▸ List.nil_prefix)
                    simp only [put, found, if_neg deeper]
              · cases found : cs.lookup name with
                | some child => simp [put, found, find?, children, lookup_putChild, same]
                | none =>
                    simp only [put, found]
                    split <;> simp [find?, children, lookup_putChild, same]

structure Kept (now : Instant) (old new : Node) : Prop where
  kind : new.isDirectory = old.isDirectory
  mode : new.stamp.mode = old.stamp.mode
  modified : new.stamp.modified = old.stamp.modified ∨ new.stamp.modified = now

theorem Kept.refl (now : Instant) (n : Node) : Kept now n n := ⟨rfl, rfl, Or.inl rfl⟩

theorem Kept.trans {now : Instant} {a b c : Node} (first : Kept now a b) (second : Kept now b c) :
    Kept now a c := by
  refine ⟨second.kind.trans first.kind, second.mode.trans first.mode, ?_⟩
  rcases second.modified with same | touched
  · rw [same]
    exact first.modified
  · exact Or.inr touched

theorem kept_put_above (now : Instant) (new : Node) {root n : Node} {p q : List String}
    (above : q <+: p) (apart : q ≠ p) (found : root.find? q = some n) :
    ∃ n', (put now new root p).find? q = some n' ∧ Kept now n n' := by
  induction p generalizing root q with
  | nil => exact absurd (List.prefix_nil.mp above) apart
  | cons name p ih =>
      cases root with
      | file => exact ⟨n, found, Kept.refl now n⟩
      | directory s cs =>
          cases q with
          | nil =>
              obtain rfl := Option.some.inj found
              refine ⟨_, rfl, ?_⟩
              rw [put]
              split
              · exact ⟨rfl, rfl, Or.inl rfl⟩
              · split
                · exact ⟨rfl, rfl, Or.inr rfl⟩
                · exact Kept.refl now _
          | cons k q =>
              obtain ⟨rfl, inside⟩ := List.cons_prefix_cons.mp above
              have inner : q ≠ p := fun same => apart (same ▸ rfl)
              simp only [find?, children] at found
              cases there : cs.lookup k with
              | none =>
                  rw [there] at found
                  cases found
              | some child =>
                  rw [there] at found
                  simp only [put, there, find?, children, lookup_putChild, if_true]
                  exact ih inside inner found

theorem find?_child {root : Node} {here : List String} {s : Stamp} {cs : List (String × Node)}
    (found : root.find? here = some (directory s cs)) (name : String) :
    root.find? (here ++ [name]) = cs.lookup name := by
  rw [find?_append, found, Option.bind_some, find?, children]
  cases cs.lookup name with
  | none => rfl
  | some child => rfl

theorem exists_of_isDirectory {n : Node} (h : n.isDirectory = true) : ∃ s cs, n = directory s cs := by
  cases n with
  | file => cases h
  | directory s cs => exact ⟨s, cs, rfl⟩

theorem directory_of_below {root n : Node} {here below : List String} (deeper : below ≠ [])
    (found : root.find? (here ++ below) = some n) :
    ∃ s cs, root.find? here = some (directory s cs) := by
  rw [find?_append] at found
  obtain ⟨m, there, child⟩ := Option.bind_eq_some_iff.mp found
  cases m with
  | file s c =>
      rw [find?_of_file rfl deeper] at child
      cases child
  | directory s cs => exact ⟨s, cs, there⟩

def Open (root : Node) (p : List String) : Prop := ∀ n, root.find? p = some n → n.isDirectory = false

def Passable (root : Node) (p : List String) : Prop :=
  ∃ s cs, root.find? p = some (directory s cs) ∧ s.searchable = true

theorem Open.find?_below {root : Node} {p q : List String} (h : Open root p) (below : p <+: q)
    (apart : p ≠ q) : root.find? q = none := by
  obtain ⟨deeper, rfl⟩ := below
  rw [find?_append]
  cases found : root.find? p with
  | none => rfl
  | some n => exact find?_of_file (h n found) fun last => apart (by simp [last])

end Node

namespace Disk

/-- How a disk may come out of changes at a given time: nothing is lost. -/
structure Grows (now : Instant) (d d' : Disk) : Prop where
  current : d'.current = d.current
  kept : ∀ q n, d.root.find? q = some n → ∃ n', d'.root.find? q = some n' ∧ Node.Kept now n n'

theorem Grows.refl (now : Instant) (d : Disk) : Grows now d d :=
  ⟨rfl, fun _ n found => ⟨n, found, Node.Kept.refl now n⟩⟩

theorem Grows.trans {now : Instant} {d d' d'' : Disk} (first : Grows now d d')
    (second : Grows now d' d'') : Grows now d d'' := by
  refine ⟨second.current.trans first.current, fun q n found => ?_⟩
  obtain ⟨n', found', kept⟩ := first.kept q n found
  obtain ⟨n'', found'', kept'⟩ := second.kept q n' found'
  exact ⟨n'', found'', kept.trans kept'⟩

theorem grows_putAt {d : Disk} {now : Instant} {p : List String} {new : Node}
    (free : Node.Open d.root p) (fresh : new.stamp.modified = now)
    (same : ∀ n, d.root.find? p = some n →
      new.isDirectory = false ∧ new.stamp.mode = n.stamp.mode)
    {dir : List String} {name : String} (split : p = dir ++ [name]) {s : Stamp}
    {cs : List (String × Node)} (inside : d.root.find? dir = some (.directory s cs)) :
    Grows now d (d.putAt now p new) := by
  refine ⟨rfl, fun q n found => ?_⟩
  by_cases here : q = p
  · subst here split
    obtain ⟨kind, mode⟩ := same n found
    exact ⟨new, Node.find?_put_self inside now new name, kind.trans (free n found).symm, mode,
      Or.inr fresh⟩
  · by_cases below : p <+: q
    · rw [free.find?_below below (Ne.symm here)] at found
      cases found
    · by_cases above : q <+: p
      · exact Node.kept_put_above now new above here found
      · exact ⟨n, (Node.find?_put_apart now new below above).trans found, Node.Kept.refl now n⟩

theorem walk_passable {root : Node} {here : List String} (inside : Node.Passable root here)
    (step : String) (rest : List String) :
    walk root here (step :: rest) =
      if step = "." then walk root here rest
      else if step = ".." then walk root here.dropLast rest
      else if maxName < step.utf8ByteSize then .error .nameTooLong
      else if (root.find? (here ++ [step])).isSome then walk root (here ++ [step]) rest
      else .error .notFound := by
  obtain ⟨s, cs, found, searchable⟩ := inside
  simp only [walk, found, searchable, Node.find?_child found, Bool.not_true, Bool.false_eq_true,
    if_false]

theorem passable_of_walk {root : Node} {here r : List String} {step : String} {rest : List String}
    (way : walk root here (step :: rest) = .ok r) : Node.Passable root here := by
  rw [walk] at way
  split at way
  · cases way
  · cases way
  · rename_i s cs found
    cases searchable : s.searchable with
    | false => simp [searchable] at way
    | true => exact ⟨s, cs, found, searchable⟩

theorem walk_cons {root : Node} {here r : List String} {step : String} {rest : List String} :
    walk root here (step :: rest) = .ok r ↔
      Node.Passable root here ∧
        ((step = "." ∧ walk root here rest = .ok r) ∨
          (step = ".." ∧ walk root here.dropLast rest = .ok r) ∨
          ((step ≠ "." ∧ step ≠ ".." ∧ step.utf8ByteSize ≤ maxName ∧
            (root.find? (here ++ [step])).isSome) ∧ walk root (here ++ [step]) rest = .ok r)) := by
  by_cases inside : Node.Passable root here
  · have dots : (".." : String) ≠ "." := by decide
    rw [walk_passable inside]
    simp only [inside, true_and]
    by_cases stay : step = "."
    · simp [stay]
    · by_cases back : step = ".."
      · simp [back, dots]
      · by_cases long : maxName < step.utf8ByteSize
        · simp [stay, back, long, Nat.not_le.mpr long]
        · cases there : (root.find? (here ++ [step])).isSome <;>
            simp [stay, back, long, Nat.not_lt.mp long]
  · exact iff_of_false (fun way => inside (passable_of_walk way)) fun h => inside h.1

theorem walk_append {root : Node} {here r : List String} {a b : List String} :
    walk root here (a ++ b) = .ok r ↔ ∃ m, walk root here a = .ok m ∧ walk root m b = .ok r := by
  induction a generalizing here with
  | nil => simp [walk]
  | cons step a ih =>
      simp only [List.cons_append, walk_cons, ih]
      constructor
      · rintro ⟨inside, ⟨dot, m, first, second⟩ | ⟨dots, m, first, second⟩ | ⟨named, m, first, second⟩⟩
        · exact ⟨m, ⟨inside, Or.inl ⟨dot, first⟩⟩, second⟩
        · exact ⟨m, ⟨inside, Or.inr (Or.inl ⟨dots, first⟩)⟩, second⟩
        · exact ⟨m, ⟨inside, Or.inr (Or.inr ⟨named, first⟩)⟩, second⟩
      · rintro ⟨m, ⟨inside, ⟨dot, first⟩ | ⟨dots, first⟩ | ⟨named, first⟩⟩, second⟩
        · exact ⟨inside, Or.inl ⟨dot, m, first, second⟩⟩
        · exact ⟨inside, Or.inr (Or.inl ⟨dots, m, first, second⟩)⟩
        · exact ⟨inside, Or.inr (Or.inr ⟨named, m, first, second⟩)⟩

theorem walk_last {root n : Node} {here dir before : List String} {name : String}
    (way : walk root here before = .ok dir) (inside : Node.Passable root dir)
    (named : name ≠ "." ∧ name ≠ "..") (short : name.utf8ByteSize ≤ maxName)
    (found : root.find? (dir ++ [name]) = some n) :
    walk root here (before ++ [name]) = .ok (dir ++ [name]) := by
  have there : (root.find? (dir ++ [name])).isSome := Option.isSome_iff_exists.mpr ⟨n, found⟩
  refine walk_append.mpr ⟨dir, way, walk_cons.mpr ⟨inside, ?_⟩⟩
  exact Or.inr (Or.inr ⟨⟨named.1, named.2, short, there⟩, rfl⟩)

theorem Grows.directory {now : Instant} {d d' : Disk} (h : Grows now d d') {q : List String}
    {s : Stamp} {cs : List (String × Node)} (found : d.root.find? q = some (.directory s cs)) :
    ∃ s' cs', d'.root.find? q = some (.directory s' cs') ∧ s'.mode = s.mode := by
  obtain ⟨n, found', kept⟩ := h.kept q _ found
  obtain ⟨s', cs', rfl⟩ := Node.exists_of_isDirectory kept.kind
  exact ⟨s', cs', found', kept.mode⟩

theorem Grows.passable {now : Instant} {d d' : Disk} (h : Grows now d d') {q : List String}
    (inside : Node.Passable d.root q) : Node.Passable d'.root q := by
  obtain ⟨s, cs, found, searchable⟩ := inside
  obtain ⟨s', cs', found', mode⟩ := h.directory found
  exact ⟨s', cs', found', by rwa [Stamp.searchable, mode]⟩

theorem Grows.passable_back {now : Instant} {d d' : Disk} (h : Grows now d d')
    {q below : List String} {n : Node} (inside : Node.Passable d'.root q) (deeper : below ≠ [])
    (found : d.root.find? (q ++ below) = some n) : Node.Passable d.root q := by
  obtain ⟨s', cs', found', searchable⟩ := inside
  obtain ⟨s, cs, there⟩ := Node.directory_of_below deeper found
  obtain ⟨t, ts, there', mode⟩ := h.directory there
  obtain ⟨rfl, rfl⟩ := Node.directory.inj (Option.some.inj (found'.symm.trans there'))
  exact ⟨s, cs, there, by rwa [Stamp.searchable, ← mode]⟩

theorem Grows.walk {now : Instant} {d d' : Disk} (h : Grows now d d') {here r : List String}
    {steps : List String} (reached : Disk.walk d.root here steps = .ok r) :
    Disk.walk d'.root here steps = .ok r := by
  induction steps generalizing here with
  | nil => exact reached
  | cons step rest ih =>
      rw [walk_cons] at reached ⊢
      obtain ⟨inside, way⟩ := reached
      refine ⟨h.passable inside, ?_⟩
      rcases way with ⟨dot, rest⟩ | ⟨dots, rest⟩ | ⟨⟨apart, apart', short, found⟩, rest⟩
      · exact Or.inl ⟨dot, ih rest⟩
      · exact Or.inr (Or.inl ⟨dots, ih rest⟩)
      · obtain ⟨n, found⟩ := Option.isSome_iff_exists.mp found
        obtain ⟨n', found', -⟩ := h.kept _ n found
        exact Or.inr (Or.inr ⟨⟨apart, apart', short, Option.isSome_iff_exists.mpr ⟨n', found'⟩⟩, ih rest⟩)

theorem Grows.start {now : Instant} {d d' : Disk} (h : Grows now d d') (path : String) :
    d'.start path = d.start path := by
  rw [Disk.start, Disk.start, h.current]

theorem isDirectoryAt_iff {d : Disk} {place : List String} :
    d.isDirectoryAt place = true ↔ ∃ s cs, d.root.find? place = some (.directory s cs) := by
  unfold isDirectoryAt
  cases d.root.find? place with
  | none => simp
  | some n => cases n <;> simp [Node.isDirectory]

theorem locate_eq_ok {d : Disk} {path : String} {place : List String} :
    d.locate path = .ok place ↔ checkText path = .ok () ∧
      walk d.root (d.start path) (Path.names path) = .ok place ∧
        (Path.endsOpen path = true → d.isDirectoryAt place = true) := by
  unfold locate
  cases checkText path with
  | error fault => simp [bind, Except.bind]
  | ok u =>
      cases walk d.root (d.start path) (Path.names path) with
      | error fault => simp [bind, Except.bind]
      | ok reached =>
          by_cases opened : Path.endsOpen path = true
          · cases there : d.isDirectoryAt reached with
            | false =>
                simp only [bind, Except.bind, opened, there]
                refine iff_of_false (by simp) ?_
                rintro ⟨-, rest, inside⟩
                obtain rfl := Except.ok.inj rest
                rw [there] at inside
                cases inside trivial
            | true =>
                simp only [bind, Except.bind, opened, there]
                refine ⟨fun same => ?_, fun h => h.2.1⟩
                obtain rfl := Except.ok.inj same
                exact ⟨trivial, rfl, fun _ => there⟩
          · simp [bind, Except.bind, opened]

theorem node_eq_ok {d : Disk} {path : String} {n : Node} :
    d.node path = .ok n ↔ ∃ place, d.locate path = .ok place ∧ d.root.find? place = some n := by
  unfold node
  cases d.locate path with
  | error fault => simp [bind, Except.bind]
  | ok place =>
      simp only [bind, Except.bind, Except.ok.injEq, exists_eq_left']
      cases d.root.find? place with
      | none => simp
      | some m => simp

theorem Grows.locate {now : Instant} {d d' : Disk} (h : Grows now d d') {path : String}
    {place : List String} (reached : d.locate path = .ok place) : d'.locate path = .ok place := by
  obtain ⟨sound, way, ended⟩ := locate_eq_ok.mp reached
  refine locate_eq_ok.mpr ⟨sound, h.start path ▸ h.walk way, fun opened => ?_⟩
  obtain ⟨s, cs, found⟩ := isDirectoryAt_iff.mp (ended opened)
  obtain ⟨s', cs', found', -⟩ := h.directory found
  exact isDirectoryAt_iff.mpr ⟨s', cs', found'⟩

theorem Grows.node {now : Instant} {d d' : Disk} (h : Grows now d d') {path : String} {n : Node}
    (found : d.node path = .ok n) : ∃ n', d'.node path = .ok n' ∧ Node.Kept now n n' := by
  obtain ⟨place, reached, found⟩ := node_eq_ok.mp found
  obtain ⟨n', found', kept⟩ := h.kept place n found
  exact ⟨n', node_eq_ok.mpr ⟨place, h.locate reached, found'⟩, kept⟩

theorem Grows.hasDirectory {now : Instant} {d d' : Disk} (h : Grows now d d') {path : String}
    (there : d.hasDirectory path = true) : d'.hasDirectory path = true := by
  unfold Disk.hasDirectory at there ⊢
  split at there
  · rename_i n found
    obtain ⟨n', found', kept⟩ := h.node found
    rw [found']
    exact kept.kind.trans there
  · cases there

structure NewPlace (d : Disk) (path : String) (dir : List String) (name : String) : Prop where
  text : checkText path = .ok ()
  names : ∃ before, Path.names path = before ++ [name] ∧ walk d.root (d.start path) before = .ok dir
  inside : Node.Passable d.root dir
  named : name ≠ "." ∧ name ≠ ".."

theorem NewPlace.grows {now : Instant} {d d' : Disk} {path name : String} {dir : List String}
    (new : d.NewPlace path dir name) (grows : Grows now d d') : d'.NewPlace path dir name := by
  obtain ⟨before, names, way⟩ := new.names
  rw [← grows.start] at way
  exact ⟨new.text, ⟨before, names, grows.walk way⟩, grows.passable new.inside, new.named⟩

section

variable {d : Disk} {path name : String} {dir : List String} (new : d.NewPlace path dir name)
  (short : name.utf8ByteSize ≤ maxName) {n : Node} (found : d.root.find? (dir ++ [name]) = some n)
include new short found

theorem NewPlace.walk_names :
    walk d.root (d.start path) (Path.names path) = .ok (dir ++ [name]) := by
  obtain ⟨before, names, way⟩ := new.names
  rw [names]
  exact walk_last way new.inside new.named short found

theorem NewPlace.locate (closed : Path.endsOpen path = false) : d.locate path = .ok (dir ++ [name]) := by
  refine locate_eq_ok.mpr ⟨new.text, new.walk_names short found, fun opened => ?_⟩
  rw [closed] at opened
  cases opened

end

theorem newPlace_of_locateNew {d : Disk} {path : String} {dir : List String} {name : String}
    (h : d.locateNew path = .ok (dir, some name)) : d.NewPlace path dir name := by
  unfold locateNew at h
  cases text : checkText path with
  | error fault => simp [text, bind, Except.bind] at h
  | ok u =>
      cases names : (Path.names path).reverse with
      | nil => simp [text, names, bind, Except.bind] at h
      | cons last before =>
          simp only [text, names, bind, Except.bind] at h
          cases way : walk d.root (d.start path) (before.reverse ++ ["."]) with
          | error fault => simp [way] at h
          | ok place =>
              simp only [way, Except.ok.injEq, Prod.mk.injEq] at h
              obtain ⟨rfl, named⟩ := h
              split at named
              · cases named
              · rename_i other
                obtain rfl := Option.some.inj named
                obtain ⟨m, first, second⟩ := walk_append.mp way
                obtain ⟨inside, stay⟩ := walk_cons.mp second
                have same : m = place := by
                  rcases stay with ⟨-, stay⟩ | ⟨dots, -⟩ | ⟨⟨apart, -⟩, -⟩
                  · exact Except.ok.inj stay
                  · exact absurd dots (by decide)
                  · exact absurd rfl apart
                subst same
                refine ⟨by rw [text], ⟨before.reverse, ?_, first⟩, inside, not_or.mp other⟩
                rw [← List.reverse_reverse (Path.names path), names, List.reverse_cons]

theorem makeDirectory_eq_ok {d d' : Disk} {now : Instant} {mode : Nat} {path : String}
    (h : d.makeDirectory now mode path = .ok d') :
    ∃ dir name, d.NewPlace path dir name ∧ name.utf8ByteSize ≤ maxName ∧
      d.root.find? (dir ++ [name]) = none ∧ d' = d.putAt now (dir ++ [name]) (.directory ⟨mode, now⟩ []) := by
  unfold makeDirectory at h
  cases place : d.locateNew path with
  | error fault => simp [place, bind, Except.bind] at h
  | ok found =>
      obtain ⟨dir, name⟩ := found
      cases name with
      | none => simp [place, bind, Except.bind] at h
      | some name =>
          simp only [place, bind, Except.bind] at h
          split at h
          · cases h
          · rename_i short
            split at h
            · cases h
            · rename_i absent
              split at h
              · cases h
              · exact ⟨dir, name, newPlace_of_locateNew place, Nat.not_lt.mp short,
                  by simpa using absent, (Except.ok.inj h).symm⟩

theorem modeWritten_eq_ok {d : Disk} {mode written : Nat} {dir : List String} {name : String}
    (h : d.modeWritten mode dir name = .ok written) :
    Node.Open d.root (dir ++ [name]) ∧
      (∀ n, d.root.find? (dir ++ [name]) = some n → written = n.stamp.mode) ∧
        (written.testBit 8 = true ∨ written = mode) := by
  unfold modeWritten at h
  split at h
  · cases h
  · rename_i s content found
    have only : ∀ n, d.root.find? (dir ++ [name]) = some n → n = .file s content :=
      fun n there => Option.some.inj (there.symm.trans found)
    split at h
    · rename_i rights
      obtain rfl := Except.ok.inj h
      obtain ⟨readable, -⟩ := (Bool.and_eq_true ..).mp rights
      exact ⟨fun n there => only n there ▸ rfl, fun n there => only n there ▸ rfl, Or.inl readable⟩
    · cases h
  · rename_i absent
    have none : ∀ n, d.root.find? (dir ++ [name]) ≠ some n := by simp [absent]
    split at h
    · obtain rfl := Except.ok.inj h
      exact ⟨fun n there => absurd there (none n), fun n there => absurd there (none n), Or.inr rfl⟩
    · cases h

structure Writes (d : Disk) (now : Instant) (mode : Nat) (path : String) (dir : List String)
    (name : String) (stamp : Stamp) : Prop where
  new : d.NewPlace path dir name
  closed : Path.endsOpen path = false
  short : name.utf8ByteSize ≤ maxName
  free : Node.Open d.root (dir ++ [name])
  fresh : stamp.modified = now
  kept : ∀ n, d.root.find? (dir ++ [name]) = some n → stamp.mode = n.stamp.mode
  opened : stamp.readable = true ∨ stamp.mode = mode

theorem Writes.readable {d : Disk} {now : Instant} {mode : Nat} {path name : String}
    {dir : List String} {stamp : Stamp} (h : d.Writes now mode path dir name stamp)
    (rights : mode.testBit 8 = true) : stamp.readable = true := by
  rcases h.opened with readable | same
  · exact readable
  · rwa [Stamp.readable, same]

theorem write_eq_ok {d d' : Disk} {now : Instant} {mode : Nat} {path : String}
    {content : Option String} (h : d.write now mode path content = .ok d') :
    ∃ dir name stamp, d.Writes now mode path dir name stamp ∧
      d' = d.putAt now (dir ++ [name]) (.file stamp content) := by
  unfold write at h
  cases place : d.locateNew path with
  | error fault => simp [place, bind, Except.bind] at h
  | ok found =>
      obtain ⟨dir, name⟩ := found
      cases name with
      | none => simp [place, bind, Except.bind] at h
      | some name =>
          simp only [place, bind, Except.bind] at h
          split at h
          · cases h
          · rename_i closed
            split at h
            · cases h
            · rename_i short
              cases kept : d.modeWritten mode dir name with
              | error fault => simp [kept] at h
              | ok written =>
                  simp only [kept] at h
                  obtain ⟨free, same, opened⟩ := modeWritten_eq_ok kept
                  exact ⟨dir, name, ⟨written, now⟩, ⟨newPlace_of_locateNew place, by simpa using closed,
                    Nat.not_lt.mp short, free, rfl, same, opened⟩, (Except.ok.inj h).symm⟩

theorem grows_makeDirectory {d d' : Disk} {now : Instant} {mode : Nat} {path : String}
    (h : d.makeDirectory now mode path = .ok d') : Grows now d d' := by
  obtain ⟨dir, name, new, -, absent, rfl⟩ := makeDirectory_eq_ok h
  obtain ⟨s, cs, inside, -⟩ := new.inside
  refine grows_putAt ?_ rfl ?_ rfl inside
  · intro n there
    rw [absent] at there
    cases there
  · intro n there
    rw [absent] at there
    cases there

theorem grows_write {d d' : Disk} {now : Instant} {mode : Nat} {path : String}
    {content : Option String} (h : d.write now mode path content = .ok d') : Grows now d d' := by
  obtain ⟨dir, name, stamp, w, rfl⟩ := write_eq_ok h
  obtain ⟨s, cs, inside, -⟩ := w.new.inside
  exact grows_putAt w.free w.fresh (fun n there => ⟨rfl, w.kept n there⟩) rfl inside

inductive Made (now : Instant) (mode : Nat) (kind : String → Prop) : Disk → Disk → Prop where
  | none (d : Disk) : Made now mode kind d d
  | next {d d' d'' : Disk} {path : String} (fits : kind path)
      (made : d.makeDirectory now mode path = .ok d') (later : Made now mode kind d' d'') :
      Made now mode kind d d''

section

variable {now : Instant} {mode : Nat} {kind : String → Prop} {d d' d'' : Disk}

theorem Made.trans (first : Made now mode kind d d') (second : Made now mode kind d' d'') :
    Made now mode kind d d'' := by
  induction first with
  | none => exact second
  | next fits made _ ih => exact .next fits made (ih second)

theorem Made.grows (h : Made now mode kind d d') : Grows now d d' := by
  induction h with
  | none d => exact Grows.refl now d
  | next _ made _ ih => exact (grows_makeDirectory made).trans ih

theorem made_makeOrKeep {path : String} (fits : kind path) (d : Disk) :
    Made now mode kind d (d.makeOrKeep now mode path).disk := by
  unfold makeOrKeep
  split
  · rename_i d' made
    exact .next fits made (.none d')
  · exact .none d

theorem made_makeDirectories (kind : String → Prop)
    (above : ∀ path parent, kind path → Path.parent? path = some parent → kind parent)
    {fuel : Nat} {path : String} (fits : kind path) (d : Disk) :
    Made now mode kind d (d.makeDirectories now mode fuel path).disk := by
  induction fuel generalizing path with
  | zero => exact .none d
  | succ fuel ih =>
      rw [makeDirectories]
      split
      · exact .none d
      · split
        · split
          · exact .none d
          · rename_i parent found
            have before := ih (above path parent fits found)
            split
            · rename_i d' made
              rw [made] at before
              exact before.trans (made_makeOrKeep fits d')
            · exact before
        · exact made_makeOrKeep fits d

theorem grows_makeDirectories (d : Disk) (now : Instant) (mode fuel : Nat) (path : String) :
    Grows now d (d.makeDirectories now mode fuel path).disk :=
  (made_makeDirectories (fun _ => True) (fun _ _ _ _ => trivial) trivial d).grows

end

theorem locate_of_write {d d' : Disk} {now : Instant} {mode : Nat} {path : String}
    {content : Option String} (h : d.write now mode path content = .ok d') :
    ∃ dir name stamp, d.Writes now mode path dir name stamp ∧
      d' = d.putAt now (dir ++ [name]) (.file stamp content) ∧
        d'.locate path = .ok (dir ++ [name]) ∧
          d'.root.find? (dir ++ [name]) = some (.file stamp content) := by
  have grows := grows_write h
  obtain ⟨dir, name, stamp, w, rfl⟩ := write_eq_ok h
  obtain ⟨s, cs, inside, -⟩ := w.new.inside
  have here : (Node.put now (.file stamp content) d.root (dir ++ [name])).find? (dir ++ [name]) =
      some (.file stamp content) := Node.find?_put_self inside now _ name
  exact ⟨dir, name, stamp, w, rfl, (w.new.grows grows).locate w.short here w.closed, here⟩

theorem node_of_write {d d' : Disk} {now : Instant} {mode : Nat} {path : String}
    {content : Option String} (h : d.write now mode path content = .ok d') :
    ∃ stamp, d'.node path = .ok (.file stamp content) ∧ stamp.modified = now := by
  obtain ⟨dir, name, stamp, w, -, located, here⟩ := locate_of_write h
  exact ⟨stamp, node_eq_ok.mpr ⟨_, located, here⟩, w.fresh⟩

end Disk

end Briefing
