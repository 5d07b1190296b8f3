import Briefing.Proofs.DiskPlaces
import Briefing.Proofs.PathNames

namespace Briefing

namespace Disk

theorem checkText_eq_ok {path : String} :
    checkText path = .ok () ↔
      '\x00' ∉ path.toList ∧ path ≠ "" ∧ path.utf8ByteSize < maxPath := by
  unfold checkText
  by_cases nul : '\x00' ∈ path.toList
  · simp [nul]
  · by_cases empty : path = ""
    · simp [empty]
    · simp [nul, empty]

theorem checkText_of_front {path longer : String} (before : path.toList <+: longer.toList)
    (named : path ≠ "") (sound : checkText longer = .ok ()) : checkText path = .ok () := by
  obtain ⟨clean, -, short⟩ := checkText_eq_ok.mp sound
  obtain ⟨rest, split⟩ := before
  have whole : longer = path ++ String.ofList rest := by
    rw [← String.toList_inj, String.toList_append, String.toList_ofList, split]
  refine checkText_eq_ok.mpr ⟨fun nul => clean ?_, named, ?_⟩
  · rw [← split]
    exact List.mem_append_left rest nul
  · rw [whole, String.utf8ByteSize_append] at short
    omega

section

variable {d : Disk} {name : String}

theorem start_join (d : Disk) (h : Path.Single name) (dir : String) :
    d.start (Path.join dir name) = d.start dir := by
  rw [start, Path.isAbsolute_join h, start]

theorem node_join (h : Path.Single name) (undotted : name ≠ "." ∧ name ≠ "..") {dir : String}
    {n : Node} :
    d.node (Path.join dir name) = .ok n ↔
      (checkText (Path.join dir name) = .ok () ∧ name.utf8ByteSize ≤ maxName) ∧
        ∃ here, walk d.root (d.start dir) (Path.names dir) = .ok here ∧
          Node.Passable d.root here ∧ d.root.find? (here ++ [name]) = some n := by
  rw [node_eq_ok]
  simp only [locate_eq_ok, start_join d h, Path.names_join h]
  constructor
  · rintro ⟨place, ⟨text, way, -⟩, found⟩
    obtain ⟨here, front, last⟩ := walk_append.mp way
    obtain ⟨inside, ⟨dot, -⟩ | ⟨dots, -⟩ | ⟨⟨-, -, short, -⟩, last⟩⟩ := walk_cons.mp last
    · exact absurd dot undotted.1
    · exact absurd dots undotted.2
    · obtain rfl := Except.ok.inj last
      exact ⟨⟨text, short⟩, here, front, inside, found⟩
  · rintro ⟨⟨text, short⟩, here, way, inside, found⟩
    refine ⟨here ++ [name], ⟨text, walk_last way inside undotted short found, fun opened => ?_⟩, found⟩
    rw [Path.endsOpen_join h] at opened
    cases opened

end

def forward (names : List String) : List String := names.filter (· ≠ ".")

theorem walk_forward {root : Node} {here r : List String} {steps : List String}
    (forth : ".." ∉ steps) (way : walk root here steps = .ok r) : r = here ++ forward steps := by
  induction steps generalizing here with
  | nil => simpa [walk, forward, eq_comm] using way
  | cons step rest ih =>
      obtain ⟨ahead, onward⟩ := not_or.mp (List.mem_cons.not.mp forth)
      obtain ⟨-, ⟨rfl, further⟩ | ⟨rfl, -⟩ | ⟨⟨named, -⟩, further⟩⟩ := walk_cons.mp way
      · exact ih onward further
      · exact absurd rfl ahead
      · rw [ih onward further, forward, forward, List.filter_cons_of_pos (by simpa using named),
          List.append_assoc, List.singleton_append]

/-- On a way that does not turn back, what is new is no way to what was there. -/
theorem Grows.walk_back {now : Instant} {d d' : Disk} (h : Grows now d d')
    {here r below : List String} {steps : List String} {n : Node} (forth : ".." ∉ steps)
    (deeper : below ≠ []) (found : d.root.find? (r ++ below) = some n)
    (way : Disk.walk d'.root here steps = .ok r) : Disk.walk d.root here steps = .ok r := by
  induction steps generalizing here with
  | nil => exact way
  | cons step rest ih =>
      obtain ⟨ahead, onward⟩ := not_or.mp (List.mem_cons.not.mp forth)
      -- the way only adds names, so that what is found in the end lies below every place on it
      have split := walk_forward forth way
      obtain ⟨inside, onto⟩ := walk_cons.mp way
      have before : Node.Passable d.root here := by
        rw [split, List.append_assoc] at found
        exact h.passable_back inside (by simp [deeper]) found
      refine walk_cons.mpr ⟨before, ?_⟩
      rcases onto with ⟨stay, further⟩ | ⟨back, -⟩ | ⟨⟨named, other, short, -⟩, further⟩
      · exact Or.inl ⟨stay, ih onward further⟩
      · exact absurd back.symm ahead
      · have there : (d.root.find? (here ++ [step])).isSome := by
          rw [walk_forward onward further, List.append_assoc, Node.find?_append] at found
          obtain ⟨m, there, -⟩ := Option.bind_eq_some_iff.mp found
          exact Option.isSome_iff_exists.mpr ⟨m, there⟩
        exact Or.inr (Or.inr ⟨⟨named, other, short, there⟩, ih onward further⟩)

def Agree (path : String) (d d' : Disk) : Prop := ∀ n, d'.node path = .ok n ↔ d.node path = .ok n

theorem Agree.refl (path : String) (d : Disk) : Agree path d d := fun _ => Iff.rfl

theorem Agree.trans {path : String} {d d' d'' : Disk} (first : Agree path d d')
    (second : Agree path d' d'') : Agree path d d'' := fun n => (second n).trans (first n)

theorem agree_write {d d' : Disk} {now : Instant} {mode : Nat} {content : Option String}
    {dir name other : String} (h : Path.Plain name) (h' : Path.Plain other) (apart : name ≠ other)
    (written : d.write now mode (Path.join dir name) content = .ok d') :
    Agree (Path.join dir other) d d' := by
  have grows := grows_write written
  obtain ⟨here, last, stamp, w, rfl⟩ := write_eq_ok written
  obtain ⟨before, names, way⟩ := w.new.names
  rw [Path.names_join h.single] at names
  obtain ⟨rfl, same⟩ := List.append_inj' names rfl
  obtain rfl := (List.cons.inj same).1
  rw [start_join d h.single] at way
  have way' := grows.walk way
  rw [← grows.start dir] at way'
  have inside' := grows.passable w.new.inside
  have beside : (Node.put now (.file stamp content) d.root (here ++ [name])).find?
      (here ++ [other]) = d.root.find? (here ++ [other]) := by
    refine Node.find?_put_apart now _ ?_ ?_ <;>
    · rw [List.prefix_append_right_inj]
      simp [apart, Ne.symm apart]
  intro n
  rw [node_join h'.single h'.ne_dots, node_join h'.single h'.ne_dots, way, way']
  simp only [Except.ok.injEq, exists_eq_left', w.new.inside, inside', true_and]
  rw [putAt, beside]

theorem find?_makeDirectory {d d' : Disk} {now : Instant} {mode : Nat} {path dir : String}
    (forth : ".." ∉ Path.names dir) (begins : Path.Begins path dir)
    (made : d.makeDirectory now mode path = .ok d') (name : String) :
    d'.root.find? (d.start dir ++ forward (Path.names dir) ++ [name]) =
      d.root.find? (d.start dir ++ forward (Path.names dir) ++ [name]) := by
  obtain ⟨here, last, new, -, absent, rfl⟩ := makeDirectory_eq_ok made
  obtain ⟨front, names, way⟩ := new.names
  obtain ⟨s, cs, inside, -⟩ := new.inside
  have forth' : ".." ∉ front := by
    intro back
    exact forth (begins.names.subset (by simp [names, back]))
  obtain rfl := walk_forward forth' way
  obtain ⟨⟨rest, whole⟩, top⟩ := begins
  have place : d.start dir ++ forward (Path.names dir) ++ [name] =
      d.start path ++ forward front ++ [last] ++ (forward rest ++ [name]) := by
    have named : (last ≠ ".") := new.named.1
    simp [start, top, ← whole, names, forward, named]
  rw [place, Node.find?_append, Node.find?_append (n := d.root), absent]
  simp only [putAt, Node.find?_put_self inside, Option.bind_some, Option.bind_none]
  cases forward rest <;> rfl

theorem Made.find?_forward {d d' : Disk} {now : Instant} {mode : Nat} {dir : String}
    (h : Made now mode (Path.Begins · dir) d d') (forth : ".." ∉ Path.names dir) (name : String) :
    d'.root.find? (d.start dir ++ forward (Path.names dir) ++ [name]) =
      d.root.find? (d.start dir ++ forward (Path.names dir) ++ [name]) := by
  induction h with
  | none => rfl
  | next begins made _ ih =>
      rw [(grows_makeDirectory made).start] at ih
      exact ih.trans (find?_makeDirectory forth begins made name)

theorem made_makeAll {path dir : String} (begins : Path.Begins path dir) (d : Disk) (now : Instant)
    (mode : Nat) : Made now mode (Path.Begins · dir) d (d.makeAll now mode path).disk :=
  made_makeDirectories (Path.Begins · dir) (fun _ _ h above => h.parent? above) begins d

theorem agree_makeAll_forward {dir other : String} (forth : ".." ∉ Path.names dir)
    (h : Path.Plain other) (d : Disk) (now : Instant) (mode : Nat) :
    Agree (Path.join dir other) d (d.makeAll now mode (Path.tidy dir)).disk := by
  have made := made_makeAll (Path.begins_tidy dir) d now mode
  have start := made.grows.start dir
  have beside := made.find?_forward forth other
  intro n
  rw [node_join h.single h.ne_dots, node_join h.single h.ne_dots, start]
  refine and_congr_right fun _ => ⟨?_, ?_⟩
  · rintro ⟨here, way, inside, found⟩
    rw [walk_forward forth way, beside, ← walk_forward forth way] at found
    exact ⟨here, made.grows.walk_back forth (List.cons_ne_nil other []) found way,
      made.grows.passable_back inside (List.cons_ne_nil other []) found, found⟩
  · rintro ⟨here, way, inside, found⟩
    rw [walk_forward forth way, ← beside, ← walk_forward forth way] at found
    exact ⟨here, made.grows.walk way, made.grows.passable inside, found⟩

theorem makeDirectory_of_there {d : Disk} {path : String} {place : List String}
    (text : checkText path = .ok ())
    (way : walk d.root (d.start path) (Path.names path) = .ok place) (now : Instant) (mode : Nat) :
    d.makeDirectory now mode path = .error .exists := by
  unfold makeDirectory locateNew
  cases names : (Path.names path).reverse with
  | nil => simp [text, bind, Except.bind]
  | cons last front =>
      have split : Path.names path = front.reverse ++ [last] := by
        rw [← List.reverse_reverse (Path.names path), names, List.reverse_cons]
      rw [split] at way
      obtain ⟨dir, first, second⟩ := walk_append.mp way
      obtain ⟨inside, step⟩ := walk_cons.mp second
      have stay : walk d.root (d.start path) (front.reverse ++ ["."]) = .ok dir :=
        walk_append.mpr ⟨dir, first, walk_cons.mpr ⟨inside, Or.inl ⟨rfl, rfl⟩⟩⟩
      rcases step with ⟨rfl, -⟩ | ⟨rfl, -⟩ | ⟨⟨other, other', short, there⟩, -⟩
      · simp [text, stay, bind, Except.bind]
      · simp [text, stay, bind, Except.bind]
      · simp [text, stay, other, other', there, Nat.not_lt.mpr short, bind, Except.bind]

theorem disk_makeAll_of_way {d : Disk} {path : String} {place : List String}
    (text : checkText path = .ok ())
    (way : walk d.root (d.start path) (Path.names path) = .ok place) (now : Instant) (mode : Nat) :
    (d.makeAll now mode path).disk = d := by
  have named := (checkText_eq_ok.mp text).2.1
  simp [makeAll, makeDirectories, makeOrKeep, named, makeDirectory_of_there text way now mode]

theorem way_of_hasDirectory {d : Disk} {path : String} (there : d.hasDirectory path = true) :
    checkText path = .ok () ∧
      ∃ place, walk d.root (d.start path) (Path.names path) = .ok place := by
  unfold hasDirectory at there
  split at there
  · rename_i n found
    obtain ⟨place, reached, -⟩ := node_eq_ok.mp found
    obtain ⟨text, way, -⟩ := locate_eq_ok.mp reached
    exact ⟨text, place, way⟩
  · cases there

theorem disk_makeAll_of_there {d : Disk} {dir : String} (there : d.hasDirectory dir = true)
    (now : Instant) (mode : Nat) : (d.makeAll now mode (Path.tidy dir)).disk = d := by
  by_cases named : Path.tidy dir = ""
  · simp [makeAll, makeDirectories, named]
  · obtain ⟨text, place, way⟩ := way_of_hasDirectory there
    obtain ⟨⟨rest, whole⟩, top⟩ := Path.begins_tidy dir
    rw [← whole] at way
    obtain ⟨m, way, -⟩ := walk_append.mp way
    have start : d.start (Path.tidy dir) = d.start dir := by rw [Disk.start, top, Disk.start]
    exact disk_makeAll_of_way (checkText_of_front (Path.tidy_front dir) named text)
      (start.symm ▸ way) now mode

end Disk

end Briefing
