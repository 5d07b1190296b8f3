import Briefing.Proofs.DiskPaths

namespace Briefing.Disk

def FilesKept (d d' : Disk) : Prop :=
  ∀ place stamp content, d.root.find? place = some (.file stamp content) →
    d'.root.find? place = some (.file stamp content)

theorem FilesKept.refl (d : Disk) : FilesKept d d := fun _ _ _ file => file

theorem FilesKept.trans {d d' d'' : Disk} (first : FilesKept d d') (second : FilesKept d' d'') :
    FilesKept d d'' := fun place stamp content file =>
  second place stamp content (first place stamp content file)

section

variable {d : Disk} {dir place : List String} {name : String} {s : Stamp}
  {children : List (String × Node)} (inside : d.root.find? dir = some (.directory s children))
include inside

theorem find?_of_putAt {now : Instant} {new n : Node}
    (leaf : ∀ step rest, new.find? (step :: rest) = none)
    (found : (d.putAt now (dir ++ [name]) new).root.find? place = some n) :
    (∃ m, d.root.find? place = some m) ∨ place = dir ++ [name] := by
  by_cases below : dir ++ [name] <+: place
  · obtain ⟨rest, rfl⟩ := below
    rw [putAt, Node.find?_append, Node.find?_put_self inside, Option.bind_some] at found
    cases rest with
    | nil => exact Or.inr (List.append_nil _)
    | cons step rest =>
        rw [leaf] at found
        cases found
  · by_cases above : place <+: dir ++ [name]
    · rcases List.prefix_concat_iff.mp above with same | ⟨rest, rfl⟩
      · exact Or.inr same
      · rw [Node.find?_append] at inside
        obtain ⟨m, there, -⟩ := Option.bind_eq_some_iff.mp inside
        exact Or.inl ⟨m, there⟩
    · rw [putAt, Node.find?_put_apart now new below above] at found
      exact Or.inl ⟨n, found⟩

end

theorem present_iff {d : Disk} {path : String} : d.present path = true ↔ ∃ n, d.node path = .ok n := by
  rw [present]
  cases d.node path <;> simp [Except.isOk, Except.toBool]

theorem Grows.present {now : Instant} {d d' : Disk} (h : Grows now d d') {path : String}
    (there : d.present path = true) : d'.present path = true := by
  obtain ⟨n, found⟩ := present_iff.mp there
  obtain ⟨n', found', -⟩ := h.node found
  exact present_iff.mpr ⟨n', found'⟩

def OnWay (d : Disk) (path : String) (place : List String) : Prop :=
  ∃ front, front <+: Path.names path ∧ walk d.root (d.start path) front = .ok place

section

variable {now : Instant} {mode : Nat} {d d' : Disk} {path : String}

theorem find?_of_makeDirectory (made : d.makeDirectory now mode path = .ok d') {place : List String}
    {n : Node} (found : d'.root.find? place = some n) :
    (∃ m, d.root.find? place = some m) ∨
      n.isDirectory = true ∧ walk d'.root (d'.start path) (Path.names path) = .ok place := by
  have grows := grows_makeDirectory made
  obtain ⟨dir, name, new, short, -, rfl⟩ := makeDirectory_eq_ok made
  obtain ⟨s, children, inside, -⟩ := new.inside
  have here : (d.putAt now (dir ++ [name]) (.directory ⟨mode, now⟩ [])).root.find? (dir ++ [name]) =
      some (.directory ⟨mode, now⟩ []) := Node.find?_put_self inside now _ name
  refine (find?_of_putAt inside (fun _ _ => rfl) found).imp_right ?_
  rintro rfl
  rw [here] at found
  obtain rfl := Option.some.inj found
  exact ⟨rfl, (new.grows grows).walk_names short here⟩

theorem Made.fresh (h : Made now mode (Path.Begins · path) d d') {place : List String} {n : Node}
    (found : d'.root.find? place = some n) :
    (∃ m, d.root.find? place = some m) ∨ n.isDirectory = true ∧ OnWay d' path place := by
  induction h with
  | none d => exact Or.inl ⟨n, found⟩
  | @next d d' d'' front begins made later ih =>
      rcases ih found with ⟨m, there⟩ | new
      · obtain ⟨n', there', kept⟩ := later.grows.kept place m there
        obtain rfl := Option.some.inj (there'.symm.trans found)
        refine (find?_of_makeDirectory made there).imp_right fun ⟨directory, way⟩ => ?_
        refine ⟨kept.kind.trans directory, Path.names front, begins.names, ?_⟩
        have start : d''.start path = d''.start front := by rw [Disk.start, ← begins.top, Disk.start]
        rw [start, later.grows.start]
        exact later.grows.walk way
      · exact Or.inr new

theorem NewPlace.present {dir : List String} {name : String} (new : d.NewPlace path dir name)
    (closed : Path.endsOpen path = false) (short : name.utf8ByteSize ≤ maxName) {n : Node}
    (found : d.root.find? (dir ++ [name]) = some n) : d.present path = true :=
  present_iff.mpr ⟨n, node_eq_ok.mpr ⟨_, new.locate short found closed, found⟩⟩

end

end Briefing.Disk
