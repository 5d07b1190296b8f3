import Briefing.Proofs.DiskPaths

namespace Briefing

instance (name : String) : Decidable (Path.Single name) :=
  decidable_of_iff (name ≠ "" ∧ '/' ∉ name.toList)
    ⟨fun h => ⟨h.1, fun _ hc same => h.2 (same ▸ hc)⟩,
      fun h => ⟨h.named, fun hc => h.flat _ hc rfl⟩⟩

namespace Disk

structure FileName (name : String) : Prop where
  single : Path.Single name
  undotted : name ≠ "." ∧ name ≠ ".."
  clean : '\x00' ∉ name.toList
  short : name.utf8ByteSize ≤ maxName

instance (name : String) : Decidable (FileName name) :=
  decidable_of_iff
    (Path.Single name ∧ (name ≠ "." ∧ name ≠ "..") ∧ '\x00' ∉ name.toList ∧
      name.utf8ByteSize ≤ maxName)
    ⟨fun h => ⟨h.1, h.2.1, h.2.2.1, h.2.2.2⟩, fun h => ⟨h.single, h.undotted, h.clean, h.short⟩⟩

theorem FileName.isText {name : String} (h : FileName name) : Path.isText name = true := by
  simpa [Path.isText] using h.clean

structure FileNames (names : List String) : Prop where
  distinct : names.Nodup
  named : ∀ name ∈ names, Path.isText name = true → FileName name

instance (names : List String) : Decidable (FileNames names) :=
  decidable_of_iff (names.Nodup ∧ ∀ name ∈ names, Path.isText name = true → FileName name)
    ⟨fun h => ⟨h.1, h.2⟩, fun h => ⟨h.distinct, h.named⟩⟩

end Disk

namespace Node

section

variable {children : List (String × Node)} {name : String} {n : Node}

theorem mem_of_lookup (found : children.lookup name = some n) : (name, n) ∈ children := by
  obtain ⟨before, after, rfl, -⟩ := List.lookup_eq_some_iff.mp found
  exact List.mem_append_right before List.mem_cons_self

theorem lookup_eq_some (distinct : (children.map Prod.fst).Nodup) :
    children.lookup name = some n ↔ (name, n) ∈ children := by
  refine ⟨mem_of_lookup, fun inside => ?_⟩
  obtain ⟨before, after, rfl⟩ := List.append_of_mem inside
  refine List.lookup_eq_some_iff.mpr ⟨before, after, rfl, fun p earlier => ?_⟩
  rw [List.map_append, List.map_cons] at distinct
  have other := (List.nodup_append.mp distinct).2.2 p.1 (List.mem_map_of_mem earlier) name
    List.mem_cons_self
  simpa using other.symm

end

inductive Proper : Node → Prop where
  | file (stamp : Stamp) (content : Option String) : Proper (.file stamp content)
  | directory (stamp : Stamp) {children : List (String × Node)}
      (names : Disk.FileNames (children.map Prod.fst))
      (below : ∀ entry ∈ children, Proper entry.2) :
      Proper (.directory stamp children)

theorem Proper.find? {n m : Node} {place : List String} (h : n.Proper)
    (there : n.find? place = some m) : m.Proper := by
  induction place generalizing n with
  | nil =>
      cases there
      exact h
  | cons name place ih =>
      rw [Node.find?] at there
      cases h with
      | file => cases there
      | directory stamp names below =>
          split at there
          · cases there
          · rename_i child found
            exact ih (below (name, child) (mem_of_lookup found)) there

/-- The text of a file, and nothing of a directory or of a file that holds no text or may not be
read. -/
def text? : Node → Option String
  | file stamp content => if stamp.readable then content else none
  | directory .. => none

theorem text?_eq_some {n : Node} {text : String} :
    n.text? = some text ↔ ∃ stamp, n = .file stamp (some text) ∧ stamp.readable = true := by
  cases n with
  | file stamp content => simp [text?, and_assoc, and_comm (a := content = some text)]
  | directory => simp [text?]

def textOf (children : List (String × Node)) (name : String) : Option String :=
  (children.lookup name).bind text?

end Node

namespace Path

theorem mem_join {dir name : String} {c : Char} (inside : c ∈ (join dir name).toList) :
    c ∈ dir.toList ∨ c = '/' ∨ c ∈ name.toList := by
  unfold join at inside
  split at inside
  · exact Or.inr (Or.inr inside)
  · exact Or.inr (Or.inr inside)
  · simp only [String.toList_append, List.mem_append] at inside
    exact inside.imp_right Or.inr
  · simpa [or_assoc] using inside

theorem size_join {name : String} (h : Single name) (dir : String) :
    dir.utf8ByteSize + name.utf8ByteSize ≤ (join dir name).utf8ByteSize := by
  unfold join
  split
  · rename_i slash
    exact absurd rfl (h.flat '/' (by simp [slash]))
  · rename_i empty _
    have none : dir = "" := by simpa using empty
    simp [none]
  · rw [String.utf8ByteSize_append]
  · rw [String.utf8ByteSize_append, String.utf8ByteSize_append]
    omega

def slashes (n : Nat) : String := String.ofList (List.replicate n '/')

theorem toList_slashes (path : String) (n : Nat) :
    (path ++ slashes n).toList = path.toList ++ List.replicate n '/' := by
  rw [String.toList_append, slashes, String.toList_ofList]

theorem size_slashes (n : Nat) : (slashes n).utf8ByteSize = n := by
  induction n with
  | zero => rfl
  | succ n ih =>
      rw [slashes, List.replicate_succ', String.ofList_append, String.utf8ByteSize_append]
      exact congrArg (· + 1) ih

theorem names_slashes (path : String) (n : Nat) : names (path ++ slashes n) = names path := by
  rw [names_eq, toList_slashes, names_eq]
  induction n with
  | zero => rw [List.replicate_zero, List.append_nil]
  | succ n ih => rw [List.replicate_succ', ← List.append_assoc, charNames_concat, ih]

end Path

namespace Disk

theorem readText_eq_ok {d : Disk} {path text : String} :
    d.readText path = .ok text ↔ ∃ n, d.node path = .ok n ∧ n.text? = some text := by
  rw [readText]
  cases d.node path with
  | error fault => simp [bind, Except.bind]
  | ok n =>
      simp only [bind, Except.bind, Except.ok.injEq, exists_eq_left']
      cases n with
      | directory stamp children =>
          cases readable : stamp.readable <;> simp [Node.text?, Node.stamp, readable]
      | file stamp content =>
          cases readable : stamp.readable <;> cases content <;>
            simp [Node.text?, Node.stamp, readable]

theorem checkText_join {dir name : String} (sound : checkText dir = .ok ()) (h : FileName name) :
    checkText (Path.join dir name) = .ok () ↔ (Path.join dir name).utf8ByteSize < maxPath := by
  obtain ⟨clean, -, -⟩ := checkText_eq_ok.mp sound
  rw [checkText_eq_ok]
  refine ⟨fun all => all.2.2, fun short => ⟨?_, ?_, short⟩⟩
  · intro nul
    rcases Path.mem_join nul with before | slash | inside
    · exact clean before
    · cases slash
    · exact h.clean inside
  · intro empty
    have none : Path.names dir ++ [name] = [] := by rw [← Path.names_join h.single, empty]; rfl
    simp at none

section

variable {d : Disk} {dir : String} {stamp : Stamp} {children : List (String × Node)} {name : String}
  (found : d.node dir = .ok (.directory stamp children)) (h : FileName name)
include found h

theorem node_child {n : Node} :
    d.node (Path.join dir name) = .ok n ↔ stamp.searchable = true ∧
      (Path.join dir name).utf8ByteSize < maxPath ∧ children.lookup name = some n := by
  obtain ⟨place, reached, there⟩ := node_eq_ok.mp found
  obtain ⟨sound, way, -⟩ := locate_eq_ok.mp reached
  have inside : Node.Passable d.root place ↔ stamp.searchable = true := by
    simp [Node.Passable, there]
  rw [node_join h.single h.undotted, checkText_join sound h, way]
  simp only [h.short, and_true, Except.ok.injEq, exists_eq_left', inside, Node.find?_child there]
  exact and_left_comm

theorem readText_child {text : String} :
    d.readText (Path.join dir name) = .ok text ↔ stamp.searchable = true ∧
      (Path.join dir name).utf8ByteSize < maxPath ∧ Node.textOf children name = some text := by
  simp only [readText_eq_ok, node_child found h, Node.textOf, Option.bind_eq_some_iff, and_assoc,
    exists_and_left]

end

theorem checkText_slashes {path : String} {n : Nat} (sound : checkText path = .ok ())
    (short : path.utf8ByteSize + n < maxPath) : checkText (path ++ Path.slashes n) = .ok () := by
  obtain ⟨clean, named, -⟩ := checkText_eq_ok.mp sound
  rw [checkText_eq_ok, Path.toList_slashes, String.utf8ByteSize_append, Path.size_slashes]
  refine ⟨?_, ?_, short⟩
  · intro nul
    rcases List.mem_append.mp nul with before | after
    · exact clean before
    · cases List.eq_of_mem_replicate after
  · intro empty
    exact named (String.append_eq_empty_iff.mp empty).1

theorem start_slashes (d : Disk) {path : String} (named : path ≠ "") (n : Nat) :
    d.start (path ++ Path.slashes n) = d.start path := by
  have more : path.toList ≠ [] := fun empty => named (by simpa using empty)
  rw [start, Path.isAbsolute, Path.toList_slashes, List.head?_append,
    List.head?_eq_some_head more, Option.some_or, ← List.head?_eq_some_head more]
  rfl

theorem node_slashes {d : Disk} {path : String} {stamp : Stamp}
    {children : List (String × Node)} (found : d.node path = .ok (.directory stamp children))
    {n : Nat} (short : path.utf8ByteSize + n < maxPath) :
    d.node (path ++ Path.slashes n) = .ok (.directory stamp children) := by
  obtain ⟨place, reached, there⟩ := node_eq_ok.mp found
  obtain ⟨sound, way, -⟩ := locate_eq_ok.mp reached
  refine node_eq_ok.mpr ⟨place, locate_eq_ok.mpr ⟨checkText_slashes sound short, ?_, fun _ => ?_⟩, there⟩
  · rwa [start_slashes d (checkText_eq_ok.mp sound).2.1, Path.names_slashes]
  · exact isDirectoryAt_iff.mpr ⟨stamp, children, there⟩

end Disk

end Briefing
