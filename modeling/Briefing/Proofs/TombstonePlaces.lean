import Briefing.Proofs.SessionTombstones

namespace Briefing

namespace Path

/-- What two ways of writing a path have in common: doubled separators and dots that stay are left
out, but for a dot at the start of a relative path. -/
structure Components where
  absolute : Bool
  dotted : Bool
  names : List String
  deriving DecidableEq, Repr

def components (path : String) : Components where
  absolute := isAbsolute path
  dotted := !isAbsolute path && (names path).head? == some "."
  names := Disk.forward (names path)

def Components.child (c : Components) (name : String) : Components :=
  { c with names := c.names ++ [name] }

theorem components_join {name : String} (h : Single name) (named : name ≠ ".") (dir : String) :
    components (join dir name) = (components dir).child name := by
  have last : Disk.forward [name] = [name] := by simp [Disk.forward, named]
  have first : ((names dir ++ [name]).head? == some ".") = ((names dir).head? == some ".") := by
    cases names dir with
    | nil => simp [named]
    | cons step rest => rfl
  simp only [components, Components.child, isAbsolute_join h, names_join h, first, Disk.forward,
    List.filter_append] at last ⊢
  rw [last]

theorem charNames_ne_nil {c : Char} (named : c ≠ '/') (s : List Char) : charNames (c :: s) ≠ [] := by
  have flat : ∀ d ∈ (c :: s).takeWhile (· != '/'), d ≠ '/' := by
    intro d hd
    simpa using List.all_eq_true.mp List.all_takeWhile d hd
  have some : (c :: s).takeWhile (· != '/') ≠ [] := by simp [named]
  have split := List.takeWhile_append_dropWhile (p := (· != '/')) (l := c :: s)
  rw [← split]
  cases rest : (c :: s).dropWhile (· != '/') with
  | nil => simp [charNames_flat some flat]
  | cons d t =>
      have slash : d = '/' := by
        have stop := List.head_dropWhile_not (· != '/') (l := c :: s) (by simp [rest])
        simpa [rest] using stop
      rw [slash, charNames_append, charNames_flat some flat]
      exact List.cons_ne_nil _ _

theorem names_ne_nil {path : String} (named : path ≠ "") (relative : isAbsolute path = false) :
    names path ≠ [] := by
  rw [names_eq]
  cases split : path.toList with
  | nil => exact absurd (by simpa using split) named
  | cons c s =>
      rw [isAbsolute, split] at relative
      exact charNames_ne_nil (by simpa using relative) s

theorem eq_empty_of_tidy {path : String} (h : tidy path = "") : path = "" := by
  have first := head?_tidy path
  rw [h] at first
  simpa using List.head?_eq_none_iff.mp first.symm

theorem components_tidy (path : String) : components (tidy path) = components path := by
  obtain ⟨k, split⟩ := names_tidy path
  have steps : Disk.forward (names path) = Disk.forward (names (tidy path)) := by
    simp [split, Disk.forward]
  have first : (!isAbsolute path && (names path).head? == some ".") =
      (!isAbsolute path && (names (tidy path)).head? == some ".") := by
    cases top : isAbsolute path with
    | true => rw [Bool.not_true, Bool.false_and, Bool.false_and]
    | false =>
        by_cases empty : tidy path = ""
        · obtain rfl := eq_empty_of_tidy empty
          rw [empty]
        · have more := names_ne_nil empty ((isAbsolute_tidy path).trans top)
          rw [split, List.head?_append_of_ne_nil _ more]
  rw [components, components, isAbsolute_tidy, steps, first]

end Path

namespace Cooldown

def Harmless (c : Char) : Prop :=
  ('A' ≤ c ∧ c ≤ 'Z') ∨ ('a' ≤ c ∧ c ≤ 'z') ∨ ('0' ≤ c ∧ c ≤ '9') ∨ c = '-' ∨ c = '_'

theorem harmless_iff {c : Char} : isSafe c = true ↔ Harmless c := by
  have upper : c.isUpper = decide ('A' ≤ c ∧ c ≤ 'Z') := rfl
  have lower : c.isLower = (decide ('a' ≤ c) && decide (c ≤ 'z')) := rfl
  have digit : c.isDigit = (decide ('0' ≤ c) && decide (c ≤ '9')) := rfl
  have letter : c.isAlphanum = (c.isUpper || c.isLower || c.isDigit) := rfl
  simp only [isSafe, Harmless, letter, upper, lower, digit, Bool.or_eq_true, Bool.and_eq_true,
    decide_eq_true_iff,
    beq_iff_eq, or_assoc]

structure TombstoneName (session : List Char) (name : String) : Prop where
  label : "ctx-agent-".toList <+: name.toList
  harmless : ∀ c ∈ name.toList, Harmless c
  clean : '/' ∉ name.toList ∧ '.' ∉ name.toList ∧ '\x00' ∉ name.toList
  undotted : name ≠ "." ∧ name ≠ ".."
  size : name.toList.length = session.length + 10

theorem tombstoneName_sanitized (session : List Char) :
    TombstoneName session (filePrefix ++ sanitized session) where
  label := by
    rw [String.toList_append]
    exact List.prefix_append _ _
  harmless := fun c hc => harmless_iff.mp (isSafe_of_mem hc)
  clean := by
    refine ⟨?_, ?_, ?_⟩ <;>
    · intro inside
      exact absurd (isSafe_of_mem inside) (by decide)
  undotted := (plain_tombstone session).ne_dots
  size := by
    have label : filePrefix.toList.length = 10 := by decide
    rw [String.toList_append, List.length_append, label, sanitized, String.toList_ofList,
      List.length_map, Nat.add_comm]

structure Below (directory name path : String) : Prop where
  joined : path = Path.join directory name
  components : Path.components path = (Path.components directory).child name
  parent : ∃ parent, Path.parent? path = some parent ∧
    Path.components parent = Path.components directory
  inside : ∀ (disk : Disk) (n : Node), disk.node path = .ok n →
    ∃ place, Disk.walk disk.root (disk.start directory) (Path.names directory) = .ok place ∧
      disk.root.find? (place ++ [name]) = some n

theorem below_join {name : String} (h : Path.Plain name) (directory : String) :
    Below directory name (Path.join directory name) where
  joined := rfl
  components := Path.components_join h.single h.ne_dots.1 directory
  parent := ⟨Path.tidy directory, Path.parent?_join h directory, Path.components_tidy directory⟩
  inside := by
    intro disk n found
    obtain ⟨-, place, way, -, here⟩ := (Disk.node_join h.single h.ne_dots).mp found
    exact ⟨place, way, here⟩

theorem inDirectory_eq_none {directory session : String} {windowSeconds : Nat} :
    inDirectory directory session windowSeconds = none ↔ Text.trim session.toList = [] := by
  constructor
  · intro none
    by_contra named
    obtain ⟨c, some, -⟩ := inDirectory_of_named named directory windowSeconds
    rw [none] at some
    cases some
  · intro blank
    exact inDirectory_of_blank (Text.blankText_iff.mpr blank) directory windowSeconds

theorem tombstones_contained (directory session : String) (windowSeconds : Nat) :
    (inDirectory directory session windowSeconds = none ↔ Text.trim session.toList = []) ∧
      ∀ c ∈ inDirectory directory session windowSeconds,
        ∃ name, TombstoneName (Text.trim session.toList) name ∧ Below directory name c.tombstone := by
  refine ⟨inDirectory_eq_none, ?_⟩
  intro c hc
  have named : Text.trim session.toList ≠ [] := by
    intro blank
    rw [inDirectory_eq_none.mpr blank] at hc
    cases hc
  obtain ⟨d, same, place⟩ := inDirectory_of_named named directory windowSeconds
  obtain rfl : d = c := Option.some.inj (same.symm.trans hc)
  refine ⟨_, tombstoneName_sanitized _, ?_⟩
  rw [place]
  exact below_join (plain_tombstone _) directory

theorem tombstones_contained_climbing :
    inDirectory "state/" " ../../etc/passwd\x00é " 600 =
        some ⟨"state/ctx-agent-______etc_passwd__", 600⟩ ∧
      ∃ name, TombstoneName "../../etc/passwd\x00é".toList name ∧
        Below "state/" name "state/ctx-agent-______etc_passwd__" := by
  have made : inDirectory "state/" " ../../etc/passwd\x00é " 600 =
      some ⟨"state/ctx-agent-______etc_passwd__", 600⟩ := by decide +kernel
  have trimmed : Text.trim " ../../etc/passwd\x00é ".toList = "../../etc/passwd\x00é".toList := by
    decide +kernel
  have places := (tombstones_contained "state/" " ../../etc/passwd\x00é " 600).2 _ made
  rw [trimmed] at places
  exact ⟨made, places⟩

end Cooldown

end Briefing
