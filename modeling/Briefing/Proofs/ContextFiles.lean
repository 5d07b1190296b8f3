import Briefing.CommandLine.Run
import Briefing.Proofs.ByteOrder
import Briefing.Proofs.FileTrees
import Briefing.Proofs.SourceTexts

namespace Briefing

theorem Path.isMarkdownName_iff {name : String} :
    isMarkdownName name = true ↔ ∃ stem, stem ≠ "" ∧ name = stem ++ ".md" := by
  have width : markdownSuffix.length = 3 := by decide
  simp only [isMarkdownName, Bool.and_eq_true, List.isSuffixOf_iff_suffix, decide_eq_true_eq]
  constructor
  · rintro ⟨⟨stem, same⟩, longer⟩
    refine ⟨String.ofList stem, ?_, ?_⟩
    · rintro empty
      have none : stem = [] := by simpa using empty
      rw [← same, none] at longer
      exact absurd longer (by decide)
    · rw [← String.toList_inj, ← same, String.toList_append, String.toList_ofList]
      rfl
  · rintro ⟨stem, written, rfl⟩
    have some : 0 < stem.toList.length := List.length_pos_iff.mpr (by simpa using written)
    rw [String.toList_append]
    refine ⟨List.suffix_append stem.toList markdownSuffix, ?_⟩
    rw [List.length_append, width]
    exact Nat.lt_add_of_pos_left some

namespace Context

theorem load_eq_ok {d : Disk} {directory : String} {c : Context} :
    load d directory = .ok c ↔ ∃ stamp children,
      d.node directory = .ok (.directory stamp children) ∧ stamp.readable = true ∧
        ofNames d directory (children.map Prod.fst) = c := by
  unfold load
  split
  · rename_i fault
    simp [fault]
  · rename_i fault _ same
    simp [same]
  · rename_i found
    simp [found]
  · rename_i stamp children found
    rw [found]
    split
    · rename_i readable
      constructor
      · intro same
        exact ⟨stamp, children, rfl, readable, Except.ok.inj same⟩
      · rintro ⟨_, _, same, -, rfl⟩
        cases Except.ok.inj same
        rfl
    · rename_i closed
      refine iff_of_false (by simp) ?_
      rintro ⟨_, _, same, readable, -⟩
      cases Except.ok.inj same
      exact closed readable

theorem fileOf_eq_some {d : Disk} {directory name : String} {f : ContextFile} :
    fileOf d directory name = some f ↔ (Path.isMarkdownName name = true ∧ Path.isText name = true) ∧
      ∃ text, d.readText (Path.join directory name) = .ok text ∧ .named directory name text = f := by
  rw [← Bool.and_eq_true]
  unfold fileOf
  split
  · rename_i taken
    rw [taken]
    cases d.readText (Path.join directory name) <;> simp [Except.toOption]
  · rename_i other
    exact iff_of_false (by simp) fun h => other h.1

theorem name_of_fileOf {d : Disk} {directory name : String} {f : ContextFile}
    (found : fileOf d directory name = some f) : f.name = name := by
  obtain ⟨-, text, -, rfl⟩ := fileOf_eq_some.mp found
  rfl

section

variable {d : Disk} {directory : String} {names : List String}

theorem mem_files_ofNames {f : ContextFile} :
    f ∈ (ofNames d directory names).files ↔
      f.name ∈ names ∧ fileOf d directory f.name = some f := by
  rw [ofNames, List.mem_mergeSort, List.mem_filterMap]
  constructor
  · rintro ⟨name, listed, found⟩
    obtain rfl := name_of_fileOf found
    exact ⟨listed, found⟩
  · rintro ⟨listed, found⟩
    exact ⟨f.name, listed, found⟩

theorem file?_ofNames {name : String} {f : ContextFile} :
    (ofNames d directory names).file? name = some f ↔
      name ∈ names ∧ fileOf d directory name = some f := by
  have only : ∀ g, (ofNames d directory names).file? name = some g →
      name ∈ names ∧ fileOf d directory name = some g := by
    intro g seen
    have same : g.name = name := by simpa using List.find?_some seen
    have listed := mem_files_ofNames.mp (List.mem_of_find?_eq_some seen)
    rwa [same] at listed
  refine ⟨only f, ?_⟩
  rintro ⟨listed, found⟩
  have same := name_of_fileOf found
  have inside : f ∈ (ofNames d directory names).files := by
    rw [mem_files_ofNames, same]
    exact ⟨listed, found⟩
  cases seen : (ofNames d directory names).file? name with
  | none =>
      have other := List.find?_eq_none.mp seen f inside
      exact absurd (beq_iff_eq.mpr same) other
  | some g => exact (only g seen).2.symm.trans found

theorem ascending_ofNames (distinct : names.Nodup) :
    (ofNames d directory names).files.Pairwise fun a b => a.name < b.name := by
  have apart : (names.filterMap (fileOf d directory)).Pairwise fun a b => a.name ≠ b.name := by
    refine List.Pairwise.filterMap (fileOf d directory) ?_ distinct
    intro name name' other a found b found'
    rw [name_of_fileOf found, name_of_fileOf found']
    exact other
  have apart' : (ofNames d directory names).files.Pairwise fun a b => a.name ≠ b.name :=
    (List.mergeSort_perm _ namesInOrder).symm.pairwise apart Ne.symm
  have sorted : (ofNames d directory names).files.Pairwise fun a b => namesInOrder a b :=
    List.pairwise_mergeSort
      (fun a b c first second => by
        simp only [namesInOrder, decide_eq_true_eq] at first second ⊢
        exact String.le_trans first second)
      (fun a b => by
        simp only [namesInOrder, Bool.or_eq_true, decide_eq_true_eq]
        exact String.le_total a.name b.name) _
  refine (sorted.and apart').imp ?_
  rintro a b ⟨order, other⟩
  simp only [namesInOrder, decide_eq_true_eq] at order
  exact String.not_le.mp fun back => other (String.le_antisymm order back)

end

def names (c : Context) : List String := c.files.map ContextFile.name

section

variable {d : Disk} {directory : String} {stamp : Stamp} {children : List (String × Node)}
  (found : d.node directory = .ok (.directory stamp children))
include found

theorem file?_eq {name : String} (h : Disk.FileName name)
    (markdown : Path.isMarkdownName name = true) :
    (ofNames d directory (children.map Prod.fst)).file? name =
      if stamp.searchable ∧ (Path.join directory name).utf8ByteSize < Disk.maxPath then
        (Node.textOf children name).map (.named directory name)
      else none := by
  ext f
  rw [file?_ofNames, fileOf_eq_some]
  simp only [markdown, h.isText, Disk.readText_child found h, and_self, true_and]
  constructor
  · rintro ⟨-, text, ⟨searchable, short, there⟩, rfl⟩
    simp [searchable, short, there]
  · intro seen
    split at seen
    · rename_i reached
      obtain ⟨text, there, same⟩ := Option.map_eq_some_iff.mp seen
      obtain ⟨n, inside, -⟩ := Option.bind_eq_some_iff.mp there
      exact ⟨List.mem_map_of_mem (Node.mem_of_lookup inside), text, ⟨reached.1, reached.2, there⟩, same⟩
    · cases seen

theorem mem_files_iff (proper : Disk.FileNames (children.map Prod.fst)) {f : ContextFile} :
    f ∈ (ofNames d directory (children.map Prod.fst)).files ↔
      ((∃ stem, stem ≠ "" ∧ f.name = stem ++ ".md") ∧ Path.isText f.name = true) ∧
        (stamp.searchable = true ∧ (Path.join directory f.name).utf8ByteSize < Disk.maxPath) ∧
        ∃ s text, (f.name, .file s (some text)) ∈ children ∧ s.readable = true ∧
          f = ⟨f.name, Path.join directory f.name, text, tokens text⟩ := by
  rw [mem_files_ofNames, fileOf_eq_some, ← Path.isMarkdownName_iff]
  constructor
  · rintro ⟨listed, taken, text, read, same⟩
    obtain ⟨searchable, short, there⟩ :=
      (Disk.readText_child found (proper.named f.name listed taken.2)).mp read
    obtain ⟨n, inside, holds⟩ := Option.bind_eq_some_iff.mp there
    obtain ⟨s, rfl, readable⟩ := Node.text?_eq_some.mp holds
    exact ⟨taken, ⟨searchable, short⟩, s, text, Node.mem_of_lookup inside, readable, same.symm⟩
  · rintro ⟨taken, ⟨searchable, short⟩, s, text, inside, readable, same⟩
    have listed : f.name ∈ children.map Prod.fst := List.mem_map_of_mem inside
    have there : Node.textOf children f.name = some text := by
      rw [Node.textOf, (Node.lookup_eq_some proper.distinct).mpr inside]
      exact Node.text?_eq_some.mpr ⟨s, rfl, readable⟩
    have read := (Disk.readText_child found (proper.named f.name listed taken.2)).mpr
      ⟨searchable, short, there⟩
    exact ⟨listed, taken, text, read, same.symm⟩

end

theorem isSome_file? (c : Context) (name : String) : (c.file? name).isSome ↔ name ∈ c.names := by
  simp [file?, names, List.find?_isSome]

theorem text_eq (c : Context) (name : String) :
    c.text name = ((c.file? name).map ContextFile.content).getD "" := by
  rw [text]
  cases c.file? name <;> rfl

theorem recommended_fileName :
    ∀ name ∈ recommendedOrder, Disk.FileName name ∧ Path.isMarkdownName name = true := by
  decide

theorem knowledge_recommended : ∀ name ∈ knowledgeFiles, name ∈ recommendedOrder := by
  decide

def SourcesAlike (d d' : Disk) (directory : String) : Prop :=
  (load d' directory).map sources = (load d directory).map sources ∧
    ∀ s budget now,
      CommandLine.packetOf s d' directory budget now = CommandLine.packetOf s d directory budget now

theorem SourcesAlike.of_load {d d' : Disk} {directory : String} {c c' : Context}
    (ok : load d directory = .ok c) (ok' : load d' directory = .ok c')
    (same : c'.sources = c.sources) : SourcesAlike d d' directory := by
  constructor
  · rw [ok, ok']
    exact congrArg Except.ok same
  · intro s budget now
    simp only [CommandLine.packetOf, ok, ok', Except.map, same]

theorem sources_of_texts {c c' : Context} (directory : c'.directory = c.directory)
    (loaded : ∀ name ∈ recommendedOrder, name ∈ c'.names ↔ name ∈ c.names)
    (texts : ∀ name ∈ knowledgeFiles,
      (c'.file? name).map ContextFile.content = (c.file? name).map ContextFile.content) :
    c'.sources = c.sources := by
  have listing : SameListing c c' := by
    refine ⟨directory, fun name listed => ?_⟩
    rw [Bool.eq_iff_iff, isSome_file?, isSome_file?, loaded name listed]
  refine listing.sources fun name known => .of_eq ?_
  rw [text_eq, text_eq, texts name known]

theorem sources_of_children {d d' : Disk} {directory : String} {stamp stamp' : Stamp}
    {children children' : List (String × Node)}
    (found : d.node directory = .ok (.directory stamp children))
    (found' : d'.node directory = .ok (.directory stamp' children'))
    (same : stamp'.searchable = stamp.searchable)
    (loaded : ∀ name ∈ recommendedOrder,
      (Node.textOf children' name).isSome = (Node.textOf children name).isSome)
    (texts : ∀ name ∈ knowledgeFiles, Node.textOf children' name = Node.textOf children name) :
    (ofNames d' directory (children'.map Prod.fst)).sources =
      (ofNames d directory (children.map Prod.fst)).sources := by
  refine sources_of_texts rfl ?_ ?_
  · intro name listed
    obtain ⟨h, markdown⟩ := recommended_fileName name listed
    rw [← isSome_file?, ← isSome_file?, file?_eq found h markdown, file?_eq found' h markdown, same]
    split
    · rw [Option.isSome_map, Option.isSome_map, loaded name listed]
    · rfl
  · intro name known
    obtain ⟨h, markdown⟩ := recommended_fileName name (knowledge_recommended name known)
    rw [file?_eq found h markdown, file?_eq found' h markdown, same, texts name known]

/-- What is loaded from a directory, and what does not depend on the rest of the tree. -/
structure Reads (d : Disk) (directory : String) (stamp : Stamp) (children : List (String × Node))
    (c : Context) : Prop where
  files : ∀ f, f ∈ c.files ↔
    ((∃ stem, stem ≠ "" ∧ f.name = stem ++ ".md") ∧ Path.isText f.name = true) ∧
      (stamp.searchable = true ∧ (Path.join directory f.name).utf8ByteSize < Disk.maxPath) ∧
      ∃ s text, (f.name, .file s (some text)) ∈ children ∧ s.readable = true ∧
        f = ⟨f.name, Path.join directory f.name, text, tokens text⟩
  ascending : c.files.Pairwise fun a b => Text.bytes a.name < Text.bytes b.name
  readOrder : c.readOrder =
    (recommendedOrder.filter fun name => name ∈ c.names).map (Path.join directory)
  by_texts : ∀ {d' : Disk} {c' : Context}, load d' directory = .ok c' →
    (∀ name ∈ recommendedOrder, name ∈ c'.names ↔ name ∈ c.names) →
    (∀ name ∈ knowledgeFiles,
      (c'.file? name).map ContextFile.content = (c.file? name).map ContextFile.content) →
    SourcesAlike d d' directory
  by_children : ∀ {d' : Disk} {stamp' : Stamp} {children' : List (String × Node)},
    d'.node directory = .ok (.directory stamp' children') →
    stamp'.readable = true → stamp'.searchable = stamp.searchable →
    (∀ name ∈ recommendedOrder,
      (Node.textOf children' name).isSome = (Node.textOf children name).isSome) →
    (∀ name ∈ knowledgeFiles, Node.textOf children' name = Node.textOf children name) →
    SourcesAlike d d' directory

theorem load_reads {d : Disk} (proper : d.root.Proper) {directory : String} {c : Context}
    (ok : load d directory = .ok c) :
    ∃ stamp children, d.node directory = .ok (.directory stamp children) ∧
      Reads d directory stamp children c := by
  obtain ⟨stamp, children, found, readable, rfl⟩ := load_eq_ok.mp ok
  have names : Disk.FileNames (children.map Prod.fst) := by
    obtain ⟨place, -, there⟩ := Disk.node_eq_ok.mp found
    cases proper.find? there with
    | directory _ names => exact names
  refine ⟨stamp, children, found, ?_⟩
  exact {
    files := fun f => mem_files_iff found names
    ascending := (ascending_ofNames names.distinct).imp Text.bytes_lt
    readOrder := by
      rw [readOrder]
      refine congrArg _ (List.filter_congr fun name _ => ?_)
      rw [Bool.eq_iff_iff, isSome_file?, decide_eq_true_eq]
    by_texts := by
      intro d' c' ok' loaded texts
      obtain ⟨stamp', children', found', -, rfl⟩ := load_eq_ok.mp ok'
      exact .of_load ok ok' (sources_of_texts rfl loaded texts)
    by_children := by
      intro d' stamp' children' found' readable' same loaded texts
      have ok' := load_eq_ok.mpr ⟨stamp', children', found', readable', rfl⟩
      exact .of_load ok ok' (sources_of_children found found' same loaded texts) }

def notes (children : List (String × Node)) : Disk :=
  ⟨.directory ⟨0o755, ⟨0, 0⟩⟩ [("notes", .directory ⟨0o755, ⟨0, 0⟩⟩ children)], []⟩

theorem proper_notes {children : List (String × Node)}
    (names : Disk.FileNames (children.map Prod.fst)) (below : ∀ entry ∈ children, entry.2.Proper) :
    (notes children).root.Proper :=
  .directory _ (by simpa using (by decide : Disk.FileNames ["notes"]))
    (List.forall_mem_cons.mpr ⟨.directory _ names below, by simp⟩)

/-- Files with and without text, a name that is nothing but the extension, and a directory that has
the name of a file. -/
def project : Disk := notes [
  ("TASKS.md", .file ⟨0o644, ⟨0, 0⟩⟩ (some "- [ ] Write\n")),
  ("DRIFT.md", .directory ⟨0o755, ⟨0, 0⟩⟩ [("LEARNINGS.md", .file ⟨0o644, ⟨0, 0⟩⟩ (some ""))]),
  ("GLOSSARY.md", .file ⟨0o644, ⟨0, 0⟩⟩ none),
  (".md", .file ⟨0o644, ⟨0, 0⟩⟩ (some "- none")),
  ("A.md", .file ⟨0o644, ⟨0, 0⟩⟩ (some "more"))]

theorem proper_project : project.root.Proper := by
  refine proper_notes (by decide) ?_
  simp only [List.forall_mem_cons]
  refine ⟨.file .., .directory _ (by decide) ?_, .file .., .file .., .file .., by simp⟩
  simp only [List.forall_mem_cons]
  exact ⟨.file .., by simp⟩

theorem load_reads_project : ∃ c, project.root.Proper ∧ load project "notes" = .ok c ∧
    ∃ stamp children, project.node "notes" = .ok (.directory stamp children) ∧
      Reads project "notes" stamp children c := by
  have ok := load_eq_ok.mpr ⟨_, _, (rfl : project.node "notes" = .ok (.directory _ _)), rfl, rfl⟩
  exact ⟨_, proper_project, ok, load_reads proper_project ok⟩

def guarded : Disk := notes [
  ("DECISIONS.md", .file ⟨0, ⟨0, 0⟩⟩ (some "## [2026-02-19-120000] Hidden\n")),
  ("\x00ff.md", .file ⟨0o644, ⟨0, 0⟩⟩ (some "- none"))]

theorem proper_guarded : guarded.root.Proper := by
  refine proper_notes (by decide) ?_
  simp only [List.forall_mem_cons]
  exact ⟨.file .., .file .., by simp⟩

structure LeftOut (d : Disk) (directory stem : String) : Prop where
  proper : d.root.Proper
  named : stem ≠ ""
  loaded : ∃ c, load d directory = .ok c ∧ ∀ f ∈ c.files, f.name ≠ stem ++ ".md"
  there : ∃ stamp children s text, d.node directory = .ok (.directory stamp children) ∧
    (stem ++ ".md", .file s (some text)) ∈ children

theorem load_guarded : load guarded "notes" = .ok ⟨"notes", []⟩ := by decide +kernel

theorem leftOut_long : LeftOut project ("notes" ++ Path.slashes 4086) "TASKS" := by
  have found : project.node "notes" = .ok (.directory _ _) := rfl
  have drawn := Disk.node_slashes found (by decide : "notes".utf8ByteSize + 4086 < Disk.maxPath)
  have ok := load_eq_ok.mpr ⟨_, _, drawn, rfl, rfl⟩
  refine ⟨proper_project, by decide, ⟨_, ok, ?_⟩, _, _, _, _, drawn, List.mem_cons_self⟩
  intro f inside named
  obtain ⟨-, ⟨-, short⟩, -⟩ := (mem_files_iff drawn (by decide)).mp inside
  rw [named] at short
  have long := Path.size_join (by decide : Path.Single ("TASKS" ++ ".md"))
    ("notes" ++ Path.slashes 4086)
  rw [String.utf8ByteSize_append, Path.size_slashes] at long
  exact absurd (Nat.lt_of_le_of_lt long short) (by decide)

/-- A file may be closed to the reader, its name may be no text, and the path to the directory may
leave no room for it. -/
theorem not_all_loaded : LeftOut guarded "notes" "DECISIONS" ∧ LeftOut guarded "notes" "\x00ff" ∧
    LeftOut project ("notes" ++ Path.slashes 4086) "TASKS" := by
  refine ⟨⟨proper_guarded, by decide, ⟨_, load_guarded, by simp⟩, ?_⟩,
    ⟨proper_guarded, by decide, ⟨_, load_guarded, by simp⟩, ?_⟩, leftOut_long⟩
  · exact ⟨_, _, _, _, rfl, List.mem_cons_self⟩
  · exact ⟨_, _, _, _, rfl, List.mem_cons_of_mem _ List.mem_cons_self⟩

end Context

end Briefing
