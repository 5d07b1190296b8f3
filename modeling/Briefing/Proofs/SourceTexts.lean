import Briefing.Context

namespace Briefing

structure ReadAlike (s t : String) : Prop where
  rules : Items.rules t = Items.rules s
  tasks : Items.activeTasks t = Items.activeTasks s
  bullets : Items.bullets t = Items.bullets s
  entries : Entry.blocks t = Entry.blocks s

theorem ReadAlike.of_eq {s t : String} (same : t = s) : ReadAlike s t := by
  subst same
  exact ⟨rfl, rfl, rfl, rfl⟩

namespace Context

def knowledgeFiles : List String :=
  [constitutionFile, tasksFile, conventionsFile, decisionsFile, learningsFile]

structure SameListing (c c' : Context) : Prop where
  directory : c'.directory = c.directory
  loaded : ∀ name ∈ recommendedOrder, (c'.file? name).isSome = (c.file? name).isSome

theorem SameListing.readOrder {c c' : Context} (h : SameListing c c') :
    c'.readOrder = c.readOrder := by
  have kept : (recommendedOrder.filter fun name => (c'.file? name).isSome) =
      recommendedOrder.filter fun name => (c.file? name).isSome :=
    List.filter_congr h.loaded
  rw [Context.readOrder, kept, h.directory, Context.readOrder]

theorem SameListing.sources {c c' : Context} (h : SameListing c c')
    (texts : ∀ name ∈ knowledgeFiles, ReadAlike (c.text name) (c'.text name)) :
    c'.sources = c.sources := by
  have rules := (texts constitutionFile (by simp [knowledgeFiles])).rules
  have tasks := (texts tasksFile (by simp [knowledgeFiles])).tasks
  have conventions := (texts conventionsFile (by simp [knowledgeFiles])).bullets
  have decisions := (texts decisionsFile (by simp [knowledgeFiles])).entries
  have learnings := (texts learningsFile (by simp [knowledgeFiles])).entries
  rw [Context.sources, h.readOrder, rules, tasks, conventions, decisions, learnings,
    Context.sources]

end Context

end Briefing
