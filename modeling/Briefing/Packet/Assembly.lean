import Briefing.Packet

namespace Briefing.Packet

def foundationTokens (settings : PacketSettings) (sources : Sources) : Nat :=
  totalTokens sources.readOrder + totalTokens sources.constitution + tokens settings.instruction

def foundation (settings : PacketSettings) (sources : Sources) (budget : Nat) : Packet :=
  let items := sources.readOrder.length + sources.constitution.length + 1
  { readOrder := sources.readOrder
    constitution := sources.constitution
    tasks := []
    conventions := []
    decisions := []
    learnings := []
    summaries := []
    instruction := settings.instruction
    budget := budget
    tokensUsed := 0
    tiers := [⟨"foundation", foundationTokens settings sources, items, items⟩] }

def chosenTasks (settings : PacketSettings) (sources : Sources) (budget : Nat) : List String :=
  Budget.fit (Budget.percentOf budget settings.taskPercent) sources.tasks

def chosenConventions (settings : PacketSettings) (sources : Sources) (budget : Nat) :
    List String :=
  Budget.fit (Budget.percentOf budget settings.conventionPercent) sources.conventions

def withTasks (tasks : List String) (total : Nat) (p : Packet) : Packet :=
  { p with
    tasks := tasks
    tiers := p.tiers ++ [⟨"tasks", totalTokens tasks, tasks.length, total⟩] }

def withConventions (conventions : List String) (total : Nat) (p : Packet) : Packet :=
  { p with
    conventions := conventions
    tiers := p.tiers ++ [⟨"conventions", totalTokens conventions, conventions.length, total⟩] }

def sectionTier (name : String) (s : Budget.Section) (total : Nat) : Tier :=
  ⟨name, s.tokens, s.size, total⟩

def knowledge (settings : Settings) (now : Instant) (sources : Sources) (keywords : List String)
    (remaining : Nat) : Budget.Section × Budget.Section :=
  let decisions := Scoring.ranked settings.scoring keywords now sources.decisions
  let learnings := Scoring.ranked settings.scoring keywords now sources.learnings
  let shares := Budget.split remaining decisions learnings settings.packet.splitFloorPercent
  (Budget.Section.fill decisions shares.1 settings.packet.fullContentPercent,
    Budget.Section.fill learnings shares.2 settings.packet.fullContentPercent)

def withKnowledge (sections : Budget.Section × Budget.Section) (sources : Sources) (p : Packet) :
    Packet :=
  { p with
    decisions := sections.1.bodies
    learnings := sections.2.bodies
    summaries := sections.1.titles ++ sections.2.titles
    tiers := p.tiers ++
      [sectionTier "decisions" sections.1 sources.decisions.length,
       sectionTier "learnings" sections.2 sources.learnings.length] }

def staged (settings : Settings) (now : Instant) (sources : Sources) (budget : Nat) : Packet :=
  let base := foundation settings.packet sources budget
  let spent := foundationTokens settings.packet sources
  if budget ≤ spent then base
  else
    let tasks := chosenTasks settings.packet sources budget
    let base := base.withTasks tasks sources.tasks.length
    let spent := spent + totalTokens tasks
    if budget ≤ spent then base
    else
      let conventions := chosenConventions settings.packet sources budget
      let base := base.withConventions conventions sources.conventions.length
      let spent := spent + totalTokens conventions
      if budget ≤ spent then base
      else
        base.withKnowledge
          (knowledge settings now sources (Keywords.extract settings.scoring tasks) (budget - spent))
          sources

def assemble (settings : Settings) (now : Instant) (sources : Sources) (budget : Nat) : Packet :=
  (staged settings now sources budget).counted

end Briefing.Packet
