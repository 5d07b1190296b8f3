import Briefing.Packet.Format
import Briefing.Proofs.JsonReading
import Briefing.Proofs.JsonWriting

namespace Briefing

theorem Json.ofTexts_inj {xs ys : List String} (h : Json.ofTexts xs = Json.ofTexts ys) :
    xs = ys := by
  have texts : Function.Injective Json.text := fun _ _ same => Json.text.inj same
  exact List.map_injective_iff.mpr texts (Json.array.inj h)

theorem Json.ofNat_inj {m n : Nat} (h : Json.ofNat m = Json.ofNat n) : m = n :=
  Int.ofNat.inj (Json.number.inj h).1

namespace Packet

theorem toJson_inj {p q : Packet} {generated : Instant}
    (h : q.toJson generated = p.toJson generated) : { q with tiers := p.tiers } = p := by
  simp only [toJson, Json.object.injEq, List.cons.injEq, Prod.mk.injEq, true_and, and_true] at h
  obtain ⟨budget, used, readOrder, constitution, tasks, conventions, decisions, learnings,
    summaries, instruction⟩ := h
  cases p
  cases q
  simp only [Packet.mk.injEq, and_true]
  exact ⟨Json.ofTexts_inj readOrder, Json.ofTexts_inj constitution, Json.ofTexts_inj tasks,
    Json.ofTexts_inj conventions, Json.ofTexts_inj decisions, Json.ofTexts_inj learnings,
    Json.ofTexts_inj summaries, Json.text.inj instruction, Json.ofNat_inj budget,
    Json.ofNat_inj used⟩

structure Lossless (p : Packet) (generated : Instant) : Prop where
  denoted : ∀ j, Json.Reads (p.jsonText generated) j ↔ j = .object
    [("generated", .text generated.text),
     ("budget", .ofNat p.budget),
     ("tokens_used", .ofNat p.tokensUsed),
     ("read_order", .ofTexts p.readOrder),
     ("constitution", .ofTexts p.constitution),
     ("tasks", .ofTexts p.tasks),
     ("conventions", .ofTexts p.conventions),
     ("decisions", .ofTexts p.decisions),
     ("learnings", .ofTexts p.learnings),
     ("summaries", .ofTexts p.summaries),
     ("instruction", .text p.instruction)]
  read : Json.read? (p.jsonText generated) = some (p.toJson generated)
  rendered : p.render generated .json = p.jsonText generated ++ "\n"
  apart : ∀ q : Packet, q.jsonText generated = p.jsonText generated →
    { q with tiers := p.tiers } = p

theorem jsonText_lossless (p : Packet) (generated : Instant) : Lossless p generated := by
  have reads : Json.Reads (p.jsonText generated) (p.toJson generated) :=
    Json.reads_prettyText (p.toJson generated)
  have read := Json.read?_eq_some reads
  refine ⟨?_, read, rfl, ?_⟩
  · intro j
    constructor
    · intro h
      have same := Json.read?_eq_some h
      rw [read] at same
      exact (Option.some.inj same).symm
    · rintro rfl
      exact reads
  · intro q same
    have other := Json.read?_eq_some (Json.reads_prettyText (q.toJson generated))
    change Json.read? (q.jsonText generated) = _ at other
    rw [same, read] at other
    exact toJson_inj (Option.some.inj other).symm

end Packet

end Briefing
