import FlowDouble.Proofs.Context.Guard
/-! A context just made, and what may happen while nothing is asked of it. -/
namespace FlowDouble

open FlowDouble.Action

def Guard.fresh (writer : Nat) : Guard where
  writer
  allowed := none
  complete := false
  executionRedirect := false
  flow := .null
  hasInput := false
  location := .null
  popup := false

theorem steadyTag : Within Steady newTag := withinModifyGet fun _ => ⟨Nat.le_refl _, rfl, id⟩

theorem steadyToken : Within Steady newToken :=
  withinBind steady steadyTag fun _ => withinPure steady _

theorem steadyAttributes (shared : Bool) : Within Steady (newAttributes shared .null) := by
  refine withinBind steady (withinModifyGet fun _ => ?_) fun _ => ?_
  · exact (Moves.ofNewDictionary (r := 0)).steady
  · exact withinBind steady steadyTag fun _ => withinPure steady _

namespace Context

variable [Calls]

theorem createSteady (source : Value) : Within Steady (create source) := by
  refine withinBind steady ?_ fun m => ?_
  · exact withinMono (fun h => (Moves.ofOnlyParameters (r := 0) h).steady)
      (parametersOfFills source)
  refine withinBind steady (steadyAttributes false) fun _ => ?_
  refine withinBind steady (steadyAttributes true) fun _ => ?_
  refine withinBind steady (steadyAttributes true) fun _ => ?_
  refine withinBind steady steadyToken fun _ => ?_
  refine withinBind steady steadyToken fun _ => ?_
  refine withinBind steady steadyToken fun _ => ?_
  refine withinBind steady (withinModifyGet fun _ => ⟨Nat.le_refl _, rfl, id⟩) fun _ => ?_
  exact withinModifyGet fun w => ⟨by simp [Heap.push], rfl, id⟩

theorem createdFresh {source w₀ r w₁} (made : create source w₀ = .ok r w₁) :
    r < w₁.contexts.length ∧ (w₁.context r).guard = .fresh (w₁.context r).writer := by
  obtain ⟨m, w, _, rest⟩ := bindInv made
  clear made
  cases rest
  refine ⟨by simp [Heap.push], ?_⟩
  simp only [World.context, Heap.readPushed]
  rfl

end Context

structure Elsewhere (r : Nat) (w w' : World) : Prop where
  guard : (w'.context r).guard = (w.context r).guard
  contexts : w.contexts.length ≤ w'.contexts.length
  plain : w.Plain → w'.Plain
  sound : w.Sound → w'.Sound

structure Ready (r : Nat) (w : World) : Prop where
  plain : w.Plain
  sound : w.Sound
  known : r < w.contexts.length

namespace Ready

variable {r : Nat} {w w' : World}

theorem made [Calls] {source w₀} (plain : w₀.Plain) (sound : w₀.Sound)
    (made : Context.create source w₀ = .ok r w) : Ready r w := by
  have after := Context.createSteady source w₀ plain
  rw [leavesOk made] at after
  exact ⟨World.plainKept after.attachments plain, after.sound sound,
    (Context.createdFresh made).1⟩

theorem steady (ready : Ready r w) (after : Steady w w') : Ready r w' :=
  ⟨World.plainKept after.attachments ready.plain, after.sound ready.sound,
    Nat.lt_of_lt_of_le ready.known after.contexts⟩

theorem elsewhere (ready : Ready r w) (apart : Elsewhere r w w') : Ready r w' :=
  ⟨apart.plain ready.plain, apart.sound ready.sound,
    Nat.lt_of_lt_of_le ready.known apart.contexts⟩

end Ready

end FlowDouble
