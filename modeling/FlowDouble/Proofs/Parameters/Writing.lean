import FlowDouble.Proofs.Parameters.Changes
import FlowDouble.Proofs.Parameters.Filling
/-! Which changes the parameter maps go through when one of them is asked to take entries or to
delete one, failed or not. -/
namespace FlowDouble

open FlowDouble.Action

namespace ParameterMap

def Puts (asked : List (Value × Value)) (lists : Heap (List Value)) (c : Change) : Prop :=
  ∃ q ∈ asked, ∃ kept, c = .put q.1 kept ∧ q.1.hashable = true ∧ Keeps lists q.2 kept

theorem putsProper {asked : List (Value × Value)} {lists : Heap (List Value)} {c : Change}
    (puts : Puts asked lists c) : c.Proper := by
  obtain ⟨q, _, kept, rfl, hashable, keeps⟩ := puts
  exact ⟨hashable, keptHoldable keeps⟩

theorem putsMono {asked more : List (Value × Value)} (sub : ∀ q ∈ asked, q ∈ more)
    {lists : Heap (List Value)} {c : Change} (puts : Puts asked lists c) : Puts more lists c := by
  obtain ⟨q, mem, rest⟩ := puts
  exact ⟨q, sub q mem, rest⟩

structure Writes (r : Nat) (P : Heap (List Value) → Change → Prop) (w w' : World) : Prop where
  only : OnlyParameters w w'
  grows : w.parameterMaps.length ≤ w'.parameterMaps.length
  others : ∀ s, s ≠ r → w'.parameterMaps.read s = w.parameterMaps.read s
  changes : ∃ changes : List Change, (∀ c ∈ changes, P w.lists c) ∧
    w'.parameterMaps.read r = Change.applyAll changes (w.parameterMaps.read r)

theorem OnlyParameters.lists {w w' : World} (only : OnlyParameters w w') : w'.lists = w.lists := by
  rw [only]

namespace Writes

variable {r : Nat} {P Q : Heap (List Value) → Change → Prop} {w w' : World}

theorem effect (r : Nat) (P : Heap (List Value) → Change → Prop) : Effect (Writes r P) where
  refl w := ⟨onlyParameters.refl w, Nat.le_refl _, fun _ _ => rfl, [], by simp, rfl⟩
  trans {a b c} ab bc := by
    obtain ⟨only, grows, others, first, good, done⟩ := ab
    obtain ⟨only', grows', others', second, good', done'⟩ := bc
    refine ⟨onlyParameters.trans only only', Nat.le_trans grows grows',
      fun s other => (others' s other).trans (others s other), first ++ second, ?_, ?_⟩
    · intro c mem
      rcases List.mem_append.mp mem with old | new
      · exact good c old
      · exact OnlyParameters.lists only ▸ good' c new
    · rw [done', done, Change.applyAllAppend]
  attachments h := onlyParameters.attachments h.only

theorem mono (weaker : ∀ {lists c}, P lists c → Q lists c) (h : Writes r P w w') :
    Writes r Q w w' := by
  obtain ⟨only, grows, others, changes, good, done⟩ := h
  exact ⟨only, grows, others, changes, fun c mem => weaker (good c mem), done⟩

theorem ofTags (h : w' = { w with tags := w'.tags }) : Writes r P w w' := by
  rw [h]
  exact ⟨rfl, Nat.le_refl _, fun _ _ => rfl, [], by simp, rfl⟩

theorem ofChange (m : ParameterMap) (c : Change) (good : P w.lists c) :
    Writes m.ref P w (w.setParameters m (c.apply (w.parameters m))) := by
  have length : (w.parameterMaps.write m.ref (c.apply (w.parameters m))).length = _ :=
    Heap.writeKeepsLength _ _ _
  refine ⟨rfl, Nat.le_of_eq length.symm, fun s other => Heap.readOther _ _ other.symm, ?_⟩
  by_cases known : m.ref < w.parameterMaps.length
  · refine ⟨[c], fun d mem => List.mem_singleton.mp mem ▸ good, ?_⟩
    exact Heap.readWritten _ known
  · refine ⟨[], by simp, ?_⟩
    simp only [World.setParameters, Heap.write, List.set_eq_of_length_le (Nat.le_of_not_lt known)]
    rfl

end Writes

variable [Calls]

theorem accepts (name value : Value) (w : World) :
    (∃ f, accept name value w = .error f w) ∨
      ∃ kept tags, accept name value w = .ok kept { w with tags } ∧ Keeps w.lists value kept := by
  have rejected : accept name value w = (reject name value : Action Value) w →
      ∃ f, accept name value w = .error f w := by
    intro same
    rw [same]
    exact refusesReject name value w
  by_cases row : ∃ r, value = .list r
  · obtain ⟨r, rfl⟩ := row
    have own : accept name (.list r) w =
        (if allOneKind (w.list r) then newTuple (w.list r) else reject name (.list r)) w := rfl
    rw [own] at rejected ⊢
    by_cases one : allOneKind (w.list r) = true
    · rw [if_pos one]
      exact .inr ⟨.tuple w.tags (w.list r), w.tags + 1, rfl, .row r w.tags one⟩
    · rw [if_neg one] at rejected ⊢
      exact .inl (rejected rfl)
  · have own : accept name value =
        if value.isParameter then pure value else (reject name value : Action Value) := by
      unfold accept
      split
      · exact absurd ⟨_, rfl⟩ row
      · rfl
    rw [own] at rejected ⊢
    by_cases accepted : value.isParameter = true
    · rw [if_pos accepted]
      exact .inr ⟨value, w.tags, rfl, .itself accepted⟩
    · rw [if_neg accepted] at rejected ⊢
      exact .inl (rejected rfl)

theorem putOutcome (m : ParameterMap) (name value : Value) (w : World) :
    (∃ f tags, m.put name value w = .error f { w with tags }) ∨
      ∃ kept tags, m.put name value w = .ok ()
          (World.setParameters { w with tags } m ((w.parameters m).insert name kept)) ∧
        name.hashable = true ∧ Keeps w.lists value kept := by
  rcases accepts name value w with ⟨f, failed⟩ | ⟨kept, tags, accepted, keeps⟩
  · exact .inl ⟨f, w.tags, bindError failed⟩
  have next : m.put name value w = (do
      requireHashable name
      modify fun w => w.setParameters m ((w.parameters m).insert name kept) : Action Unit)
      { w with tags } := bindOk accepted
  rw [next]
  by_cases hashable : name.hashable = true
  · exact .inr ⟨kept, tags, bindOk (keyAccepted hashable _), hashable, keeps⟩
  · obtain ⟨f, failed, _⟩ := keyRefused hashable { w with tags }
    exact .inl ⟨f, tags, bindError failed⟩

theorem putWrites (m : ParameterMap) (name value : Value) (w : World) :
    Writes m.ref (Puts [(name, value)]) w ((m.put name value).leaves w) := by
  rcases putOutcome m name value w with ⟨f, tags, failed⟩ | ⟨kept, tags, done, hashable, keeps⟩
  · rw [leavesError failed]
    exact .ofTags rfl
  · rw [leavesOk done]
    have tagged : Writes m.ref (Puts [(name, value)]) w { w with tags } := .ofTags rfl
    refine (Writes.effect m.ref _).trans tagged (.ofChange m (.put name kept) ?_)
    exact ⟨_, List.mem_cons_self, kept, rfl, hashable, keeps⟩

theorem askToPutWrites {m : ParameterMap} {name value : Value} {w : World} (plain : w.Plain) :
    Writes m.ref (Puts [(name, value)]) w ((m.askToPut name value).leaves w) := by
  have asked : Within (Writes m.ref (Puts [(name, value)])) (m.askToPut name value) := by
    refine withinBind (Writes.effect _ _) ?_ fun _ => withinPure (Writes.effect _ _) _
    refine withinAnswer (by decide) ?_
    exact withinBind (Writes.effect _ _) (fun w _ => putWrites m name value w)
      fun _ => withinPure (Writes.effect _ _) _
  exact asked w plain

def Deletes (name : Value) (_ : Heap (List Value)) (c : Change) : Prop := c = .delete name

omit [Calls] in
theorem readsRefuseDeletion (k : Kind) (key : Value) :
    Within Unchanged (refuseDeletion k key) := by
  unfold refuseDeletion
  split
  · split
    · exact withinThrow unchanged _
    · exact withinThrow unchanged _
  · exact withinThrow unchanged _
  · exact withinThrow unchanged _

omit [Calls] in
theorem eraseWrites {m : ParameterMap} (writable : m.writable = true) (name : Value) :
    Within (Writes m.ref (Deletes name)) (m.erase name) := by
  have effect := Writes.effect m.ref (Deletes name)
  unfold erase
  rw [if_pos writable]
  refine withinBind effect (withinWorld effect) fun w => ?_
  refine withinBind effect (withinOfExcept effect _) fun _ => ?_
  exact withinModify fun w => .ofChange m (.delete name) rfl

omit [Calls] in
theorem eraseRefused {m : ParameterMap} (readOnly : ¬ m.writable = true) (name : Value) :
    Within Unchanged (m.erase name) := by
  unfold erase
  rw [if_neg readOnly]
  exact readsRefuseDeletion _ _

theorem createWrites (writable : Bool) (source : Value) {w : World} (plain : w.Plain) :
    Writes w.parameterMaps.length (fun _ c => c.Proper)
      { w with parameterMaps := w.parameterMaps.push [] } ((create writable source).leaves w) := by
  let m : ParameterMap := ⟨writable, w.parameterMaps.length⟩
  have effect := Writes.effect m.ref (fun _ c => c.Proper)
  have filled : Within (Writes m.ref fun _ c => c.Proper) (do
      if ← truthy source then source.forItems m.put
      return m : Action ParameterMap) := by
    refine withinBind effect (withinUnchanged effect (readsTruthy source)) fun full => ?_
    have put (name value : Value) : Within (Writes m.ref fun _ c => c.Proper)
        (m.put name value) := fun w _ => (putWrites m name value w).mono putsProper
    split
    · exact withinBind effect (withinForItems effect source put) fun _ => withinPure effect _
    · exact withinPure effect _
  exact filled { w with parameterMaps := w.parameterMaps.push [] } plain

end ParameterMap

end FlowDouble
