import FlowDouble.Proofs.Context.Guard
import FlowDouble.Proofs.Parameters.Writing
import FlowDouble.Seeding
/-! Following one parameter map while contexts are assigned to, asked to put parameters, and
seeded. The map changes by what is put into it through a context that holds it. -/
namespace FlowDouble

open FlowDouble.Action ParameterMap

def ParameterMap.Alone (m : ParameterMap) (v : Value) : Prop :=
  ∀ t, v = .parameters t → t.ref = m.ref → t.writable = true → m.writable = true

structure Settled (m : ParameterMap) (w : World) : Prop where
  known : m.ref < w.parameterMaps.length
  contexts : ∀ r, m.Alone (.parameters (w.context r).parameters)

structure Follows (m : ParameterMap) (P : Heap (List Value) → Change → Prop)
    (w w' : World) : Prop where
  attachments : w'.attachments = w.attachments
  lists : w'.lists = w.lists
  settled : Settled m w → Settled m w'
  changes : Settled m w → ∃ changes : List Change, (∀ c ∈ changes, P w.lists c) ∧
    (m.writable = false → changes = []) ∧
    w'.parameters m = Change.applyAll changes (w.parameters m)

namespace Follows

variable {m : ParameterMap} {P Q : Heap (List Value) → Change → Prop} {w w' : World}

theorem effect (m : ParameterMap) (P : Heap (List Value) → Change → Prop) :
    Effect (Follows m P) where
  refl w := ⟨rfl, rfl, id, fun _ => ⟨[], by simp, fun _ => rfl, rfl⟩⟩
  trans {a b c} ab bc := by
    refine ⟨bc.attachments.trans ab.attachments, bc.lists.trans ab.lists,
      fun s => bc.settled (ab.settled s), fun s => ?_⟩
    obtain ⟨first, good, none, done⟩ := ab.changes s
    obtain ⟨second, good', none', done'⟩ := bc.changes (ab.settled s)
    refine ⟨first ++ second, fun c mem => ?_, fun readOnly => ?_, ?_⟩
    · rcases List.mem_append.mp mem with old | new
      · exact good c old
      · exact ab.lists ▸ good' c new
    · rw [none readOnly, none' readOnly]
      rfl
    · rw [done', done, Change.applyAllAppend]
  attachments h := h.attachments

theorem mono (weaker : ∀ {lists c}, P lists c → Q lists c) (h : Follows m P w w') :
    Follows m Q w w' := by
  refine ⟨h.attachments, h.lists, h.settled, fun s => ?_⟩
  obtain ⟨changes, good, rest⟩ := h.changes s
  exact ⟨changes, fun c mem => weaker (good c mem), rest⟩

theorem ofSame (attachments : w'.attachments = w.attachments) (lists : w'.lists = w.lists)
    (settled : Settled m w → Settled m w')
    (same : Settled m w → w'.parameters m = w.parameters m) : Follows m P w w' :=
  ⟨attachments, lists, settled, fun s => ⟨[], by simp, fun _ => rfl, same s⟩⟩

theorem settledAfter (s : Settled m w) (contexts : w'.contexts = w.contexts)
    (grows : w.parameterMaps.length ≤ w'.parameterMaps.length) : Settled m w' :=
  ⟨Nat.lt_of_lt_of_le s.known grows, fun r => by
    simpa only [World.context, contexts] using s.contexts r⟩

theorem ofWrites {r : Nat} (h : Writes r P w w')
    (own : Settled m w → m.ref = r → m.writable = true) :
    Follows m (fun lists c => m.ref = r ∧ P lists c) w w' := by
  have contexts : w'.contexts = w.contexts := by rw [h.only]
  refine ⟨onlyParameters.attachments h.only, OnlyParameters.lists h.only,
    fun s => settledAfter s contexts h.grows, fun s => ?_⟩
  by_cases same : m.ref = r
  · obtain ⟨changes, good, done⟩ := h.changes
    refine ⟨changes, fun c mem => ⟨same, good c mem⟩, fun readOnly => ?_, ?_⟩
    · rw [own s same] at readOnly
      contradiction
    · simpa only [World.parameters, same] using done
  · exact ⟨[], by simp, fun _ => rfl, h.others m.ref same⟩

theorem thenContext {r : Nat} {c : Context} (before : Follows m P w w')
    (alone : Settled m w → m.Alone (.parameters c.parameters)) :
    Follows m P w (w'.setContext r c) := by
  refine ⟨before.attachments, before.lists, fun s => ?_, before.changes⟩
  obtain ⟨known, contexts⟩ := before.settled s
  refine ⟨known, fun q => ?_⟩
  by_cases same : r = q
  · subst same
    by_cases there : r < w'.contexts.length
    · simpa only [World.context, World.setContext, Heap.readWritten c there] using alone s
    · rw [World.setUnknownContext there]
      exact contexts r
  · simpa only [World.context, World.setContext, Heap.readOther _ c same] using contexts q

end Follows

namespace ParameterMap

variable [Calls] {m : ParameterMap} {P : Heap (List Value) → Change → Prop}

theorem createFollows (writable : Bool) (source : Value) :
    Within (Follows m P) (create writable source) := by
  intro w plain
  have writes := createWrites writable source plain
  have grows : w.parameterMaps.length ≤ (w.parameterMaps.push []).length := by simp [Heap.push]
  have contexts : ((create writable source).leaves w).contexts = w.contexts := by
    rw [writes.only]
  refine .ofSame (onlyParameters.attachments writes.only) (OnlyParameters.lists writes.only)
    (fun s => Follows.settledAfter s contexts (Nat.le_trans grows writes.grows)) fun s => ?_
  have other := writes.others m.ref (Nat.ne_of_lt s.known)
  exact other.trans (Heap.readKept [] s.known)

theorem createdRef {writable : Bool} {source : Value} {w w' : World} {t : ParameterMap}
    (made : create writable source w = .ok t w') : t = ⟨writable, w.parameterMaps.length⟩ := by
  obtain ⟨t', w₁, new, rest⟩ := bindInv made
  obtain ⟨full, w₂, _, rest⟩ := bindInv rest
  have kept : t = t' := by
    cases full with
    | true =>
      obtain ⟨_, w₃, _, last⟩ := bindInv rest
      cases last
      rfl
    | false =>
      cases rest
      rfl
  rw [kept]
  cases new
  rfl

end ParameterMap

namespace Context

def fieldAsks (name : String) (value : Value) (w : World) : List (Value × Value) :=
  match Field.named? name with
  | some .parameters => if value.isMapping then (w.items value).items else []
  | some .event => [(.text eventParameter, value)]
  | _ => []

def seedAsks [Calls] (r : Nat) : List (String × Value) → World → List (Value × Value)
  | [], _ => []
  | (name, value) :: rest, w =>
    fieldAsks name value w ++
      match seedField r name value w with
      | .ok _ w' => seedAsks r rest w'
      | .error .. => []

variable [Calls] {m : ParameterMap} {P : Heap (List Value) → Change → Prop} {r : Nat}

omit [Calls] in
theorem changeFollows {change : Context → Context}
    (kept : ∀ c, (change c).parameters = c.parameters) :
    Within (Follows m P) (Context.change r change) := by
  refine withinModify fun w => ?_
  exact ((Follows.effect m P).refl w).thenContext fun s => (kept (w.context r)).symm ▸ s.contexts r

theorem assignParametersFollows {v : Value} (alone : m.Alone v) :
    Within (Follows m P) (assign r .requestParameters v) := by
  intro w plain
  cases h : parametersOf v w with
  | error f w' =>
    have failed : assign r .requestParameters v w = .error f w' := bindError h
    have filled : Follows m P w ((parametersOf v).leaves w) := by
      unfold parametersOf
      split
      · exact (Follows.effect m P).refl w
      · exact createFollows true _ w plain
    rw [leavesError failed]
    exact leavesError h ▸ filled
  | ok t w' =>
    have done : assign r .requestParameters v w =
        .ok () (w'.setContext r { w'.context r with parameters := t }) := bindOk h
    rw [leavesOk done]
    by_cases taken : ∃ t', v = .parameters t'
    · obtain ⟨t', rfl⟩ := taken
      cases h
      exact ((Follows.effect m P).refl w).thenContext fun _ => alone
    · have made : parametersOf v = ParameterMap.create true v := by
        unfold parametersOf
        split
        · exact absurd ⟨_, rfl⟩ taken
        · rfl
      rw [made] at h
      have filled := createFollows (m := m) (P := P) true v w plain
      rw [leavesOk h] at filled
      refine filled.thenContext fun s u same clash => ?_
      cases same
      rw [createdRef h] at clash
      exact absurd clash.symm (Nat.ne_of_lt s.known)

theorem assignFollows (s : Setting) {v : Value} (alone : m.Alone v) :
    Within (Follows m P) (assign r s v) := by
  have effect := Follows.effect m P
  unfold assign
  cases s with
  | requestParameters => exact assignParametersFollows alone
  | currentUser =>
    refine withinBind effect ?_ fun _ => changeFollows fun _ => rfl
    unfold principalOf
    split
    · refine withinBind effect (withinModifyGet fun w => ?_) fun _ => withinPure effect _
      exact .ofSame rfl rfl (fun s => ⟨s.known, s.contexts⟩) fun _ => rfl
    · exact withinPure effect _
  | responseAllowed =>
    exact withinBind effect (withinUnchanged effect (readsOverride v))
      fun _ => changeFollows fun _ => rfl
  | _ => exact changeFollows fun _ => rfl

theorem putParameterTargets {name value : Value} {w : World} (plain : w.Plain) :
    Follows m (fun lists c => m.ref = (w.context r).parameters.ref ∧ Puts [(name, value)] lists c)
      w ((putParameter r name value).leaves w) := by
  by_cases writable : (w.context r).parameters.writable = true
  · have found : writableParameters r w = .ok (w.context r).parameters w := by
      unfold writableParameters
      rw [worldBind, if_pos writable]
      rfl
    have asked : putParameter r name value w = (w.context r).parameters.askToPut name value w :=
      bindOk found
    rw [leavesSame asked]
    refine .ofWrites (askToPutWrites plain) fun s same => ?_
    exact s.contexts r _ rfl same.symm writable
  · have refused : ∃ f, writableParameters r w = .error f w := by
      unfold writableParameters
      rw [worldBind, if_neg writable]
      exact ⟨_, rfl⟩
    obtain ⟨f, refused⟩ := refused
    have failed : putParameter r name value w = .error f w := bindError refused
    rw [leavesError failed]
    exact (Follows.effect m _).refl w

theorem askToPutLeaves {name value : Value} {w : World} (plain : w.Plain) :
    (askToPut r name value).leaves w = (putParameter r name value).leaves w := by
  have asked := (Value.context r).answerUnhidden (plain _ "put_request_parameter" (by decide))
    ⟨[name, value], []⟩ (yieldNothing (putParameter r name value))
  exact (leavesThenPure _ _ w).trans ((leavesSame asked).trans (leavesThenPure _ _ w))

theorem askToPutFollows (name value : Value) :
    Within (Follows m (Puts [(name, value)])) (askToPut r name value) := by
  intro w plain
  rw [askToPutLeaves plain]
  exact (putParameterTargets plain).mono And.right

theorem askToSignalFollows (event : Value) :
    Within (Follows m (Puts [(.text eventParameter, event)])) (askToSignal r event) := by
  have effect := Follows.effect m (Puts [(.text eventParameter, event)])
  refine withinBind effect ?_ fun _ => withinPure effect _
  refine withinAnswer (by decide) ?_
  exact withinBind effect (askToPutFollows _ event) fun _ => withinPure effect _

theorem seedFieldFollows (name : String) {value : Value} (alone : m.Alone value) {w : World}
    (plain : w.Plain) :
    Follows m (Puts (fieldAsks name value w)) w ((seedField r name value).leaves w) := by
  have effect := Follows.effect m (Puts (fieldAsks name value w))
  unfold seedField
  cases field : Field.named? name with
  | none =>
    refine withinUnchanged effect ?_ w plain
    exact withinBind unchanged (withinWorld unchanged) fun _ => readsRefusal _
  | some f =>
    cases f with
    | setting s => exact assignFollows s alone w plain
    | event =>
      have asks : fieldAsks name value w = [(.text eventParameter, value)] := by
        simp only [fieldAsks, field]
      rw [asks]
      exact askToSignalFollows value w plain
    | parameters =>
      have asks : fieldAsks name value w =
          if value.isMapping then (w.items value).items else [] := by
        simp only [fieldAsks, field]
      show Follows _ _ _ ((value.forItems (askToPut r)).leaves w)
      rw [leavesSame (forItemsPlain plain), asks]
      by_cases mapping : value.isMapping = true
      · rw [if_pos mapping, if_pos mapping]
        refine withinForYield (Follows.effect m _) (fun p mem => ?_) w plain
        refine withinMono (Follows.mono (putsMono fun q single => ?_)) (askToPutFollows p.1 p.2)
        exact List.mem_singleton.mp single ▸ mem
      · rw [if_neg mapping, if_neg mapping]
        exact withinMissing (Follows.effect m _) value "items" w plain

theorem seedAllFollows {fields : List (String × Value)} (alone : ∀ f ∈ fields, m.Alone f.2)
    {w : World} (plain : w.Plain) :
    Follows m (Puts (seedAsks r fields w)) w ((seedAll r fields).leaves w) := by
  induction fields generalizing w with
  | nil => exact (Follows.effect m _).refl w
  | cons field rest ih =>
    obtain ⟨name, value⟩ := field
    have first := seedFieldFollows (r := r) name (alone _ List.mem_cons_self) plain
    have all : seedAll r ((name, value) :: rest) = (do
        seedField r name value
        seedAll r rest : Action Unit) := rfl
    rw [all]
    cases h : seedField r name value w with
    | error f w' =>
      have asks : seedAsks r ((name, value) :: rest) w = fieldAsks name value w := by
        simp only [seedAsks, h, List.append_nil]
      rw [leavesError h] at first
      rw [leavesError (bindError h), asks]
      exact first
    | ok u w' =>
      have asks : seedAsks r ((name, value) :: rest) w =
          fieldAsks name value w ++ seedAsks r rest w' := by
        simp only [seedAsks, h]
      rw [leavesOk h] at first
      rw [leavesBind h, asks]
      have second := ih (fun f mem => alone f (List.mem_cons_of_mem _ mem))
        (World.plainKept first.attachments plain)
      refine (Follows.effect m _).trans (first.mono (putsMono fun q mem => ?_))
        (second.mono (putsMono fun q mem => ?_))
      · exact List.mem_append_left _ mem
      · exact List.mem_append_right _ mem

theorem seedFollows {fields : List (String × Value)} (alone : ∀ f ∈ fields, m.Alone f.2)
    {w : World} (plain : w.Plain) :
    Follows m (Puts (seedAsks r fields w)) w ((seed r fields).leaves w) := by
  have effect := Follows.effect m (Puts (seedAsks r fields w))
  unfold seed checkReserved
  split
  · exact effect.refl w
  · exact seedAllFollows alone plain

end Context

end FlowDouble
