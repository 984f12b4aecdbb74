import FlowDouble.Invocation
import FlowDouble.Proofs.Renaming.Making
import FlowDouble.Proofs.Renaming.Members
/-! Calls in twin worlds: handlers and the layers around them, and every other value. -/
namespace FlowDouble

variable {R : Bond} {P : Pairing} {v v' u u' : Value} {r r' : Nat}

theorem Twin.unknownField {w w' : World} (twin : Twin P w w') (name : String) :
    Alike P (unknownField w name) (unknownField w' name) := by
  refine (twin.configuration (Like.text _).alike (Like.text _).alike alikeNil).andThen
    fun told told' report => ?_
  split
  · exact alikeOk (report.suggest (Like.text _).alike)
  · exact alikeOk report

section
variable [Calls] {w : World}

theorem numberUncarried (v : Value) (w : World) :
    v.carried? "get_number" w = .ok none w := by
  cases v with
  | attributes tag shared backing => cases shared <;> rfl
  | error k r =>
    show Raised.read? r "get_number" w = _
    rw [readsFailure]
    cases w.error r with
    | report told metadata arguments => cases told with
      | mk diagnosis => cases diagnosis <;> rfl
    | plain k arguments => rfl
  | _ => rfl

theorem numberMissing {v : Value} (bare : w.attachments = [])
    (without : ¬v.hasOperation "get_number" = true) :
    v.getMember "get_number" w = .error (.misuse (.noMember v "get_number")) w := by
  have hidden : w.attachment? v "get_number" = none := by simp [World.attachment?, bare]
  have lacks : v.lacking "get_number" = Action.misuse (.noMember v "get_number") := by
    unfold Value.lacking
    rw [if_neg (by decide)]
    cases v with
    | error k r =>
      have given : Raised.unset k "get_number" = false := Bool.and_false _
      simp only [given]
      rfl
    | _ => rfl
  show EStateM.bind (v.carried? "get_number") _ w = _
  unfold EStateM.bind
  rw [numberUncarried]
  dsimp only
  rw [Action.worldBind, hidden]
  dsimp only
  rw [if_neg without, lacks]
  rfl

end

namespace Mirrors

variable [Grows R]

section
variable [Calls]

theorem seedField (pairs : P.Pairs .context r r') (name : String) (value : Alike P v v') :
    Mirrors R P (Context.seedField r name v) (Context.seedField r' name v') := by
  unfold Context.seedField
  split
  · exact .assign pairs _ value
  · exact .forItems value fun _ le _ _ _ _ key same => .askContextToPut (pairs.mono le) key same
  · exact .askToSignal pairs value
  · exact .world fun w w' twin bond => Mirrors.refuseWith (twin.unknownField name) w w' twin bond

theorem seedAll (pairs : P.Pairs .context r r') {fields fields' : List (String × Value)}
    (alike : Alike P fields fields') :
    Mirrors R P (Context.seedAll r fields) (Context.seedAll r' fields') := by
  induction fields generalizing P fields' with
  | nil =>
    obtain ⟨_, rfl⟩ | ⟨_, _, _, _, wrong, _⟩ := alike.list
    · exact .pure (alikeStill _)
    · contradiction
  | cons field rest ih =>
    obtain ⟨wrong, _⟩ | ⟨_, _, field', rest', here, rfl, first, others⟩ := alike.list
    · contradiction
    · cases here
      have name : field'.1 = field.1 := first.fst.still
      unfold Context.seedAll
      rw [name]
      exact .bind (.seedField pairs _ first.snd) fun _ le _ _ _ => ih (pairs.mono le) (others.mono le)

theorem seed (pairs : P.Pairs .context r r') {fields fields' : List (String × Value)}
    (alike : Alike P fields fields') :
    Mirrors R P (Context.seed r fields) (Context.seed r' fields') := by
  have reserved : (fields'.any (·.1 == Context.reservedField)) =
      fields.any (·.1 == Context.reservedField) := by
    rw [alike.renamed, renameList, List.any_map]
    rfl
  refine .bind (.ite (by rw [reserved]) (fun _ => .refused fun _ => rfl)
    fun _ => .pure (alikeStill ())) fun _ le _ _ _ => .seedAll (pairs.mono le) (alike.mono le)

theorem prepareWith {fields fields' : List (String × Value)}
    (seeds : ∀ Q, P ≤ Q → ∀ r r', Q.Pairs .context r r' →
      Mirrors R Q (Context.seed r fields) (Context.seed r' fields'))
    {vs vs' : List Value} (placed : Alike P vs vs') :
    Mirrors R P (Decorated.prepare fields vs) (Decorated.prepare fields' vs') := by
  have fresh : Mirrors R P
      (do
        let r ← Context.create .null
        Context.seed r fields
        return Value.context r :: vs)
      (do
        let r ← Context.create .null
        Context.seed r fields'
        return Value.context r :: vs') :=
    .create Like.null.alike fun Q le r r' pairs =>
      .bind (seeds Q le r r' pairs) fun S more _ _ _ =>
        .pure (alikeCons (Like.context (pairs.mono more)).alike (placed.mono (le.trans more)))
  obtain ⟨rfl, rfl⟩ | ⟨v, rest, v', rest', rfl, rfl, first, others⟩ := placed.list
  · exact fresh
  cases first.like with
  | context pairs =>
    exact .bind (seeds P le_rfl _ _ pairs) fun _ le _ _ _ => .pure (placed.mono le)
  | _ => exact fresh

theorem prepare {fields fields' : List (String × Value)} (alike : Alike P fields fields')
    {vs vs' : List Value} (placed : Alike P vs vs') :
    Mirrors R P (Decorated.prepare fields vs) (Decorated.prepare fields' vs') :=
  .prepareWith (fun _ le _ _ pairs => .seed pairs (alike.mono le)) placed

theorem prepareAll {layers layers' : List (List (String × Value))} (alike : Alike P layers layers')
    {vs vs' : List Value} (placed : Alike P vs vs') :
    Mirrors R P (Decorated.prepareAll layers vs) (Decorated.prepareAll layers' vs') := by
  induction layers generalizing P layers' vs vs' with
  | nil =>
    obtain ⟨_, rfl⟩ | ⟨_, _, _, _, wrong, _⟩ := alike.list
    · exact .pure placed
    · contradiction
  | cons fields rest ih =>
    obtain ⟨wrong, _⟩ | ⟨_, _, fields', rest', here, rfl, first, others⟩ := alike.list
    · contradiction
    · cases here
      exact .bind (.prepare first placed) fun _ le _ _ same => ih (others.mono le) same

end

variable [Calls] [Heeds R]

theorem call (alike : Alike P v v') (name : String) {vs vs' : List Value} (parts : Alike P vs vs') :
    Mirrors R P (v.call name ⟨vs, []⟩) (v'.call name ⟨vs', []⟩) := by
  have args : Alike P (Arguments.mk vs []) ⟨vs', []⟩ :=
    parts.map (f := fun vs => Arguments.mk vs []) fun _ _ => rfl
  refine .ite (by rw [alike.hasOperation R]) (fun _ => ?_) fun _ => ?_
  · exact .answer (.applyOperation alike name args)
  · exact .bind (.getMember alike name) fun _ le _ _ member =>
      Heeds.apply member (args.mono le) rfl

theorem callNumber (alike : Alike P v v') {a a' : Arguments} (args : Alike P a a') :
    Mirrors R P (v.call "get_number" a) (v'.call "get_number" a') := by
  have missing : Alike P (Misuse.noMember v "get_number") (.noMember v' "get_number") :=
    alike.map (f := fun v => Misuse.noMember v "get_number") fun _ _ => rfl
  have same := alike.hasOperation R "get_number"
  unfold Value.call
  rw [same]
  split
  · exact .answer (.applyOperation alike _ args)
  · rename_i without
    intro w w' twin bond
    show Agrees R P (EStateM.bind (v.getMember "get_number") _ w)
      (EStateM.bind (v'.getMember "get_number") _ w')
    unfold EStateM.bind
    rw [numberMissing twin.bare without, numberMissing twin.bare' (by rw [same]; exact without)]
    exact .error le_rfl twin bond (missing.map (f := Fault.misuse) fun _ _ => rfl)

theorem run (t : Task) {f f' : Frame} (frame : Alike P f f') :
    Mirrors R P (t.run f) (t.run f') := by
  have ctx := frame.argument "ctx"
  have one {x x' : Value} (same : Alike P x x') : Alike P [x] [x'] := alikeCons same alikeNil
  cases t with
  | echo =>
    refine .bind (.newTuple frame.restOf) fun Q le rest rest' row => ?_
    refine .bind (.newDictionary (frame.namedOf.mono le)) fun S more named named' entries => ?_
    rw [ctx.kindOf]
    exact .newTuple (alikeCons (Like.text _).alike (alikeCons (row.mono more)
      (alikeCons entries alikeNil)))
  | state => exact .pure ctx
  | url => exact .call ctx _ (alikeCons (frame.argument "flow_id") (one (frame.argument "key")))
  | redirect =>
    refine .bind (.call ctx _ (one (frame.argument "location"))) fun Q le _ _ _ => ?_
    refine .bind (.truthy ((frame.argument "popup").mono le)) fun S more b b' given => ?_
    rw [given.still]
    have all := le.trans more
    have last {T : Pairing} (later : S ≤ T) :
        Mirrors R T (Pure.pure (f.value "ctx")) (Pure.pure (f'.value "ctx")) :=
      .pure (ctx.mono (all.trans later))
    refine .ite Iff.rfl (fun _ => ?_) fun _ => last le_rfl
    exact .bind (.call (ctx.mono all) _ alikeNil) fun T later _ _ _ => last later
  | write =>
    exact .bind (.call ctx _ alikeNil) fun Q le _ _ writer =>
      .call writer _ ((one (frame.argument "text")).mono le)
  | page =>
    refine .bind (.getMember ctx _) fun Q le map map' member => .callNumber member ?_
    have default := (frame.argument "default").mono le
    exact default.map (f := fun d => Arguments.mk [.text "page"] [("default", d)]) fun _ _ => rfl
  | remember =>
    refine .bind (.getMember ctx _) fun Q le map map' member => .call member _ ?_
    exact (alikeCons (frame.argument "key") (one (frame.argument "value"))).mono le
  | fail => exact .refused fun _ => rfl
  | bare => exact .pure (Like.text _).alike

theorem handled (h : Handler) {vs vs' : List Value} (placed : Alike P vs vs')
    {named named' : List (String × Value)} (others : Alike P named named') :
    Mirrors R P (ofExcept (h.signature.bind ⟨vs, named⟩) >>= fun f => h.task.run f)
      (ofExcept (h.signature.bind ⟨vs', named'⟩) >>= fun f => h.task.run f) := by
  have plain : ∀ p ∈ h.signature.parameters, p.Plain := by
    refine plainParameters ?_
    show h.task.parameters.all Parameter.isPlain = true
    cases h.task <;> rfl
  have given : Alike P (Arguments.mk vs named) ⟨vs', named'⟩ :=
    placed.map₂ (f := Arguments.mk) (fun _ _ _ => rfl) others
  exact .bind (.except (given.bound plain)) fun S more f f' frame => .run _ frame

theorem invoke {d d' : Decorated} (decorated : Alike P d d') {a a' : Arguments}
    (args : Alike P a a') : Mirrors R P (d.invoke a) (d'.invoke a') := by
  have layers := decorated.map (f := Decorated.layers) fun _ _ => rfl
  have handler : d'.handler = d.handler := by
    rw [decorated.renamed]
    rfl
  have placed := args.map (f := Arguments.placed) fun _ _ => rfl
  have named := args.map (f := Arguments.named) fun _ _ => rfl
  refine .bind (.prepareAll layers placed) fun Q le vs vs' ready => ?_
  rw [handler]
  exact Mirrors.handled d.handler ready (named.mono le)

end Mirrors

section
variable [Grows R]

theorem appliesWithin (n : Nat) {P : Pairing} {v v' : Value} {a a' : Arguments}
    (alike : Alike P v v') (args : Alike P a a') (unnamed : a.named = []) :
    Mirrors R P (Value.applyWithin n v a) (Value.applyWithin n v' a') := by
  -- on the depth: the calls one level down mirror each other, and so do those made from there
  induction n generalizing P v v' a a' with
  | zero => exact .refused fun _ => rfl
  | succ n ih =>
    let _ : Calls := ⟨Value.applyWithin n⟩
    have : Heeds R := ⟨fun alike args unnamed => ih alike args unnamed⟩
    unfold Value.applyWithin
    cases alike.like with
    | @function r r' pairs =>
      refine .world fun w w' twin bond => ?_
      have decorated := twin.function pairs
      have handler : (w'.function r').handler = (w.function r).handler := by
        rw [decorated.renamed]
        rfl
      exact Mirrors.ite (by rw [handler]) (fun _ => .newPending) (fun _ => .invoke decorated args)
        w w' twin bond
    | operation pairs owner name => exact .applyOperation owner name args
    | _ =>
      obtain ⟨placed, named⟩ := a
      obtain ⟨placed', named'⟩ := a'
      obtain rfl : named = [] := unnamed
      obtain rfl : named' = [] := (args.map (f := Arguments.named) fun _ _ => rfl).renamed
      exact .applyPlain alike (args.map (f := Arguments.placed) fun _ _ => rfl)

instance : Heeds R := ⟨appliesWithin callDepth⟩

end

end FlowDouble
