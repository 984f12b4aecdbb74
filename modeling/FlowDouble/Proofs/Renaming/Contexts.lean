import FlowDouble.Context.Operation
import FlowDouble.Proofs.Renaming.Attributes
/-! Contexts in twin worlds: how they are made, what they answer, and what is assigned on them. -/
namespace FlowDouble

theorem Report.responseNotAllowedRenamed (ρ : Renaming) (message reason : Value) (es : Entries) :
    Report.responseNotAllowed (rename ρ message) (rename ρ reason) (rename ρ es) =
      rename ρ (Report.responseNotAllowed message reason es) := by
  have same : (rename ρ reason).sameKey (.text "not_allowed") =
      reason.sameKey (.text "not_allowed") := Value.sameKeyRenamed ρ reason (.text "not_allowed")
  unfold Report.responseNotAllowed
  rw [same]
  split <;> rfl

section
variable {P : Pairing} {c c' : Context} {v v' : Value}

theorem Alike.paramsOf (alike : Alike P c c') : Alike P c.parameters c'.parameters :=
  alike.map fun _ _ => rfl

theorem Alike.writer (alike : Alike P c c') : Alike P (Value.writer c.writer) (.writer c'.writer) :=
  alike.map (f := fun c : Context => Value.writer c.writer) fun _ _ => rfl

theorem Alike.setting (alike : Alike P c c') (s : Setting) :
    Alike P (c.setting s) (c'.setting s) :=
  alike.map (f := (Context.setting · s)) fun ρ c => by
    cases s <;> rfl

theorem Alike.refusal (alike : Alike P c c') : Alike P c.refusal c'.refusal :=
  alike.map (f := Context.refusal) fun ρ c => by
    have execution : (rename ρ c).executionRedirect = c.executionRedirect := rfl
    have flow : (rename ρ c).definitionRedirect = c.definitionRedirect :=
      congrArg not (Value.isNullRenamed ρ c.redirectFlow)
    have url : (rename ρ c).externalRedirect = c.externalRedirect :=
      congrArg not (Value.isNullRenamed ρ c.externalUrl)
    have complete : (rename ρ c).complete = c.complete := rfl
    have told (message reason : String) (es : Entries) :=
      Report.responseNotAllowedRenamed ρ (.text message) (.text reason) es
    unfold Context.refusal
    rw [execution, flow, url, complete]
    dsimp only
    split
    · exact told _ _ []
    split
    · exact told _ _ [(.text "flow_id", c.redirectFlow)]
    split
    · exact told _ _ [(.text "location", c.externalUrl)]
    split
    · exact told _ _ []
    · exact told _ _ []

end

namespace Mirrors

variable {R : Bond} {P : Pairing} {v v' u u' k k' : Value} {r r' : Nat}

theorem flag {f : Context → Bool} (pairs : P.Pairs .context r r')
    (same : ∀ c c', Alike P c c' → f c' = f c) :
    Mirrors R P (Action.world >>= fun w => Pure.pure (Value.bool (f (w.context r))))
      (Action.world >>= fun w => Pure.pure (Value.bool (f (w.context r')))) :=
  .seen fun _ _ twin => by
    rw [same _ _ (twin.context pairs)]
    exact (Like.bool _).alike

theorem writableParameters (pairs : P.Pairs .context r r') :
    Mirrors R P (Context.writableParameters r) (Context.writableParameters r') := by
  refine .world fun w w' twin bond => ?_
  have same := (twin.context pairs).paramsOf
  exact Mirrors.ite (by rw [same.parameters.1]) (fun _ => .pure same)
    (fun _ => .refused fun _ => rfl) w w' twin bond

section
variable [Lasts R]

theorem change {f : Context → Context} (pairs : P.Pairs .context r r')
    (commutes : ∀ ρ c, f (rename ρ c) = rename ρ (f c)) :
    Mirrors R P (Context.change r f) (Context.change r' f) :=
  .put (s := .context) pairs fun _ _ twin => (twin.context pairs).map commutes

theorem settle {α : Type} [Renames α] {f : Context → α → Context} {x x' : α}
    (pairs : P.Pairs .context r r')
    (commutes : ∀ ρ c x, f (rename ρ c) (rename ρ x) = rename ρ (f c x)) (value : Alike P x x') :
    Mirrors R P (Context.change r fun c => f c x) (Context.change r' fun c => f c x') :=
  .put (s := .context) pairs fun _ _ twin => (twin.context pairs).map₂ commutes value

variable [Calls]

omit [Calls] in
theorem recordComplete (pairs : P.Pairs .context r r') :
    Mirrors R P (Context.recordComplete r) (Context.recordComplete r') :=
  .bind (.change pairs fun _ _ => rfl) fun _ _ _ _ _ => .record .complete

theorem askToComplete (pairs : P.Pairs .context r r') :
    Mirrors R P (Context.askToComplete r) (Context.askToComplete r') :=
  .bind (.answer (.yieldNothing (.recordComplete pairs))) fun _ _ _ _ _ => .pure (alikeStill _)

theorem redirectExecution (pairs : P.Pairs .context r r') :
    Mirrors R P (Context.redirectExecution r) (Context.redirectExecution r') := by
  refine .bind (.change pairs fun _ _ => rfl) fun Q le _ _ _ => ?_
  exact .bind (.record .executionRedirect) fun S more _ _ _ =>
    .askToComplete (pairs.mono (le.trans more))

theorem redirectExternal (pairs : P.Pairs .context r r') (location : Alike P v v') :
    Mirrors R P (Context.redirectExternal r v) (Context.redirectExternal r' v') := by
  refine .bind (.settle (f := fun c v => { c with externalUrl := v }) pairs (fun _ _ _ => rfl)
    location) fun Q le _ _ _ => ?_
  refine .bind (.shown (location.mono le)) fun S more s s' same => ?_
  rw [same.still]
  exact .bind (.record (.externalRedirect s)) fun T last _ _ _ =>
    .askToComplete (pairs.mono (le.trans (more.trans last)))

theorem popUp (pairs : P.Pairs .context r r') :
    Mirrors R P (Context.popUp r) (Context.popUp r') := by
  have asked : Mirrors R P (Context.isRedirectRequested r) (Context.isRedirectRequested r') :=
    .answer (.flag pairs fun _ _ alike => alike.redirectRequested)
  refine .bind asked fun Q le _ _ requested => ?_
  refine .bind (.truthy requested) fun S more _ _ given => ?_
  refine .ite (by rw [given.still]) (fun _ => ?_) fun _ => ?_
  · exact .bind (.change (pairs.mono (le.trans more)) fun _ _ => rfl) fun _ _ _ _ _ =>
      .record .popup
  · exact .world fun w w' twin bond =>
      Mirrors.refuseWith (twin.redirectNotRequested Like.null.alike alikeNil) w w' twin bond

end

section
variable [Calls]

theorem isResponseAllowed (pairs : P.Pairs .context r r') :
    Mirrors R P (Context.isResponseAllowed r) (Context.isResponseAllowed r') :=
  .answer (.flag pairs fun _ _ alike => alike.responseAllowed)

theorem responseWriter (pairs : P.Pairs .context r r') :
    Mirrors R P (Context.responseWriter r) (Context.responseWriter r') := by
  refine .bind (.isResponseAllowed pairs) fun Q le _ _ answer => ?_
  refine .bind (.truthy answer) fun S more _ _ allowed => ?_
  rw [allowed.still]
  refine .world fun w w' twin bond => ?_
  have alike := twin.context (pairs.mono (le.trans more))
  exact Mirrors.ite Iff.rfl (fun _ => .pure alike.writer) (fun _ => .refuse alike.refusal)
    w w' twin bond

theorem executionUrl (flow : Alike P v v') (key : Alike P k k') :
    Mirrors R P (Context.executionUrl v k) (Context.executionUrl v' k') := by
  refine .bind (.shown flow) fun Q le s s' same => ?_
  refine .bind (.shown (key.mono le)) fun S more t t' same' => ?_
  rw [same.still, same'.still]
  exact .pure (Like.text _).alike

theorem overrideOf (alike : Alike P v v') :
    Mirrors R P (Context.overrideOf v) (Context.overrideOf v') := by
  have other : Mirrors R P
      (do
        let message := "response_allowed must be True, False or None, not " ++ (← Action.spelled v)
        Action.refuseWith (α := Option Bool) (Report.configuration (← Action.world) (.text message)
          (.text "response_allowed") []))
      (do
        let message := "response_allowed must be True, False or None, not " ++ (← Action.spelled v')
        Action.refuseWith (α := Option Bool) (Report.configuration (← Action.world) (.text message)
          (.text "response_allowed") [])) := by
    refine .bind (.spelled alike) fun Q le s s' same => ?_
    rw [same.still]
    refine .world fun w w' twin bond => ?_
    exact Mirrors.refuseWith
      (twin.configuration (Like.text _).alike (Like.text _).alike alikeNil) w w' twin bond
  cases alike.like with
  | null => exact .pure (alikeStill _)
  | bool b => exact .pure (alikeStill _)
  | _ => exact other

end

section
variable [Grows R]

theorem principalOf (alike : Alike P v v') :
    Mirrors R P (Context.principalOf v) (Context.principalOf v') := by
  cases alike.like with
  | text s =>
    exact .newTag fun _ _ _ _ pairs => .pure (Like.principal pairs (Like.text s).alike).alike
  | _ => exact .pure alike

variable [Calls]

theorem fillInput (input : Alike P v v') (source : Alike P u u') :
    Mirrors R P (Context.fillInput v u) (Context.fillInput v' u') := by
  cases input.like with
  | attributes pairs shared backing => exact .putAll backing source
  | _ => exact .pure (alikeStill _)

theorem redirectDefinition (pairs : P.Pairs .context r r') (flow : Alike P v v')
    (input : Alike P u u') :
    Mirrors R P (Context.redirectDefinition r v u) (Context.redirectDefinition r' v' u') := by
  refine .bind (.settle (f := fun c v => { c with redirectFlow := v }) pairs (fun _ _ _ => rfl)
    flow) fun Q le _ _ _ => ?_
  refine .bind (.newAttributes false Like.null.alike) fun S more own own' made => ?_
  have here := le.trans more
  refine .bind (.settle (f := fun c v => { c with redirectInput := v }) (pairs.mono here)
    (fun _ _ _ => rfl) made) fun T last _ _ _ => ?_
  have ends : ∀ U, T ≤ U → Mirrors R U
      (Action.shown v >>= fun s => Action.record (.definitionRedirect s) >>= fun _ =>
        Context.askToComplete r)
      (Action.shown v' >>= fun s => Action.record (.definitionRedirect s) >>= fun _ =>
        Context.askToComplete r') := by
    intro U later
    have all := (here.trans last).trans later
    refine .bind (.shown (flow.mono all)) fun V step s s' same => ?_
    rw [same.still]
    exact .bind (.record (.definitionRedirect s)) fun _ final _ _ _ =>
      .askToComplete (pairs.mono (all.trans (step.trans final)))
  refine .ite (by rw [input.isNull]) (fun _ => ?_) fun _ => ends T le_rfl
  exact .bind (.fillInput (made.mono last) (input.mono (here.trans last)))
    fun U later _ _ _ => ends U later

theorem putRequestParameter (pairs : P.Pairs .context r r') (name : Alike P k k')
    (value : Alike P v v') :
    Mirrors R P (Context.putParameter r k v) (Context.putParameter r' k' v') :=
  .bind (.writableParameters pairs) fun _ le _ _ map =>
    .askToPut map (name.mono le) (value.mono le)

theorem askContextToPut (pairs : P.Pairs .context r r') (name : Alike P k k')
    (value : Alike P v v') :
    Mirrors R P (Context.askToPut r k v) (Context.askToPut r' k' v') :=
  .bind (.answer (.yieldNothing (.putRequestParameter pairs name value)))
    fun _ _ _ _ _ => .pure (alikeStill _)

theorem setEvent (pairs : P.Pairs .context r r') (event : Alike P v v') :
    Mirrors R P (Context.setEvent r v) (Context.setEvent r' v') :=
  .askContextToPut pairs (Like.text _).alike event

theorem askToSignal (pairs : P.Pairs .context r r') (event : Alike P v v') :
    Mirrors R P (Context.askToSignal r v) (Context.askToSignal r' v') :=
  .bind (.answer (.yieldNothing (.setEvent pairs event))) fun _ _ _ _ _ => .pure (alikeStill _)

theorem parametersOf (source : Alike P v v') :
    Mirrors R P (Context.parametersOf v) (Context.parametersOf v') := by
  cases source.like with
  | parameters writable pairs => exact .pure (alikeMap writable pairs)
  | _ => exact .createParameters true source

theorem assign (pairs : P.Pairs .context r r') (s : Setting) (value : Alike P v v') :
    Mirrors R P (Context.assign r s v) (Context.assign r' s v') := by
  cases s with
  | requestParameters =>
    exact .bind (.parametersOf value) fun _ le _ _ map =>
      .settle (f := fun c m => { c with parameters := m }) (pairs.mono le) (fun _ _ _ => rfl) map
  | currentUser =>
    exact .bind (.principalOf value) fun _ le _ _ user =>
      .settle (f := fun c v => { c with currentUser := v }) (pairs.mono le) (fun _ _ _ => rfl) user
  | responseAllowed =>
    exact .bind (.overrideOf value) fun _ le _ _ allowed =>
      .settle (f := fun c o => { c with allowed := o }) (pairs.mono le) (fun _ _ _ => by simp; rfl)
        allowed
  | contextPath =>
    exact .settle (f := fun c v => { c with contextPath := v }) pairs (fun _ _ _ => rfl) value
  | requestMap =>
    exact .settle (f := fun c v => { c with requestMap := v }) pairs (fun _ _ _ => rfl) value
  | sessionMap =>
    exact .settle (f := fun c v => { c with sessionMap := v }) pairs (fun _ _ _ => rfl) value
  | globalSessionMap =>
    exact .settle (f := fun c v => { c with globalSessionMap := v }) pairs (fun _ _ _ => rfl) value
  | applicationMap =>
    exact .settle (f := fun c v => { c with applicationMap := v }) pairs (fun _ _ _ => rfl) value
  | locale => exact .settle (f := fun c v => { c with locale := v }) pairs (fun _ _ _ => rfl) value
  | nativeContext =>
    exact .settle (f := fun c v => { c with nativeContext := v }) pairs (fun _ _ _ => rfl) value
  | nativeRequest =>
    exact .settle (f := fun c v => { c with nativeRequest := v }) pairs (fun _ _ _ => rfl) value
  | nativeResponse =>
    exact .settle (f := fun c v => { c with nativeResponse := v }) pairs (fun _ _ _ => rfl) value
  | ajaxRequest =>
    exact .settle (f := fun c v => { c with ajaxRequest := v }) pairs (fun _ _ _ => rfl) value

theorem createWith {α : Type} [Renames α] {f f' : Nat → Action α}
    (source : Mirrors R P (Context.parametersOf v) (Context.parametersOf v'))
    (next : ∀ Q, P ≤ Q → ∀ r r', Q.Pairs .context r r' → Mirrors R Q (f r) (f' r')) :
    Mirrors R P (Context.create v >>= f) (Context.create v' >>= f') := by
  unfold Context.create
  simp only [bind_assoc]
  refine .bind source fun Q₁ le₁ m m' map => ?_
  refine .bind (.newAttributes false Like.null.alike) fun Q₂ le₂ _ _ request => ?_
  refine .bind (.newAttributes true Like.null.alike) fun Q₃ le₃ _ _ session => ?_
  refine .bind (.newAttributes true Like.null.alike) fun Q₄ le₄ _ _ application => ?_
  refine .bind .newToken fun Q₅ le₅ _ _ context => ?_
  refine .bind .newToken fun Q₆ le₆ _ _ asked => ?_
  refine .bind .newToken fun Q₇ le₇ _ _ response => ?_
  refine .newWriter fun Q₈ le₈ writer writer' pairs => ?_
  have last₇ := le₈
  have last₆ := le₇.trans last₇
  have last₅ := le₆.trans last₆
  have last₄ := le₅.trans last₅
  have last₃ := le₄.trans last₄
  have last₂ := le₃.trans last₃
  have last₁ := le₂.trans last₂
  have maps := alikePair (alikePair (map.mono last₁) (request.mono last₂))
    (alikePair (session.mono last₃) (application.mono last₄))
  have natives := alikePair (context.mono last₅) (alikePair (asked.mono last₆) (response.mono last₇))
  refine .newContext ?_ fun S more r r' pair => next S ?_ r r' pair
  · exact alikeRefWith (s := .writer)
      (f := fun writer (p : ((ParameterMap × Value) × Value × Value) × Value × Value × Value) =>
        ({ contextPath := .null
           parameters := p.1.1.1
           requestMap := p.1.1.2
           sessionMap := p.1.2.1
           globalSessionMap := p.1.2.1
           applicationMap := p.1.2.2
           nativeContext := p.2.1
           nativeRequest := p.2.2.1
           nativeResponse := p.2.2.2
           currentUser := .null
           locale := .null
           ajaxRequest := .bool false
           writer
           allowed := none
           complete := false
           executionRedirect := false
           redirectFlow := .null
           redirectInput := .null
           externalUrl := .null
           popup := false } : Context)) (fun _ _ _ => rfl) pairs (alikePair maps natives)
  · exact le₁.trans (last₁.trans more)

theorem create {α : Type} [Renames α] {f f' : Nat → Action α} (source : Alike P v v')
    (next : ∀ Q, P ≤ Q → ∀ r r', Q.Pairs .context r r' → Mirrors R Q (f r) (f' r')) :
    Mirrors R P (Context.create v >>= f) (Context.create v' >>= f') :=
  .createWith (.parametersOf source) next

end

section
variable [Calls]

omit [Calls] in
theorem read (pairs : P.Pairs .context r r') (g : Context.Reading) :
    Mirrors R P (Context.read r g) (Context.read r' g) := by
  refine .world fun w w' twin bond => ?_
  have alike := twin.context pairs
  cases g with
  | writableParameters =>
    refine Mirrors.bind (.writableParameters pairs) (fun _ _ _ _ map => ?_) w w' twin bond
    exact .pure (map.map (f := Value.parameters) fun _ _ => rfl)
  | writer => exact Mirrors.pure alike.writer w w' twin bond
  | redirectFlow =>
    exact Mirrors.pure (alike.map (f := Context.redirectFlow) fun _ _ => rfl) w w' twin bond
  | redirectInput =>
    exact Mirrors.pure (alike.map (f := Context.redirectInput) fun _ _ => rfl) w w' twin bond
  | externalUrl =>
    exact Mirrors.pure (alike.map (f := Context.externalUrl) fun _ _ => rfl) w w' twin bond
  | executionRedirect => exact Mirrors.flag pairs (fun _ _ alike => alike.executionRedirect) w w' twin bond
  | definitionRedirect => exact Mirrors.flag pairs (fun _ _ alike => alike.definitionRedirect) w w' twin bond
  | externalRedirect => exact Mirrors.flag pairs (fun _ _ alike => alike.externalRedirect) w w' twin bond
  | popup => exact Mirrors.flag pairs (fun _ _ alike => alike.popup) w w' twin bond

theorem readSetting (pairs : P.Pairs .context r r') (s : Setting) :
    Mirrors R P (Context.readSetting r s) (Context.readSetting r' s) := by
  have held := Mirrors.seen (R := R) fun w w' (twin : Twin P w w') =>
    (twin.context pairs).setting s
  cases s with
  | responseAllowed => exact .isResponseAllowed pairs
  | _ => exact held

end

end Mirrors

end FlowDouble
