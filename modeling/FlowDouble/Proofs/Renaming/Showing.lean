import FlowDouble.Proofs.Effects
import FlowDouble.Proofs.Renaming.Copying
import FlowDouble.Proofs.Renaming.Snapshots
/-! What a value looks like written out in twin worlds. A dictionary that is made only to be written out
lies beside the pairing: what is shown tells nothing of where it is. -/
namespace FlowDouble

section
variable {P : Pairing} {α β : Type} [Renames α] [Renames β]

theorem alikeRef {s : Store} {f : Nat → α} (renames : ∀ ρ r, rename ρ (f r) = f (ρ s r))
    {r r' : Nat} (pairs : P.Pairs s r r') : Alike P (f r) (f r') :=
  ⟨by rw [renames, pairs.2], fun ρ fixes => by rw [renames, pairs.fixed fixes]⟩

theorem alikeRefWith {s : Store} {f : Nat → β → α}
    (renames : ∀ ρ r b, rename ρ (f r b) = f (ρ s r) (rename ρ b)) {r r' : Nat} {b b' : β}
    (pairs : P.Pairs s r r') (alike : Alike P b b') : Alike P (f r b) (f r' b') :=
  ⟨by rw [renames, pairs.2, alike.renamed],
    fun ρ fixes => by rw [renames, pairs.fixed fixes, alike.within ρ fixes]⟩

end

def Beside (X : Store → Nat → Nat → Prop) : Bond := fun P w w' =>
  ∀ s r r', X s r r' → ¬P.domain s r ∧ (∀ q, P.domain s q → P.partner s q ≠ r') ∧
    ∃ c c', (w.cells s)[r]? = some c ∧ (w'.cells s)[r']? = some c' ∧ Alike P c c'

instance {X : Store → Nat → Nat → Prop} : Grows (Beside X) where
  put {P w w' t q q' d d'} bond twin pairs alike := by
    intro s r r' beside
    obtain ⟨out, out', c, c', found, found', same⟩ := bond s r r' beside
    refine ⟨out, out', c, c', ?_, ?_, same⟩
    · by_cases store : s = t
      · subst store
        have apart : q ≠ r := fun e => out (e ▸ pairs.1)
        rw [w.cellsPut, List.getElem?_set_ne apart, found]
      · rw [w.cellsPutOther q d store, found]
    · by_cases store : s = t
      · subst store
        have apart : q' ≠ r' := fun e => out' q pairs.1 (pairs.2.trans e)
        rw [w'.cellsPut, List.getElem?_set_ne apart, found']
      · rw [w'.cellsPutOther q' d' store, found']
  trailed {P w w'} t t' bond := by
    intro s r r' beside
    have same : World.cells { w with trail := t } s = w.cells s := by cases s <;> rfl
    have same' : World.cells { w' with trail := t' } s = w'.cells s := by cases s <;> rfl
    rw [same, same']
    exact bond s r r' beside
  push {P w w' t d d'} bond twin alike := by
    intro s r r' beside
    obtain ⟨out, out', c, c', found, found', same⟩ := bond s r r' beside
    have low : r < w.count s := (List.getElem?_eq_some_iff.mp found).1
    have low' : r' < w'.count s := (List.getElem?_eq_some_iff.mp found').1
    have le : P ≤ P.pair t (w.count t) (w'.count t) := twin.grown
    refine ⟨?_, ?_, c, c', ?_, ?_, same.mono le⟩
    · rintro (inside | ⟨rfl, rfl⟩)
      · exact out inside
      · exact Nat.lt_irrefl _ low
    · rintro q (inside | ⟨rfl, rfl⟩)
      · rw [(le s q inside).2]
        exact out' q inside
      · rw [(P.pairsLast s _ _).2]
        exact (Nat.ne_of_lt low').symm
    · by_cases store : s = t
      · subst store
        rw [w.cellsPush, List.getElem?_append_left low, found]
      · rw [w.cellsPushOther d store, found]
    · by_cases store : s = t
      · subst store
        rw [w'.cellsPush, List.getElem?_append_left low', found']
      · rw [w'.cellsPushOther d' store, found']

def Fixed (P : Pairing) : Bond := fun Q _ _ => Q = P

instance {P : Pairing} : Lasts (Fixed P) where
  put same _ _ _ := same
  trailed _ _ same := same

section
variable {P : Pairing} {w w' : World} {v v' : Value} {s : Store} {r r' : Nat} {c c' : Cell s}

theorem Twin.putBeside (twin : Twin P w w') (out : ¬P.domain s r)
    (out' : ∀ q, P.domain s q → P.partner s q ≠ r') : Twin P (w.put s r c) (w'.put s r' c') := by
  refine ⟨fun t q inside => ?_, by rw [w.attachmentsPut, twin.bare],
    by rw [w'.attachmentsPut, twin.bare'], by rw [w.reachPut, w'.reachPut, twin.reach]⟩
  by_cases store : t = s
  · subst store
    have apart : r ≠ q := fun e => out (e ▸ inside)
    rw [w.cellsPut, w'.cellsPut, List.getElem?_set_ne apart,
      List.getElem?_set_ne (out' q inside).symm]
    exact twin.kept t q inside
  · rw [w.cellsPutOther r c store, w'.cellsPutOther r' c' store]
    exact twin.kept t q inside

theorem Twin.pushBeside (twin : Twin P w w') : Twin P (w.push s c) (w'.push s c') := by
  refine ⟨fun t q inside => ?_, by rw [w.attachmentsPush, twin.bare],
    by rw [w'.attachmentsPush, twin.bare'], by rw [w.reachPush, w'.reachPush, twin.reach]⟩
  by_cases store : t = s
  · subst store
    rw [w.cellsPush, w'.cellsPush, List.getElem?_append_left (twin.known inside),
      List.getElem?_append_left (twin.known' inside)]
    exact twin.kept t q inside
  · rw [w.cellsPushOther c store, w'.cellsPushOther c' store]
    exact twin.kept t q inside

inductive Tells (P : Pairing) :
    EStateM.Result Fault World Value → EStateM.Result Fault World Value → Prop where
  | ok {u u' r r'} (twin : Twin P u u') (alike : Alike P (u.dictionary r) (u'.dictionary r')) :
      Tells P (.ok (.dictionary r) u) (.ok (.dictionary r') u')
  | error {u u' f f'} (alike : Alike P f f') : Tells P (.error f u) (.error f' u')

theorem Twin.tellsNew {es es' : Entries} (twin : Twin P w w') (alike : Alike P es es') :
    Tells P (Action.newDictionary es w) (Action.newDictionary es' w') := by
  refine .ok (twin.pushBeside (s := .dictionary)) ?_
  show Alike P ((w.dictionaries.push es).read w.dictionaries.length)
    ((w'.dictionaries.push es').read w'.dictionaries.length)
  rw [Heap.readPushed, Heap.readPushed]
  exact alike

theorem World.dictionaryAt (w : World) {n : Nat} {es : Cell .dictionary}
    (found : (w.cells .dictionary)[n]? = some es) : w.dictionary n = es := by
  show w.dictionaries[n]?.getD default = es
  rw [show w.dictionaries[n]? = some es from found]
  rfl

theorem insertsBeside {Q : Pairing} {n n' : Nat} {k k' x x' : Value} (key : Alike Q k k')
    (value : Alike Q x x') :
    Mirrors ((Beside fun s r r' => s = .dictionary ∧ r = n ∧ r' = n').both (Fixed P)) Q
      ((Value.dictionary n).insertEntry k x) ((Value.dictionary n').insertEntry k' x') := by
  refine .bind (.requireHashable key) fun S le _ _ _ => ?_
  intro w w' twin bond
  obtain ⟨out, out', c, c', found, found', same⟩ := bond.1 _ _ _ ⟨rfl, rfl, rfl⟩
  have low : n < w.dictionaries.length := (List.getElem?_eq_some_iff.mp found).1
  have low' : n' < w'.dictionaries.length := (List.getElem?_eq_some_iff.mp found').1
  have written : Alike S ((w.dictionary n).insert k x) ((w'.dictionary n').insert k' x') := by
    rw [w.dictionaryAt found, w'.dictionaryAt found']
    exact Alike.insert same (key.mono le) (value.mono le)
  refine .ok le_rfl (twin.putBeside (s := .dictionary) out out') ⟨?_, bond.2⟩ (alikeStill _)
  rintro _ _ _ ⟨rfl, rfl, rfl⟩
  exact ⟨out, out', _, _, List.getElem?_set_self low, List.getElem?_set_self low', written⟩

theorem Twin.copiedBeside [Calls] (twin : Twin P w w') (alike : Alike P v v') :
    Tells P (v.copied w) (v'.copied w') := by
  have items : Alike P (w.items v).items (w'.items v').items :=
    (twin.items alike).map (f := Yield.items) fun _ _ => rfl
  show Tells P ((if w.tellsEntries v then _ else _ : Action Value) w)
    ((if w'.tellsEntries v' then _ else _ : Action Value) w')
  rw [twin.tellsEntries alike]
  split
  · exact twin.tellsNew items
  let n := w.dictionaries.length
  let n' := w'.dictionaries.length
  let u := w.push .dictionary []
  let u' := w'.push .dictionary []
  have start : Twin P u u' := twin.pushBeside
  have bond : ((Beside fun s r r' => s = .dictionary ∧ r = n ∧ r' = n').both (Fixed P)) P u u' := by
    refine ⟨?_, rfl⟩
    rintro _ _ _ ⟨rfl, rfl, rfl⟩
    refine ⟨fun there => Nat.lt_irrefl _ (twin.known there), fun q there same => ?_, [], [],
      List.getElem?_concat_length, List.getElem?_concat_length, alikeNil⟩
    exact Nat.lt_irrefl _ (same ▸ twin.known' there)
  have inserts (Q : Pairing) (_ : P ≤ Q) (k k' x x' : Value) (key : Alike Q k k')
      (value : Alike Q x x') :
      Mirrors ((Beside fun s r r' => s = .dictionary ∧ r = n ∧ r' = n').both (Fixed P)) Q
        ((Value.dictionary n).insertEntry k x) ((Value.dictionary n').insertEntry k' x') :=
    insertsBeside key value
  have fills := Mirrors.forEntries .dictionary alike inserts u u' start bond
  show Tells P (EStateM.bind (v.forEntries .dictionary (Value.dictionary n).insertEntry) _ u)
    (EStateM.bind (v'.forEntries .dictionary (Value.dictionary n').insertEntry) _ u')
  unfold EStateM.bind
  generalize v.forEntries .dictionary (Value.dictionary n).insertEntry u = x,
    v'.forEntries .dictionary (Value.dictionary n').insertEntry u' = x' at fills ⊢
  cases fills with
  | error le last bond same =>
    obtain rfl := bond.2
    exact .error same
  | @ok _ u u' _ _ le last bond _ =>
    obtain rfl := bond.2
    obtain ⟨_, _, c, c', found, found', same⟩ := bond.1 _ _ _ ⟨rfl, rfl, rfl⟩
    refine .ok last ?_
    rw [u.dictionaryAt found, u'.dictionaryAt found']
    exact same

theorem Twin.toldBeside [Calls] (twin : Twin P w w') (alike : Alike P v v') :
    Tells P (v.told w) (v'.told w') := by
  have plain := twin.copiedBeside alike
  cases alike.like with
  | attributes pairs shared backing =>
    simp only [Value.told]
    rw [Value.answerUnhidden (twin.unhidden _ _), Value.answerUnhidden (twin.unhidden' _ _)]
    exact twin.copiedBeside backing
  | _ => exact plain

theorem Twin.listedBeside [Calls] (twin : Twin P w w') (alike : Alike P v v') :
    Tells P (v.listing w) (v'.listing w') := by
  have agrees := Mirrors.entries (R := Fixed P) "items" alike w w' twin rfl
  unfold Value.listing
  rw [Action.worldBind, Action.worldBind, twin.unhidden, twin.unhidden']
  show Tells P (EStateM.bind (Action.entries "items" v) _ w)
    (EStateM.bind (Action.entries "items" v') _ w')
  unfold EStateM.bind
  generalize Action.entries "items" v w = x, Action.entries "items" v' w' = x' at agrees ⊢
  cases agrees with
  | error le last bond same =>
    obtain rfl := bond
    exact .error same
  | ok le last bond same =>
    obtain rfl := bond
    exact last.tellsNew same.gathered

structure Resolves (P : Pairing) (o o' : Resolver) : Prop where
  list : ∀ {r r'}, P.Pairs .list r r' → Alike P (o.list r) (o'.list r')
  parts : ∀ {tag tag' v v'} (f : Facet), P.Pairs .tag tag tag' → Alike P v v' →
    Alike P (o.parts tag f v) (o'.parts tag' f v')
  map : ∀ {v v'}, Alike P v v' → Alike P (o.map v) (o'.map v')
  context : ∀ {r r'}, P.Pairs .context r r' → Alike P (o.context r) (o'.context r')
  written : ∀ {r r'}, P.Pairs .writer r r' → o'.written r' = o.written r
  stream : ∀ {r r'}, P.Pairs .stream r r' → o'.stream r' = o.stream r
  error : ∀ {r r'}, P.Pairs .error r r' → Alike P (o.error r) (o'.error r')

namespace Resolves

variable {o o' : Resolver}

mutual

theorem value (resolves : Resolves P o o') : ∀ (v : Value) {v' : Value}, Alike P v v' →
    Alike P (v.snapshot o) (v'.snapshot o')
  | .tuple tag vs, v', alike => by
    cases alike.like with
    | tuple pairs items =>
      have parts := resolves.values vs items
      exact parts.map fun ρ xs => congrArg Snapshot.tuple (Snapshot.renameEach ρ xs).symm
  | .upload tag n c o t, v', alike => by
    cases alike.like with
    | upload pairs name content original type =>
      have first := alikePair (resolves.value n name) (resolves.value c content)
      have second := alikePair (resolves.value o original) (resolves.value t type)
      exact first.map₂ (f := fun a b => Snapshot.upload a.1 a.2 b.1 b.2) (fun _ _ _ => rfl) second
  | .principal tag n, v', alike => by
    cases alike.like with
    | principal pairs name => exact (resolves.value n name).map fun _ _ => rfl
  | .facet tag f map, v', alike => by
    cases alike.like with
    | facet pairs f same =>
      have shown := alikePair (resolves.value map same) (resolves.parts f pairs same)
      exact alikeRefWith (s := .tag) (f := fun tag b => Snapshot.facet tag f b.1 b.2)
        (fun ρ tag b => by
          show Snapshot.facet _ f _ (Snapshot.renameAll ρ b.2) = _
          rw [Snapshot.renameEach]
          rfl) pairs shown
  | .operation tag owner name, v', alike => by
    cases alike.like with
    | operation pairs same name =>
      refine same.map (f := fun owner => Snapshot.operation owner.operationKind owner name) ?_
      intro ρ owner
      show Snapshot.operation (owner.rename ρ).operationKind (owner.rename ρ) name = _
      rw [owner.operationKindRenamed]
      rfl
  | .null, v', alike | .bool _, v', alike | .int _, v', alike | .text _, v', alike
  | .bytes _, v', alike | .kind _, v', alike | .converter _, v', alike => by
    cases alike.like with
    | _ => exact alikeFixed fun _ => rfl
  | .attributes .., v', alike | .parameters _, v', alike | .dictionary _, v', alike => by
    have map := resolves.map alike
    cases alike.like with
    | _ => exact map
  | .list r, v', alike => by
    cases alike.like with
    | list pairs =>
      exact (resolves.list pairs).map fun ρ xs =>
        congrArg Snapshot.list (Snapshot.renameEach ρ xs).symm
  | .context r, v', alike => by
    cases alike.like with
    | context pairs => exact resolves.context pairs
  | .writer r, v', alike => by
    cases alike.like with
    | writer pairs =>
      show Alike P (Snapshot.writer r (o.written r)) (Snapshot.writer _ (o'.written _))
      rw [resolves.written pairs]
      exact alikeRef (s := .writer) (f := (Snapshot.writer · _)) (fun _ _ => rfl) pairs
  | .stream r, v', alike => by
    cases alike.like with
    | stream pairs =>
      show Alike P (Snapshot.stream r (o.stream r)) (Snapshot.stream _ (o'.stream _))
      rw [resolves.stream pairs]
      exact alikeRef (s := .stream) (f := (Snapshot.stream · _)) (fun _ _ => rfl) pairs
  | .error k r, v', alike => by
    cases alike.like with
    | error k pairs => exact resolves.error pairs
  | .float tag word, v', alike => by
    cases alike.like with
    | float pairs => exact alikeRef (s := .tag) (f := (Snapshot.float · _)) (fun _ _ => rfl) pairs
  | .token tag, v', alike => by
    cases alike.like with
    | token pairs => exact alikeRef (s := .tag) (f := Snapshot.token) (fun _ _ => rfl) pairs
  | .lock tag, v', alike => by
    cases alike.like with
    | lock pairs => exact alikeRef (s := .tag) (f := Snapshot.lock) (fun _ _ => rfl) pairs
  | .pending tag, v', alike => by
    cases alike.like with
    | pending pairs => exact alikeRef (s := .tag) (f := Snapshot.pending) (fun _ _ => rfl) pairs
  | .function r, v', alike => by
    cases alike.like with
    | function pairs =>
      exact alikeRef (s := .function) (f := Snapshot.function) (fun _ _ => rfl) pairs

theorem values (resolves : Resolves P o o') : ∀ (vs : List Value) {vs' : List Value},
    Alike P vs vs' → Alike P (Value.snapshots o vs) (Value.snapshots o' vs')
  | [], vs', alike => by
    obtain ⟨_, rfl⟩ | ⟨_, _, _, _, wrong, _⟩ := alike.list
    · exact alikeNil
    · contradiction
  | v :: vs, vs', alike => by
    obtain ⟨wrong, _⟩ | ⟨_, _, v', vs', here, rfl, first, others⟩ := alike.list
    · contradiction
    cases here
    exact alikeCons (resolves.value v first) (resolves.values vs others)

end

theorem entries (resolves : Resolves P o o') {es es' : Entries} (alike : Alike P es es') :
    Alike P (Entries.snapshot o es) (Entries.snapshot o' es') :=
  alike.each fun _ _ same =>
    alikePair (resolves.value _ same.fst) (resolves.value _ same.snd)

end Resolves

section
variable {c c' : Context}

theorem Alike.complete (alike : Alike P c c') : c'.complete = c.complete := by
  rw [alike.renamed]
  rfl

theorem Alike.popup (alike : Alike P c c') : c'.popup = c.popup := by
  rw [alike.renamed]
  rfl

theorem Alike.executionRedirect (alike : Alike P c c') :
    c'.executionRedirect = c.executionRedirect := by
  rw [alike.renamed]
  rfl

theorem Alike.responseAllowed (alike : Alike P c c') : c'.responseAllowed = c.responseAllowed := by
  rw [alike.renamed]
  rfl

theorem Alike.definitionRedirect (alike : Alike P c c') :
    c'.definitionRedirect = c.definitionRedirect :=
  congrArg not (alike.map (f := Context.redirectFlow) fun _ _ => rfl).isNull

theorem Alike.externalRedirect (alike : Alike P c c') :
    c'.externalRedirect = c.externalRedirect :=
  congrArg not (alike.map (f := Context.externalUrl) fun _ _ => rfl).isNull

theorem Alike.redirectRequested (alike : Alike P c c') :
    c'.redirectRequested = c.redirectRequested := by
  unfold Context.redirectRequested
  rw [alike.executionRedirect, alike.definitionRedirect, alike.externalRedirect]

end

theorem Resolves.members {o o' : Resolver} (resolves : Resolves P o o') {c c' : Context}
    (alike : Alike P c c') (allowed complete redirect : Bool) :
    Alike P (c.members o (.bool allowed) (.bool complete) (.bool redirect))
      (c'.members o' (.bool allowed) (.bool complete) (.bool redirect)) := by
  have shows {f : Context → Value} (name : String)
      (commutes : ∀ ρ c, f (rename ρ c) = rename ρ (f c)) :
      Alike P (name, (f c).snapshot o) (name, (f c').snapshot o') :=
    alikePair (alikeStill _) (resolves.value _ (alike.map commutes))
  have flag (name : String) (b : Bool) : Alike P (name, Snapshot.bool b) (name, .bool b) :=
    alikeFixed fun _ => rfl
  have globals : Alike P c.globalSessionMap c'.globalSessionMap := alike.map fun _ _ => rfl
  have session : Alike P c.sessionMap c'.sessionMap := alike.map fun _ _ => rfl
  unfold Context.members
  rw [alike.definitionRedirect, alike.externalRedirect, alike.executionRedirect, alike.popup,
    globals.same session]
  refine alikeCons (shows _ fun _ _ => rfl) ?_
  refine alikeCons (shows (f := fun c => .parameters c.parameters) _ fun _ _ => rfl) ?_
  refine alikeCons (shows _ fun _ _ => rfl) (alikeCons (shows _ fun _ _ => rfl) ?_)
  refine alikeCons (alikePair (alikeStill _) (alikeIf (alikeFixed fun _ => rfl)
    (resolves.value _ globals))) ?_
  refine alikeCons (shows _ fun _ _ => rfl) (alikeCons (shows _ fun _ _ => rfl) ?_)
  refine alikeCons (shows _ fun _ _ => rfl) (alikeCons (shows _ fun _ _ => rfl) ?_)
  refine alikeCons (shows _ fun _ _ => rfl) (alikeCons (shows _ fun _ _ => rfl) ?_)
  refine alikeCons (shows _ fun _ _ => rfl) (alikeCons (flag _ _) (alikeCons (flag _ _) ?_))
  refine alikeCons (flag _ _) (alikeCons (flag _ _) (alikeCons (flag _ _) ?_))
  refine alikeCons (shows _ fun _ _ => rfl) (alikeCons (shows _ fun _ _ => rfl) ?_)
  refine alikeCons (flag _ _) (alikeCons (shows _ fun _ _ => rfl) (alikeCons (flag _ _) ?_))
  exact alikeCons (shows (f := fun c => .writer c.writer) _ fun _ _ => rfl) alikeNil

theorem detailRenamed (ρ : Renaming) (d : Diagnosis) (member : String) :
    (rename ρ d).detail? member = rename ρ (d.detail? member) := by
  by_cases reason : member = "reason"
  · subst reason
    cases d <;> rfl
  by_cases key : member = "key"
  · subst key
    cases d <;> rfl
  by_cases expected : member = "expected_type"
  · subst expected
    cases d <;> rfl
  have none (d : Diagnosis) : d.detail? member = none := by
    unfold Diagnosis.detail?
    split <;> first | contradiction | rfl
  rw [none, none]
  rfl

theorem alikeFound {β : Type} [Renames β] {g g' : String → Option β} (names : List String)
    (same : ∀ name, Alike P (g name) (g' name)) :
    Alike P (names.filterMap g) (names.filterMap g') := by
  induction names with
  | nil => exact alikeNil
  | cons name names ih =>
    rw [List.filterMap_cons, List.filterMap_cons]
    obtain ⟨e, e'⟩ | ⟨b, b', e, e', found⟩ := (same name).option
    · rw [e, e']
      exact ih
    · rw [e, e']
      exact alikeCons found ih

theorem Twin.details {o o' : Resolver} (twin : Twin P w w') (resolves : Resolves P o o')
    {d d' : Diagnosis} (alike : Alike P d d') (r r' : Nat) :
    Alike P (w.details d r o) (w'.details d' r' o') := by
  refine alikeFound _ fun name => ?_
  have detail : Alike P (d.detail? name) (d'.detail? name) :=
    alike.map (f := fun d => d.detail? name) fun ρ d => detailRenamed ρ d name
  unfold World.detail?
  rw [twin.unhidden, twin.unhidden', Option.or_none, Option.or_none]
  obtain ⟨e, e'⟩ | ⟨v, v', e, e', same⟩ := detail.option
  · rw [e, e']
    exact alikeNone
  · rw [e, e']
    exact alikeSome (alikePair (alikeStill _) (resolves.value v same))

theorem Twin.report {o o' : Resolver} (twin : Twin P w w') (resolves : Resolves P o o')
    {told told' : Report} (alike : Alike P told told') (pairs : P.Pairs .error r r')
    {metadata metadata' : Snapshot} (data : Alike P metadata metadata') {vs vs' : List Value}
    (arguments : Alike P vs vs') :
    Alike P (w.snapshotReport told r metadata vs o) (w'.snapshotReport told' r' metadata' vs' o') := by
  have diagnosis : Alike P told.diagnosis told'.diagnosis := alike.map fun _ _ => rfl
  have kind : told'.diagnosis.kind = told.diagnosis.kind := by
    rw [alike.renamed]
    exact told.diagnosis.kindRenamed _
  have cause : told'.cause.map Fault.kind = told.cause.map Fault.kind := by
    rw [alike.renamed]
    exact told.causeKindRenamed _
  have message : Alike P told.message told'.message := alike.map fun _ _ => rfl
  have debug : Alike P told.debug told'.debug := alike.map fun _ _ => rfl
  have suggestions : Alike P told.suggestions told'.suggestions := alike.map fun _ _ => rfl
  have parts := alikePair (alikePair (resolves.value _ message) data)
    (alikePair (resolves.entries debug) (alikePair (resolves.values _ suggestions)
      (alikePair (resolves.values _ arguments) (twin.details resolves diagnosis r r'))))
  unfold World.snapshotReport
  rw [kind, cause]
  refine alikeRefWith (s := .error) (f := fun r b => Snapshot.report r told.diagnosis.kind b.1.1
    b.1.2 b.2.1 b.2.2.1 b.2.2.2.1 b.2.2.2.2 (told.cause.map Fault.kind)) (fun ρ r b => ?_) pairs parts
  show Snapshot.report _ _ _ _ (Snapshot.renamePairs ρ _) (Snapshot.renameAll ρ _)
    (Snapshot.renameAll ρ _) (Snapshot.renameNamed ρ _) _ = _
  rw [Snapshot.renameEach, Snapshot.renameEach, Snapshot.renameEachPair,
    Snapshot.renameEachNamed]
  rfl

theorem alikeMapping (form : Form) {es es' : List (Snapshot × Snapshot)} (alike : Alike P es es') :
    Alike P (Snapshot.mapping form es) (.mapping form es') :=
  alike.map fun ρ es => congrArg (Snapshot.mapping form) (Snapshot.renameEachPair ρ es).symm

theorem Tells.shown {a a' : Action Value} (tells : Tells P (a w) (a' w'))
    {next next' : World → Resolver} (resolves : ∀ u u', Twin P u u' → Resolves P (next u) (next' u')) :
    Alike P (Action.tell a w next) (Action.tell a' w' next') := by
  unfold Action.tell EStateM.run
  generalize a w = x, a' w' = x' at tells
  cases tells with
  | ok twin alike => exact alikeMapping _ ((resolves _ _ twin).entries alike)
  | error alike => exact alike.map fun _ _ => rfl

theorem Alike.parts (alike : Alike P v v') : Alike P v.parts v'.parts := by
  have none : Alike P ([] : List Value) [] := alikeNil
  cases alike.like with
  | tuple pairs items => exact items
  | _ => exact none

theorem Twin.snapshotRaised {o o' : Resolver} (twin : Twin P w w') (resolves : Resolves P o o')
    (pairs : P.Pairs .error r r') : Alike P (w.snapshotRaised r o) (w'.snapshotRaised r' o') := by
  have same := twin.error pairs
  unfold World.snapshotRaised
  generalize w.error r = e, w'.error r' = e' at same
  obtain ⟨rfl, within⟩ := same
  cases e with
  | report told metadata arguments =>
    have parts ρ (fixes : Fixes P.domain ρ) := Raised.report.inj (within ρ fixes)
    have data : Alike P metadata _ := ⟨rfl, fun ρ fixes => (parts ρ fixes).2.1⟩
    have given : Alike P arguments _ := ⟨rfl, fun ρ fixes => (parts ρ fixes).2.2⟩
    exact twin.report resolves ⟨rfl, fun ρ fixes => (parts ρ fixes).1⟩ pairs
      (resolves.value _ data) given.parts
  | plain k arguments =>
    have given : Alike P arguments _ :=
      ⟨rfl, fun ρ fixes => (Raised.plain.inj (within ρ fixes)).2⟩
    refine alikeRefWith (s := .error) (f := fun r xs => Snapshot.fault r k xs) (fun ρ r xs => ?_)
      pairs (resolves.values _ given.parts)
    show Snapshot.fault _ _ (Snapshot.renameAll ρ _) = _
    rw [Snapshot.renameEach]

theorem emptyResolves : Resolves P .empty .empty where
  list _ := alikeNil
  parts _ _ _ := alikeNil
  map _ := alikeFixed fun _ => rfl
  context pairs := alikeRef (s := .context) (f := (Snapshot.context · false [])) (fun _ _ => rfl) pairs
  written _ := rfl
  stream _ := rfl
  error _ := alikeFixed fun _ => rfl

variable [Calls] {next : World → Resolver}

theorem Twin.snapshotMap (twin : Twin P w w')
    (resolves : ∀ u u', Twin P u u' → Resolves P (next u) (next u')) (alike : Alike P v v') :
    Alike P (w.snapshotMap v next) (w'.snapshotMap v' next) := by
  have form : v'.form = v.form := by
    rw [alike.renamed]
    cases v <;> rfl
  have items : Alike P (Entries.snapshot (next w) (w.items v).items)
      (Entries.snapshot (next w') (w'.items v').items) :=
    (resolves w w' twin).entries ((twin.items alike).map (f := Yield.items) fun _ _ => rfl)
  have told := (twin.toldBeside alike).shown resolves
  have listed := (twin.listedBeside alike).shown resolves
  unfold World.snapshotMap
  rw [form, twin.tellsEntries alike]
  dsimp only
  split
  · exact alikeMapping _ items
  · refine (alikePair alike items).map₂ (f := fun a b => Snapshot.view a.1 v.form a.2 b.1 b.2)
      (fun ρ a b => ?_) (alikePair told listed)
    show _ = Snapshot.view _ _ (Snapshot.renamePairs ρ _) _ _
    rw [Snapshot.renameEachPair]
    rfl

theorem Twin.snapshotContext (twin : Twin P w w')
    (resolves : Resolves P (next w) (next w')) (pairs : P.Pairs .context r r') :
    Alike P (w.snapshotContext r next) (w'.snapshotContext r' next) := by
  have same := twin.context pairs
  have told {u : World} {a : Action Value} {b : Bool} (e : a u = .ok (.bool b) u) :
      Action.tell a u next = .bool b := by
    unfold Action.tell EStateM.run
    rw [e]
    rfl
  have allowed {u : World} (bare : u.attachments = []) (r : Nat) :
      Context.isResponseAllowed r u = .ok (.bool (u.context r).responseAllowed) u :=
    Value.answerUnhidden (by simp [World.attachment?, bare]) _ _
  have complete {u : World} (bare : u.attachments = []) (r : Nat) :
      Context.isResponseComplete r u = .ok (.bool (u.context r).complete) u :=
    Value.answerUnhidden (by simp [World.attachment?, bare]) _ _
  have redirect {u : World} (bare : u.attachments = []) (r : Nat) :
      Context.isRedirectRequested r u = .ok (.bool (u.context r).redirectRequested) u :=
    Value.answerUnhidden (by simp [World.attachment?, bare]) _ _
  unfold World.snapshotContext
  rw [told (allowed twin.bare r), told (allowed twin.bare' r'), told (complete twin.bare r),
    told (complete twin.bare' r'), told (redirect twin.bare r), told (redirect twin.bare' r')]
  generalize w.context r = c, w'.context r' = c' at same
  dsimp only
  rw [same.responseAllowed, same.complete, same.redirectRequested]
  refine alikeRefWith (s := .context) (f := fun r members => Snapshot.context r c.complete members)
    (fun ρ r members => ?_) pairs (resolves.members same _ _ _)
  show Snapshot.context _ _ (Snapshot.renameNamed ρ _) = _
  rw [Snapshot.renameEachNamed]

theorem bareText {u : World} (bare : u.attachments = []) (r : Nat) :
    u.toldText r = String.join (u.written r) := by
  have unhidden : u.attachment? (.writer r) "getvalue" = none := by
    simp [World.attachment?, bare]
  unfold World.toldText EStateM.run
  simp only [Value.answerUnhidden unhidden]
  rfl

theorem bareContent {u : World} (bare : u.attachments = []) (r : Nat) :
    u.toldContent r = (u.stream r).content := by
  have unhidden : u.attachment? (.stream r) "getvalue" = none := by
    simp [World.attachment?, bare]
  unfold World.toldContent EStateM.run
  simp only [Value.answerUnhidden unhidden]
  rfl

theorem Twin.resolver (n : Nat) (twin : Twin P w w') :
    Resolves P (World.resolver n w) (World.resolver n w') := by
  induction n generalizing w w' with
  | zero => exact emptyResolves
  | succ n ih =>
    exact {
      list := fun pairs => (ih twin).values _ (twin.list pairs)
      parts := fun f pairs same =>
        (ih twin).values _ ((twin.facetElements pairs same f).getD alikeNil)
      map := fun same => twin.snapshotMap (fun _ _ twin => ih twin) same
      context := fun pairs => twin.snapshotContext (ih twin) pairs
      written := fun pairs => by
        show World.toldText _ _ = World.toldText _ _
        rw [bareText twin.bare, bareText twin.bare', twin.written pairs]
      stream := fun pairs => by
        show World.toldContent _ _ = World.toldContent _ _
        rw [bareContent twin.bare, bareContent twin.bare', twin.stream pairs]
      error := fun pairs => twin.snapshotRaised (ih twin) pairs }

theorem Twin.snapshot (twin : Twin P w w') (alike : Alike P v v') :
    Alike P (w.snapshot v) (w'.snapshot v') := by
  unfold World.snapshot
  rw [twin.reach]
  exact (twin.resolver _).value _ alike

end

end FlowDouble
