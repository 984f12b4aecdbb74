import FlowDouble.Copying
/-! How actions change the world. An effect is a relation between the world before and after that
steps one after the other keep; an action is within it if it does no more, failed or not. What
values are asked for by name is taken to be their own. -/
namespace FlowDouble

def askedNames : List String :=
  ["is_response_allowed", "is_response_complete", "is_redirect_requested",
   "record_response_complete", "put_request_parameter", "set_event_id", "put", "get",
   "get_multipart_file", "keys", "items", "as_dict", "update", "pop", "popitem", "getvalue"]

/-- No member put on a value hides what it can do by itself. -/
def World.Plain (w : World) : Prop := ∀ v, ∀ name ∈ askedNames, w.attachment? v name = none

theorem World.plainKept {w w' : World} (same : w'.attachments = w.attachments) (plain : w.Plain) :
    w'.Plain := by
  intro v name asked
  simpa only [attachment?, same] using plain v name asked

theorem World.emptyPlain : World.Plain {} := by
  intro v name asked
  rfl

structure Effect (R : World → World → Prop) : Prop where
  refl : ∀ w, R w w
  trans : ∀ {a b c}, R a b → R b c → R a c
  attachments : ∀ {a b}, R a b → b.attachments = a.attachments

namespace Action

variable {α β : Type} {R : World → World → Prop}

def leaves (a : Action α) (w : World) : World :=
  match a w with
  | .ok _ w' => w'
  | .error _ w' => w'

def Within (R : World → World → Prop) (a : Action α) : Prop := ∀ w, w.Plain → R w (a.leaves w)

theorem leavesOk {a : Action α} {w w' v} (h : a w = .ok v w') : a.leaves w = w' := by
  simp only [leaves, h]

theorem leavesError {a : Action α} {w w' f} (h : a w = .error f w') : a.leaves w = w' := by
  simp only [leaves, h]

theorem bindOk {a : Action α} {f : α → Action β} {w w' v} (h : a w = .ok v w') :
    (a >>= f) w = f v w' := by
  simp only [bind, EStateM.bind, h]

theorem bindError {a : Action α} {f : α → Action β} {w w' e} (h : a w = .error e w') :
    (a >>= f) w = .error e w' := by
  simp only [bind, EStateM.bind, h]

theorem leavesBind {a : Action α} {f : α → Action β} {w w' v} (h : a w = .ok v w') :
    (a >>= f).leaves w = (f v).leaves w' := by
  simp only [leaves, bindOk h]

theorem leavesThenPure (a : Action α) (v : α → β) (w : World) :
    (a >>= fun x => pure (v x) : Action β).leaves w = a.leaves w := by
  cases h : a w with
  | ok x w' =>
    rw [leavesBind h, leavesOk h]
    rfl
  | error e w' => rw [leavesError (bindError h), leavesError h]

theorem bindInv {a : Action α} {f : α → Action β} {w w' v} (h : (a >>= f) w = .ok v w') :
    ∃ u w'', a w = .ok u w'' ∧ f u w'' = .ok v w' := by
  cases e : a w with
  | ok u w'' => exact ⟨u, w'', rfl, by rwa [bindOk e] at h⟩
  | error e' w'' => rw [bindError e] at h; contradiction

theorem withinBind (effect : Effect R) {a : Action α} {f : α → Action β} (first : Within R a)
    (next : ∀ v, Within R (f v)) : Within R (a >>= f) := by
  intro w plain
  have before := first w plain
  cases h : a w with
  | ok v w' =>
    rw [leavesOk h] at before
    have after := next v w' (World.plainKept (effect.attachments before) plain)
    simpa only [leaves, bindOk h] using effect.trans before after
  | error e w' =>
    rw [leavesError h] at before
    simpa only [leaves, bindError h] using before

theorem withinRead (effect : Effect R) {a : Action α} (h : ∀ w, a.leaves w = w) : Within R a := by
  intro w _
  rw [h w]
  exact effect.refl w

theorem withinPure (effect : Effect R) (v : α) : Within R (pure v) := withinRead effect fun _ => rfl

theorem withinThrow (effect : Effect R) (f : Fault) : Within R (throw f : Action α) :=
  withinRead effect fun _ => rfl

theorem withinWorld (effect : Effect R) : Within R world := withinRead effect fun _ => rfl

theorem withinOfExcept (effect : Effect R) (x : Except Fault α) :
    Within R (ofExcept x : Action α) := by
  cases x with
  | ok v => exact withinPure effect v
  | error f => exact withinThrow effect f

theorem withinModify {f : World → World} (h : ∀ w, R w (f w)) : Within R (modify f) :=
  fun w _ => h w

theorem withinModifyGet {f : World → α × World} (h : ∀ w, R w (f w).2) :
    Within R (modifyGet f) := fun w _ => h w

theorem withinAnswer [Calls] {v : Value} {name a own} (asked : name ∈ askedNames)
    (h : Within R own) : Within R (v.answer name a own) := by
  intro w plain
  simpa only [leaves, v.answerUnhidden (plain v name asked)] using h w plain

theorem withinForPairs (effect : Effect R) {f : Value → Value → Action Unit}
    {pairs : List (Value × Value)} (h : ∀ p ∈ pairs, Within R (f p.1 p.2)) :
    Within R (Value.forPairs f pairs) := by
  induction pairs with
  | nil => exact withinPure effect ()
  | cons p rest ih =>
    exact withinBind effect (h p List.mem_cons_self)
      fun _ => ih fun q hq => h q (List.mem_cons_of_mem _ hq)

theorem withinFinish (effect : Effect R) (y : Yield α) : Within R (finish y) := by
  unfold finish
  split
  · exact withinThrow effect _
  · exact withinPure effect ()

theorem withinForYield (effect : Effect R) {f : Value → Value → Action Unit}
    {y : Yield (Value × Value)} (h : ∀ p ∈ y.items, Within R (f p.1 p.2)) :
    Within R (Value.forYield f y) :=
  withinBind effect (withinForPairs effect h) fun _ => withinFinish effect y

theorem withinMissing (effect : Effect R) (v : Value) (name : String) :
    Within R (missing v name : Action α) := by
  unfold missing
  split <;> exact withinThrow effect _

theorem withinMono {S : World → World → Prop} (h : ∀ {a b}, R a b → S a b) {a : Action α}
    (within : Within R a) : Within S a := fun w plain => h (within w plain)

theorem withinIte (p : Prop) [Decidable p] {a b : Action α} (left : Within R a)
    (right : Within R b) : Within R (if p then a else b) := by
  split
  · exact left
  · exact right

theorem worldBind {f : World → Action α} (w : World) : (world >>= f) w = f w w := rfl

theorem leavesSame {a b : Action α} {w : World} (h : a w = b w) : a.leaves w = b.leaves w := by
  simp only [leaves, h]

def Unchanged (w w' : World) : Prop := w' = w

theorem unchanged : Effect Unchanged where
  refl _ := rfl
  trans ab bc := bc.trans ab
  attachments h := by rw [h]

theorem withinUnchanged (effect : Effect R) {a : Action α} (h : Within Unchanged a) :
    Within R a :=
  withinMono (fun {a b} (same : b = a) => same ▸ effect.refl a) h

theorem readsTruthy (v : Value) : Within Unchanged (truthy v) :=
  withinBind unchanged (withinWorld unchanged) fun _ => withinOfExcept unchanged _

theorem readsKey (key : Value) : Within Unchanged (requireHashable key) :=
  withinOfExcept unchanged _

def Refuses (a : Action α) : Prop := ∀ w, ∃ f, a w = .error f w

theorem refusesThrow (f : Fault) : Refuses (throw f : Action α) := fun _ => ⟨f, rfl⟩

theorem refusesBind {a : Action α} {f : α → Action β} (stays : ∀ w, a.leaves w = w)
    (next : ∀ v, Refuses (f v)) : Refuses (a >>= f) := by
  intro w
  have same := stays w
  cases h : a w with
  | ok v w' =>
    rw [leavesOk h] at same
    rw [bindOk h, same]
    exact next v w
  | error e w' =>
    rw [leavesError h] at same
    rw [bindError h, same]
    exact ⟨e, rfl⟩

theorem ofExceptStays (x : Except Fault α) (w : World) : (ofExcept x : Action α).leaves w = w := by
  cases x <;> rfl

theorem forItemsPlain [Calls] {f : Value → Value → Action Unit} {source : Value} {w : World}
    (plain : w.Plain) :
    source.forItems f w =
      (if source.isMapping then Value.forYield f (w.items source)
        else missing source "items" : Action Unit) w := by
  unfold Value.forItems
  rw [worldBind, plain source "items" (by decide)]
  by_cases mapping : source.isMapping = true
  · simp only [entriesAs, mapping, if_true]
    rfl
  · simp only [entriesAs, mapping]
    cases source <;> rfl

theorem withinForItems [Calls] (effect : Effect R) {f : Value → Value → Action Unit}
    (source : Value) (h : ∀ k v, Within R (f k v)) : Within R (source.forItems f) := by
  intro w plain
  rw [leavesSame (forItemsPlain plain)]
  split
  · exact withinForYield effect (fun p _ => h p.1 p.2) w plain
  · exact withinMissing effect source "items" w plain

theorem keysPlain {t : Taker} {source : Value} {w : World} (plain : w.Plain) :
    source.keysHidden? t w = .ok none w := by
  unfold Value.keysHidden?
  split
  · rfl
  · rw [worldBind, plain source "keys" (by decide)]
    rfl

theorem forEntriesMapping [Calls] {t : Taker} {f : Value → Value → Action Unit} {source : Value}
    {w : World} (plain : w.Plain) (mapping : source.isMapping = true) :
    source.forEntries t f w = Value.forYield f (w.items source) w := by
  unfold Value.forEntries
  rw [bindOk (keysPlain plain)]
  cases source <;> first | contradiction | rfl

section
variable (effect : Effect R) (streams : ∀ w r s, R w (w.setStream r s))
include effect streams

theorem withinTake (source part : Value) : Within R (take source part) := by
  unfold take
  split
  · exact withinModify fun w => streams w _ _
  · exact withinPure effect ()

theorem withinTakeAll (source : Value) (vs : List Value) : Within R (takeAll source vs) := by
  induction vs with
  | nil => exact withinPure effect ()
  | cons v vs ih => exact withinBind effect (withinTake effect streams source v) fun _ => ih

theorem withinVisit {source : Value} {f : Nat → Value → Action Unit}
    (h : ∀ i v, Within R (f i v)) {total index : Nat} (vs : List Value) :
    Within R (visit source f total index vs) := by
  induction vs generalizing index with
  | nil =>
    refine withinBind effect (withinWorld effect) fun _ => ?_
    exact withinBind effect (withinOfExcept effect _) fun _ => withinPure effect ()
  | cons v vs ih =>
    refine withinBind effect (withinWorld effect) fun _ => ?_
    refine withinBind effect (withinOfExcept effect _) fun v => ?_
    refine withinBind effect (withinTake effect streams source v) fun _ => ?_
    exact withinBind effect (h index v) fun _ => ih

theorem withinPair (t : Taker) (index : Nat) (v : Value) : Within R (t.pair index v) := by
  refine withinBind effect (withinWorld effect) fun w => ?_
  split
  · exact withinThrow effect _
  · refine withinBind effect (withinTakeAll effect streams v _) fun _ => ?_
    split
    · exact withinPure effect _
    · exact withinThrow effect _

theorem withinForParts (t : Taker) {f : Value → Value → Action Unit} (source : Value)
    (h : ∀ k v, Within R (f k v)) : Within R (Value.forParts t f source) := by
  refine withinBind effect ?_ fun parts => ?_
  · refine withinBind effect (withinWorld effect) fun w => ?_
    split
    · exact withinPure effect _
    · exact withinThrow effect _
  refine withinVisit effect streams (fun index part => ?_) parts
  exact withinBind effect (withinPair effect streams t index part) fun p => h p.1 p.2

theorem withinForEntries [Calls] (t : Taker) {f : Value → Value → Action Unit} (source : Value)
    (h : ∀ k v, Within R (f k v)) : Within R (source.forEntries t f) := by
  intro w plain
  by_cases mapping : source.isMapping = true
  · rw [leavesSame (forEntriesMapping plain mapping)]
    exact withinForYield effect (fun p _ => h p.1 p.2) w plain
  by_cases kind : ∃ k, source = .kind k
  · obtain ⟨k, rfl⟩ := kind
    have same : (Value.kind k).forEntries t f w =
        (if k.under .mapping then misuse (.ofKind k "keys") else
          misuse (.notIterable (.kindOf k)) : Action Unit) w := bindOk (keysPlain plain)
    rw [leavesSame same]
    exact withinIte _ (withinThrow effect _) (withinThrow effect _) w plain
  · have same : source.forEntries t f w = Value.forParts t f source w := by
      unfold Value.forEntries
      rw [bindOk (keysPlain plain)]
      cases source <;> first | rfl | exact absurd rfl mapping | exact absurd ⟨_, rfl⟩ kind
    rw [leavesSame same]
    exact withinForParts effect streams t source h w plain

end

end Action

theorem Value.rootMapping {v : Value} {d : Nat} (ends : v.root = .dictionary d) :
    v.isMapping = true := by
  cases v <;> first | rfl | simp [root] at ends

theorem World.itemsOver {w : World} {v : Value} {d : Nat} (ends : v.root = .dictionary d) :
    w.items v = ⟨w.dictionary d, none⟩ := by
  simp only [items, ends]

theorem Value.keyChecked {key : Value} (hashable : key.hashable = true) :
    key.checkKey = .ok () := by
  unfold checkKey
  rw [Option.isNone_iff_eq_none.mp hashable]

theorem Action.keyAccepted {key : Value} (hashable : key.hashable = true) (w : World) :
    requireHashable key w = .ok () w := by
  unfold requireHashable
  rw [Value.keyChecked hashable]
  rfl

theorem Action.keyRefused {key : Value} (unhashable : ¬ key.hashable = true) (w : World) :
    ∃ f, requireHashable key w = .error f w ∧ f.kind = .wrongType := by
  unfold requireHashable Value.checkKey
  unfold Value.hashable at unhashable
  cases changeable : key.changeable? with
  | none =>
    rw [changeable] at unhashable
    exact absurd rfl unhashable
  | some k => exact ⟨_, rfl, rfl⟩

end FlowDouble
