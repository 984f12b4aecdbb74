import FlowDouble.Proofs.Attributes.Operations
import FlowDouble.Proofs.Equality.Equations
import FlowDouble.Proofs.Ordering
/-! As long as nothing hides what values answer for themselves, to read a value, to go through it, to
copy it or to write it out never fails with a report on how things were set up. -/
namespace FlowDouble

open FlowDouble.Action

def Fault.Innocent : Fault → Prop
  | .report r => r.diagnosis.kind ≠ .configuration
  | _ => True

abbrev EndsInnocent {α : Type} (x : Except Fault α) : Prop :=
  Concludes Fault.Innocent (fun _ => True) x

section
variable {α β : Type}

theorem innocentThen {x : Except Fault α} {next : α → Except Fault β} (first : EndsInnocent x)
    (rest : ∀ a, EndsInnocent (next a)) : EndsInnocent (x >>= next) :=
  concludesBind first fun a _ => rest a

theorem endsInnocent {x : Except Fault α} {f : Fault} (ends : EndsInnocent x)
    (failed : x = .error f) : f.Innocent := by
  rw [failed] at ends
  exact ends

end

theorem checkKeyInnocent (key : Value) : EndsInnocent key.checkKey := by
  unfold Value.checkKey
  split <;> trivial

theorem requireInnocent (es : Entries) (key : Value) : EndsInnocent (es.require key) := by
  refine innocentThen (checkKeyInnocent key) fun _ => ?_
  split <;> trivial

theorem positionInnocent (holder : Kind) (beyond : Misuse) (n : Nat) (key : Value) :
    EndsInnocent (position holder beyond n key) := by
  refine innocentThen ?_ fun i => ?_
  · unfold positionOf
    split
    · split <;> trivial
    · trivial
    · trivial
  · dsimp only
    split <;> split <;> trivial

theorem partInnocent (holder : Kind) (vs : List Value) (key : Value) :
    EndsInnocent (partAt holder vs key) :=
  innocentThen (positionInnocent _ _ _ _) fun _ => trivial

namespace World

variable (w : World) (v : Value)

theorem itemInnocent (key : Value) : EndsInnocent (w.item v key) := by
  unfold item
  split
  · exact requireInnocent _ _
  · exact requireInnocent _ _
  · exact partInnocent _ _ _
  · exact partInnocent _ _ _
  · exact partInnocent _ _ _
  · exact partInnocent _ _ _
  · trivial

theorem itemsUnderInnocent (ks : List Value) {f : Fault}
    (failed : (w.itemsUnder v ks).fault = some f) : f.Innocent := by
  induction ks with
  | nil => contradiction
  | cons k ks ih =>
    unfold itemsUnder at failed
    cases told : w.item v k with
    | ok x =>
      rw [told] at failed
      exact ih failed
    | error e =>
      rw [told] at failed
      cases failed
      exact endsInnocent (w.itemInnocent v k) told

theorem itemsInnocent {f : Fault} (failed : (w.items v).fault = some f) : f.Innocent := by
  unfold items at failed
  split at failed
  · contradiction
  · contradiction
  · split at failed
    · exact w.itemsUnderInnocent _ _ failed
    · cases failed
      trivial

theorem lengthInnocent : EndsInnocent (w.length v) := by
  unfold length
  split
  · trivial
  · trivial
  · split <;> trivial

theorem truthyInnocent : EndsInnocent (w.truthy v) := by
  cases v with
  | dictionary | attributes | parameters | facet => exact innocentThen (w.lengthInnocent _) fun _ => trivial
  | _ => trivial

theorem partNowInnocent (total index : Nat) (part : Value) :
    EndsInnocent (w.partNow v total index part) := by
  unfold partNow
  split
  · dsimp only
    split <;> trivial
  · trivial

end World

namespace Action

variable {α β : Type} {v : Value} {f : Value → Value → Action Unit}

/-- Leaves nothing hidden where nothing was, and blames no set-up. -/
def Innocent (a : Action α) : Prop :=
  ∀ w, w.Plain →
    match a w with
    | .ok _ w' => w'.Plain
    | .error f _ => f.Innocent

theorem Innocent.failure {a : Action α} (innocent : Innocent a) {w w' : World} {f : Fault}
    (plain : w.Plain) (failed : a w = .error f w') : f.Innocent := by
  have ends := innocent w plain
  rw [failed] at ends
  exact ends

theorem innocentBind {a : Action α} {next : α → Action β} (first : Innocent a)
    (rest : ∀ x, Innocent (next x)) : Innocent (a >>= next) := by
  intro w plain
  have before := first w plain
  cases h : a w with
  | ok x w' =>
    rw [h] at before
    rw [bindOk h]
    exact rest x w' before
  | error e w' =>
    rw [h] at before
    rw [bindError h]
    exact before

theorem innocentPure (x : α) : Innocent (pure x) := fun _ plain => plain

theorem innocentMisuse (m : Misuse) : Innocent (misuse m : Action α) := fun _ _ => trivial

theorem innocentWorld : Innocent world := fun _ plain => plain

theorem innocentExcept {x : Except Fault α} (ends : EndsInnocent x) :
    Innocent (ofExcept x : Action α) := by
  cases x with
  | ok a => exact innocentPure a
  | error f => exact fun _ _ => ends

theorem innocentModify {g : World → World} (same : ∀ w, (g w).attachments = w.attachments) :
    Innocent (modify g) := fun w plain => World.plainKept (same w) plain

theorem innocentModifyGet {g : World → α × World}
    (same : ∀ w, (g w).2.attachments = w.attachments) : Innocent (modifyGet g) :=
  fun w plain => World.plainKept (same w) plain

theorem innocentAnswer [Calls] {name : String} {a : Arguments} {own : Action Value}
    (asked : name ∈ askedNames) (innocent : Innocent own) :
    Innocent (v.answer name a own) := by
  intro w plain
  rw [v.answerUnhidden (plain v name asked)]
  exact innocent w plain

theorem innocentPairs {pairs : List (Value × Value)} (each : ∀ k v, Innocent (f k v)) :
    Innocent (Value.forPairs f pairs) := by
  induction pairs with
  | nil => exact innocentPure ()
  | cons p pairs ih => exact innocentBind (each p.1 p.2) fun _ => ih

theorem innocentFinish (w : World) (v : Value) : Innocent (finish (w.items v)) := by
  unfold finish
  cases fault : (w.items v).fault with
  | none => exact innocentPure ()
  | some e => exact fun _ _ => w.itemsInnocent v fault

theorem innocentItems {w : World} (each : ∀ k v, Innocent (f k v)) :
    Innocent (Value.forYield f (w.items v)) :=
  innocentBind (innocentPairs each) fun _ => innocentFinish w v

theorem innocentMissing (v : Value) (name : String) : Innocent (missing v name : Action α) := by
  unfold missing
  split <;> exact innocentMisuse _

theorem innocentTake (source part : Value) : Innocent (take source part) := by
  unfold take
  split
  · exact innocentModify fun _ => rfl
  · exact innocentPure ()

theorem innocentTakeAll (source : Value) (vs : List Value) : Innocent (takeAll source vs) := by
  induction vs with
  | nil => exact innocentPure ()
  | cons v vs ih => exact innocentBind (innocentTake source v) fun _ => ih

theorem innocentVisit {source : Value} {g : Nat → Value → Action Unit}
    (each : ∀ i v, Innocent (g i v)) (total index : Nat) (vs : List Value) :
    Innocent (visit source g total index vs) := by
  induction vs generalizing index with
  | nil =>
    refine innocentBind innocentWorld fun w => ?_
    exact innocentBind (innocentExcept (w.partNowInnocent _ _ _ _)) fun _ => innocentPure ()
  | cons v vs ih =>
    refine innocentBind innocentWorld fun w => ?_
    refine innocentBind (innocentExcept (w.partNowInnocent _ _ _ _)) fun v => ?_
    refine innocentBind (innocentTake source v) fun _ => ?_
    exact innocentBind (each index v) fun _ => ih _

theorem innocentPair (t : Taker) (index : Nat) (v : Value) : Innocent (t.pair index v) := by
  refine innocentBind innocentWorld fun w => ?_
  split
  · exact innocentMisuse _
  · refine innocentBind (innocentTakeAll v _) fun _ => ?_
    split
    · exact innocentPure _
    · exact innocentMisuse _

theorem innocentParts (t : Taker) (source : Value) (each : ∀ k v, Innocent (f k v)) :
    Innocent (Value.forParts t f source) := by
  refine innocentBind ?_ fun parts => ?_
  · refine innocentBind innocentWorld fun w => ?_
    split
    · exact innocentPure _
    · exact innocentMisuse _
  refine innocentVisit (fun index part => ?_) _ _ parts
  exact innocentBind (innocentPair t index part) fun p => each p.1 p.2

theorem innocentEntries [Calls] (t : Taker) (source : Value)
    (each : ∀ k v, Innocent (f k v)) : Innocent (source.forEntries t f) := by
  intro w plain
  unfold Value.forEntries
  rw [bindOk (keysPlain plain)]
  have parts : Innocent
      (if source.isMapping then Value.forYield f (w.items source) else Value.forParts t f source) := by
    split
    · exact innocentItems each
    · exact innocentParts t source each
  cases source with
  | kind k =>
    have refused (m n : Misuse) :
        Innocent (if k.under .mapping then misuse m else misuse n : Action Unit) := by
      split <;> exact innocentMisuse _
    exact refused _ _ w plain
  | _ => exact parts w plain

theorem innocentKey (key : Value) : Innocent (requireHashable key) :=
  innocentExcept (checkKeyInnocent key)

theorem innocentInsert (dictionary key value : Value) :
    Innocent (dictionary.insertEntry key value) := by
  refine innocentBind (innocentKey key) fun _ => ?_
  split
  · exact innocentModify fun _ => rfl
  · exact innocentPure ()

theorem innocentDictionary (es : Entries) : Innocent (newDictionary es) :=
  innocentModifyGet fun _ => rfl

theorem innocentListed (name : String) (v : Value) : Innocent (entries name v) := by
  intro w plain
  unfold entries
  by_cases mapping : v.isMapping = true
  · have told : entriesAs name v w = .ok (w.items v) w := by
      unfold entriesAs
      rw [if_pos mapping]
      rfl
    rw [bindOk told]
    exact innocentBind (innocentFinish w v) (fun _ => innocentPure _) w plain
  · unfold entriesAs
    rw [if_neg mapping]
    cases v <;> trivial

variable [Calls]

theorem innocentCopy (v : Value) : Innocent v.copied := by
  refine innocentBind innocentWorld fun w => ?_
  split
  · exact innocentDictionary _
  · refine innocentBind (innocentDictionary []) fun copy => ?_
    refine innocentBind (innocentEntries _ v fun k x => innocentInsert copy k x) fun _ => ?_
    exact innocentPure copy

theorem innocentTold (v : Value) : Innocent v.told := by
  unfold Value.told
  split
  · exact innocentAnswer (by decide) (innocentCopy _)
  · exact innocentCopy _

theorem innocentListing (v : Value) : Innocent v.listing := by
  intro w plain
  unfold Value.listing
  rw [worldBind, plain v "items" (by decide)]
  refine innocentBind (innocentListed "items" v) (fun _ => innocentDictionary _) w plain

end Action

namespace Snapshot

structure Innocent (x : Snapshot) : Prop where
  written : ∀ m, EndsInnocent (x.write m)
  listed : EndsInnocent x.writeListed

def InnocentEntries (es : List (Snapshot × Snapshot)) : Prop :=
  ∀ e ∈ es, e.1.Innocent ∧ e.2.Innocent

variable {xs : List Snapshot} {es : List (Snapshot × Snapshot)}

theorem allInnocent (m : Manner) (each : ∀ x ∈ xs, x.Innocent) : EndsInnocent (writeAll m xs) := by
  induction xs with
  | nil => trivial
  | cons x xs ih =>
    obtain ⟨first, rest⟩ := List.forall_mem_cons.mp each
    unfold writeAll
    exact innocentThen (first.written m) fun _ => innocentThen (ih rest) fun _ => trivial

theorem entryInnocent {α : Type} {k v : Snapshot} {rest : Except Fault (List α)} (m : Manner)
    (tell : String → String → α) (key : k.Innocent) (value : v.Innocent)
    (later : EndsInnocent rest) :
    EndsInnocent (do
      let k ← k.write m
      let v ← v.write m
      return tell k v :: (← rest)) := by
  refine innocentThen (key.written m) fun _ => innocentThen (value.written m) fun _ => ?_
  exact innocentThen later fun _ => trivial

theorem entriesInnocent (each : InnocentEntries es) : EndsInnocent (writeEntries es) := by
  induction es with
  | nil => trivial
  | cons e es ih =>
    obtain ⟨⟨key, value⟩, rest⟩ := List.forall_mem_cons.mp each
    unfold writeEntries
    exact entryInnocent .spelling (fun k v => k ++ ": " ++ v) key value (ih rest)

theorem pairsInnocent (each : InnocentEntries es) : EndsInnocent (writePairs es) := by
  induction es with
  | nil => trivial
  | cons e es ih =>
    obtain ⟨⟨key, value⟩, rest⟩ := List.forall_mem_cons.mp each
    unfold writePairs
    exact entryInnocent .display Prod.mk key value (ih rest)

theorem presentInnocent (each : InnocentEntries es) : EndsInnocent (writePresent es) := by
  induction es with
  | nil => trivial
  | cons e es ih =>
    obtain ⟨⟨key, value⟩, rest⟩ := List.forall_mem_cons.mp each
    have there := entryInnocent .display Prod.mk key value (ih rest)
    obtain ⟨k, v⟩ := e
    cases v with
    | null => exact ih rest
    | _ => exact there

theorem memberInnocent (m : Manner) (name : String) {members : List (String × Snapshot)}
    (each : ∀ x ∈ members, x.2.Innocent) : EndsInnocent (writeMember m name members) := by
  induction members with
  | nil => trivial
  | cons x members ih =>
    obtain ⟨first, rest⟩ := List.forall_mem_cons.mp each
    unfold writeMember
    split
    · exact first.written m
    · exact ih rest

theorem innocentList (each : ∀ x ∈ xs, x.Innocent) : (list xs).Innocent where
  written m := by
    cases m <;> exact innocentThen (allInnocent .spelling each) fun _ => trivial
  listed := trivial

theorem innocentTuple (each : ∀ x ∈ xs, x.Innocent) : (tuple xs).Innocent where
  written m := by
    cases m <;> exact innocentThen (allInnocent .spelling each) fun _ => trivial
  listed := trivial

theorem innocentMapping {form : Form} (each : InnocentEntries es) : (mapping form es).Innocent where
  written m := by
    cases m <;> exact innocentThen (entriesInnocent each) fun _ => trivial
  listed := presentInnocent each

theorem innocentView {v : Value} {form : Form} {told listed : Snapshot} (each : InnocentEntries es)
    (telling : told.Innocent) (listing : listed.Innocent) :
    (view v form es told listed).Innocent where
  written m := by
    cases form with
    | attributes shared => cases m <;> exact innocentThen (telling.written .display) fun _ => trivial
    | _ => cases m <;> exact innocentThen (entriesInnocent each) fun _ => trivial
  listed := listing.listed

theorem innocentUntold {f : Fault} (innocent : f.Innocent) : (untold f).Innocent where
  written m := by cases m <;> exact innocent
  listed := innocent

theorem innocentUpload {n c r t : Snapshot} (name : n.Innocent) (content : c.Innocent)
    (originalName : r.Innocent) (contentType : t.Innocent) : (upload n c r t).Innocent where
  written m := by
    cases m <;>
      exact innocentThen (name.written _) fun _ => innocentThen (content.written _) fun _ =>
        innocentThen (originalName.written _) fun _ => innocentThen (contentType.written _) fun _ => trivial
  listed := trivial

theorem innocentPrincipal {n : Snapshot} (name : n.Innocent) : (principal n).Innocent where
  written m := by
    cases m with
    | display => cases n <;> trivial
    | spelling => exact innocentThen (name.written _) fun _ => trivial
  listed := trivial

theorem innocentContext {r : Nat} {complete : Bool} {members : List (String × Snapshot)}
    (each : ∀ x ∈ members, x.2.Innocent) : (context r complete members).Innocent where
  written m := by
    cases m <;>
      exact innocentThen (memberInnocent _ _ each) fun _ =>
        innocentThen (memberInnocent _ _ each) fun _ => trivial
  listed := trivial

theorem innocentReport {r : Nat} {k : Kind} {message metadata : Snapshot}
    {suggestions arguments : List Snapshot} {extra : List (String × Snapshot)} {cause : Option Kind}
    (telling : message.Innocent) (facts : metadata.Innocent) (notes : InnocentEntries es)
    (hints : ∀ x ∈ suggestions, x.Innocent) (given : ∀ x ∈ arguments, x.Innocent) :
    (report r k message metadata es suggestions arguments extra cause).Innocent where
  written m := by
    cases m with
    | display =>
      refine innocentThen (telling.written _) fun _ => innocentThen facts.listed fun _ => ?_
      exact innocentThen (pairsInnocent notes) fun _ => innocentThen (allInnocent _ hints) fun _ => trivial
    | spelling => exact innocentThen (allInnocent _ given) fun _ => trivial
  listed := trivial

theorem innocentFault {r : Nat} {k : Kind} (given : ∀ x ∈ xs, x.Innocent) :
    (fault r k xs).Innocent where
  written m := by
    cases m with
    | display =>
      match xs, given with
      | [], _ => trivial
      | [x], given =>
        have only := given x (List.mem_singleton_self x)
        -- a missing key is spelled, any other value shown
        cases k <;> exact only.written _
      | _ :: _ :: _, given => exact innocentThen (allInnocent .spelling given) fun _ => trivial
    | spelling => exact innocentThen (allInnocent _ given) fun _ => trivial
  listed := trivial

theorem innocentFacet {tag : Nat} {f : Facet} {map : Snapshot} (telling : map.Innocent) :
    (facet tag f map xs).Innocent where
  written m := by cases m <;> exact innocentThen (telling.written _) fun _ => trivial
  listed := trivial

end Snapshot

structure Resolver.Innocent (o : Resolver) : Prop where
  list : ∀ r, ∀ x ∈ o.list r, x.Innocent
  map : ∀ v, (o.map v).Innocent
  context : ∀ r, (o.context r).Innocent
  error : ∀ r, (o.error r).Innocent

section
variable {o : Resolver}

open Snapshot

mutual

theorem Value.innocentSnapshot (innocent : o.Innocent) : ∀ v : Value, (v.snapshot o).Innocent
  | .tuple _ vs => innocentTuple (Value.innocentSnapshots innocent vs)
  | .upload _ n c r t =>
    innocentUpload (n.innocentSnapshot innocent) (c.innocentSnapshot innocent)
      (r.innocentSnapshot innocent) (t.innocentSnapshot innocent)
  | .principal _ n => innocentPrincipal (n.innocentSnapshot innocent)
  | .list r => innocentList (innocent.list r)
  | .attributes .. | .parameters _ | .dictionary _ => innocent.map _
  | .context r => innocent.context r
  | .error _ r => innocent.error r
  | .facet _ _ map => innocentFacet (map.innocentSnapshot innocent)
  | .null | .bool _ | .int _ | .float .. | .text _ | .bytes _ | .writer _ | .stream _ | .token _
  | .lock _ | .kind _ | .function _ | .operation .. | .pending _ =>
    ⟨fun m => by cases m <;> trivial, trivial⟩
  | .converter c => ⟨fun m => by cases m <;> cases c <;> trivial, trivial⟩

theorem Value.innocentSnapshots (innocent : o.Innocent) :
    ∀ vs : List Value, ∀ x ∈ Value.snapshots o vs, x.Innocent
  | [] => fun _ mem => by contradiction
  | v :: vs =>
    List.forall_mem_cons.mpr ⟨v.innocentSnapshot innocent, Value.innocentSnapshots innocent vs⟩

end

variable (innocent : o.Innocent)
include innocent

theorem Entries.innocentSnapshot (es : Entries) : InnocentEntries (Entries.snapshot o es) := by
  intro e mem
  obtain ⟨e, _, rfl⟩ := List.mem_map.mp mem
  exact ⟨e.1.innocentSnapshot innocent, e.2.innocentSnapshot innocent⟩

theorem Context.innocentMembers (c : Context) {allowed complete redirect : Snapshot}
    (first : allowed.Innocent) (second : complete.Innocent) (third : redirect.Innocent) :
    ∀ x ∈ c.members o allowed complete redirect, x.2.Innocent := by
  have value (v : Value) := v.innocentSnapshot innocent
  have shared : (if c.globalSessionMap.same c.sessionMap then Snapshot.text "session_map"
      else c.globalSessionMap.snapshot o).Innocent := by
    split
    · exact value (.text _)
    · exact value _
  have flag (b : Bool) : (Snapshot.bool b).Innocent := value (.bool b)
  simp only [Context.members, List.forall_mem_cons, value, shared, flag, first, second, third,
    List.not_mem_nil, false_implies, implies_true, and_self]

end

namespace World

variable {w : World} {next : World → Resolver}

theorem innocentTell {a : Action Value} (innocent : a.Innocent) (plain : w.Plain)
    (nexts : ∀ w, w.Plain → (next w).Innocent) : (Action.tell a w next).Innocent := by
  have ends := innocent w plain
  have run : a.run w = a w := rfl
  unfold Action.tell
  rw [run]
  cases h : a w with
  | error f w' =>
    rw [h] at ends
    exact Snapshot.innocentUntold ends
  | ok v w' =>
    rw [h] at ends
    have after := nexts w' ends
    cases v with
    | dictionary r => exact Snapshot.innocentMapping (Entries.innocentSnapshot after _)
    | _ => exact Value.innocentSnapshot after _

theorem innocentRaised {o : Resolver} (innocent : o.Innocent) (r : Nat) :
    (w.snapshotRaised r o).Innocent := by
  have value (v : Value) := v.innocentSnapshot innocent
  unfold snapshotRaised
  split
  · exact Snapshot.innocentReport (value _) (value _) (Entries.innocentSnapshot innocent _)
      (Value.innocentSnapshots innocent _) (Value.innocentSnapshots innocent _)
  · exact Snapshot.innocentFault (Value.innocentSnapshots innocent _)

variable [Calls] (plain : w.Plain) (nexts : ∀ w, w.Plain → (next w).Innocent)
include plain nexts

theorem innocentMap (v : Value) : (w.snapshotMap v next).Innocent := by
  have items := Entries.innocentSnapshot (nexts w plain) (w.items v).items
  unfold snapshotMap
  dsimp only
  split
  · exact Snapshot.innocentMapping items
  · exact Snapshot.innocentView items (innocentTell (Action.innocentTold v) plain nexts)
      (innocentTell (Action.innocentListing v) plain nexts)

theorem innocentContext (r : Nat) : (w.snapshotContext r next).Innocent := by
  have answers {name : String} (asked : name ∈ askedNames) (told : Context → Bool) :
      Action.Innocent ((Value.context r).answer name ⟨[], []⟩ do
        return .bool (told ((← Action.world).context r))) :=
    Action.innocentAnswer asked (Action.innocentBind Action.innocentWorld fun _ => Action.innocentPure _)
  refine Snapshot.innocentContext (Context.innocentMembers (nexts w plain) _ ?_ ?_ ?_)
  · exact innocentTell (answers (by decide) Context.responseAllowed) plain nexts
  · exact innocentTell (answers (by decide) Context.complete) plain nexts
  · exact innocentTell (answers (by decide) Context.redirectRequested) plain nexts

omit plain nexts in
theorem innocentResolver (n : Nat) {w : World} (plain : w.Plain) : (resolver n w).Innocent := by
  induction n generalizing w with
  | zero =>
    refine ⟨fun _ _ mem => by contradiction, fun _ => ?_, fun _ => ?_, fun _ => ?_⟩
    · exact Snapshot.innocentMapping fun _ mem => by contradiction
    · exact Snapshot.innocentContext fun _ mem => by contradiction
    · exact ⟨fun m => by cases m <;> trivial, trivial⟩
  | succ n ih =>
    exact ⟨fun r => Value.innocentSnapshots (ih plain) _, fun v => innocentMap plain (fun _ => ih) v,
      fun r => innocentContext plain (fun _ => ih) r, fun r => innocentRaised (ih plain) r⟩

omit nexts in
theorem innocentSnapshot (v : Value) : (w.snapshot v).Innocent :=
  Value.innocentSnapshot (innocentResolver _ plain) v

end World

namespace Action

theorem innocentShown [Calls] (v : Value) : Innocent (shown v) := by
  intro w plain
  exact innocentExcept ((w.innocentSnapshot plain v).written .display) w plain

end Action

end FlowDouble
