import FlowDouble.Attributes.Operation
import FlowDouble.Proofs.Attributes.Mappings
import FlowDouble.Proofs.Kinds
import FlowDouble.Proofs.Parameters.Readers
import FlowDouble.Proofs.Sorting
import Mathlib.Data.String.Basic
/-! A required attribute is there and fits, is there and does not fit, or is not there. Only in the
last case is something made: the row of all keys in ascending order. -/
namespace FlowDouble

open FlowDouble.Action

def Value.saying : Value → String
  | .text s => s
  | _ => ""

theorem areTexts {vs : List Value} (texts : ∀ v ∈ vs, ∃ s, v = .text s) :
    ∃ names : List String, vs = names.map .text := by
  induction vs with
  | nil => exact ⟨[], rfl⟩
  | cons v vs ih =>
    obtain ⟨s, rfl⟩ := texts v List.mem_cons_self
    obtain ⟨names, rfl⟩ := ih fun x mem => texts x (List.mem_cons_of_mem _ mem)
    exact ⟨s :: names, rfl⟩

namespace Entries

theorem keysDistinct {es : Entries} (sound : es.Sound) : es.keys.Nodup := by
  refine List.pairwise_map.mpr (sound.distinct.imp fun apart same => ?_)
  rw [same, Value.sameKeyRefl] at apart
  contradiction

theorem textThere {es : Entries} (texts : ∀ key ∈ es.keys, ∃ s, key = .text s) (s : String) :
    es.has (.text s) = true ↔ .text s ∈ es.keys := by
  constructor
  · intro there
    obtain ⟨v, found⟩ := Option.isSome_iff_exists.mp there
    obtain ⟨e, mem, same, _⟩ := findSome found
    have inside : e.1 ∈ es.keys := List.mem_map_of_mem mem
    obtain ⟨t, key⟩ := texts e.1 inside
    have equal : t = s := by simpa [key, Value.sameKey, Value.same, Value.number?] using same
    rwa [key, equal] at inside
  · intro inside
    obtain ⟨e, mem, key⟩ := List.mem_map.mp inside
    cases there : es.has (.text s) with
    | true => rfl
    | false =>
      have apart := findNone.mp (by simpa [has] using there) e mem
      rw [key, Value.sameKeyRefl] at apart
      contradiction

end Entries

namespace Report

variable {w : World}

theorem missingTells (w : World) (message : Value) (key : String) (metadata : Entries) :
    ∃ r, attributeNotFound w message (.text key) metadata = .ok r ∧
      r.diagnosis = .attributeNotFound (.text key) ∧
      r.metadata = (.text "key", .text key) :: metadata := by
  have noted : ∃ es, noteOf w "missing_key" (.text key) = .ok es := by
    have told : w.truthy (.text key) = .ok (!key.isEmpty) := rfl
    unfold noteOf
    rw [told]
    cases key.isEmpty <;> exact ⟨_, rfl⟩
  obtain ⟨es, noted⟩ := noted
  unfold attributeNotFound
  rw [noted]
  exact ⟨_, rfl, rfl, rfl⟩

def NamedWell (w : World) (k : Kind) : Prop :=
  ∀ name, w.attachment? (.kind k) nameMember = some name → ∃ s, name = .text s

theorem kindNamed {k : Kind} (well : NamedWell w k) : ∃ s, kindName w (.kind k) = .ok (.text s) := by
  unfold kindName
  cases given : w.attachment? (.kind k) nameMember with
  | none => exact ⟨k.name, rfl⟩
  | some name =>
    obtain ⟨s, rfl⟩ := well name given
    exact ⟨s, rfl⟩

end Report

namespace Attributes

inductive Fits (v : Value) : Value → Prop where
  | anything : Fits v .null
  | kind {k : Kind} (falls : v.kindOf.Falls k) : Fits v (.kind k)

inductive Expectable (w : World) : Value → Prop where
  | anything : Expectable w .null
  | kind {k : Kind} (named : Report.NamedWell w k) : Expectable w (.kind k)

structure TellsAvailable (w w' : World) (r : Report) (names : List String) : Prop where
  told : r.metadata.find? (.text "available") =
    some (if names = [] then .null else .list w.lists.length)
  left : w' = if names = [] then w else { w with lists := w.lists.push (names.map .text) }

section
variable [Calls] {w : World} {keys : List Value}

def judge (key v expected : Value) : Action Value := do
  if expected.isNull then return v
  else if ← ofExcept (isInstance v expected) then return v
  else
    let shownKey ← shown key
    let name ← shown (← ofExcept (Report.kindName (← world) expected))
    refuseType ("Attribute '" ++ shownKey ++ "' is not of type " ++ name) key expected v

theorem textsSorted (w : World) (texts : ∀ key ∈ keys, ∃ s, key = .text s) (distinct : keys.Nodup) :
    ∃ names : List String,
      Sorting.sort (fun a b => (w.snapshot a).less (w.snapshot b)) keys =
        .ok (names.map .text) ∧
      names.Pairwise (· < ·) ∧ ∀ t, t ∈ names ↔ .text t ∈ keys := by
  have told (a b : Value) (left : ∃ s, a = .text s) (right : ∃ s, b = .text s) :
      (w.snapshot a).less (w.snapshot b) = .ok (decide (a.saying < b.saying)) := by
    obtain ⟨s, rfl⟩ := left
    obtain ⟨t, rfl⟩ := right
    rfl
  obtain ⟨sorted, done, perm, ascending⟩ := Sorting.sortAscends told keys texts
  obtain ⟨names, rfl⟩ := areTexts fun key mem => texts key (perm.subset mem)
  have once : names.Pairwise fun s t => Value.text s ≠ .text t :=
    List.pairwise_map.mp (perm.nodup_iff.mpr distinct)
  have rising : names.Pairwise fun s t => (Value.text s).saying ≤ (Value.text t).saying :=
    (List.pairwise_map (f := Value.text)).mp ascending
  refine ⟨names, done, ?_, fun t => ?_⟩
  · exact once.imp₂ (fun _ _ apart le => lt_of_le_of_ne le fun same => apart (same ▸ rfl)) rising
  · rw [← perm.mem_iff]
    simp

variable {backing v : Value} {s : String} (there : w.HasMap backing)
include there

theorem availableTells (sound : Entries.Sound (w.items backing).items)
    (texts : ∀ key ∈ Entries.keys (w.items backing).items, ∃ s, key = .text s) :
    ∃ names : List String, names.Pairwise (· < ·) ∧
      (∀ t, t ∈ names ↔ .text t ∈ Entries.keys (w.items backing).items) ∧
      available backing w =
        .ok (if names = [] then .null else .list w.lists.length)
          (if names = [] then w else { w with lists := w.lists.push (names.map .text) }) := by
  obtain ⟨names, sorted, rising, all⟩ := textsSorted w texts (Entries.keysDistinct sound)
  refine ⟨names, rising, all, ?_⟩
  unfold available
  rw [bindOk there.elements, worldBind, sorted]
  cases names <;> rfl

theorem requiredMissing (absent : Entries.has (w.items backing).items (.text s) = false)
    (sound : Entries.Sound (w.items backing).items)
    (texts : ∀ key ∈ Entries.keys (w.items backing).items, ∃ s, key = .text s)
    (expected : Value) :
    ∃ r w' names, getRequired backing (.text s) expected w = .error (.report r) w' ∧
      r.diagnosis = .attributeNotFound (.text s) ∧ names.Pairwise (· < ·) ∧
      (∀ t, t ∈ names ↔ .text t ∈ Entries.keys (w.items backing).items) ∧
      TellsAvailable w w' r names := by
  obtain ⟨names, rising, all, told⟩ := availableTells there sound texts
  have hashable : (Value.text s).hashable = true := rfl
  have contained := there.contains hashable
  rw [absent] at contained
  let w' := if names = [] then w else { w with lists := w.lists.push (names.map .text) }
  let row : Value := if names = [] then .null else .list w.lists.length
  obtain ⟨r, made, about, metadata⟩ := Report.missingTells w'
    (.text ("Required attribute '" ++ s ++ "' is not present")) s [(.text "available", row)]
  refine ⟨r, w', names, ?_, about, rising, all, ?_, rfl⟩
  · unfold getRequired
    rw [bindOk contained]
    refine (bindOk (shownText s w)).trans ((bindOk told).trans ?_)
    unfold refuseMissing refuseWith
    rw [worldBind, made]
    rfl
  · rw [metadata]
    rfl

theorem requiredFound (found : w.item backing (.text s) = .ok v) (expected : Value) :
    getRequired backing (.text s) expected w = judge (.text s) v expected w := by
  have present : Entries.has (w.items backing).items (.text s) = true := by
    rw [there.itemFound rfl] at found
    unfold Entries.has
    cases h : Entries.find? (.text s) (w.items backing).items with
    | none => rw [h] at found; contradiction
    | some x => rfl
  have hashable : (Value.text s).hashable = true := rfl
  have contained := there.contains hashable
  rw [present] at contained
  have got : backing.getItem (.text s) w = .ok v w := by
    unfold Value.getItem
    rw [worldBind, found]
    rfl
  exact (bindOk contained).trans (bindOk got)

omit there [Calls] in
theorem instanceTold (v : Value) (k : Kind) (w : World) :
    (ofExcept (isInstance v (.kind k)) : Action Bool) w = .ok (v.isA k) w := by
  rw [isInstance]
  rfl

omit there in
theorem judgeFits {expected : Value} (fits : Fits v expected) (key : Value) :
    judge key v expected w = .ok v w := by
  cases fits with
  | anything => rfl
  | @kind k falls =>
    have told := instanceTold v k w
    rw [show v.isA k = true from Kind.underIff.mpr falls] at told
    exact bindOk told

omit there in
theorem judgeMisfits {expected : Value} (expectable : Expectable w expected)
    (misfit : ¬ Fits v expected) (s : String) :
    Reports (.attributeType (.text s) expected) (judge (.text s) v expected) w := by
  cases expectable with
  | anything => exact absurd .anything misfit
  | @kind k named =>
    have told := instanceTold v k w
    rw [show v.isA k = false from Bool.eq_false_iff.mpr fun falls =>
      misfit (.kind (Kind.underIff.mp falls))] at told
    obtain ⟨name, spelled⟩ := Report.kindNamed named
    have kept : (ofExcept (Report.kindName w (.kind k)) : Action Value) w = .ok (.text name) w := by
      rw [spelled]
      rfl
    refine reportsAfter told (reportsAfter (shownText s w) ?_)
    exact reportsAfter (v := w) rfl (reportsAfter kept
      (reportsAfter (shownText name w) (typeReported _ _ k v w)))

inductive Outcome (w : World) (map : Value) (s : String) (expected : Value) :
    EStateM.Result Fault World Value → Prop where
  | answered {v : Value} (found : w.item map (.text s) = .ok v) (fits : Fits v expected) :
      Outcome w map s expected (.ok v w)
  | misfit {v : Value} {r : Report} (found : w.item map (.text s) = .ok v)
      (misfit : ¬ Fits v expected) (about : r.diagnosis = .attributeType (.text s) expected) :
      Outcome w map s expected (.error (.report r) w)
  | missing {r : Report} {w' : World} {names : List String}
      (absent : .text s ∉ Entries.keys (w.items map).items)
      (about : r.diagnosis = .attributeNotFound (.text s)) (rising : names.Pairwise (· < ·))
      (all : ∀ t, t ∈ names ↔ .text t ∈ Entries.keys (w.items map).items)
      (tells : TellsAvailable w w' r names) : Outcome w map s expected (.error (.report r) w')

omit [Calls] in
theorem keyFound (texts : ∀ key ∈ Entries.keys (w.items backing).items, ∃ s, key = .text s)
    (s : String) :
    .text s ∈ Entries.keys (w.items backing).items ↔ ∃ v, w.item backing (.text s) = .ok v := by
  rw [← Entries.textThere texts, there.itemFound rfl]
  unfold Entries.has
  cases Entries.find? (.text s) (w.items backing).items <;> simp

theorem getRequiredEnds (formed : w.Formed)
    (texts : ∀ key ∈ Entries.keys (w.items backing).items, ∃ s, key = .text s) {expected : Value}
    (expectable : Expectable w expected) (s : String) :
    Outcome w backing s expected (getRequired backing (.text s) expected w) := by
  by_cases present : .text s ∈ Entries.keys (w.items backing).items
  · obtain ⟨v, found⟩ := (keyFound there texts s).mp present
    rw [requiredFound there found]
    by_cases fits : Fits v expected
    · rw [judgeFits fits]
      exact .answered found fits
    · obtain ⟨r, failed, about⟩ := judgeMisfits expectable fits s
      rw [failed]
      exact .misfit found fits about
  · have absent := Bool.eq_false_iff.mpr (mt (Entries.textThere texts s).mp present)
    obtain ⟨r, w', names, failed, about, rising, all, tells⟩ :=
      requiredMissing there absent (formed.itemsSound there.root) texts expected
    rw [failed]
    exact .missing present about rising all tells

/-- A required attribute is answered with the value that is there if it fits, and refused with a
report of its kind exactly if it does not, or of the key exactly if nothing is there. The report of a
missing key lists all others in ascending order. The map stays as it is. -/
theorem getRequiredIsExact {tag : Nat} {shared : Bool} (formed : w.Formed)
    (texts : ∀ key ∈ Entries.keys (w.items backing).items, ∃ s, key = .text s) {expected : Value}
    (expectable : Expectable w expected) (s : String) :
    let map : Value := .attributes tag shared backing
    let asks := perform map backing (.getRequired (.text s) expected)
    let keys := Entries.keys (w.items map).items
    (∀ v, (∃ w', asks w = .ok v w') ↔ w.item map (.text s) = .ok v ∧ Fits v expected) ∧
    ((∃ f w', asks w = .error f w' ∧ f.kind = .attributeNotFound) ↔ .text s ∉ keys) ∧
    ((∃ f w', asks w = .error f w' ∧ f.kind = .attributeType) ↔
      ∃ v, w.item map (.text s) = .ok v ∧ ¬ Fits v expected) ∧
    (∀ f w', asks w = .error f w' → ∃ r, f = .report r ∧
      (f.kind = .attributeType → r.diagnosis = .attributeType (.text s) expected) ∧
      (f.kind = .attributeNotFound → r.diagnosis = .attributeNotFound (.text s) ∧
        ∃ names : List String, names.Pairwise (· < ·) ∧ (∀ t, t ∈ names ↔ .text t ∈ keys) ∧
          s ∉ names ∧ TellsAvailable w w' r names)) ∧
    asks.leaves w = { w with lists := (asks.leaves w).lists } ∧
    (asks.leaves w).items map = w.items map := by
  intro map asks keys
  have ends : Outcome w backing s expected (asks w) := getRequiredEnds there formed texts expectable s
  have present : .text s ∈ keys ↔ ∃ v, w.item map (.text s) = .ok v := keyFound there texts s
  unfold leaves
  generalize asks w = result at ends
  cases ends with
  | @answered v found fits =>
    have found : w.item map (.text s) = .ok v := found
    refine ⟨fun x => ⟨?_, ?_⟩, ?_, ?_, by simp, rfl, rfl⟩
    · rintro ⟨w', same⟩
      cases same
      exact ⟨found, fits⟩
    · rintro ⟨same, _⟩
      cases found.symm.trans same
      exact ⟨w, rfl⟩
    · simpa using present.mpr ⟨v, found⟩
    · simpa [found] using fits
  | @misfit v r found misfit about =>
    have found : w.item map (.text s) = .ok v := found
    have kind : (Fault.report r).kind = .attributeType := congrArg Diagnosis.kind about
    refine ⟨?_, ?_, ?_, ?_, rfl, rfl⟩
    · simpa [found] using misfit
    · simpa [kind] using present.mpr ⟨v, found⟩
    · exact ⟨fun _ => ⟨v, found, misfit⟩, fun _ => ⟨_, w, rfl, kind⟩⟩
    · rintro f w' same
      cases same
      exact ⟨r, rfl, fun _ => about, fun other => by rw [kind] at other; contradiction⟩
  | @missing r w' names absent about rising all tells =>
    have absent : .text s ∉ keys := absent
    have kind : (Fault.report r).kind = .attributeNotFound := congrArg Diagnosis.kind about
    have nothing (v : Value) : w.item map (.text s) ≠ .ok v :=
      fun found => absent (present.mpr ⟨v, found⟩)
    have only : w' = { w with lists := w'.lists } := by
      rw [tells.left]
      split <;> rfl
    refine ⟨by simp [nothing], ⟨fun _ => absent, fun _ => ⟨_, w', rfl, kind⟩⟩, ?_, ?_, only, ?_⟩
    · simp [nothing, kind]
    · rintro f w'' same
      cases same
      refine ⟨r, rfl, fun other => by rw [kind] at other; contradiction, fun _ => ⟨about, names,
        rising, all, mt (all s).mp absent, tells⟩⟩
    · have has : w.HasMap map := there
      exact has.itemsStay (fun d _ => by rw [only]; rfl) (by rw [only])

end

theorem truthIsRequiredNumber :
    let w : World := { dictionaries := [[(.text "b", .bool true), (.text "a", .null)]] }
    let backing : Value := .attributes 1 false (.dictionary 0)
    let map : Value := .attributes 0 true backing
    (∃ w', perform map backing (.getRequired (.text "b") (.kind .int)) w = .ok (.bool true) w') ∧
    ∃ r w' names, perform map backing (.getRequired (.text "c") .null) w =
        .error (.report r) w' ∧
      r.diagnosis = .attributeNotFound (.text "c") ∧ names.Pairwise (· < ·) ∧
      (∀ t, t ∈ names ↔ .text t ∈ [Value.text "b", .text "a"]) ∧ TellsAvailable w w' r names := by
  intro w backing map
  have formed : w.Formed := Context.formedStart fun es mem => by
    rw [List.mem_singleton.mp mem]
    exact ⟨by decide, by decide⟩
  have there : w.HasMap backing := .inl ⟨0, by decide, rfl⟩
  have keys : Entries.keys (w.items backing).items = [.text "b", .text "a"] := rfl
  have texts : ∀ key ∈ Entries.keys (w.items backing).items, ∃ s, key = .text s := by
    simp [keys]
  have falls : Kind.Falls .bool .int := Kind.underIff.mp rfl
  have answered : ∃ w', perform map backing (.getRequired (.text "b") (.kind .int)) w =
      .ok (.bool true) w' :=
    ((getRequiredIsExact there formed texts (.kind nofun) "b").1 _).mpr ⟨rfl, .kind falls⟩
  have absent : Value.text "c" ∉ [Value.text "b", .text "a"] := by simp
  obtain ⟨f, w', failed, kind⟩ : ∃ f w',
      perform map backing (.getRequired (.text "c") .null) w = .error f w' ∧
        f.kind = .attributeNotFound :=
    (getRequiredIsExact there formed texts .anything "c").2.1.mpr absent
  obtain ⟨r, rfl, _, about⟩ :=
    (getRequiredIsExact there formed texts .anything "c").2.2.2.1 f w' failed
  obtain ⟨key, names, rising, all, _, tells⟩ := about kind
  exact ⟨answered, r, w', names, failed, key, rising, all, tells⟩

end Attributes

end FlowDouble
