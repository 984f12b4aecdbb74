import FlowDouble.Proofs.Isolation.Onward
import FlowDouble.Proofs.Renaming.Calls
/-! What a context can be made from without being tied to it: things that never change, and dictionaries
of such things and rows of them. Main statement: of such a dictionary only what never changes gets into
a parameter map, so that the dictionary itself stays outside. -/
namespace FlowDouble

namespace Value

mutual

def frozen (n : Nat) : Value → Bool
  | null | bool _ | int _ | text _ | bytes _ | kind _ | converter _ => true
  | float t _ | token t => t < n
  | tuple t vs => t < n && allFrozen n vs
  | upload t a b c d => t < n && a.frozen n && b.frozen n && c.frozen n && d.frozen n
  | principal t a => t < n && a.frozen n
  | _ => false

def allFrozen (n : Nat) : List Value → Bool
  | [] => true
  | v :: vs => v.frozen n && allFrozen n vs

end

end Value

def Pairing.first (n : Nat) : Pairing where
  partner := 1
  domain s t := s = .tag ∧ t < n
  bound _ := n
  below _ _ there := there.2

section
variable {n : Nat} {P : Pairing}

mutual

theorem frozenWithin : ∀ {v : Value}, v.frozen n = true → ∀ {ρ : Renaming},
    Fixes (Pairing.first n).domain ρ → v.rename ρ = v
  | .null, _, _, _ | .bool _, _, _, _ | .int _, _, _, _ | .text _, _, _, _ | .bytes _, _, _, _
  | .kind _, _, _, _ | .converter _, _, _, _ => rfl
  | .float t w, frozen, ρ, fixes => by
    have low : t < n := of_decide_eq_true frozen
    rw [Value.rename, fixes .tag t ⟨rfl, low⟩]
  | .token t, frozen, ρ, fixes => by
    have low : t < n := of_decide_eq_true frozen
    rw [Value.rename, fixes .tag t ⟨rfl, low⟩]
  | .tuple t vs, frozen, ρ, fixes => by
    obtain ⟨low, parts⟩ := Bool.and_eq_true_iff.mp frozen
    rw [Value.rename, fixes .tag t ⟨rfl, of_decide_eq_true low⟩, allFrozenWithin parts fixes]
  | .upload t a b c d, frozen, ρ, fixes => by
    simp only [Value.frozen, Bool.and_eq_true, decide_eq_true_eq] at frozen
    obtain ⟨⟨⟨⟨low, name⟩, content⟩, original⟩, type⟩ := frozen
    rw [Value.rename, fixes .tag t ⟨rfl, low⟩, frozenWithin name fixes, frozenWithin content fixes,
      frozenWithin original fixes, frozenWithin type fixes]
  | .principal t a, frozen, ρ, fixes => by
    obtain ⟨low, name⟩ := Bool.and_eq_true_iff.mp frozen
    rw [Value.rename, fixes .tag t ⟨rfl, of_decide_eq_true low⟩, frozenWithin name fixes]

theorem allFrozenWithin : ∀ {vs : List Value}, Value.allFrozen n vs = true → ∀ {ρ : Renaming},
    Fixes (Pairing.first n).domain ρ → Value.renameAll ρ vs = vs
  | [], _, _, _ => rfl
  | v :: vs, frozen, ρ, fixes => by
    obtain ⟨first, rest⟩ := Bool.and_eq_true_iff.mp frozen
    rw [Value.renameAll, frozenWithin first fixes, allFrozenWithin rest fixes]

end

theorem frozenAlike {v : Value} (frozen : v.frozen n = true) (le : Pairing.first n ≤ P) :
    Alike P v v :=
  Alike.mono ⟨(Renames.one v).symm, fun _ fixes => frozenWithin frozen fixes⟩ le

theorem firstTwin {w w' : World} (known : n ≤ w.tags) (known' : n ≤ w'.tags)
    (bare : w.attachments = []) (bare' : w'.attachments = []) (reach : w'.reach = w.reach) :
    Twin (Pairing.first n) w w' := by
  refine ⟨?_, bare, bare', reach⟩
  rintro _ t ⟨rfl, low⟩
  exact ⟨(), (), List.getElem?_replicate_of_lt (Nat.lt_of_lt_of_le low known),
    List.getElem?_replicate_of_lt (Nat.lt_of_lt_of_le low known'), rfl, fun _ _ => rfl⟩

theorem frozenRow {vs : List Value} (frozen : ∀ v ∈ vs, v.frozen n = true)
    (le : Pairing.first n ≤ P) : Alike P vs vs := by
  induction vs with
  | nil => exact alikeNil
  | cons v vs ih =>
    exact alikeCons (frozenAlike (frozen v List.mem_cons_self) le)
      (ih fun x there => frozen x (List.mem_cons_of_mem _ there))

theorem frozenNamed {t : List (String × Value)} (frozen : ∀ e ∈ t, e.2.frozen n = true)
    (le : Pairing.first n ≤ P) : Alike P t t := by
  induction t with
  | nil => exact alikeNil
  | cons e t ih =>
    exact alikeCons (alikePair (alikeStill e.1) (frozenAlike (frozen e List.mem_cons_self) le))
      (ih fun x there => frozen x (List.mem_cons_of_mem _ there))

theorem firstOut {t : Store} {r : Nat} (store : t ≠ .tag) :
    ¬(Pairing.first n).domain t r ∧ ¬(Pairing.first n).image t r :=
  ⟨fun there => store there.1, fun ⟨_, there, _⟩ => store there.1⟩

end

structure Aside (P : Pairing) (w w' : World) (s : Store) (r : Nat) : Prop where
  known : r < w.count s
  known' : r < w'.count s
  out : ¬P.domain s r
  out' : ¬P.image s r
  same : (w'.cells s)[r]? = (w.cells s)[r]?

inductive Offered (P : Pairing) (w w' : World) : Value → Prop where
  | alike {v} (same : Alike P v v) : Offered P w w' v
  | row {r} (aside : Aside P w w' .list r) (one : allOneKind (w.list r) = true)
      (parts : Alike P (w.list r) (w.list r)) : Offered P w w' (.list r)

structure Offers (P : Pairing) (w w' : World) (d : Nat) : Prop where
  aside : Aside P w w' .dictionary d
  keys : ∀ e ∈ w.dictionary d, Alike P e.1 e.1
  values : ∀ e ∈ w.dictionary d, Offered P w w' e.2

def World.offerable (u w : World) : Value → Bool
  | .list r => r < u.lists.length && allOneKind (w.list r) && (w.list r).all (·.frozen u.tags)
  | v => v.frozen u.tags

def World.admits (u w : World) (d : Nat) : Bool :=
  d < u.dictionaries.length &&
    (w.dictionary d).all fun e => e.1.frozen u.tags && u.offerable w e.2

theorem offersAdmitted {P : Pairing} {u w w' : World} {d : Nat} (admits : u.admits w d = true)
    (first : Pairing.first u.tags ≤ P)
    (aside : ∀ t r, t ≠ .tag → r < u.count t → Aside P w w' t r) : Offers P w w' d := by
  obtain ⟨low, entries⟩ := Bool.and_eq_true_iff.mp admits
  have entry (e : Value × Value) (there : e ∈ w.dictionary d) :=
    Bool.and_eq_true_iff.mp (List.all_eq_true.mp entries e there)
  refine ⟨aside .dictionary d (by decide) (of_decide_eq_true low), fun e there => ?_,
    fun e there => ?_⟩
  · exact frozenAlike (entry e there).1 first
  · obtain ⟨k, v⟩ := e
    have offered : u.offerable w v = true := (entry (k, v) there).2
    cases v with
    | list r =>
      obtain ⟨row, parts⟩ := Bool.and_eq_true_iff.mp offered
      obtain ⟨low, one⟩ := Bool.and_eq_true_iff.mp row
      exact .row (aside .list r (by decide) (of_decide_eq_true low)) one
        (frozenRow (List.all_eq_true.mp parts) first)
    | _ => exact .alike (frozenAlike offered first)

section
variable {P Q : Pairing} {u u' w w' : World} {r d : Nat} {k k' v : Value} {m m' : ParameterMap}

theorem Aside.list (aside : Aside P u u' .list r) (bond : Onward P u u' Q w w') :
    w.list r = u.list r ∧ w'.list r = u.list r := by
  have left := (bond.left.kept .list r aside.known aside.out).2
  have right := ((bond.right.kept .list r aside.known' aside.out').2).trans aside.same
  exact ⟨congrArg (fun o : Option (List Value) => o.getD default) left,
    congrArg (fun o : Option (List Value) => o.getD default) right⟩

theorem Aside.dictionary (aside : Aside P u u' .dictionary d) (bond : Onward P u u' Q w w') :
    w.dictionary d = u.dictionary d ∧ w'.dictionary d = u.dictionary d := by
  have left := (bond.left.kept .dictionary d aside.known aside.out).2
  have right := ((bond.right.kept .dictionary d aside.known' aside.out').2).trans aside.same
  exact ⟨congrArg (fun o : Option Entries => o.getD default) left,
    congrArg (fun o : Option Entries => o.getD default) right⟩

namespace Mirrors

theorem acceptOffered (offered : Offered P u u' v) (le : P ≤ Q) (name : Alike Q k k') :
    Mirrors (Onward P u u') Q (ParameterMap.accept k v) (ParameterMap.accept k' v) := by
  cases offered with
  | alike same => exact .accept name (same.mono le)
  | row aside one parts =>
    refine .world fun w w' twin bond => ?_
    obtain ⟨read, read'⟩ := aside.list bond
    rw [read, read', if_pos one, if_pos one]
    exact Mirrors.newTuple (parts.mono le) w w' twin bond

theorem putOffered (offered : Offered P u u' v) (le : P ≤ Q) (alike : Alike Q m m')
    (name : Alike Q k k') :
    Mirrors (Onward P u u') Q (m.put k v) (m'.put k' v) := by
  refine .bind (.acceptOffered offered le name) fun S more x x' same => ?_
  refine .bind (.requireHashable (name.mono more)) fun T last _ _ _ => ?_
  have all := more.trans last
  exact .keep (alike.mono all) fun _ _ held => held.insert (name.mono all) (same.mono last)

theorem forOffered {R : Bond} {f f' : Value → Value → Action Unit} (es : Entries)
    (each : ∀ S, Q ≤ S → ∀ e ∈ es, Mirrors R S (f e.1 e.2) (f' e.1 e.2)) :
    Mirrors R Q (Value.forPairs f es) (Value.forPairs f' es) := by
  induction es generalizing Q with
  | nil => exact .pure (alikeStill ())
  | cons e es ih =>
    refine .bind (each Q le_rfl e List.mem_cons_self) fun S le _ _ _ => ?_
    exact ih fun T more e there => each T (le.trans more) e (List.mem_cons_of_mem _ there)

theorem itemsOffered {f f' : Value → Value → Action Unit} (offers : Offers P u u' d)
    (each : ∀ S, Q ≤ S → ∀ k v, Alike S k k → Offered P u u' v →
      Mirrors (Onward P u u') S (f k v) (f' k v)) (le : P ≤ Q) :
    Mirrors (Onward P u u') Q ((Value.dictionary d).forItems f)
      ((Value.dictionary d).forItems f') := by
  refine .world fun w w' twin bond => ?_
  rw [twin.unhidden, twin.unhidden']
  have fills : Mirrors (Onward P u u') Q
      (Value.forYield f ⟨u.dictionary d, none⟩) (Value.forYield f' ⟨u.dictionary d, none⟩) :=
    .bind (.forOffered _ fun S more e there => each S more e.1 e.2
      ((offers.keys e there).mono (le.trans more)) (offers.values e there))
      fun _ _ _ _ _ => .pure (alikeStill ())
  have told : Mirrors (Onward P u u') Q
      (Action.entriesAs "items" (.dictionary d) >>= fun y => Value.forYield f y)
      (Action.entriesAs "items" (.dictionary d) >>= fun y => Value.forYield f' y) := by
    intro w w' twin bond
    obtain ⟨read, read'⟩ := offers.aside.dictionary bond
    have done := fills w w' twin bond
    show Agrees _ Q (Value.forYield f ⟨w.dictionary d, none⟩ w)
      (Value.forYield f' ⟨w'.dictionary d, none⟩ w')
    rw [read, read']
    exact done
  exact told w w' twin bond

theorem truthOffered (offers : Offers P u u' d) :
    Mirrors (Onward P u u') Q (Action.truthy (.dictionary d)) (Action.truthy (.dictionary d)) := by
  refine .world fun w w' twin bond => ?_
  obtain ⟨read, read'⟩ := offers.aside.dictionary bond
  have truth (x : World) :
      x.truthy (.dictionary d) = .ok ((x.dictionary d).keys.length != 0) := rfl
  rw [truth, truth, read, read']
  exact Mirrors.pure (alikeStill _) w w' twin bond

theorem parametersOffered (offers : Offers P u u' d) (le : P ≤ Q) :
    Mirrors (Onward P u u') Q (Context.parametersOf (.dictionary d))
      (Context.parametersOf (.dictionary d)) := by
  have fills {S : Pairing} (more : Q ≤ S) {m m' : ParameterMap} (map : Alike S m m') :
      Mirrors (Onward P u u') S ((Value.dictionary d).forItems m.put)
        ((Value.dictionary d).forItems m'.put) :=
    .itemsOffered offers (fun T last k v key offered =>
      .putOffered offered ((le.trans more).trans last) (map.mono last) key) (le.trans more)
  refine .bind (.newParameters true alikeNil) fun S more m m' map => ?_
  refine .bind (.truthOffered offers) fun T last b b' given => ?_
  refine .ite (by rw [given.still]) (fun _ => ?_) fun _ => .pure (map.mono last)
  exact .bind (fills (more.trans last) (map.mono last)) fun U on _ _ _ =>
    .pure (map.mono (last.trans on))

theorem askOffered (offered : Offered P u u' v) (le : P ≤ Q) {q q' : Nat}
    (pairs : Q.Pairs .context q q') (name : Alike Q k k') :
    Mirrors (Onward P u u') Q (Context.askToPut q k v) (Context.askToPut q' k' v) := by
  have puts {S : Pairing} (more : Q ≤ S) {m m' : ParameterMap} (map : Alike S m m') :
      Mirrors (Onward P u u') S (m.askToPut k v) (m'.askToPut k' v) :=
    .bind (.answer (.yieldNothing (.putOffered offered (le.trans more) map (name.mono more))))
      fun _ _ _ _ _ => .pure (alikeStill ())
  have own : Mirrors (Onward P u u') Q (Context.putParameter q k v)
      (Context.putParameter q' k' v) :=
    .bind (.writableParameters pairs) fun _ more _ _ map => puts more map
  exact .bind (.answer (.yieldNothing own)) fun _ _ _ _ _ => .pure (alikeStill ())

end Mirrors

inductive Seeds (P : Pairing) (w w' : World) : String × Value → Prop where
  | alike {name : String} {x : Value} (same : Alike P x x) : Seeds P w w' (name, x)
  | parameters {q : Nat} (offers : Offers P w w' q) : Seeds P w w' ("parameters", .dictionary q)
  | map {q : Nat} (offers : Offers P w w' q) :
    Seeds P w w' ("request_parameter_map", .dictionary q)

namespace Mirrors

variable {q q' : Nat}

theorem fieldSeeded {field : String × Value} (seeds : Seeds P u u' field) (le : P ≤ Q)
    (pairs : Q.Pairs .context q q') :
    Mirrors (Onward P u u') Q (Context.seedField q field.1 field.2)
      (Context.seedField q' field.1 field.2) := by
  cases seeds with
  | alike same => exact .seedField pairs _ (same.mono le)
  | parameters offers =>
    exact .itemsOffered offers (fun S more k v key offered =>
      .askOffered offered (le.trans more) (pairs.mono more) key) le
  | map offers =>
    exact .bind (.parametersOffered offers le) fun _ more _ _ map =>
      .settle (f := fun c m => { c with parameters := m }) (pairs.mono more) (fun _ _ _ => rfl) map

theorem fieldsSeeded {fields : List (String × Value)} (seeds : ∀ e ∈ fields, Seeds P u u' e)
    (le : P ≤ Q) (pairs : Q.Pairs .context q q') :
    Mirrors (Onward P u u') Q (Context.seed q fields) (Context.seed q' fields) := by
  have all {S : Pairing} (more : Q ≤ S) : Mirrors (Onward P u u') S (Context.seedAll q fields)
      (Context.seedAll q' fields) := by
    induction fields generalizing S with
    | nil => exact .pure (alikeStill ())
    | cons field rest ih =>
      refine .bind (.fieldSeeded (seeds field List.mem_cons_self) (le.trans more)
        (pairs.mono more)) fun T last _ _ _ => ?_
      exact ih (fun e there => seeds e (List.mem_cons_of_mem _ there)) (more.trans last)
  refine .bind (.ite Iff.rfl (fun _ => .refused fun _ => rfl) fun _ => .pure (alikeStill ()))
    fun S more _ _ _ => all more

end Mirrors

end

end FlowDouble
