import Mathlib.Data.List.Forall2
import FlowDouble.Proofs.Equality.Equations
import FlowDouble.Proofs.Keys
/-! Snapshots without views, untold parts and numbers that equal nothing agree or differ, and comparing
them never fails. Agreement is an equivalence: entries whose keys all differ match in whatever order. -/
namespace FlowDouble

theorem Number.equalRefl {n : Number} (numeric : n ≠ .undefined) : n.equal n = true := by
  cases n with
  | undefined => contradiction
  | _ => simp [Number.equal, aligned]

theorem matchedBack {α β : Type} {R : α → β → Prop} {xs : List α} {ys : List β}
    (found : ∀ x ∈ xs, ∃ y ∈ ys, R x y) (apart : xs.Pairwise fun a b => ∀ y, R a y → ¬ R b y) :
    xs.length ≤ ys.length ∧ (xs.length = ys.length → ∀ y ∈ ys, ∃ x ∈ xs, R x y) := by
  induction xs generalizing ys with
  | nil =>
    refine ⟨Nat.zero_le _, fun same y mem => ?_⟩
    rw [List.eq_nil_of_length_eq_zero same.symm] at mem
    contradiction
  | cons x xs ih =>
    obtain ⟨others, apart⟩ := List.pairwise_cons.mp apart
    obtain ⟨y, mem, matched⟩ := found x List.mem_cons_self
    obtain ⟨before, after, rfl⟩ := List.append_of_mem mem
    have rest : ∀ x' ∈ xs, ∃ y' ∈ before ++ after, R x' y' := by
      intro x' inside
      obtain ⟨y', there, matched'⟩ := found x' (List.mem_cons_of_mem _ inside)
      have other : y' ≠ y := fun same => others x' inside y matched (same ▸ matched')
      refine ⟨y', ?_, matched'⟩
      simpa [other] using there
    obtain ⟨fewer, back⟩ := ih rest apart
    simp only [List.length_append, List.length_cons] at fewer ⊢
    refine ⟨by omega, fun same y' there => ?_⟩
    by_cases first : y' = y
    · exact ⟨x, List.mem_cons_self, first ▸ matched⟩
    · have inside : y' ∈ before ++ after := by simpa [first] using there
      obtain ⟨x', mem', matched'⟩ := back (by simp; omega) y' inside
      exact ⟨x', List.mem_cons_of_mem _ mem', matched'⟩

namespace Snapshot

mutual

def agrees : Snapshot → Snapshot → Bool
  | list xs, list ys => allAgree xs ys
  | tuple xs, tuple ys => allAgree xs ys
  | mapping _ xs, mapping _ ys => xs.length == ys.length && allFound xs ys
  | upload n c o t, upload n' c' o' t' => agrees n n' && agrees c c' && agrees o o' && agrees t t'
  | principal n, principal n' => agrees n n'
  | facet a .., facet b .. => a == b
  | x, y => equalAtoms x y

def allAgree : List Snapshot → List Snapshot → Bool
  | [], [] => true
  | x :: xs, y :: ys => agrees x y && allAgree xs ys
  | _, _ => false

def allFound : List (Snapshot × Snapshot) → List (Snapshot × Snapshot) → Bool
  | [], _ => true
  | (k, v) :: es, ys => (ys.any fun e => agrees k e.1 && agrees v e.2) && allFound es ys

end

attribute [local simp] agrees

inductive Regular : Snapshot → Prop where
  | atom {x} (atom : x.isAtom = true) (numeric : x.number? ≠ some .undefined) : Regular x
  | values {tag map parts} : Regular (facet tag .values map parts)
  | list {xs} (parts : ∀ x ∈ xs, Regular x) : Regular (list xs)
  | tuple {xs} (parts : ∀ x ∈ xs, Regular x) : Regular (tuple xs)
  | mapping {form es} (keys : ∀ e ∈ es, Regular e.1) (values : ∀ e ∈ es, Regular e.2)
      (apart : es.Pairwise fun e f => e.1.agrees f.1 = false) : Regular (mapping form es)
  | upload {n c o t} (name : Regular n) (content : Regular c) (originalName : Regular o)
      (contentType : Regular t) : Regular (upload n c o t)
  | principal {n} (name : Regular n) : Regular (principal n)

theorem allAgreeIff {xs ys : List Snapshot} :
    allAgree xs ys = true ↔ List.Forall₂ (fun x y => x.agrees y = true) xs ys := by
  induction xs generalizing ys with
  | nil => cases ys <;> simp [allAgree]
  | cons x xs ih => cases ys <;> simp [allAgree, ih]

theorem allFoundIff {xs ys : List (Snapshot × Snapshot)} :
    allFound xs ys = true ↔
      ∀ e ∈ xs, ∃ f ∈ ys, e.1.agrees f.1 = true ∧ e.2.agrees f.2 = true := by
  induction xs with
  | nil => simp [allFound]
  | cons e xs ih => simp [allFound, ih]

variable {x y z : Snapshot}

theorem agreesAtom (atom : x.isAtom = true) (y : Snapshot) : x.agrees y = x.equalAtoms y := by
  cases x <;> first | contradiction | rw [agrees] <;> simp

theorem equalAtomsSymm (h : x.equalAtoms y = true) : y.equalAtoms x = true := by
  cases x <;> cases y <;> try contradiction
  all_goals simp only [equalAtoms, number?] at *
  all_goals grind [Number.equalSymm, Value.sameSymm]

theorem equalAtomsTrans (h : x.equalAtoms y = true) (k : y.equalAtoms z = true) :
    x.equalAtoms z = true := by
  cases x <;> cases y <;> try contradiction
  all_goals cases z <;> try contradiction
  all_goals simp only [equalAtoms, number?] at *
  all_goals grind [Number.equalTrans, Value.sameTrans]

theorem equalAtomsIsAtom (atom : x.isAtom = true) (h : x.equalAtoms y = true) : y.isAtom = true := by
  cases x <;> cases y <;> first | rfl | contradiction

theorem equalAtomsRefl (atom : x.isAtom = true) (numeric : x.number? ≠ some .undefined) :
    x.equalAtoms x = true := by
  have number {n : Number} (same : x.number? = some n) : n.equal n = true :=
    Number.equalRefl fun undefined => numeric (undefined ▸ same)
  cases x <;> first | contradiction | exact number rfl | simp [equalAtoms, Value.sameRefl]

theorem agreesList {xs : List Snapshot} (h : (list xs).agrees y = true) :
    ∃ ys, y = list ys ∧ List.Forall₂ (fun x y => x.agrees y = true) xs ys := by
  cases y with
  | list ys => exact ⟨ys, rfl, allAgreeIff.mp (by simpa only [agrees] using h)⟩
  | _ => simp [equalAtoms, number?] at h

theorem agreesTuple {xs : List Snapshot} (h : (tuple xs).agrees y = true) :
    ∃ ys, y = tuple ys ∧ List.Forall₂ (fun x y => x.agrees y = true) xs ys := by
  cases y with
  | tuple ys => exact ⟨ys, rfl, allAgreeIff.mp (by simpa only [agrees] using h)⟩
  | _ => simp [equalAtoms, number?] at h

theorem agreesMapping {form : Form} {xs : List (Snapshot × Snapshot)}
    (h : (mapping form xs).agrees y = true) :
    ∃ form' ys, y = mapping form' ys ∧ xs.length = ys.length ∧
      ∀ e ∈ xs, ∃ f ∈ ys, e.1.agrees f.1 = true ∧ e.2.agrees f.2 = true := by
  cases y with
  | mapping form' ys =>
    simp only [agrees, Bool.and_eq_true, beq_iff_eq] at h
    exact ⟨form', ys, rfl, h.1, allFoundIff.mp h.2⟩
  | _ => simp [equalAtoms, number?] at h

theorem agreesUpload {n c o t : Snapshot} (h : (upload n c o t).agrees y = true) :
    ∃ n' c' o' t', y = upload n' c' o' t' ∧ n.agrees n' = true ∧ c.agrees c' = true ∧
      o.agrees o' = true ∧ t.agrees t' = true := by
  cases y with
  | upload n' c' o' t' =>
    simp only [agrees, Bool.and_eq_true] at h
    obtain ⟨⟨⟨hn, hc⟩, ho⟩, ht⟩ := h
    exact ⟨n', c', o', t', rfl, hn, hc, ho, ht⟩
  | _ => simp [equalAtoms, number?] at h

theorem agreesPrincipal {n : Snapshot} (h : (principal n).agrees y = true) :
    ∃ n', y = principal n' ∧ n.agrees n' = true := by
  cases y with
  | principal n' => exact ⟨n', rfl, by simpa only [agrees] using h⟩
  | _ => simp [equalAtoms, number?] at h

theorem agreesFacet {tag : Nat} {f : Facet} {map : Snapshot} {parts : List Snapshot}
    (h : (facet tag f map parts).agrees y = true) :
    ∃ g map' parts', y = facet tag g map' parts' := by
  cases y with
  | facet tag' g map' parts' =>
    simp only [agrees, beq_iff_eq] at h
    exact ⟨g, map', parts', by rw [h]⟩
  | _ => simp [equalAtoms, number?] at h

theorem agreesRefl (regular : Regular x) : x.agrees x = true := by
  induction regular with
  | atom atom numeric =>
    rw [agreesAtom atom]
    exact equalAtomsRefl atom numeric
  | values => simp
  | list _ ih | tuple _ ih =>
    simp only [agrees]
    exact allAgreeIff.mpr (List.forall₂_same.mpr ih)
  | mapping _ _ _ keys values =>
    simp only [agrees, Bool.and_eq_true, beq_self_eq_true, true_and]
    exact allFoundIff.mpr fun e mem => ⟨e, mem, keys e mem, values e mem⟩
  | upload _ _ _ _ hn hc ho ht => simp [hn, hc, ho, ht]
  | principal _ hn => simpa only [agrees] using hn

theorem agreesTrans (regular : Regular x) (h : x.agrees y = true) (k : y.agrees z = true) :
    x.agrees z = true := by
  have parts {xs ys zs : List Snapshot}
      (ih : ∀ x ∈ xs, ∀ {y z : Snapshot}, x.agrees y = true → y.agrees z = true → x.agrees z = true)
      (h : List.Forall₂ (fun x y => x.agrees y = true) xs ys)
      (k : List.Forall₂ (fun x y => x.agrees y = true) ys zs) : allAgree xs zs = true := by
    refine allAgreeIff.mpr ?_
    induction h generalizing zs with
    | nil => exact k
    | cons hx _ tails =>
      cases k with
      | cons kx ks =>
        exact .cons (ih _ List.mem_cons_self hx kx)
          (tails (fun x mem => ih x (List.mem_cons_of_mem _ mem)) ks)
  induction regular generalizing y z with
  | atom atom =>
    rw [agreesAtom atom] at h ⊢
    rw [agreesAtom (equalAtomsIsAtom atom h)] at k
    exact equalAtomsTrans h k
  | values =>
    obtain ⟨g, map', xs, rfl⟩ := agreesFacet h
    obtain ⟨g, map', xs, rfl⟩ := agreesFacet k
    simp
  | list _ ih =>
    obtain ⟨ys, rfl, hs⟩ := agreesList h
    obtain ⟨zs, rfl, ks⟩ := agreesList k
    simpa only [agrees] using parts (fun x mem => ih x mem) hs ks
  | tuple _ ih =>
    obtain ⟨ys, rfl, hs⟩ := agreesTuple h
    obtain ⟨zs, rfl, ks⟩ := agreesTuple k
    simpa only [agrees] using parts (fun x mem => ih x mem) hs ks
  | mapping _ _ _ keys values =>
    obtain ⟨_, ys, rfl, lengths, found⟩ := agreesMapping h
    obtain ⟨_, zs, rfl, lengths', found'⟩ := agreesMapping k
    simp only [agrees, Bool.and_eq_true, beq_iff_eq]
    refine ⟨lengths.trans lengths', allFoundIff.mpr fun e mem => ?_⟩
    obtain ⟨f, there, key, value⟩ := found e mem
    obtain ⟨g, there', key', value'⟩ := found' f there
    exact ⟨g, there', keys e mem key key', values e mem value value'⟩
  | upload _ _ _ _ hn hc ho ht =>
    obtain ⟨n, c, o, t, rfl, hn', hc', ho', ht'⟩ := agreesUpload h
    obtain ⟨_, _, _, _, rfl, kn, kc, ko, kt⟩ := agreesUpload k
    simp only [agrees, hn hn' kn, hc hc' kc, ho ho' ko, ht ht' kt, Bool.and_self]
  | principal _ hn =>
    obtain ⟨n, rfl, hn'⟩ := agreesPrincipal h
    obtain ⟨_, rfl, kn⟩ := agreesPrincipal k
    simpa only [agrees] using hn hn' kn

theorem agreesSymm (regular : Regular x) (h : x.agrees y = true) : y.agrees x = true := by
  have parts {xs ys : List Snapshot}
      (ih : ∀ x ∈ xs, ∀ {y : Snapshot}, x.agrees y = true → y.agrees x = true)
      (h : List.Forall₂ (fun x y => x.agrees y = true) xs ys) : allAgree ys xs = true := by
    have both := (List.forall₂_and_left xs ys).mpr ⟨fun x mem y => ih x mem (y := y), h⟩
    exact allAgreeIff.mpr (both.imp fun _ _ each => each.1 _ each.2).flip
  induction regular generalizing y with
  | atom atom =>
    rw [agreesAtom atom] at h
    rw [agreesAtom (equalAtomsIsAtom atom h)]
    exact equalAtomsSymm h
  | values =>
    obtain ⟨g, map', xs, rfl⟩ := agreesFacet h
    simp
  | list _ ih =>
    obtain ⟨ys, rfl, hs⟩ := agreesList h
    simpa only [agrees] using parts (fun x mem => ih x mem) hs
  | tuple _ ih =>
    obtain ⟨ys, rfl, hs⟩ := agreesTuple h
    simpa only [agrees] using parts (fun x mem => ih x mem) hs
  | @mapping _ xs regular _ apart keys values =>
    obtain ⟨_, ys, rfl, lengths, found⟩ := agreesMapping h
    simp only [agrees, Bool.and_eq_true, beq_iff_eq]
    refine ⟨lengths.symm, allFoundIff.mpr fun f mem => ?_⟩
    -- no two keys of the one are equal, so each entry of it has a match of its own in the other
    have once : xs.Pairwise fun e d => ∀ f : Snapshot × Snapshot,
        e.1.agrees f.1 = true ∧ e.2.agrees f.2 = true →
          ¬ (d.1.agrees f.1 = true ∧ d.2.agrees f.2 = true) := by
      refine List.Pairwise.imp_of_mem (fun {e d} he hd differ f first second => ?_) apart
      have same := agreesTrans (regular e he) first.1 (keys d hd second.1)
      rw [differ] at same
      contradiction
    obtain ⟨e, there, key, value⟩ := (matchedBack found once).2 lengths f mem
    exact ⟨e, there, keys e there key, values e there value⟩
  | upload _ _ _ _ hn hc ho ht =>
    obtain ⟨n, c, o, t, rfl, hn', hc', ho', ht'⟩ := agreesUpload h
    simp only [agrees, hn hn', hc hc', ho ho', ht ht', Bool.and_self]
  | principal _ hn =>
    obtain ⟨n, rfl, hn'⟩ := agreesPrincipal h
    simpa only [agrees] using hn hn'

theorem identicalAgrees (regular : Regular x) (same : identical x y = true) :
    x.agrees y = true := by
  cases x with
  | float tag word =>
    cases y with
    | float tag' word' =>
      simp only [identical, Bool.and_eq_true, beq_iff_eq] at same
      obtain ⟨rfl, rfl⟩ := same
      exact agreesRefl regular
    | _ => contradiction
  | view => cases regular; contradiction
  | _ => contradiction

theorem alikeAgrees (regular : Regular x) (same : x.equal y = .ok (x.agrees y)) :
    x.alike y = .ok (x.agrees y) := by
  unfold alike
  split
  · rename_i identical
    rw [identicalAgrees regular identical]
  · exact same

theorem allAlikeAgrees {xs ys : List Snapshot} (regular : ∀ x ∈ xs, Regular x)
    (same : ∀ x ∈ xs, ∀ y ∈ ys, x.equal y = .ok (x.agrees y)) :
    allAlike xs ys = .ok (allAgree xs ys) := by
  induction xs generalizing ys with
  | nil => cases ys <;> simp [allAlike, allAgree]
  | cons x xs ih =>
    cases ys with
    | nil => simp [allAlike, allAgree]
    | cons y ys =>
      have first := alikeAgrees (regular x List.mem_cons_self)
        (same x List.mem_cons_self y List.mem_cons_self)
      have rest := ih (fun x mem => regular x (List.mem_cons_of_mem _ mem)) fun x mem y there =>
        same x (List.mem_cons_of_mem _ mem) y (List.mem_cons_of_mem _ there)
      rw [allAlikeCons, first, rest, allAgree]
      cases x.agrees y <;> rfl

theorem anyFound {α : Type} {f : α → Except Fault Bool} {g : α → Bool} {ys : List α}
    (same : ∀ y ∈ ys, f y = .ok (g y)) : ys.anyM f = .ok (ys.any g) := by
  induction ys with
  | nil => rfl
  | cons y ys ih =>
    have rest := ih fun y mem => same y (List.mem_cons_of_mem _ mem)
    rw [List.anyM_cons, same y List.mem_cons_self, rest, List.any_cons]
    cases g y <;> rfl

theorem allInAgrees {xs ys : List (Snapshot × Snapshot)} (keys : ∀ e ∈ xs, Regular e.1)
    (values : ∀ e ∈ xs, Regular e.2)
    (sameKeys : ∀ e ∈ xs, ∀ f ∈ ys, e.1.equal f.1 = .ok (e.1.agrees f.1))
    (sameValues : ∀ e ∈ xs, ∀ f ∈ ys, e.2.equal f.2 = .ok (e.2.agrees f.2)) :
    allIn xs ys = .ok (allFound xs ys) := by
  induction xs with
  | nil => rw [allIn, allFound]
  | cons e xs ih =>
    obtain ⟨k, v⟩ := e
    have found : ys.anyM (fun f => do if ← alike k f.1 then alike v f.2 else return false) =
        .ok (ys.any fun f => k.agrees f.1 && v.agrees f.2) := by
      refine anyFound fun f mem => ?_
      rw [alikeAgrees (keys _ List.mem_cons_self) (sameKeys _ List.mem_cons_self f mem),
        alikeAgrees (values _ List.mem_cons_self) (sameValues _ List.mem_cons_self f mem)]
      cases k.agrees f.1 <;> rfl
    have rest := ih (fun e mem => keys e (List.mem_cons_of_mem _ mem))
      (fun e mem => values e (List.mem_cons_of_mem _ mem))
      (fun e mem => sameKeys e (List.mem_cons_of_mem _ mem))
      (fun e mem => sameValues e (List.mem_cons_of_mem _ mem))
    rw [allInCons, found, rest, allFound]
    cases ys.any fun f => k.agrees f.1 && v.agrees f.2 <;> rfl

theorem equalAgrees (regular : Regular x) (other : Regular y) :
    x.equal y = .ok (x.agrees y) := by
  induction regular generalizing y with
  | atom atom =>
    rw [equalOfAtom atom, agreesAtom atom]
    cases y <;> first | rfl | (cases other; contradiction)
  | values =>
    cases y with
    | facet tag f map parts => simp [equal]
    | untold => cases other; contradiction
    | _ => simp [equal, equalAtoms, number?]
  | @list xs parts ih =>
    cases y with
    | list ys =>
      cases other with
      | atom atom => contradiction
      | list parts' =>
        have all := allAlikeAgrees parts fun x mem y there => ih x mem (parts' y there)
        simp only [equal, agrees, all]
        split
        · rfl
        · rename_i differ
          have none : allAgree xs ys = false :=
            Bool.eq_false_iff.mpr fun same => differ (allAgreeIff.mp same).length_eq
          rw [none]
    | untold => cases other; contradiction
    | _ => simp [equal, equalAtoms, number?]
  | tuple parts ih =>
    cases y with
    | tuple ys =>
      cases other with
      | atom atom => contradiction
      | tuple parts' =>
        simp only [equal, agrees]
        exact allAlikeAgrees parts fun x mem y there => ih x mem (parts' y there)
    | untold => cases other; contradiction
    | _ => simp [equal, equalAtoms, number?]
  | @mapping form xs keys values apart keysSame valuesSame =>
    cases y with
    | mapping form' ys =>
      cases other with
      | atom atom => contradiction
      | mapping keys' values' =>
        have all := allInAgrees keys values
          (fun e mem f there => keysSame e mem (keys' f there))
          (fun e mem f there => valuesSame e mem (values' f there))
        have compared : (mapping form xs).equal (mapping form' ys) =
            if xs.length = ys.length then allIn xs ys else .ok false := by
          simp only [equal, entriesFor]
          rfl
        rw [compared, all]
        simp only [agrees]
        by_cases lengths : xs.length = ys.length <;> simp [lengths]
    | view => cases other; contradiction
    | untold => cases other; contradiction
    | _ => simp [equal, entriesFor, equalAtoms, number?]
  | @upload n c o t name content originalName contentType hn hc ho ht =>
    cases y with
    | upload n' c' o' t' =>
      cases other with
      | atom atom => contradiction
      | upload rn rc ro rt =>
        rw [equalOfUploads, alikeAgrees name (hn rn), alikeAgrees content (hc rc),
          alikeAgrees originalName (ho ro), alikeAgrees contentType (ht rt), agrees]
        cases n.agrees n' <;> cases c.agrees c' <;> cases o.agrees o' <;> rfl
    | untold => cases other; contradiction
    | _ => simp [equal, equalAtoms, number?]
  | principal n hn =>
    cases y with
    | principal n' =>
      cases other with
      | atom atom => contradiction
      | principal rn =>
        have same := alikeAgrees n (hn rn)
        unfold alike at same
        simpa only [equal, agrees] using same
    | untold => cases other; contradiction
    | _ => simp [equal, equalAtoms, number?]

end Snapshot

end FlowDouble
