import FlowDouble.Snapshot.Equal
import FlowDouble.Snapshot.Text
import FlowDouble.Proofs.Equality.Equations
import FlowDouble.Proofs.Renaming.Entries
/-! Snapshots renamed. Comparing them, ordering them and writing them out do not depend on what their
references and tags are. -/
namespace FlowDouble.Snapshot

mutual

def rename (ρ : Renaming) : Snapshot → Snapshot
  | null => null
  | bool b => bool b
  | int n => int n
  | float tag word => float (ρ .tag tag) word
  | text s => text s
  | bytes bs => bytes bs
  | list xs => list (renameAll ρ xs)
  | tuple xs => tuple (renameAll ρ xs)
  | mapping form es => mapping form (renamePairs ρ es)
  | view self form es told listed =>
    view (self.rename ρ) form (renamePairs ρ es) (told.rename ρ) (listed.rename ρ)
  | untold f => untold (Renames.rename ρ f)
  | upload n c o t => upload (n.rename ρ) (c.rename ρ) (o.rename ρ) (t.rename ρ)
  | principal n => principal (n.rename ρ)
  | context r complete members => context (ρ .context r) complete (renameNamed ρ members)
  | writer r s => writer (ρ .writer r) s
  | stream r bs => stream (ρ .stream r) bs
  | report r k message metadata debug suggestions arguments extra cause =>
    report (ρ .error r) k (message.rename ρ) (metadata.rename ρ) (renamePairs ρ debug)
      (renameAll ρ suggestions) (renameAll ρ arguments) (renameNamed ρ extra) cause
  | fault r k arguments => fault (ρ .error r) k (renameAll ρ arguments)
  | token tag => token (ρ .tag tag)
  | lock tag => lock (ρ .tag tag)
  | kind k => kind k
  | converter c => converter c
  | function r => function (ρ .function r)
  | operation k owner name => operation k (owner.rename ρ) name
  | facet tag f map parts => facet (ρ .tag tag) f (map.rename ρ) (renameAll ρ parts)
  | pending tag => pending (ρ .tag tag)

def renameAll (ρ : Renaming) : List Snapshot → List Snapshot
  | [] => []
  | x :: xs => x.rename ρ :: renameAll ρ xs

def renamePairs (ρ : Renaming) : List (Snapshot × Snapshot) → List (Snapshot × Snapshot)
  | [] => []
  | (k, v) :: es => (k.rename ρ, v.rename ρ) :: renamePairs ρ es

def renameNamed (ρ : Renaming) : List (String × Snapshot) → List (String × Snapshot)
  | [] => []
  | (n, x) :: xs => (n, x.rename ρ) :: renameNamed ρ xs

end

mutual

theorem renameOne : ∀ x : Snapshot, x.rename 1 = x
  | list xs | tuple xs => by simp [rename, renameAllOne xs]
  | mapping _ es => by simp [rename, renamePairsOne es]
  | view self _ es told listed => by
    simp [rename, self.renameOne, renamePairsOne es, told.renameOne, listed.renameOne]
  | untold f => by simp [rename, Renames.one]
  | upload n c o t => by simp [rename, n.renameOne, c.renameOne, o.renameOne, t.renameOne]
  | principal n => by simp [rename, n.renameOne]
  | context _ _ members => by simp [rename, renameNamedOne members]
  | report _ _ message metadata debug suggestions arguments extra _ => by
    simp [rename, message.renameOne, metadata.renameOne, renamePairsOne debug,
      renameAllOne suggestions, renameAllOne arguments, renameNamedOne extra]
  | fault _ _ arguments => by simp [rename, renameAllOne arguments]
  | operation _ owner _ => by simp [rename, owner.renameOne]
  | facet _ _ map parts => by simp [rename, map.renameOne, renameAllOne parts]
  | null | bool _ | int _ | float .. | text _ | bytes _ | writer .. | stream .. | token _ | lock _
  | kind _ | converter _ | function _ | pending _ => rfl

theorem renameAllOne : ∀ xs : List Snapshot, renameAll 1 xs = xs
  | [] => rfl
  | x :: xs => by simp [renameAll, x.renameOne, renameAllOne xs]

theorem renamePairsOne : ∀ es : List (Snapshot × Snapshot), renamePairs 1 es = es
  | [] => rfl
  | (k, v) :: es => by simp [renamePairs, k.renameOne, v.renameOne, renamePairsOne es]

theorem renameNamedOne : ∀ xs : List (String × Snapshot), renameNamed 1 xs = xs
  | [] => rfl
  | (_, x) :: xs => by simp [renameNamed, x.renameOne, renameNamedOne xs]

end

mutual

theorem renameMul (ρ σ : Renaming) : ∀ x : Snapshot, x.rename (ρ * σ) = (x.rename σ).rename ρ
  | list xs | tuple xs => by simp [rename, renameAllMul ρ σ xs]
  | mapping _ es => by simp [rename, renamePairsMul ρ σ es]
  | view self _ es told listed => by
    simp [rename, self.renameMul ρ σ, renamePairsMul ρ σ es, told.renameMul ρ σ,
      listed.renameMul ρ σ]
  | untold f => by simp [rename, Renames.mul]
  | upload n c o t => by
    simp [rename, n.renameMul ρ σ, c.renameMul ρ σ, o.renameMul ρ σ, t.renameMul ρ σ]
  | principal n => by simp [rename, n.renameMul ρ σ]
  | context _ _ members => by simp [rename, renameNamedMul ρ σ members]
  | report _ _ message metadata debug suggestions arguments extra _ => by
    simp [rename, message.renameMul ρ σ, metadata.renameMul ρ σ, renamePairsMul ρ σ debug,
      renameAllMul ρ σ suggestions, renameAllMul ρ σ arguments, renameNamedMul ρ σ extra]
  | fault _ _ arguments => by simp [rename, renameAllMul ρ σ arguments]
  | operation _ owner _ => by simp [rename, owner.renameMul ρ σ]
  | facet _ _ map parts => by simp [rename, map.renameMul ρ σ, renameAllMul ρ σ parts]
  | null | bool _ | int _ | float .. | text _ | bytes _ | writer .. | stream .. | token _ | lock _
  | kind _ | converter _ | function _ | pending _ => rfl

theorem renameAllMul (ρ σ : Renaming) :
    ∀ xs : List Snapshot, renameAll (ρ * σ) xs = renameAll ρ (renameAll σ xs)
  | [] => rfl
  | x :: xs => by simp [renameAll, x.renameMul ρ σ, renameAllMul ρ σ xs]

theorem renamePairsMul (ρ σ : Renaming) :
    ∀ es : List (Snapshot × Snapshot), renamePairs (ρ * σ) es = renamePairs ρ (renamePairs σ es)
  | [] => rfl
  | (k, v) :: es => by
    simp [renamePairs, k.renameMul ρ σ, v.renameMul ρ σ, renamePairsMul ρ σ es]

theorem renameNamedMul (ρ σ : Renaming) :
    ∀ xs : List (String × Snapshot), renameNamed (ρ * σ) xs = renameNamed ρ (renameNamed σ xs)
  | [] => rfl
  | (_, x) :: xs => by simp [renameNamed, x.renameMul ρ σ, renameNamedMul ρ σ xs]

end

instance : Renames Snapshot where
  rename := Snapshot.rename
  one := renameOne
  mul := renameMul

variable (ρ : Renaming)

theorem renameEach (xs : List Snapshot) : renameAll ρ xs = Renames.rename ρ xs := by
  induction xs with
  | nil => rfl
  | cons x xs ih => simp only [renameAll, ih]; rfl

theorem renameEachPair (es : List (Snapshot × Snapshot)) :
    renamePairs ρ es = Renames.rename ρ es := by
  induction es with
  | nil => rfl
  | cons e es ih => simp only [renamePairs, ih]; rfl

theorem renameEachNamed (xs : List (String × Snapshot)) :
    renameNamed ρ xs = Renames.rename ρ xs := by
  induction xs with
  | nil => rfl
  | cons x xs ih => simp only [renameNamed, ih]; rfl

theorem numberRenamed (x : Snapshot) : (x.rename ρ).number? = x.number? := by cases x <;> rfl

theorem kindOfRenamed (x : Snapshot) : (x.rename ρ).kindOf = x.kindOf := by
  cases x with
  | untold f => exact f.kindRenamed ρ
  | converter c => cases c <;> rfl
  | _ => rfl

theorem identicalRenamed (x y : Snapshot) :
    identical (x.rename ρ) (y.rename ρ) = identical x y := by
  cases x <;> cases y <;> first | rfl | simp [rename, identical, Value.sameRenamed]

theorem equalAtomsRenamed (x y : Snapshot) :
    equalAtoms (x.rename ρ) (y.rename ρ) = equalAtoms x y := by
  cases x <;> cases y <;> first | rfl | simp [rename, equalAtoms, Value.sameRenamed]

theorem toldToRenamed (asking : Form) (x : Snapshot) :
    toldTo asking (x.rename ρ) = Renames.rename ρ (toldTo asking x) := by
  cases x with
  | view self form es told listed => cases form <;> cases asking <;> rfl
  | _ => rfl

theorem entriesForRenamed (asking : Form) : ∀ x : Snapshot,
    entriesFor asking (x.rename ρ) = Renames.rename ρ (entriesFor asking x)
  | view _ form _ told listed => by
    have toldSame := told.entriesForRenamed .dictionary
    have listedSame := listed.entriesForRenamed .dictionary
    cases form <;> cases asking <;> first | exact toldSame | exact listedSame
  | mapping _ es => congrArg (fun es => some (Except.ok es)) (renameEachPair ρ es)
  | null | bool _ | int _ | float .. | text _ | bytes _ | list _ | tuple _ | untold _ | upload ..
  | principal _ | context .. | writer .. | stream .. | report .. | fault .. | token _ | lock _
  | kind _ | converter _ | function _ | operation .. | facet .. | pending _ => rfl

theorem lengthRenamed (xs : List Snapshot) : (renameAll ρ xs).length = xs.length := by
  rw [renameEach, renameLength]

theorem lengthPairsRenamed (es : List (Snapshot × Snapshot)) :
    (renamePairs ρ es).length = es.length := by
  rw [renameEachPair, renameLength]

theorem bindRenamed {α β : Type} [Renames α] [Renames β] {f g : α → Except Fault β}
    (x : Except Fault α) (same : ∀ a, g (Renames.rename ρ a) = Renames.rename ρ (f a)) :
    (Renames.rename ρ x >>= g) = Renames.rename ρ (x >>= f) := by
  cases x with
  | ok a => exact same a
  | error e => rfl

theorem anyRenamed {α : Type} [Renames α] {f g : α → Except Fault Bool} (xs : List α)
    (same : ∀ x, g (Renames.rename ρ x) = Renames.rename ρ (f x)) :
    (Renames.rename ρ xs).anyM g = Renames.rename ρ (xs.anyM f) := by
  induction xs with
  | nil => rfl
  | cons x xs ih =>
    simp only [renameCons, List.anyM_cons, same]
    refine bindRenamed ρ (f x) fun b => ?_
    cases b with
    | true => rfl
    | false => exact ih

theorem pickRenamed {α : Type} [Renames α] (b : Bool) {x y x' y' : Except Fault α}
    (yes : x' = Renames.rename ρ x) (no : y' = Renames.rename ρ y) :
    (if b then x' else y') = Renames.rename ρ (if b then x else y) := by
  cases b with
  | true => exact yes
  | false => exact no

theorem atomRenamed {x : Snapshot} (atom : x.isAtom = true) (y : Snapshot) :
    equal (x.rename ρ) (y.rename ρ) = Renames.rename ρ (equal x y) := by
  have still : (x.rename ρ).isAtom = true := by cases x <;> first | contradiction | rfl
  rw [equalOfAtom still, equalOfAtom atom]
  cases y with
  | untold f => rfl
  | _ => exact congrArg Except.ok (equalAtomsRenamed ρ x _)

theorem alikeParts (x y : Snapshot)
    (same : equal (x.rename ρ) (y.rename ρ) = Renames.rename ρ (equal x y)) :
    alike (x.rename ρ) (y.rename ρ) = Renames.rename ρ (alike x y) := by
  unfold alike
  rw [identicalRenamed, same]
  exact pickRenamed ρ _ rfl rfl

mutual

theorem equalRenamed : ∀ x y : Snapshot,
    equal (x.rename ρ) (y.rename ρ) = Renames.rename ρ (equal x y)
  | list xs, y => by
    cases y with
    | list ys =>
      simp only [rename, equal, lengthRenamed, allAlikeRenamed xs ys]
      split <;> rfl
    | _ => simp [rename, equal, equalAtoms, number?]
  | tuple xs, y => by
    cases y with
    | tuple ys => simp only [rename, equal, allAlikeRenamed xs ys]
    | _ => simp [rename, equal, equalAtoms, number?]
  | mapping form xs, y => by
    simp only [rename, equal, entriesForRenamed]
    cases entriesFor form y with
    | none => rfl
    | some ys =>
      refine bindRenamed ρ ys fun ys => ?_
      rw [lengthPairsRenamed, renameLength, allInRenamed xs ys]
      split <;> rfl
  | view self form es told listed, y => by
    simp only [rename, equalOfView, toldToRenamed]
    cases toldTo form y with
    | none => rfl
    | some y =>
      cases form with
      | attributes shared => exact told.equalRenamed y
      | _ => exact listed.equalRenamed y
  | upload n c o t, y => by
    cases y with
    | upload n' c' o' t' =>
      simp only [rename, equalOfUploads, alikeParts ρ n n' (n.equalRenamed n'),
        alikeParts ρ c c' (c.equalRenamed c'), alikeParts ρ o o' (o.equalRenamed o'),
        alikeParts ρ t t' (t.equalRenamed t')]
      refine bindRenamed ρ (alike n n') fun b => pickRenamed ρ _ rfl ?_
      refine bindRenamed ρ (alike c c') fun b => pickRenamed ρ _ rfl ?_
      exact bindRenamed ρ (alike o o') fun b => pickRenamed ρ _ rfl rfl
    | _ => simp [rename, equal, equalAtoms, number?]
  | principal n, y => by
    cases y with
    | principal n' =>
      simp only [rename, equal, identicalRenamed, n.equalRenamed n']
      exact pickRenamed ρ _ rfl rfl
    | _ => simp [rename, equal, equalAtoms, number?]
  | untold f, y => by simp only [rename, equal, renameError]
  | facet a f map xs, y => by
    cases y with
    | facet b g map' ys =>
      simp only [rename, equal, lengthRenamed, allAmongRenamed xs ys, partnerEqual]
      split
      · rfl
      · split <;> rfl
    | _ => simp [rename, equal, equalAtoms, number?]
  | null, y | bool _, y | int _, y | float .., y | text _, y | bytes _, y | context .., y
  | writer .., y | stream .., y | report .., y | fault .., y | token _, y | lock _, y | kind _, y
  | converter _, y | function _, y | operation .., y | pending _, y => atomRenamed ρ rfl y

theorem allAlikeRenamed : ∀ xs ys : List Snapshot,
    allAlike (renameAll ρ xs) (renameAll ρ ys) = Renames.rename ρ (allAlike xs ys)
  | [], ys => by cases ys <;> simp [renameAll, allAlike]
  | _ :: _, [] => by simp [renameAll, allAlike]
  | x :: xs, y :: ys => by
    simp only [renameAll, allAlikeCons, alikeParts ρ x y (x.equalRenamed y)]
    exact bindRenamed ρ (alike x y) fun b => pickRenamed ρ b (allAlikeRenamed xs ys) rfl

theorem allAmongRenamed : ∀ xs ys : List Snapshot,
    allAmong (renameAll ρ xs) (renameAll ρ ys) = Renames.rename ρ (allAmong xs ys)
  | [], ys => by simp [renameAll, allAmong]
  | x :: xs, ys => by
    simp only [renameAll, allAmongCons]
    rw [renameEach ρ ys, anyRenamed ρ ys fun y => alikeParts ρ x y (x.equalRenamed y),
      ← renameEach ρ ys]
    exact bindRenamed ρ (ys.anyM (alike x)) fun b => pickRenamed ρ b (allAmongRenamed xs ys) rfl

theorem allInRenamed : ∀ xs ys : List (Snapshot × Snapshot),
    allIn (renamePairs ρ xs) (Renames.rename ρ ys) = Renames.rename ρ (allIn xs ys)
  | [], ys => by simp [renamePairs, allIn]
  | (k, v) :: es, ys => by
    simp only [renamePairs, allInCons]
    rw [anyRenamed ρ ys fun e => ?_]
    · exact bindRenamed ρ _ fun b => pickRenamed ρ b (allInRenamed es ys) rfl
    · have key := alikeParts ρ k e.1 (k.equalRenamed e.1)
      have value := alikeParts ρ v e.2 (v.equalRenamed e.2)
      exact key ▸ bindRenamed ρ (alike k e.1) fun b => pickRenamed ρ b value rfl

end

theorem alikeRenamed (x y : Snapshot) :
    alike (x.rename ρ) (y.rename ρ) = Renames.rename ρ (alike x y) :=
  alikeParts ρ x y (x.equalRenamed ρ y)

def orderNumbers (x y : Snapshot) : Except Fault Bool :=
  match x.number?, y.number? with
  | some a, some b => .ok (a.less b)
  | _, _ => .error (.misuse (.unordered x.kindOf y.kindOf))

theorem orderNumbersRenamed (x y : Snapshot) :
    orderNumbers (x.rename ρ) (y.rename ρ) = Renames.rename ρ (orderNumbers x y) := by
  unfold orderNumbers
  rw [numberRenamed, numberRenamed, kindOfRenamed, kindOfRenamed]
  split <;> rfl

def isRow : Snapshot → Bool
  | text _ | bytes _ | list _ | tuple _ => true
  | _ => false

theorem lessOfOther {x : Snapshot} (other : x.isRow = false) (y : Snapshot) :
    less (x.rename ρ) (y.rename ρ) = Renames.rename ρ (less x y) := by
  have still : (x.rename ρ).isRow = false := by cases x <;> first | contradiction | rfl
  have numbers {x : Snapshot} (other : x.isRow = false) (y : Snapshot) :
      less x y = orderNumbers x y := by
    cases x <;> first | contradiction | (rw [less.eq_def]; rfl)
  rw [numbers still, numbers other, orderNumbersRenamed]

mutual

theorem lessRenamed : ∀ x y : Snapshot,
    less (x.rename ρ) (y.rename ρ) = Renames.rename ρ (less x y)
  | text a, y => by
    have numbers := orderNumbersRenamed ρ (text a) y
    cases y with
    | text b => simp [rename, less]
    | _ =>
      simp only [rename, less]
      exact numbers
  | bytes a, y => by
    have numbers := orderNumbersRenamed ρ (bytes a) y
    cases y with
    | bytes b => simp [rename, less]
    | _ =>
      simp only [rename, less]
      exact numbers
  | list xs, y => by
    have numbers := orderNumbersRenamed ρ (list xs) y
    cases y with
    | list ys => simpa only [rename, less] using rowLessRenamed xs ys
    | _ =>
      simp only [rename, less]
      exact numbers
  | tuple xs, y => by
    have numbers := orderNumbersRenamed ρ (tuple xs) y
    cases y with
    | tuple ys => simpa only [rename, less] using rowLessRenamed xs ys
    | _ =>
      simp only [rename, less]
      exact numbers
  | null, y => lessOfOther ρ rfl y
  | bool b, y => lessOfOther ρ rfl y
  | view .., y | int _, y | float .., y | mapping .., y | untold _, y | upload .., y | principal _, y
  | context .., y | writer .., y | stream .., y | report .., y | fault .., y | token _, y
  | lock _, y | kind _, y | converter _, y | function _, y | operation .., y | facet .., y
  | pending _, y => lessOfOther ρ rfl y

theorem rowLessRenamed : ∀ xs ys : List Snapshot,
    rowLess (renameAll ρ xs) (renameAll ρ ys) = Renames.rename ρ (rowLess xs ys)
  | xs, [] => by cases xs <;> simp [renameAll, rowLess]
  | [], _ :: _ => by simp [renameAll, rowLess]
  | x :: xs, y :: ys => by
    simp only [renameAll, rowLess, alikeRenamed]
    exact bindRenamed ρ (alike x y) fun b =>
      pickRenamed ρ b (rowLessRenamed xs ys) (x.lessRenamed y)

end

theorem bindStill {α β : Type} [Renames α] [Still α] [Renames β] {f g : α → Except Fault β}
    (x : Except Fault α) (same : ∀ a, g a = Renames.rename ρ (f a)) :
    (Renames.rename ρ x >>= g) = Renames.rename ρ (x >>= f) :=
  bindRenamed ρ x fun a => by rw [renameStill, same]

theorem pureStill {α : Type} [Renames α] [Still α] (a : α) :
    (pure a : Except Fault α) = Renames.rename ρ (pure a) :=
  congrArg Except.ok (renameStill a).symm

theorem noItemsRenamed (x : Snapshot) : (x.rename ρ).noItems = Renames.rename ρ x.noItems := by
  have kind := x.kindOfRenamed ρ
  cases x with
  | kind k =>
    exact (congrArg Fault.misuse (Misuse.ofKindRenamed ρ k "items")).symm
  | _ => exact congrArg (fun k => Fault.misuse (.lacks k "items")) kind

def listsNothing : Snapshot → Bool
  | mapping .. | view .. | untold _ => false
  | _ => true

theorem nothingListed {x : Snapshot} (none : x.listsNothing = true) :
    writeListed (x.rename ρ) = Renames.rename ρ (writeListed x) := by
  have still : (x.rename ρ).listsNothing = true := by cases x <;> first | contradiction | rfl
  have fails {x : Snapshot} (none : x.listsNothing = true) : writeListed x = .error x.noItems := by
    cases x <;> first | contradiction | rw [writeListed.eq_def]
  rw [fails still, fails none, noItemsRenamed]
  rfl

theorem writePresentCons (k : Snapshot) {v : Snapshot} (es : List (Snapshot × Snapshot))
    (present : v ≠ null) : writePresent ((k, v) :: es) = (do
      let k ← k.write .display
      let v ← v.write .display
      return (k, v) :: (← writePresent es)) := by
  cases v <;> first | contradiction | rw [writePresent.eq_def]

mutual

theorem writeRenamed : ∀ (m : Manner) (x : Snapshot),
    write m (x.rename ρ) = Renames.rename ρ (write m x)
  | m, list xs | m, tuple xs => by
    cases m <;>
    · simp only [rename, write, writeAllRenamed .spelling xs]
      exact bindStill ρ _ fun _ => rfl
  | m, mapping form es => by
    cases m <;>
    · simp only [rename, write, writeEntriesRenamed es]
      exact bindStill ρ _ fun _ => rfl
  | m, view self form es told listed => by
    cases form with
    | attributes shared =>
      cases m <;>
      · simp only [rename, write, writeRenamed .display told]
        exact bindStill ρ _ fun _ => rfl
    | _ =>
      cases m <;>
      · simp only [rename, write, writeEntriesRenamed es]
        exact bindStill ρ _ fun _ => rfl
  | m, untold f => by cases m <;> simp only [rename, write, renameError]
  | m, upload n c o t => by
    cases m <;>
    · simp only [rename, write, writeRenamed .spelling n, writeRenamed .spelling c,
        writeRenamed .spelling o, writeRenamed .spelling t]
      refine bindStill ρ _ fun _ => bindStill ρ _ fun _ => ?_
      exact bindStill ρ _ fun _ => bindStill ρ _ fun _ => rfl
  | .display, principal n => by
    have kind := n.kindOfRenamed ρ
    cases n with
    | text s => simp only [rename, write, renameOk, renameStill]
    | _ =>
      simp only [rename, write]
      exact congrArg (fun k => (.error (.misuse (.nameless k)) : Spelled)) kind
  | .spelling, principal n => by
    simp only [rename, write, writeRenamed .spelling n]
    exact bindStill ρ _ fun _ => rfl
  | m, context r complete members => by
    cases m <;>
    · simp only [rename, write, writeMemberRenamed .spelling "context_path" members,
        writeMemberRenamed .display "redirect_requested" members]
      exact bindStill ρ _ fun _ => bindStill ρ _ fun _ => rfl
  | .display, report _ k message metadata debug suggestions arguments extra _ => by
    simp only [rename, write, writeRenamed .display message, writeListedRenamed metadata,
      writePairsRenamed debug, writeAllRenamed .display suggestions]
    refine bindStill ρ _ fun _ => bindStill ρ _ fun _ => ?_
    exact bindStill ρ _ fun _ => bindStill ρ _ fun _ => rfl
  | .spelling, report _ k _ _ _ _ arguments _ _ => by
    simp only [rename, write, writeAllRenamed .spelling arguments]
    exact bindStill ρ _ fun _ => rfl
  | .spelling, fault _ k arguments => by
    simp only [rename, write, writeAllRenamed .spelling arguments]
    exact bindStill ρ _ fun _ => rfl
  | .display, fault _ k [] => by simp only [rename, renameAll, write, renameOk, renameStill]
  | .display, fault _ k [x] => by
    by_cases missing : k = .missingKey
    · subst missing
      simpa only [rename, renameAll, write] using writeRenamed .spelling x
    · simpa only [rename, renameAll, write] using writeRenamed .display x
  | .display, fault _ k (x :: y :: xs) => by
    have all := writeAllRenamed .spelling (x :: y :: xs)
    simp only [renameAll] at all
    simp only [rename, renameAll, write, all]
    exact bindStill ρ _ fun _ => rfl
  | m, facet _ f map _ => by
    cases m <;>
    · simp only [rename, write, writeRenamed .spelling map]
      exact bindStill ρ _ fun _ => rfl
  | m, converter c => by cases m <;> cases c <;> simp only [rename, write, renameOk, renameStill]
  | m, null | m, bool _ | m, int _ | m, float .. | m, text _ | m, bytes _ | m, writer ..
  | m, stream .. | m, token _ | m, lock _ | m, kind _ | m, function _ | m, operation ..
  | m, pending _ => by cases m <;> simp only [rename, write, renameOk, renameStill]

theorem writeAllRenamed (m : Manner) : ∀ xs : List Snapshot,
    writeAll m (renameAll ρ xs) = Renames.rename ρ (writeAll m xs)
  | [] => by simp [renameAll, writeAll]
  | x :: xs => by
    simp only [renameAll, writeAll, writeRenamed m x, writeAllRenamed m xs]
    exact bindStill ρ _ fun _ => bindStill ρ _ fun _ => pureStill ρ _

theorem writeEntriesRenamed : ∀ es : List (Snapshot × Snapshot),
    writeEntries (renamePairs ρ es) = Renames.rename ρ (writeEntries es)
  | [] => by simp [renamePairs, writeEntries]
  | (k, v) :: es => by
    simp only [renamePairs, writeEntries, writeRenamed .spelling k, writeRenamed .spelling v,
      writeEntriesRenamed es]
    exact bindStill ρ _ fun _ => bindStill ρ _ fun _ => bindStill ρ _ fun _ => pureStill ρ _

theorem writePairsRenamed : ∀ es : List (Snapshot × Snapshot),
    writePairs (renamePairs ρ es) = Renames.rename ρ (writePairs es)
  | [] => by simp [renamePairs, writePairs]
  | (k, v) :: es => by
    simp only [renamePairs, writePairs, writeRenamed .display k, writeRenamed .display v,
      writePairsRenamed es]
    exact bindStill ρ _ fun _ => bindStill ρ _ fun _ => bindStill ρ _ fun _ => pureStill ρ _

theorem writeListedRenamed : ∀ x : Snapshot,
    writeListed (x.rename ρ) = Renames.rename ρ (writeListed x)
  | mapping _ es => by simpa only [rename, writeListed] using writePresentRenamed es
  | view _ _ _ _ listed => by simpa only [rename, writeListed] using writeListedRenamed listed
  | untold f => by simp only [rename, writeListed, renameError]
  | null | bool _ | int _ | float .. | text _ | bytes _ | list _ | tuple _ | upload ..
  | principal _ | context .. | writer .. | stream .. | report .. | fault .. | token _ | lock _
  | kind _ | converter _ | function _ | operation .. | facet .. | pending _ =>
    nothingListed ρ rfl

theorem writePresentRenamed : ∀ es : List (Snapshot × Snapshot),
    writePresent (renamePairs ρ es) = Renames.rename ρ (writePresent es)
  | [] => by simp [renamePairs, writePresent]
  | (k, v) :: es => by
    by_cases absent : v = null
    · subst absent
      simpa only [renamePairs, rename, writePresent] using writePresentRenamed es
    · have present : v.rename ρ ≠ null := by cases v <;> first | contradiction | exact nofun
      rw [renamePairs, writePresentCons _ _ present, writePresentCons _ _ absent,
        writeRenamed .display k, writeRenamed .display v, writePresentRenamed es]
      exact bindStill ρ _ fun _ => bindStill ρ _ fun _ => bindStill ρ _ fun _ => pureStill ρ _

theorem writeMemberRenamed (m : Manner) (name : String) : ∀ xs : List (String × Snapshot),
    writeMember m name (renameNamed ρ xs) = Renames.rename ρ (writeMember m name xs)
  | [] => by simp only [renameNamed, writeMember, renameOk, renameStill]
  | (n, x) :: xs => by
    simp only [renameNamed, writeMember]
    split
    · exact writeRenamed m x
    · exact writeMemberRenamed m name xs

end

end FlowDouble.Snapshot
