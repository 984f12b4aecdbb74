import FlowDouble.Proofs.Isolation.Deeds
import FlowDouble.Proofs.Isolation.Sources
/-! Calls of a decorated handler, one after the other or one within another, with anything done in
between to all that the handlers were handed. Main statement: a call without a context of its own is
handed one that nobody can tell from that of the very first call. -/
namespace FlowDouble

namespace Decorated

def inject (fields : List (String × Value)) (placed : List Value) : Action Value := do
  return (← prepare fields placed).headD .null

def comesWithContext : List Value → Bool
  | .context _ :: _ => true
  | _ => false

inductive Happening where
  | handOver (placed : List Literal) (name : String)
  | deed (d : Deed) (name : Option String)
  | sample (h : Handler) (call : LiteralCall) (name : Option String)

def Happening.action (fields : List (String × Value)) (look : String → Option Value) :
    Happening → Action Value
  | handOver placed _ => do inject fields (← Literal.buildAll look placed)
  | deed d _ => d.perform look
  | sample h call _ => do Decorated.invoke ⟨h, [fields]⟩ (← call.build look)

def Happening.name? : Happening → Option String
  | handOver _ name => some name
  | deed _ name | sample _ _ name => name

def afterAll (fields : List (String × Value)) (h : Hand) : List Happening → Hand
  | [] => h
  | e :: rest => afterAll fields (h.attempt (e.action fields h.table.lookup) e.name?).2 rest

def seenIn (h : Hand) (fields : List (String × Value)) (placed : List Value) (name : String)
    (deeds : List (Deed × Option String)) : List Outcome :=
  let (out, h) := h.attempt (inject fields placed) (some name)
  out :: (h.attemptAll deeds).1

def isSettled (u : World) : String × Value → Bool
  | (name, .dictionary d) =>
    (name == "parameters" || name == "request_parameter_map") && u.admits u d
  | (_, v) => v.frozen u.tags

end Decorated

section
variable {P Q : Pairing} {u v w w' : World} {fields : List (String × Value)}

theorem admitsKept {d : Nat} (admits : u.admits v d = true)
    (same : ∀ t r, t ≠ .tag → r < u.count t → (w.cells t)[r]? = (v.cells t)[r]?) :
    u.admits w d = true := by
  obtain ⟨low, entries⟩ := Bool.and_eq_true_iff.mp admits
  have read : w.dictionary d = v.dictionary d :=
    congrArg (fun o : Option Entries => o.getD default)
      (same .dictionary d (by decide) (of_decide_eq_true low))
  refine Bool.and_eq_true_iff.mpr ⟨low, ?_⟩
  rw [read]
  refine List.all_eq_true.mpr fun e there => ?_
  obtain ⟨key, offered⟩ := Bool.and_eq_true_iff.mp (List.all_eq_true.mp entries e there)
  refine Bool.and_eq_true_iff.mpr ⟨key, ?_⟩
  cases row : e.2 with
  | list r =>
    rw [row] at offered
    obtain ⟨known, _⟩ := Bool.and_eq_true_iff.mp offered
    obtain ⟨known, _⟩ := Bool.and_eq_true_iff.mp known
    have parts : w.list r = v.list r := congrArg (fun o : Option (List Value) => o.getD default)
      (same .list r (by decide) (of_decide_eq_true known))
    show (_ && allOneKind (w.list r) && (w.list r).all _) = true
    rw [parts]
    exact offered
  | _ =>
    rw [row] at offered
    exact offered

theorem settledSeeds {field : String × Value} (settled : Decorated.isSettled u field = true)
    (first : Pairing.first u.tags ≤ P)
    (aside : ∀ t r, t ≠ .tag → r < u.count t → Aside P w w' t r)
    (same : ∀ t r, t ≠ .tag → r < u.count t → (w.cells t)[r]? = (u.cells t)[r]?) :
    Seeds P w w' field := by
  obtain ⟨name, value⟩ := field
  cases value with
  | dictionary d =>
    obtain ⟨asked, admits⟩ := Bool.and_eq_true_iff.mp settled
    have offers := offersAdmitted (admitsKept admits same) first aside
    rcases Bool.or_eq_true_iff.mp asked with name | name
    · obtain rfl := eq_of_beq name
      exact .parameters offers
    · obtain rfl := eq_of_beq name
      exact .map offers
  | _ => exact .alike (frozenAlike settled first)

namespace Mirrors

theorem prepared (seeds : ∀ e ∈ fields, Seeds P w w' e) (le : P ≤ Q) {vs vs' : List Value}
    (placed : Alike Q vs vs') :
    Mirrors (Onward P w w') Q (Decorated.prepare fields vs) (Decorated.prepare fields vs') :=
  .prepareWith (fun _ more _ _ pairs => .fieldsSeeded seeds (le.trans more) pairs) placed

theorem injected (seeds : ∀ e ∈ fields, Seeds P w w' e) (le : P ≤ Q) {vs vs' : List Value}
    (placed : Alike Q vs vs') :
    Mirrors (Onward P w w') Q (Decorated.inject fields vs) (Decorated.inject fields vs') := by
  refine .bind (.prepared seeds le placed) fun S more us us' ready => ?_
  obtain ⟨rfl, rfl⟩ | ⟨v, rest, v', rest', rfl, rfl, first, others⟩ := ready.list
  · exact .pure Like.null.alike
  · exact .pure first

theorem happening {look look' : String → Option Value} (seeds : ∀ e ∈ fields, Seeds P w w' e)
    (looks : Looks P look look') (e : Decorated.Happening) :
    Mirrors (Onward P w w') P (e.action fields look) (e.action fields look') := by
  cases e with
  | handOver placed name =>
    exact .bind (.buildAll placed looks) fun Q le vs vs' parts => .injected seeds le parts
  | deed d name => exact .deed looks d
  | sample h call name =>
    refine .bind (.buildCall looks call) fun Q le a a' args => ?_
    have placed := args.map (f := Arguments.placed) fun _ _ => rfl
    have named := args.map (f := Arguments.named) fun _ _ => rfl
    have ready : Mirrors (Onward P w w') Q (Decorated.prepareAll [fields] a.placed)
        (Decorated.prepareAll [fields] a'.placed) :=
      .bind (.prepared seeds le placed) fun _ _ _ _ same => .pure same
    exact .bind ready fun S more vs vs' same => .handled h same (named.mono more)

end Mirrors

structure Decorated.Clear (u : World) (P : Pairing) (h : Hand) : Prop where
  twin : Twin P h.world h.world
  table : Alike P h.table h.table
  first : Pairing.first u.tags ≤ P
  grown : ∀ t, u.count t ≤ h.world.count t
  out : ∀ t r, t ≠ .tag → r < u.count t → ¬P.domain t r ∧ ¬P.image t r
  same : ∀ t r, t ≠ .tag → r < u.count t → (h.world.cells t)[r]? = (u.cells t)[r]?
  reach : h.world.reach = u.reach

namespace Decorated

variable {h : Hand}

theorem clearAtFirst (bare : u.attachments = []) {held : Script.Table}
    (frozen : ∀ e ∈ held, e.2.frozen u.tags = true) :
    Clear u (Pairing.first u.tags) ⟨u, held⟩ where
  twin := firstTwin le_rfl le_rfl bare bare rfl
  table := frozenNamed frozen le_rfl
  first := le_rfl
  grown := fun _ => le_rfl
  out := fun _ _ store _ => firstOut store
  same := fun _ _ _ _ => rfl
  reach := rfl

theorem Clear.seeds (clear : Clear u P h) (settled : ∀ e ∈ fields, isSettled u e = true) :
    ∀ e ∈ fields, Seeds P h.world h.world e := fun e there =>
  settledSeeds (settled e there) clear.first
    (fun t r store low =>
      have known := Nat.lt_of_lt_of_le low (clear.grown t)
      ⟨known, known, (clear.out t r store low).1, (clear.out t r store low).2, rfl⟩)
    clear.same

theorem Clear.step (clear : Clear u P h) (settled : ∀ e ∈ fields, isSettled u e = true)
    (e : Happening) :
    ∃ Q, Clear u Q (h.attempt (e.action fields h.table.lookup) e.name?).2 := by
  have handed : Handed (Onward P h.world h.world) P h h :=
    ⟨clear.twin, onwardSelf P _ _, clear.table⟩
  obtain ⟨Q, le, _, next⟩ :=
    handed.attempt (.happening (clear.seeds settled) handed.table.looks e) e.name?
  have kept (t : Store) (r : Nat) (store : t ≠ .tag) (low : r < u.count t) :=
    next.bond.left.kept t r (Nat.lt_of_lt_of_le low (clear.grown t)) (clear.out t r store low).1
  have kept' (t : Store) (r : Nat) (store : t ≠ .tag) (low : r < u.count t) :=
    next.bond.right.kept t r (Nat.lt_of_lt_of_le low (clear.grown t)) (clear.out t r store low).2
  exact ⟨Q,
    { twin := next.twin
      table := next.table
      first := clear.first.trans le
      grown := fun t => (clear.grown t).trans (next.bond.left.grown t)
      out := fun t r store low => ⟨(kept t r store low).1, (kept' t r store low).1⟩
      same := fun t r store low => (kept t r store low).2.trans (clear.same t r store low)
      reach := next.bond.left.reach.trans clear.reach }⟩

theorem Clear.afterAll (clear : Clear u P h) (settled : ∀ e ∈ fields, isSettled u e = true)
    (history : List Happening) : ∃ Q, Clear u Q (afterAll fields h history) := by
  induction history generalizing P h with
  | nil => exact ⟨P, clear⟩
  | cons e rest ih =>
    obtain ⟨Q, next⟩ := clear.step settled e
    exact ih next

theorem injectedFresh {placed : List Value} (fresh : comesWithContext placed = false) :
    inject fields placed = inject fields [] := by
  have front : prepare fields placed = (do
      let r ← Context.create .null
      Context.seed r fields
      return .context r :: placed) := by
    unfold prepare
    split
    · contradiction
    · rfl
  unfold inject
  rw [front]
  simp only [prepare, bind_assoc, pure_bind, List.headD_cons]

end Decorated

/-- The context of a call that comes with none, after any calls of the same handler and anything done
by them and between them: up to which references stand for what, it is the context of a very first
call, in all that is seen of it ever after. What is in hand at first never changes. -/
theorem Decorated.callsLeaveNoTrace (u : World) (bare : u.attachments = [])
    (fields : List (String × Value)) (settled : ∀ e ∈ fields, isSettled u e = true)
    (held : Script.Table) (frozen : ∀ e ∈ held, e.2.frozen u.tags = true)
    (history : List Happening) {placed placed' : List Value}
    (fresh : comesWithContext placed = false) (fresh' : comesWithContext placed' = false)
    (name : String) (deeds : List (Deed × Option String)) :
    ∃ ρ : Renaming,
      seenIn ⟨(afterAll fields ⟨u, held⟩ history).world, held⟩ fields placed' name deeds =
        rename ρ (seenIn ⟨u, held⟩ fields placed name deeds) := by
  obtain ⟨Q, clear⟩ := (clearAtFirst bare frozen).afterAll settled history
  generalize (afterAll fields ⟨u, held⟩ history) = h at clear ⊢
  let P := Pairing.first u.tags
  have counted (w : World) : w.count .tag = w.tags := List.length_replicate
  have tags : u.tags ≤ h.world.tags := counted u ▸ counted h.world ▸ clear.grown .tag
  have twin : Twin P u h.world := firstTwin le_rfl tags bare clear.twin.bare clear.reach
  have seeds (e : String × Value) (there : e ∈ fields) : Seeds P u h.world e := by
    refine settledSeeds (settled e there) le_rfl (fun t r store low => ?_) fun _ _ _ _ => rfl
    exact ⟨low, Nat.lt_of_lt_of_le low (clear.grown t), (firstOut store).1, (firstOut store).2,
      clear.same t r store low⟩
  have handed : Handed (Onward P u h.world) P ⟨u, held⟩ ⟨h.world, held⟩ :=
    ⟨twin, onwardSelf P _ _, frozenNamed frozen le_rfl⟩
  obtain ⟨S, le, out, next⟩ := handed.attempt (.injected seeds le_rfl alikeNil) (some name)
  obtain ⟨T, more, outs, _⟩ := next.attemptAll deeds
  have seen := alikeCons (out.mono more) outs
  unfold seenIn
  rw [injectedFresh fresh, injectedFresh fresh']
  exact ⟨T.partner, seen.renamed⟩

theorem Decorated.firstPageAfterPuts :
    ∃ (u : World) (fields : List (String × Value)) (history : List Happening)
      (deeds : List (Deed × Option String)),
      (∀ e ∈ fields, isSettled u e = true) ∧
      (seenIn (afterAll fields ⟨u, []⟩ history) fields [.text "v"] "new"
        [(.getMember (.bound "ctx") "external_redirect_url", none)]).filterMap Outcome.text? =
          ["/"] ∧
      (seenIn ⟨(afterAll fields ⟨u, []⟩ history).world, []⟩ fields [.text "v"] "ctx"
        deeds).filterMap Outcome.text? = ["1"] ∧
      ∃ ρ : Renaming,
        seenIn ⟨(afterAll fields ⟨u, []⟩ history).world, []⟩ fields [.text "v"] "ctx" deeds =
          rename ρ (seenIn ⟨u, []⟩ fields [] "ctx" deeds) := by
  let u : World := {
    lists := [[.text "x", .text "y"]]
    dictionaries := [[(.text "page", .text "1"), (.text "tags", .list 0)]]
    tags := 1 }
  let fields : List (String × Value) :=
    [("current_user", .principal 0 (.text "keith")), ("parameters", .dictionary 0)]
  let history : List Happening := [
    .handOver [] "ctx",
    .deed (.call (.bound "ctx") "put_request_parameter" ⟨[.text "page", .text "2"], []⟩) none,
    .deed (.call (.bound "ctx") "request_external_redirect" ⟨[.text "/"], []⟩) none,
    .sample ⟨.remember, false⟩ ⟨[.text "k", .list []], []⟩ none,
    .handOver [.bound "ctx"] "again",
    .deed (.assign (.bound "again") "locale" (.text "fr")) none,
    .sample ⟨.fail, true⟩ ⟨[], []⟩ none]
  let deeds : List (Deed × Option String) := [
    (.getMember (.bound "ctx") "request_parameter_map", some "map"),
    (.call (.bound "map") "get" ⟨[.text "page"], []⟩, none)]
  have settled : ∀ e ∈ fields, isSettled u e = true := by decide
  refine ⟨u, fields, history, deeds, settled, ?_, ?_, ?_⟩
  · decide +kernel
  · decide +kernel
  · exact callsLeaveNoTrace u rfl fields settled [] nofun history rfl rfl "ctx" deeds

end

end FlowDouble
