import FlowDouble.Proofs.Isolation.Deeds
import FlowDouble.Proofs.Isolation.Sources
/-! Two users of one world, each with contexts of their own, in any order of turns. A dictionary that lies
outside can be what contexts of both are made from, and can be rewritten at any time. Main statement:
what one of them sees is what that one sees alone. -/
namespace FlowDouble

open Script (Table)

inductive Side where
  | one
  | other
  deriving DecidableEq, Repr

namespace Side

def across : Side → Side
  | one => other
  | other => one

end Side

inductive Turn where
  | build (side : Side) (source : Option Nat) (name : String)
  | deed (side : Side) (d : Deed) (name : Option String)
  | rewriteList (r : Nat) (vs : List Value)
  | rewriteDictionary (r : Nat) (es : Entries)

structure Scene where
  world : World
  tables : Side → Table := fun _ => []

namespace Turn

def side? : Turn → Option Side
  | build side .. | deed side .. => some side
  | _ => none

def buildsFor (side : Side) : Turn → Bool
  | build s .. => s == side
  | _ => false

end Turn

def Context.madeFrom (source : Option Nat) : Action Value := do
  return .context (← Context.create (source.elim .null .dictionary))

namespace Scene

def attempt (s : Scene) (side : Side) (a : Action Value) (name : Option String) :
    Option Outcome × Scene :=
  let (out, h) := Hand.attempt ⟨s.world, s.tables side⟩ a name
  (some out, ⟨h.world, Function.update s.tables side h.table⟩)

def take (s : Scene) : Turn → Option Outcome × Scene
  | .build side source name => s.attempt side (Context.madeFrom source) (some name)
  | .deed side d name => s.attempt side (d.perform (s.tables side).lookup) name
  | .rewriteList r vs => (none, { s with world := s.world.setList r vs })
  | .rewriteDictionary r es => (none, { s with world := s.world.setDictionary r es })

def seenBy (side : Side) (s : Scene) : List Turn → List Outcome
  | [] => []
  | t :: rest =>
    let (out, s) := s.take t
    if t.side? = some side then out.toList ++ s.seenBy side rest else s.seenBy side rest

end Scene

def ownTurns (side : Side) : List Turn → List Turn
  | [] => []
  | t :: rest =>
    if t.side? = some side ∨ t.side? = none ∧ rest.any (·.buildsFor side) then
      t :: ownTurns side rest
    else ownTurns side rest

def Turn.proper (u : World) (s : Scene) : Turn → Bool
  | .build _ (some d) _ => u.admits s.world d
  | .rewriteList r _ => r < u.lists.length
  | .rewriteDictionary r _ => r < u.dictionaries.length
  | _ => true

def properTurns (u : World) (s : Scene) : List Turn → Bool
  | [] => true
  | t :: rest => t.proper u s && properTurns u (s.take t).2 rest

structure Split (u : World) (side : Side) (makes : Prop) (P Q : Pairing) (s s' : Scene) : Prop where
  twin : Twin P s.world s'.world
  self : Twin Q s.world s.world
  own : Alike P (s.tables side) (s'.tables side)
  theirs : Alike Q (s.tables side.across) (s.tables side.across)
  first : Pairing.first u.tags ≤ P
  first' : Pairing.first u.tags ≤ Q
  apart : ∀ t r, t ≠ .tag → P.domain t r → ¬Q.domain t r ∧ ¬Q.image t r
  out : ∀ t r, t ≠ .tag → r < u.count t →
    ¬P.domain t r ∧ ¬P.image t r ∧ ¬Q.domain t r ∧ ¬Q.image t r
  grown : ∀ t, u.count t ≤ s.world.count t
  grown' : ∀ t, u.count t ≤ s'.world.count t
  same : makes → ∀ t r, t ≠ .tag → r < u.count t →
    (s'.world.cells t)[r]? = (s.world.cells t)[r]?

theorem acrossApart (side : Side) : side.across ≠ side := by cases side <;> decide

namespace Split

variable {u : World} {side : Side} {makes makes' : Prop} {P P' Q Q' : Pairing} {s s' : Scene}

theorem mine (split : Split u side makes P Q s s') {h h' : Hand} (table : Alike P' h.table h'.table)
    (twin : Twin P' h.world h'.world) (bond : Onward P s.world s'.world P' h.world h'.world)
    (later : makes' → makes) :
    Split u side makes' P' Q ⟨h.world, Function.update s.tables side h.table⟩
      ⟨h'.world, Function.update s'.tables side h'.table⟩ := by
  have beyond (t : Store) (r : Nat) (store : t ≠ .tag) (inside : P'.domain t r) :
      ¬Q.domain t r ∧ ¬Q.image t r := by
    by_cases before : P.domain t r
    · exact split.apart t r store before
    · have new : ¬r < s.world.count t := fun low => (bond.left.kept t r low before).1 inside
      refine ⟨fun theirs => new (split.self.known theirs), ?_⟩
      rintro ⟨q, theirs, rfl⟩
      exact new (split.self.known' theirs)
  have changed := bond.left
  refine ⟨twin, ?_, ?_, ?_, split.first.trans bond.le, split.first', beyond, ?_, ?_, ?_, ?_⟩
  · refine split.self.elsewhere changed changed ?_ ?_ twin.bare twin.bare
    · exact fun t r store theirs mine => (split.apart t r store mine).1 theirs
    · exact fun t r store theirs mine => (split.apart t r store mine).2 theirs
  · simp only [Function.update_self]
    exact table
  · simp only [Function.update_of_ne (acrossApart side)]
    exact split.theirs
  · intro t r store low
    obtain ⟨out, out', apart⟩ := split.out t r store low
    exact ⟨(bond.left.kept t r (Nat.lt_of_lt_of_le low (split.grown t)) out).1,
      (bond.right.kept t r (Nat.lt_of_lt_of_le low (split.grown' t)) out').1, apart⟩
  · exact fun t => (split.grown t).trans (bond.left.grown t)
  · exact fun t => (split.grown' t).trans (bond.right.grown t)
  · intro goes t r store low
    obtain ⟨out, out', _⟩ := split.out t r store low
    rw [(bond.left.kept t r (Nat.lt_of_lt_of_le low (split.grown t)) out).2,
      (bond.right.kept t r (Nat.lt_of_lt_of_le low (split.grown' t)) out').2]
    exact split.same (later goes) t r store low

theorem others (split : Split u side makes P Q s s') {h : Hand} (table : Alike Q' h.table h.table)
    (twin : Twin Q' h.world h.world) (bond : Onward Q s.world s.world Q' h.world h.world)
    (later : makes' → makes) :
    Split u side makes' P Q' ⟨h.world, Function.update s.tables side.across h.table⟩ s' := by
  have known {t : Store} {r : Nat} (inside : P.domain t r) := split.twin.known inside
  refine ⟨?_, twin, ?_, ?_, split.first, split.first'.trans bond.le, ?_, ?_, ?_, split.grown', ?_⟩
  · refine split.twin.elsewhere bond.left (untouchedSelf s'.world fun _ _ => False) ?_
      (fun _ _ _ _ => not_false) twin.bare split.twin.bare'
    exact fun t r store mine => (split.apart t r store mine).1
  · simp only [Function.update_of_ne (acrossApart side).symm]
    exact split.own
  · simp only [Function.update_self]
    exact table
  · intro t r store inside
    obtain ⟨apart, apart'⟩ := split.apart t r store inside
    exact ⟨(bond.left.kept t r (known inside) apart).1, (bond.right.kept t r (known inside) apart').1⟩
  · intro t r store low
    obtain ⟨out, out', apart, apart'⟩ := split.out t r store low
    have there := Nat.lt_of_lt_of_le low (split.grown t)
    exact ⟨out, out', (bond.left.kept t r there apart).1, (bond.right.kept t r there apart').1⟩
  · exact fun t => (split.grown t).trans (bond.left.grown t)
  · intro goes t r store low
    obtain ⟨_, _, apart, _⟩ := split.out t r store low
    rw [(bond.left.kept t r (Nat.lt_of_lt_of_le low (split.grown t)) apart).2]
    exact split.same (later goes) t r store low

theorem around (split : Split u side makes P Q s s') {w w' : World} {D D' : Store → Nat → Prop}
    (left : Untouched s.world D D w) (right : Untouched s'.world D' D' w')
    (only : ∀ t r, D t r → r < u.count t) (only' : ∀ t r, D' t r → r < u.count t)
    (bare : w.attachments = []) (bare' : w'.attachments = [])
    (same : makes' → ∀ t r, t ≠ .tag → r < u.count t → (w'.cells t)[r]? = (w.cells t)[r]?) :
    Split u side makes' P Q { s with world := w } { s' with world := w' } := by
  refine ⟨?_, ?_, split.own, split.theirs, split.first, split.first', split.apart, split.out,
    fun t => (split.grown t).trans (left.grown t), fun t => (split.grown' t).trans (right.grown t),
    same⟩
  · exact split.twin.elsewhere left right
      (fun t r store mine there => (split.out t r store (only t r there)).1 mine)
      (fun t r store mine there => (split.out t r store (only' t r there)).2.1 mine) bare bare'
  · exact split.self.elsewhere left left
      (fun t r store theirs there => (split.out t r store (only t r there)).2.2.1 theirs)
      (fun t r store theirs there => (split.out t r store (only t r there)).2.2.2 theirs) bare bare

theorem lowThere {t q : Store} {r n : Nat} (low : r < u.count t) (there : q = t ∧ n = r) :
    n < u.count q := by
  obtain ⟨rfl, rfl⟩ := there
  exact low

theorem rewritten (split : Split u side makes P Q s s') {t : Store} {r : Nat} (low : r < u.count t)
    (c : Cell t) (later : makes' → makes) :
    Split u side makes' P Q { s with world := s.world.put t r c }
      { s' with world := s'.world.put t r c } := by
  let D (q : Store) (n : Nat) : Prop := q = t ∧ n = r
  have only (q : Store) (n : Nat) (there : D q n) : n < u.count q := lowThere low there
  refine split.around ((untouchedSelf _ D).put ⟨rfl, rfl⟩ c) ((untouchedSelf _ D).put ⟨rfl, rfl⟩ c)
    only only ((s.world.attachmentsPut r c).trans split.twin.bare)
    ((s'.world.attachmentsPut r c).trans split.twin.bare') fun goes q n store known => ?_
  have same := split.same (later goes) q n store known
  by_cases here : q = t
  · subst here
    rw [World.cellsPut, World.cellsPut]
    by_cases place : r = n
    · subst place
      rw [List.getElem?_set_self (Nat.lt_of_lt_of_le known (split.grown' q)),
        List.getElem?_set_self (Nat.lt_of_lt_of_le known (split.grown q))]
    · rw [List.getElem?_set_ne place, List.getElem?_set_ne place, same]
  · rw [World.cellsPutOther _ r c here, World.cellsPutOther _ r c here, same]

theorem rewrittenOnce (split : Split u side makes P Q s s') {t : Store} {r : Nat}
    (low : r < u.count t) (c : Cell t) (no : ¬makes') :
    Split u side makes' P Q { s with world := s.world.put t r c } s' := by
  let D (q : Store) (n : Nat) : Prop := q = t ∧ n = r
  have only (q : Store) (n : Nat) (there : D q n) : n < u.count q := lowThere low there
  exact split.around ((untouchedSelf _ D).put ⟨rfl, rfl⟩ c) (untouchedSelf _ fun _ _ => False)
    only (fun _ _ => False.elim) ((s.world.attachmentsPut r c).trans split.twin.bare)
    split.twin.bare' fun goes => absurd goes no

theorem offersMine (split : Split u side makes P Q s s') (goes : makes) {d : Nat}
    (admits : u.admits s.world d = true) : Offers P s.world s'.world d :=
  offersAdmitted admits split.first fun t r store low =>
    ⟨Nat.lt_of_lt_of_le low (split.grown t), Nat.lt_of_lt_of_le low (split.grown' t),
      (split.out t r store low).1, (split.out t r store low).2.1, split.same goes t r store low⟩

theorem offersTheirs (split : Split u side makes P Q s s') {d : Nat}
    (admits : u.admits s.world d = true) : Offers Q s.world s.world d :=
  offersAdmitted admits split.first' fun t r store low =>
    have there := Nat.lt_of_lt_of_le low (split.grown t)
    ⟨there, there, (split.out t r store low).2.2.1, (split.out t r store low).2.2.2, rfl⟩

theorem attemptMine (split : Split u side makes P Q s s') {a a' : Action Value}
    (mirrors : Mirrors (Onward P s.world s'.world) P a a') (name : Option String)
    (later : makes' → makes) :
    ∃ P', P ≤ P' ∧ Alike P' (s.attempt side a name).1 (s'.attempt side a' name).1 ∧
      Split u side makes' P' Q (s.attempt side a name).2 (s'.attempt side a' name).2 := by
  have handed : Handed (Onward P s.world s'.world) P ⟨s.world, s.tables side⟩
      ⟨s'.world, s'.tables side⟩ := ⟨split.twin, onwardSelf P _ _, split.own⟩
  obtain ⟨P', le, out, next⟩ := handed.attempt mirrors name
  exact ⟨P', le, alikeSome out, split.mine next.table next.twin next.bond later⟩

theorem attemptTheirs (split : Split u side makes P Q s s') {a : Action Value}
    (mirrors : Mirrors (Onward Q s.world s.world) Q a a) (name : Option String)
    (later : makes' → makes) :
    ∃ Q', Split u side makes' P Q' (s.attempt side.across a name).2 s' := by
  have handed : Handed (Onward Q s.world s.world) Q ⟨s.world, s.tables side.across⟩
      ⟨s.world, s.tables side.across⟩ := ⟨split.self, onwardSelf Q _ _, split.theirs⟩
  obtain ⟨Q', _, _, next⟩ := handed.attempt mirrors name
  exact ⟨Q', split.others next.table next.twin next.bond later⟩

end Split

theorem Mirrors.madeFrom {P : Pairing} {w w' : World} (source : Option Nat)
    (offers : ∀ d, source = some d → Offers P w w' d) :
    Mirrors (Onward P w w') P (Context.madeFrom source) (Context.madeFrom source) := by
  have made : Mirrors (Onward P w w') P
      (Context.parametersOf (source.elim .null .dictionary))
      (Context.parametersOf (source.elim .null .dictionary)) := by
    cases source with
    | none => exact .parametersOf Like.null.alike
    | some d => exact .parametersOffered (offers d rfl) le_rfl
  exact .createWith made fun _ _ _ _ pairs => .pure (Like.context pairs).alike

theorem across_of {side s : Side} (other : s ≠ side) : s = side.across := by
  cases side <;> cases s <;> first | rfl | contradiction

section
variable {side : Side} {t : Turn} {rest : List Turn} (s : Scene)

theorem seenMine (mine : t.side? = some side) :
    s.seenBy side (t :: rest) = (s.take t).1.toList ++ (s.take t).2.seenBy side rest :=
  if_pos mine

theorem seenElse (others : t.side? ≠ some side) :
    s.seenBy side (t :: rest) = (s.take t).2.seenBy side rest :=
  if_neg others

theorem ownKept (keeps : t.side? = some side ∨ t.side? = none ∧ rest.any (·.buildsFor side)) :
    ownTurns side (t :: rest) = t :: ownTurns side rest :=
  if_pos keeps

theorem ownDropped (drops : ¬(t.side? = some side ∨ t.side? = none ∧ rest.any (·.buildsFor side))) :
    ownTurns side (t :: rest) = ownTurns side rest :=
  if_neg drops

end

theorem Alike.toList {α : Type} [Renames α] {P : Pairing} {o o' : Option α} (alike : Alike P o o') :
    Alike P o.toList o'.toList := by
  obtain ⟨rfl, rfl⟩ | ⟨a, a', rfl, rfl, same⟩ := alike.option
  · exact alikeNil
  · exact alikeCons same alikeNil

namespace Split

variable {u : World} {side : Side} {makes makes' : Prop} {P Q : Pairing} {s s' : Scene} {t : Turn}

theorem takeMine (split : Split u side makes P Q s s') (fits : t.proper u s = true)
    (mine : t.side? = some side) (builds : t.buildsFor side = true → makes)
    (later : makes' → makes) :
    ∃ P', P ≤ P' ∧ Alike P' (s.take t).1 (s'.take t).1 ∧
      Split u side makes' P' Q (s.take t).2 (s'.take t).2 := by
  cases t with
  | build side' source name =>
    obtain rfl : side' = side := Option.some.inj mine
    refine split.attemptMine (.madeFrom source fun d here => ?_) (some name) later
    subst here
    exact split.offersMine (builds (beq_self_eq_true _)) fits
  | deed side' d name =>
    obtain rfl : side' = side := Option.some.inj mine
    exact split.attemptMine (.deed split.own.looks d) name later
  | rewriteList r vs => contradiction
  | rewriteDictionary r es => contradiction

theorem takeTheirs (split : Split u side makes P Q s s') (fits : t.proper u s = true)
    (theirs : t.side? = some side.across) (later : makes' → makes) :
    ∃ Q', Split u side makes' P Q' (s.take t).2 s' := by
  cases t with
  | build side' source name =>
    obtain rfl : side' = side.across := Option.some.inj theirs
    refine split.attemptTheirs (.madeFrom source fun d here => ?_) (some name) later
    subst here
    exact split.offersTheirs fits
  | deed side' d name =>
    obtain rfl : side' = side.across := Option.some.inj theirs
    exact split.attemptTheirs (.deed split.theirs.looks d) name later
  | rewriteList r vs => contradiction
  | rewriteDictionary r es => contradiction

theorem takeOutside (split : Split u side makes P Q s s') (fits : t.proper u s = true)
    (outside : t.side? = none) (later : makes' → makes) :
    Split u side makes' P Q (s.take t).2 (s'.take t).2 := by
  cases t with
  | build => contradiction
  | deed => contradiction
  | rewriteList r vs => exact split.rewritten (t := .list) (of_decide_eq_true fits) vs later
  | rewriteDictionary r es => exact split.rewritten (t := .dictionary) (of_decide_eq_true fits) es later

theorem takeUnnoticed (split : Split u side makes P Q s s') (fits : t.proper u s = true)
    (outside : t.side? = none) (no : ¬makes') : Split u side makes' P Q (s.take t).2 s' := by
  cases t with
  | build => contradiction
  | deed => contradiction
  | rewriteList r vs => exact split.rewrittenOnce (t := .list) (of_decide_eq_true fits) vs no
  | rewriteDictionary r es => exact split.rewrittenOnce (t := .dictionary) (of_decide_eq_true fits) es no

end Split

theorem runsApart {u : World} {side : Side} (turns : List Turn) {P Q : Pairing} {s s' : Scene}
    (split : Split u side (turns.any (·.buildsFor side) = true) P Q s s')
    (proper : properTurns u s turns = true) :
    ∃ P', P ≤ P' ∧ Alike P' (s.seenBy side turns) (s'.seenBy side (ownTurns side turns)) := by
  -- The split outlives every turn: where the turn is dropped alone, the right scene stands still.
  induction turns generalizing P Q s s' with
  | nil => exact ⟨P, le_rfl, alikeNil⟩
  | cons t rest ih =>
    obtain ⟨fits, others⟩ := Bool.and_eq_true_iff.mp proper
    have later (goes : rest.any (·.buildsFor side) = true) :
        (t :: rest).any (·.buildsFor side) = true := by
      rw [List.any_cons, goes, Bool.or_true]
    have builds (here : t.buildsFor side = true) : (t :: rest).any (·.buildsFor side) = true := by
      rw [List.any_cons, here, Bool.true_or]
    cases whose : t.side? with
    | some side' =>
      by_cases mine : side' = side
      · subst mine
        obtain ⟨P', le, out, next⟩ := split.takeMine fits whose builds later
        obtain ⟨P'', more, seen⟩ := ih next others
        refine ⟨P'', le.trans more, ?_⟩
        rw [ownKept (.inl whose), seenMine s whose, seenMine s' whose]
        exact (out.mono more).toList.append seen
      · have else' : t.side? ≠ some side := fun same => mine (Option.some.inj (whose.symm.trans same))
        obtain rfl := across_of mine
        obtain ⟨Q', next⟩ := split.takeTheirs fits whose later
        rw [ownDropped fun keeps => ?_, seenElse s else']
        · exact ih next others
        · rcases keeps with same | ⟨none, _⟩
          · exact else' same
          · rw [whose] at none
            contradiction
    | none =>
      have else' : t.side? ≠ some side := by
        rw [whose]
        nofun
      by_cases goes : rest.any (·.buildsFor side) = true
      · rw [ownKept (.inr ⟨whose, goes⟩), seenElse s else', seenElse s' else']
        exact ih (split.takeOutside fits whose later) others
      · rw [ownDropped fun keeps => ?_, seenElse s else']
        · exact ih (split.takeUnnoticed fits whose goes) others
        · rcases keeps with same | ⟨_, builds⟩
          · exact else' same
          · exact goes builds

/-- Contexts of two sides, made from nothing or from a dictionary that may be the same and may be
rewritten at any time: whatever is done in whatever order, what a side sees is, up to which references
stand for what, what it sees of its own turns alone. What the sides hold at first never changes. -/
theorem contextsKeepApart (u : World) (bare : u.attachments = []) (held : Side → Table)
    (frozen : ∀ side, ∀ e ∈ held side, e.2.frozen u.tags = true) (side : Side) (turns : List Turn)
    (proper : properTurns u ⟨u, held⟩ turns = true) :
    ∃ ρ : Renaming, Scene.seenBy side ⟨u, held⟩ (ownTurns side turns) =
      rename ρ (Scene.seenBy side ⟨u, held⟩ turns) := by
  have twin : Twin (Pairing.first u.tags) u u := firstTwin le_rfl le_rfl bare bare rfl
  have split : Split u side (turns.any (·.buildsFor side) = true) (Pairing.first u.tags)
      (Pairing.first u.tags) ⟨u, held⟩ ⟨u, held⟩ :=
    { twin
      self := twin
      own := frozenNamed (frozen side) le_rfl
      theirs := frozenNamed (frozen side.across) le_rfl
      first := le_rfl
      first' := le_rfl
      apart := fun t r store there => absurd there (firstOut store).1
      out := fun t r store _ => ⟨(firstOut store).1, (firstOut store).2, firstOut store⟩
      grown := fun _ => le_rfl
      grown' := fun _ => le_rfl
      same := fun _ _ _ _ _ => rfl }
  obtain ⟨P, _, seen⟩ := runsApart turns split proper
  exact ⟨P.partner, seen.renamed⟩

theorem rowOfFirstReadAfterRewriting :
    ∃ (u : World) (held : Side → Table) (turns : List Turn), properTurns u ⟨u, held⟩ turns = true ∧
      (Scene.seenBy .one ⟨u, held⟩ turns).filterMap Outcome.text? = ["['x', 'y']"] ∧
      ∃ ρ : Renaming, Scene.seenBy .one ⟨u, held⟩ (ownTurns .one turns) =
        rename ρ (Scene.seenBy .one ⟨u, held⟩ turns) := by
  let u : World := {
    lists := [[.text "x", .text "y"]]
    dictionaries := [[(.text "page", .text "1"), (.text "tags", .list 0)]]
    tags := 1 }
  let held (_ : Side) : Table := [("user", .principal 0 (.text "keith"))]
  let turns : List Turn := [
    .build .one (some 0) "ctx",
    .deed .one (.getMember (.bound "ctx") "request_parameter_map") (some "map"),
    .rewriteList 0 [],
    .build .other (some 0) "ctx",
    .deed .other (.call (.bound "ctx") "put_request_parameter" ⟨[.text "tags", .text "2"], []⟩) none,
    .deed .other (.assign (.bound "ctx") "current_user" (.bound "user")) none,
    .rewriteDictionary 0 [],
    .deed .one (.call (.bound "map") "get_array" ⟨[.text "tags"], []⟩) (some "row"),
    .deed .one (.spelled (.bound "row")) none]
  have proper : properTurns u ⟨u, held⟩ turns = true := by decide +kernel
  refine ⟨u, held, turns, proper, by decide +kernel, ?_⟩
  refine contextsKeepApart u rfl held (fun side e there => ?_) .one turns proper
  rw [List.mem_singleton.mp there]
  rfl

end FlowDouble
