import FlowDouble.Construction
import FlowDouble.Proofs.Effects
import FlowDouble.Proofs.Entries
import FlowDouble.Proofs.Reports.Telling
/-! What a failure that explains itself is made with: texts as keys and as hints, and no name noted
twice. What is noted later under a name replaces what was noted before, and keeps its place. -/
namespace FlowDouble

open FlowDouble.Action
open Snapshot (Keys)

def lastNoted (notes : List (String × Value)) (name : String) : Value :=
  (notes.reverse.lookup name).getD .null

def gathered (notes : List (String × Value)) : List (String × Value) :=
  (notes.map Prod.fst).eraseDups.map fun name => (name, lastNoted notes name)

section
variable {notes : List (String × Value)} {names : List String} {name : String} {v : Value}

theorem lastNotedSnoc (notes : List (String × Value)) (name : String) (v : Value) (other : String) :
    lastNoted (notes ++ [(name, v)]) other = if other = name then v else lastNoted notes other := by
  unfold lastNoted
  rw [List.reverse_append, List.reverse_singleton, List.singleton_append, List.lookup_cons]
  by_cases same : other = name
  · simp [same]
  · rw [if_neg same, beq_eq_false_iff_ne.mpr same]

theorem eraseDupsSnoc (names : List String) (name : String) :
    (names ++ [name]).eraseDups =
      if name ∈ names then names.eraseDups else names.eraseDups ++ [name] := by
  rw [List.eraseDups_append]
  by_cases there : name ∈ names
  · simp [List.removeAll, there]
  · simp [List.removeAll, there, List.eraseDups_cons]

theorem eraseDupsNodup (names : List String) : names.eraseDups.Nodup := by
  induction names using List.reverseRecOn with
  | nil => simp
  | append_singleton names name ih =>
    rw [eraseDupsSnoc]
    split
    · exact ih
    · rename_i fresh
      refine List.nodup_append.mpr ⟨ih, List.pairwise_singleton _ name, fun other mem last single => ?_⟩
      rw [List.mem_singleton.mp single]
      rintro rfl
      exact fresh (List.mem_eraseDups.mp mem)

theorem eraseDupsOfNodup (distinct : names.Nodup) : names.eraseDups = names := by
  induction names using List.reverseRecOn with
  | nil => rfl
  | append_singleton names name ih =>
    obtain ⟨before, _, apart⟩ := List.nodup_append.mp distinct
    have fresh : name ∉ names := fun mem => apart name mem name (List.mem_singleton_self _) rfl
    rw [eraseDupsSnoc, if_neg fresh, ih before]

theorem namesGathered (notes : List (String × Value)) :
    (gathered notes).map Prod.fst = (notes.map Prod.fst).eraseDups := by
  rw [gathered, List.map_map]
  exact List.map_id _

theorem gatheredDistinct (distinct : (notes.map Prod.fst).Nodup) : gathered notes = notes := by
  have last : ∀ n ∈ notes, lastNoted notes n.1 = n.2 := by
    induction notes using List.reverseRecOn with
    | nil => exact List.forall_mem_nil _
    | append_singleton notes m ih =>
      rw [List.map_append] at distinct
      obtain ⟨before, _, apart⟩ := List.nodup_append.mp distinct
      intro n mem
      rw [lastNotedSnoc]
      rcases List.mem_append.mp mem with old | new
      · have other : n.1 ≠ m.1 :=
          apart n.1 (List.mem_map_of_mem old) m.1 (List.mem_singleton_self _)
        rw [if_neg other]
        exact ih before n old
      · rw [List.mem_singleton.mp new]
        exact if_pos rfl
  rw [gathered, eraseDupsOfNodup distinct, List.map_map]
  refine (List.map_congr_left fun n mem => ?_).trans (List.map_id' notes)
  rw [Function.comp_apply, last n mem]

theorem gatheredSnoc (notes : List (String × Value)) (name : String) (v : Value) :
    namedEntries (gathered (notes ++ [(name, v)])) =
      (namedEntries (gathered notes)).insert (.text name) v := by
  have keys (a b : String) : (Value.text a).sameKey (.text b) = decide (a = b) := by
    rw [← beq_eq_decide]
    simp [Value.sameKey, Value.same, Value.number?]
  have distinct : (namedEntries (gathered notes)).Pairwise fun a b => a.1.sameKey b.1 = false := by
    refine List.pairwise_map.mpr ?_
    simp only [keys, decide_eq_false_iff_not]
    have names := eraseDupsNodup (notes.map Prod.fst)
    rw [← namesGathered] at names
    exact List.pairwise_map.mp names
  have absent : (namedEntries (gathered notes)).has (.text name) = false ↔
      name ∉ notes.map Prod.fst := by
    rw [← List.mem_eraseDups, ← namesGathered, Entries.has, Option.isSome_eq_false_iff,
      Option.isNone_iff_eq_none, Entries.findNone, namedEntries, List.forall_mem_map]
    simp only [keys, decide_eq_false_iff_not, List.mem_map, not_exists, not_and]
  have names := eraseDupsSnoc (notes.map Prod.fst) name
  have map : (notes ++ [(name, v)]).map Prod.fst = notes.map Prod.fst ++ [name] := List.map_append
  rw [← map] at names
  by_cases there : name ∈ notes.map Prod.fst
  · rw [Entries.insertReplaces distinct v (by simpa using mt absent.mp (not_not.mpr there))]
    unfold gathered
    rw [names, if_pos there]
    simp only [namedEntries, List.map_map]
    refine List.map_congr_left fun other _ => ?_
    simp only [Function.comp_apply, keys, lastNotedSnoc, decide_eq_true_eq]
    split <;> rfl
  · rw [Entries.insertAppends v (absent.mpr there)]
    unfold gathered
    rw [names, if_neg there, List.map_append]
    simp only [namedEntries, List.map_append, List.map_map, List.map_cons, List.map_nil, lastNotedSnoc,
      if_true]
    congr 1
    refine List.map_congr_left fun other mem => ?_
    have apart : other ≠ name := fun same => there (List.mem_eraseDups.mp (same ▸ mem))
    simp only [Function.comp_apply, if_neg apart]

end

namespace Report

def Noted (es : Entries) : Prop := ∃ notes, es = namedEntries notes ∧ (notes.map Prod.fst).Nodup

def MayNote (name : String) (es : Entries) : Prop := es = [] ∨ ∃ v, es = [(.text name, v)]

structure Worded (r : Report) : Prop where
  metadata : Keys r.metadata
  debug : Noted r.debug
  hints : ∃ hints : List String, r.suggestions = hints.map .text

theorem namedKeys (values : List (String × Value)) : Keys (namedEntries values) := by
  intro e mem
  obtain ⟨v, _, rfl⟩ := List.mem_map.mp mem
  exact ⟨v.1, rfl⟩

theorem consKeys {es : Entries} (keys : Keys es) (name : String) (v : Value) :
    Keys ((.text name, v) :: es) :=
  List.forall_mem_cons.mpr ⟨⟨name, rfl⟩, keys⟩

theorem noneNoted : Noted [] := ⟨[], rfl, .nil⟩

theorem onceNoted {name : String} {es : Entries} (noted : MayNote name es) : Noted es := by
  rcases noted with rfl | ⟨x, rfl⟩
  · exact noneNoted
  · exact ⟨[(name, x)], rfl, List.pairwise_singleton _ name⟩

theorem bothNoted {a b : String} {es fs : Entries} (first : MayNote a es) (last : MayNote b fs)
    (apart : a ≠ b) : Noted (es ++ fs) := by
  rcases last with rfl | ⟨y, rfl⟩
  · rw [List.append_nil]
    exact onceNoted first
  rcases first with rfl | ⟨x, rfl⟩
  · exact onceNoted (.inr ⟨y, rfl⟩)
  · exact ⟨[(a, x), (b, y)], rfl, List.pairwise_pair.mpr apart⟩

theorem noteOfMayNote {w : World} {name : String} {v : Value} {es : Entries}
    (noted : noteOf w name v = .ok es) : MayNote name es := by
  obtain ⟨b, _, noted⟩ := exceptBindOk.mp noted
  cases b with
  | true => exact .inr ⟨v, (Except.ok.inj noted).symm⟩
  | false => exact .inl (Except.ok.inj noted).symm

theorem expectedMayNote {w : World} {v : Value} {es : Entries} (noted : expectedNote w v = .ok es) :
    MayNote "expected_type" es := by
  cases v with
  | null => exact .inl (Except.ok.inj noted).symm
  | _ =>
    obtain ⟨name, _, noted⟩ := exceptBindOk.mp noted
    exact .inr ⟨name, (Except.ok.inj noted).symm⟩

theorem actualMayNote (v : Value) : MayNote "actual_type" (actualNote v) := by
  cases v with
  | null => exact .inl rfl
  | _ => exact .inr ⟨_, rfl⟩

end Report

theorem Kind.reportMade {k : Kind} {w : World} {f : Frame} {r : Report}
    (made : k.report? w f = some (.ok r)) : r.diagnosis.kind = k ∧ r.Worded := by
  have named := Report.namedKeys f.named
  cases k with
  | flowError | illegalState =>
    cases made
    exact ⟨rfl, named, Report.noneNoted, [], rfl⟩
  | redirectNotRequested =>
    obtain ⟨b, _, done⟩ := exceptBindOk.mp (Option.some.inj made)
    obtain rfl := Except.ok.inj done
    exact ⟨rfl, named, Report.noneNoted, [_], rfl⟩
  | responseNotAllowed =>
    cases made
    refine ⟨rfl, Report.consKeys named _ _, Report.noneNoted, ?_⟩
    unfold Report.responseNotAllowed
    dsimp only
    split
    · exact ⟨[], rfl⟩
    · exact ⟨[_], rfl⟩
  | configuration =>
    obtain ⟨es, noted, done⟩ := exceptBindOk.mp (Option.some.inj made)
    obtain rfl := Except.ok.inj done
    exact ⟨rfl, Report.consKeys named _ _, Report.onceNoted (Report.noteOfMayNote noted), [], rfl⟩
  | attributeNotFound =>
    obtain ⟨es, noted, done⟩ := exceptBindOk.mp (Option.some.inj made)
    obtain rfl := Except.ok.inj done
    exact ⟨rfl, Report.consKeys named _ _, Report.onceNoted (Report.noteOfMayNote noted), [], rfl⟩
  | attributeType =>
    obtain ⟨es, noted, done⟩ := exceptBindOk.mp (Option.some.inj made)
    obtain rfl := Except.ok.inj done
    exact ⟨rfl, Report.consKeys named _ _,
      Report.bothNoted (Report.expectedMayNote noted) (Report.actualMayNote _) (by decide), [], rfl⟩
  | _ => contradiction

structure World.Holds (w : World) (r d : Nat) (told : Report) : Prop where
  held : ∃ arguments, w.error r = .report told (.dictionary d) arguments
  metadata : w.dictionary d = told.metadata
  error : r < w.errors.length
  dictionary : d < w.dictionaries.length

theorem keptHolds (told : Report) (w : World) : ∃ w',
    keep (.report told) w = .ok (.error told.diagnosis.kind w.errors.length) w' ∧
      w'.Holds w.errors.length w.dictionaries.length told ∧ w'.reach = w.reach := by
  refine ⟨_, rfl, ⟨⟨_, Heap.readPushed _ _⟩, Heap.readPushed _ _, ?_, ?_⟩, rfl⟩
  · simp [Heap.push]
  · simp [Heap.push]

theorem Kind.madeHolds [Calls] {k : Kind} {a : Arguments} {w w' : World} {e : Value}
    (explains : k.under .flowError = true) (made : Kind.make k a w = .ok e w') :
    ∃ told : Report, e = .error k w.errors.length ∧ told.diagnosis.kind = k ∧ told.Worded ∧
      w'.Holds w.errors.length w.dictionaries.length told ∧ w'.reach = w.reach := by
  obtain ⟨s, maker⟩ : ∃ s, k.maker? = some s := by
    cases k <;> first | contradiction | exact ⟨_, rfl⟩
  have run (f : Frame) : ∃ report, k.report? w f = some report ∧
      Kind.makeFrom k f w = (do keep (.report (← ofExcept report)) : Action Value) w := by
    cases k <;> first | contradiction | exact ⟨_, rfl, rfl⟩
  unfold Kind.make at made
  rw [maker] at made
  obtain ⟨f, w₁, bound, made⟩ := bindInv made
  cases bound' : s.bind a with
  | error g =>
    rw [bound'] at bound
    contradiction
  | ok frame =>
    rw [bound'] at bound
    cases bound
    obtain ⟨report, own, run⟩ := run f
    rw [run] at made
    cases report with
    | error g => contradiction
    | ok told =>
      obtain ⟨kind, worded⟩ := Kind.reportMade own
      obtain ⟨w₂, kept, holds, reach⟩ := keptHolds told w
      have same : keep (.report told) w = .ok e w' := made
      rw [kept] at same
      cases same
      exact ⟨told, by rw [kind], kind, worded, holds, reach⟩

end FlowDouble
