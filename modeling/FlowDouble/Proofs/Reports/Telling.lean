import FlowDouble.Proofs.Renaming.Snapshots
import FlowDouble.Proofs.Reports.Sections
import FlowDouble.Report
import Mathlib.Data.List.Forall2
/-! What the text of a failure is made of: its kind, its message, its metadata as far as there is a
value, its notes and its hints, each value as a text. -/
namespace FlowDouble

open FlowDouble.Action

def World.heldText [Calls] (w : World) (n : Nat) (v : Value) : Except Fault String :=
  (v.snapshot (World.resolver (w.reach - n) w)).display

def World.Reads [Calls] (w : World) (n : Nat) (e : Value × Value) (p : String × String) : Prop :=
  e.1 = .text p.1 ∧ w.heldText n e.2 = .ok p.2

structure World.Tells [Calls] (w : World) (k : Kind) (message : Value) (metadata debug : Entries)
    (suggestions : List Value) (s : Sections) : Prop where
  kind : s.kind = k.name
  message : message = .text s.message
  context : List.Forall₂ (w.Reads 1) (metadata.filter fun e => !e.2.isNull) s.context
  debug : List.Forall₂ (w.Reads 0) debug s.debug
  suggestions : suggestions = s.suggestions.map .text

theorem exceptBindOk {α β : Type} {x : Except Fault α} {f : α → Except Fault β} {b : β} :
    x >>= f = .ok b ↔ ∃ a, x = .ok a ∧ f a = .ok b := by
  cases x with
  | error e => simp [bind, Except.bind]
  | ok a => simp [bind, Except.bind]

namespace Snapshot

variable {o : Resolver} {es : Entries} {ps : List (String × String)}

def Keys (es : Entries) : Prop := ∀ e ∈ es, ∃ s, e.1 = .text s

def Pairs (o : Resolver) (e : Value × Value) (p : String × String) : Prop :=
  e.1 = .text p.1 ∧ (e.2.snapshot o).display = .ok p.2

theorem pairWritten {e : Value × Value} {rest : Except Fault (List (String × String))}
    (key : ∃ s, e.1 = .text s) :
    (do
      let k ← (e.1.snapshot o).write .display
      let v ← (e.2.snapshot o).write .display
      return (k, v) :: (← rest) : Except Fault (List (String × String))) = .ok ps ↔
    ∃ p qs, Pairs o e p ∧ rest = .ok qs ∧ ps = p :: qs := by
  obtain ⟨s, key⟩ := key
  have shown : (e.1.snapshot o).write .display = .ok s := by
    rw [key]
    simp [Value.snapshot, write]
  rw [exceptBindOk]
  constructor
  · rintro ⟨k, same, told⟩
    obtain rfl : s = k := Except.ok.inj (shown.symm.trans same)
    obtain ⟨v, value, told⟩ := exceptBindOk.mp told
    obtain ⟨qs, others, told⟩ := exceptBindOk.mp told
    exact ⟨(s, v), qs, ⟨key, value⟩, others, (Except.ok.inj told).symm⟩
  · rintro ⟨⟨k, v⟩, qs, ⟨same, value⟩, others, rfl⟩
    obtain rfl : s = k := Value.text.inj (key.symm.trans same)
    exact ⟨s, shown, exceptBindOk.mpr ⟨v, value, exceptBindOk.mpr ⟨qs, others, rfl⟩⟩⟩

theorem pairsWritten (keys : Keys es) :
    writePairs (Entries.snapshot o es) = .ok ps ↔ List.Forall₂ (Pairs o) es ps := by
  induction es generalizing ps with
  | nil =>
    have run : writePairs (Entries.snapshot o []) = .ok [] := by simp [Entries.snapshot, writePairs]
    rw [run, List.forall₂_nil_left_iff]
    exact ⟨fun same => (Except.ok.inj same).symm, fun same => congrArg _ same.symm⟩
  | cons e es ih =>
    have rest (qs : List (String × String)) :
        writePairs (Entries.snapshot o es) = .ok qs ↔ List.Forall₂ (Pairs o) es qs :=
      ih fun x mem => keys x (List.mem_cons_of_mem _ mem)
    have run : writePairs (Entries.snapshot o (e :: es)) = _ := writePairs.eq_def _
    rw [run, List.forall₂_cons_left_iff]
    simp only [← rest]
    exact pairWritten (keys e List.mem_cons_self)

theorem nullWritten [Calls] (w : World) (n : Nat) (v : Value) :
    v.snapshot (World.resolver (n + 1) w) = null ↔ v.isNull = true := by
  have map (v : Value) : w.snapshotMap v (World.resolver n) ≠ null := by
    unfold World.snapshotMap
    split <;> exact nofun
  have error (r : Nat) : w.snapshotRaised r (World.resolver n w) ≠ null := by
    unfold World.snapshotRaised
    split <;> exact nofun
  cases v with
  | null => exact ⟨fun _ => rfl, fun _ => rfl⟩
  | attributes tag shared backing => exact ⟨fun same => absurd same (map _), nofun⟩
  | parameters m => exact ⟨fun same => absurd same (map _), nofun⟩
  | dictionary d => exact ⟨fun same => absurd same (map (.dictionary d)), nofun⟩
  | error k r => exact ⟨fun same => absurd same (error r), nofun⟩
  | _ => exact ⟨nofun, nofun⟩

theorem presentWritten (tells : ∀ v : Value, v.snapshot o = null ↔ v.isNull = true) (keys : Keys es) :
    writePresent (Entries.snapshot o es) = .ok ps ↔
      List.Forall₂ (Pairs o) (es.filter fun e => !e.2.isNull) ps := by
  induction es generalizing ps with
  | nil =>
    have run : writePresent (Entries.snapshot o []) = .ok [] := by
      simp [Entries.snapshot, writePresent]
    rw [run, List.filter_nil, List.forall₂_nil_left_iff]
    exact ⟨fun same => (Except.ok.inj same).symm, fun same => congrArg _ same.symm⟩
  | cons e es ih =>
    have rest (qs : List (String × String)) : writePresent (Entries.snapshot o es) = .ok qs ↔
        List.Forall₂ (Pairs o) (es.filter fun e => !e.2.isNull) qs :=
      ih fun x mem => keys x (List.mem_cons_of_mem _ mem)
    have cons : Entries.snapshot o (e :: es) =
        (e.1.snapshot o, e.2.snapshot o) :: Entries.snapshot o es := rfl
    by_cases none : e.2.isNull = true
    · rw [List.filter_cons_of_neg (by simpa using none), cons, (tells e.2).mpr none, writePresent]
      exact rest ps
    · have some : e.2.snapshot o ≠ null := mt (tells e.2).mp none
      rw [List.filter_cons_of_pos (by simpa using none), cons, writePresentCons _ _ some,
        List.forall₂_cons_left_iff]
      simp only [← rest]
      exact pairWritten (keys e List.mem_cons_self)

theorem textsWritten {vs : List Value} {texts : List String} (given : ∀ v ∈ vs, ∃ s, v = .text s) :
    writeAll .display (Value.snapshots o vs) = .ok texts ↔ vs = texts.map .text := by
  induction vs generalizing texts with
  | nil =>
    have run : writeAll .display (Value.snapshots o []) = .ok [] := by
      simp [Value.snapshots, writeAll]
    rw [run]
    constructor
    · intro same
      rw [← Except.ok.inj same]
      rfl
    · intro same
      rw [List.map_eq_nil_iff.mp same.symm]
  | cons v vs ih =>
    obtain ⟨s, rfl⟩ := given v List.mem_cons_self
    have rest (texts : List String) : writeAll .display (Value.snapshots o vs) = .ok texts ↔
        vs = texts.map .text := ih fun x mem => given x (List.mem_cons_of_mem _ mem)
    have shown : (Snapshot.text s).write .display = .ok s := by simp [write]
    rw [Value.snapshots, Value.snapshot, writeAll, exceptBindOk]
    constructor
    · rintro ⟨t, same, told⟩
      obtain rfl : s = t := Except.ok.inj (shown.symm.trans same)
      obtain ⟨others, later, told⟩ := exceptBindOk.mp told
      obtain rfl := Except.ok.inj told
      rw [(rest others).mp later, List.map_cons]
    · intro same
      cases texts with
      | nil => contradiction
      | cons t texts =>
        obtain ⟨first, later⟩ := List.cons.inj same
        obtain rfl := Value.text.inj first
        exact ⟨s, shown, exceptBindOk.mpr ⟨texts, (rest texts).mpr later, rfl⟩⟩

end Snapshot

section
variable [Calls] {w : World} {r d : Nat} {told : Report} {arguments : Value} {k : Kind} {text : String}

theorem failureShown (held : w.error r = .report told (.dictionary d) arguments) (deep : 1 < w.reach)
    (message : ∃ m, told.message = .text m) (metadata : Snapshot.Keys (w.dictionary d))
    (debug : Snapshot.Keys told.debug) (hints : ∀ v ∈ told.suggestions, ∃ s, v = .text s) :
    (w.snapshot (.error k r)).display = .ok text ↔
      ∃ s : Sections, text = s.render ∧ w.Tells told.diagnosis.kind told.message (w.dictionary d)
        told.debug told.suggestions s := by
  obtain ⟨n, reach⟩ : ∃ n, w.reach = n + 2 := ⟨w.reach - 2, by omega⟩
  obtain ⟨m, said⟩ := message
  have run : (w.snapshot (.error k r)).display = (do
      let message ← (told.message.snapshot (World.resolver (n + 2) w)).write .display
      let context ← Snapshot.writePresent (Entries.snapshot (World.resolver (n + 1) w) (w.dictionary d))
      let debug ← Snapshot.writePairs (Entries.snapshot (World.resolver (n + 2) w) told.debug)
      let suggestions ← Snapshot.writeAll .display
        (Value.snapshots (World.resolver (n + 2) w) told.suggestions)
      return (Sections.mk told.diagnosis.kind.name message context debug suggestions).render :
        Except Fault String) := by
    have outer : w.snapshot (.error k r) = w.snapshotRaised r (World.resolver w.reach w) := rfl
    have inner : (Value.dictionary d).snapshot (World.resolver (n + 2) w) =
        .mapping .dictionary (Entries.snapshot (World.resolver (n + 1) w) (w.dictionary d)) := rfl
    rw [outer, reach, World.snapshotRaised, held]
    simp only [World.snapshotReport, inner, Snapshot.display, Snapshot.write, Snapshot.writeListed]
  have spoken : (told.message.snapshot (World.resolver (n + 2) w)).write .display = .ok m := by
    rw [said]
    simp [Value.snapshot, Snapshot.write]
  have far : Snapshot.Pairs (World.resolver (n + 1) w) = w.Reads 1 := by
    have depth : w.reach - 1 = n + 1 := by omega
    unfold World.Reads World.heldText
    rw [depth]
    rfl
  have near : Snapshot.Pairs (World.resolver (n + 2) w) = w.Reads 0 := by
    unfold World.Reads World.heldText
    rw [Nat.sub_zero, reach]
    rfl
  have context (ps : List (String × String)) :
      Snapshot.writePresent (Entries.snapshot (World.resolver (n + 1) w) (w.dictionary d)) = .ok ps ↔
        List.Forall₂ (w.Reads 1) ((w.dictionary d).filter fun e => !e.2.isNull) ps :=
    far ▸ Snapshot.presentWritten (Snapshot.nullWritten w n) metadata
  have notes (ps : List (String × String)) :
      Snapshot.writePairs (Entries.snapshot (World.resolver (n + 2) w) told.debug) = .ok ps ↔
        List.Forall₂ (w.Reads 0) told.debug ps :=
    near ▸ Snapshot.pairsWritten debug
  rw [run]
  simp only [exceptBindOk, spoken, context, notes, Snapshot.textsWritten hints]
  constructor
  · rintro ⟨_, same, contexts, present, pairs, noted, suggestions, texts, shown⟩
    obtain rfl := Except.ok.inj same
    exact ⟨_, (Except.ok.inj shown).symm, rfl, said, present, noted, texts⟩
  · rintro ⟨s, rfl, tells⟩
    have same : m = s.message := Value.text.inj (said.symm.trans tells.message)
    refine ⟨m, rfl, s.context, tells.context, s.debug, tells.debug, s.suggestions, tells.suggestions, ?_⟩
    rw [same, ← tells.kind]
    rfl

end

theorem textHeld [Calls] (w : World) (n : Nat) (s : String) : w.heldText n (.text s) = .ok s := by
  simp [World.heldText, Value.snapshot, Snapshot.display, Snapshot.write]

end FlowDouble
