import FlowDouble.Proofs.Attributes.Mappings
import FlowDouble.Proofs.Attributes.Overlays
import FlowDouble.Proofs.Context.Recorded
/-! A union is an overlay in a dictionary of its own. -/
namespace FlowDouble

open FlowDouble.Action

section
variable {w : World} {es : Entries} {v map : Value}

theorem Heap.pushedThenWritten {α : Type} (h : Heap α) (x y : α) :
    (h.push x).write h.length y = h.push y := by
  simp [write, push]

def World.withMap (w : World) (es : Entries) : World :=
  { w with dictionaries := w.dictionaries.push es, tags := w.tags + 1 }

def World.newMap (w : World) : Value := .attributes w.tags false (.dictionary w.dictionaries.length)

theorem World.newItems : (w.withMap es).items w.newMap = ⟨es, none⟩ := by
  have pushed : (w.withMap es).dictionary w.dictionaries.length = es := Heap.readPushed _ _
  rw [itemsOver (d := w.dictionaries.length) rfl, pushed]

theorem World.Formed.withMap (formed : w.Formed) (sound : es.Sound) : (w.withMap es).Formed := by
  have pushed : Through .null w { w with dictionaries := w.dictionaries.push es } :=
    .ofNewDictionary fun _ => sound
  have tagged : Upholds { w with dictionaries := w.dictionaries.push es } (w.withMap es) :=
    .ofAside rfl rfl rfl rfl
  exact tagged.formed (pushed.formed formed)

namespace World.HasMap

theorem withMap (there : w.HasMap map) : (w.withMap es).HasMap map :=
  there.later (by simp [World.withMap, Heap.push])

theorem itemsWithMap (there : w.HasMap map) : (w.withMap es).items map = w.items map :=
  there.itemsStay (fun _ known => Heap.readKept es known) rfl

theorem apart (there : w.HasMap map) : map.root ≠ w.newMap.root := by
  rcases there with ⟨d, known, ends⟩ | ⟨m, ends⟩
  · rw [ends]
    exact fun same => Nat.ne_of_lt known (Value.dictionary.inj same)
  · rw [ends]
    exact Value.noConfusion

end World.HasMap

theorem World.newHasMap : (w.withMap es).HasMap w.newMap :=
  .inl ⟨w.dictionaries.length, by simp [withMap, Heap.push], rfl⟩

namespace Attributes

variable [Calls] {a b c : Value}

theorem toldWhole (plain : w.Plain) (there : w.HasMap v) :
    v.told w = newDictionary (w.items v).items w := by
  have copies : v.copied w = newDictionary (w.items v).items w := by
    unfold Value.copied
    rw [worldBind, if_pos (v.tellsWhole plain there.root)]
  cases v with
  | attributes tag shared backing =>
    refine (Value.answerUnhidden (plain _ "as_dict" (by decide)) _ _).trans ?_
    unfold Value.copied
    rw [worldBind, if_pos (backing.tellsWhole plain there.root)]
    rfl
  | _ => exact copies

theorem unionMakes (formed : w.Formed) (left : w.HasMap a) (right : w.HasMap b) :
    union a b w =
      .ok w.newMap (w.withMap (Entries.insertAll (w.items a).items (w.items b).items)) := by
  let copied : World := { w with dictionaries := w.dictionaries.push (w.items a).items }
  have told : a.told w = .ok (.dictionary w.dictionaries.length) copied :=
    toldWhole formed.plain left
  have plain : copied.Plain := formed.plain
  have same : copied.items b = w.items b := 
    right.itemsStay (fun _ known => Heap.readKept _ known) rfl
  have known : w.dictionaries.length < copied.dictionaries.length := by
    simp [copied, Heap.push]
  have first : copied.dictionary w.dictionaries.length = (w.items a).items :=
    Heap.readPushed _ _
  have fills := Context.setsEntries known (formed.itemsSound right.root).hashable
  have pours : putAll (.dictionary w.dictionaries.length) b copied =
      .ok () (copied.setDictionary w.dictionaries.length
        (Entries.insertAll (w.items a).items (w.items b).items)) := by
    show Value.update .dictionary (.dictionary w.dictionaries.length) b copied = _
    unfold Value.update
    rw [forEntriesMapping plain right.mapping, same]
    unfold Value.forYield finish
    rw [World.itemsWhole right.root, ← first]
    exact bindOk fills
  unfold union
  rw [bindOk told, bindOk pours]
  have written : copied.setDictionary w.dictionaries.length
      (Entries.insertAll (w.items a).items (w.items b).items) =
      { w with dictionaries :=
        w.dictionaries.push (Entries.insertAll (w.items a).items (w.items b).items) } := by
    simp only [World.setDictionary, copied, Heap.pushedThenWritten]
  rw [written]
  rfl

theorem putAllLays {d : Nat} {backing : Value} (formed : w.Formed)
    (known : d < w.dictionaries.length) (ends : backing.root = .dictionary d)
    (right : w.HasMap b) :
    ∃ w', putAll backing b w = .ok () w' ∧
      w'.dictionary d = Entries.insertAll (w.dictionary d) (w.items b).items := by
  have sound := w.soundDictionary formed.sound d
  have hashable := (formed.itemsSound right.root).hashable
  have offer : w.offered d b = ((w.items b).items, none) := by
    unfold World.offered
    rw [if_pos right.mapping]
    simp only [World.itemsWhole right.root]
    exact hashableOnlyAll hashable
  have pours := putAllPours ends formed.plain known sound b
  rw [offer] at pours
  cases done : putAll backing b w with
  | ok u w' =>
    rw [done] at pours
    refine ⟨w', rfl, ?_⟩
    rw [pours.2.dictionary]
    exact Entries.writesAll sound hashable
  | error f w' =>
    rw [done] at pours
    exact absurd pours.1 nofun

end Attributes

structure Beyond (n : Nat) (w w' : World) : Prop where
  only : w' = { w with dictionaries := w'.dictionaries, streams := w'.streams, tags := w'.tags }
  dictionaries : ∀ d < n, w'.dictionary d = w.dictionary d

theorem beyond (n : Nat) : Effect (Beyond n) where
  refl _ := ⟨rfl, fun _ _ => rfl⟩
  trans ab bc := by
    refine ⟨?_, fun d old => (bc.dictionaries d old).trans (ab.dictionaries d old)⟩
    have last := bc.only
    rw [ab.only] at last
    exact last
  attachments h := by rw [h.only]

namespace Beyond

variable {n : Nat}

theorem ofStream (w : World) (r : Nat) (stream : Stream) : Beyond n w (w.setStream r stream) :=
  ⟨rfl, fun _ _ => rfl⟩

theorem insertsBeyond [Calls] (key value : Value) :
    Within (Beyond n) (Value.setItem (.dictionary n) key value) := by
  refine withinBind (beyond n) (withinUnchanged (beyond n) (readsKey key)) fun _ => ?_
  exact withinModify fun w => ⟨rfl, fun d old => Heap.readOther _ _ (Nat.ne_of_gt old)⟩

end Beyond

namespace Attributes

variable [Calls] {a : Value}

theorem unionBeyond (plain : w.Plain) (left : w.HasMap a) (other : Value) :
    Beyond w.dictionaries.length w ((union a other).leaves w) := by
  let copied : World := { w with dictionaries := w.dictionaries.push (w.items a).items }
  have told : a.told w = .ok (.dictionary w.dictionaries.length) copied := toldWhole plain left
  have first : Beyond w.dictionaries.length w copied := ⟨rfl, fun d old => Heap.readKept _ old⟩
  unfold union
  rw [leavesBind told]
  refine (beyond _).trans first ?_
  have rest : Within (Beyond w.dictionaries.length) (do
      putAll (.dictionary w.dictionaries.length) other
      newAttributes false (.dictionary w.dictionaries.length) : Action Value) := by
    have effect := beyond w.dictionaries.length
    have pours : Within (Beyond w.dictionaries.length)
        (putAll (.dictionary w.dictionaries.length) other) :=
      withinForEntries effect Beyond.ofStream .dictionary other Beyond.insertsBeyond
    refine withinBind effect pours fun _ => withinBind effect (withinPure effect _) fun _ => ?_
    have tags : Within (Beyond w.dictionaries.length) newTag :=
      withinModifyGet fun _ => ⟨rfl, fun _ _ => rfl⟩
    exact withinBind effect tags fun _ => withinPure effect _
  exact rest copied plain

end Attributes

namespace Context

variable [Calls] {uses : List Use}

theorem usesRetain {P : Nat → Prop} (r : Nat) (plain : w.Plain)
    (calm : ∀ use ∈ uses, use.Calm (Through use.target.root))
    (apart : ∀ use ∈ uses, ∀ d, P d → use.target.root ≠ .dictionary d) :
    Retains r P w (afterUses uses w) := by
  refine usesWithin (retains r P) (fun use mem => ?_) plain
  exact withinMono (fun reached => .ofThrough reached (apart use mem))
    (use.within (through _) id (calm use mem))

end Context

structure World.Overlaid (w w' : World) (a b map : Value) : Prop where
  whole : (w'.items map).fault = none
  looksUp : ∀ key, w'.item map key = match w.item b key with
    | .ok value => .ok value
    | .error _ => w.item a key
  keys : Entries.keys (w'.items map).items = Entries.keys (w.items a).items ++
    (Entries.keys (w.items b).items).filter fun key => !Entries.has (w.items a).items key

structure World.Detached [Calls] (w w' : World) (map : Value) : Prop where
  kept : ∀ old, w.HasMap old → w'.items old = w.items old
  apart : ∀ old, w.HasMap old → old.root ≠ map.root
  later : ∀ uses changes : List Use, (∀ use ∈ uses ++ changes, use.Calm (Through use.target.root)) →
    let before := Context.afterUses uses w'
    let after := Context.afterUses changes before
    ((∀ use ∈ changes, use.target.root ≠ map.root) → after.items map = before.items map) ∧
    ((∀ use ∈ changes, use.target.root = map.root) →
      ∀ old, w.HasMap old → after.items old = before.items old)

theorem World.overlays {a b : Value} (formed : w.Formed) (left : w.HasMap a)
    (right : w.HasMap b) :
    Overlaid w (w.withMap (Entries.insertAll (w.items a).items (w.items b).items)) a b w.newMap := by
  have sound := formed.itemsSound right.root
  refine ⟨by rw [newItems], fun key => ?_, by rw [newItems]; exact Entries.keysOverlaid sound⟩
  rw [newHasMap.requires, newItems, left.requires, right.requires]
  unfold Entries.require
  rw [Entries.findOverlaid sound]
  cases key.checkKey with
  | error f => rfl
  | ok u => cases Entries.find? key (w.items b).items <;> rfl

theorem World.detaches [Calls] (formed : w.Formed) (sound : es.Sound) :
    Detached w (w.withMap es) w.newMap := by
  have plain := (formed.withMap sound).plain
  have there : w.dictionaries.length < (w.withMap es).dictionaries.length := by
    simp [withMap, Heap.push]
  refine ⟨fun _ => HasMap.itemsWithMap, fun _ => HasMap.apart, fun uses changes calm => ?_⟩
  have early : Retains 0 (fun _ => False) (w.withMap es) _ :=
    Context.usesRetain 0 plain (fun use mem => calm use (List.mem_append_left _ mem))
      fun _ _ _ => False.elim
  have plain' := plainKept early.attachments plain
  have lateCalm (use : Use) (mem : use ∈ changes) := calm use (List.mem_append_right _ mem)
  refine ⟨fun others => ?_, fun own old has => ?_⟩
  · have late : Retains 0 (· = w.dictionaries.length) _ _ :=
      Context.usesRetain 0 plain' lateCalm fun use mem d same => same ▸ others use mem
    have known := Nat.lt_of_lt_of_le there early.grows
    rw [itemsOver (d := w.dictionaries.length) rfl, itemsOver (d := w.dictionaries.length) rfl,
      late.dictionaries _ known rfl]
  · have late := Context.usesThrough (d := w.dictionaries.length) plain' fun use mem => by
      have ends : use.target.root = .dictionary w.dictionaries.length := own use mem
      exact ⟨ends, ends ▸ lateCalm use mem⟩
    exact late.itemsKept (has.withMap.later early.grows) has.apart

namespace Attributes

variable [Calls] {tag : Nat} {shared : Bool} {backing b c : Value}

theorem unionAdds {a : Value} {under higher : Entries} (formed : w.Formed) (left : w.HasMap a)
    (right : w.HasMap b) (lower : w.items a = ⟨under, none⟩) (upper : w.items b = ⟨higher, none⟩) :
    union a b w = .ok w.newMap (w.withMap (Entries.insertAll under higher)) := by
  have makes := unionMakes formed left right
  rwa [lower, upper] at makes

theorem unionsChain {a : Value} (formed : w.Formed) (left : w.HasMap a) (right : w.HasMap b)
    (third : w.HasMap c) :
    ∃ x w₁ y w₂, (do union (← union a b) c : Action Value) w = .ok x w₁ ∧
      (do union a (← union (← union (← newAttributes false .null) b) c) : Action Value) w =
        .ok y w₂ ∧
      w₁.items x = w₂.items y := by
  have lowest := formed.itemsSound left.root
  have between := formed.itemsSound right.root
  have highest := formed.itemsSound third.root
  have first := unionMakes formed left right
  have second := unionAdds
    (formed.withMap (Entries.soundInsertedAll lowest between.hashable))
    World.newHasMap third.withMap World.newItems (third.itemsWithMap.trans third.tells)
  -- On the other side a new map comes first, which then takes up `b` and after it `c`.
  have blank : newAttributes false .null w = .ok w.newMap (w.withMap []) := rfl
  have formed₁ := formed.withMap Entries.soundNil
  have appended : Entries.insertAll [] (w.items b).items = (w.items b).items :=
    Entries.insertAllAppends (List.nil_append _ ▸ between :
      Entries.Sound ([] ++ (w.items b).items))
  have filled := unionAdds formed₁ World.newHasMap right.withMap World.newItems
    (right.itemsWithMap.trans right.tells)
  rw [appended] at filled
  have formed₂ := formed₁.withMap between
  have both := unionAdds formed₂ World.newHasMap third.withMap.withMap World.newItems
    (third.withMap.itemsWithMap.trans (third.itemsWithMap.trans third.tells))
  have formed₃ := formed₂.withMap (Entries.soundInsertedAll between highest.hashable)
  have all := unionAdds formed₃ left.withMap.withMap.withMap World.newHasMap
    (left.withMap.withMap.itemsWithMap.trans (left.withMap.itemsWithMap.trans
      (left.itemsWithMap.trans left.tells))) World.newItems
  have chained : (do union (← union a b) c : Action Value) w = .ok _ _ :=
    (bindOk first).trans second
  have nested :
      (do union a (← union (← union (← newAttributes false .null) b) c) : Action Value) w =
        .ok _ _ := (bindOk blank).trans ((bindOk filled).trans ((bindOk both).trans all))
  refine ⟨_, _, _, _, chained, nested, ?_⟩
  rw [World.newItems, World.newItems, Entries.overlaysOverlay lowest between highest]

/-- A union is an ordered overlay of its own. Chained it can be bracketed either way, with itself or
with nothing it is a copy, a bulk write into the map makes of it what the union is, and whatever it is
made with, even where it fails, the maps that were there keep their entries. -/
theorem unionIsDetachedOverlay (formed : w.Formed)
    (left : w.HasMap (.attributes tag shared backing)) (right : w.HasMap b)
    (third : w.HasMap c) :
    let a : Value := .attributes tag shared backing
    (∃ u w', perform a backing (.union b) w = .ok u w' ∧ w.Overlaid w' a b u ∧ w.Detached w' u ∧
      ∀ d, backing.root = .dictionary d →
        ∃ w'', perform a backing (.putAll b) w = .ok a w'' ∧ w''.items a = w'.items u) ∧
    (∃ x w₁ y w₂, (do union (← union a b) c : Action Value) w = .ok x w₁ ∧
      (do union a (← union (← union (← newAttributes false .null) b) c) : Action Value) w =
        .ok y w₂ ∧
      w₁.items x = w₂.items y) ∧
    (∃ u w', perform a backing (.union a) w = .ok u w' ∧ w'.items u = w.items a) ∧
    (∀ none, w.HasMap none → w.items none = ⟨[], .none⟩ →
      ∃ u w', perform a backing (.union none) w = .ok u w' ∧ w'.items u = w.items a) ∧
    ∀ other, let w' := (perform a backing (.union other)).leaves w
      w' = { w with dictionaries := w'.dictionaries, streams := w'.streams, tags := w'.tags } ∧
      ∀ old, w.HasMap old → w'.items old = w.items old := by
  intro a
  have sound := formed.itemsSound left.root
  have hashable := (formed.itemsSound right.root).hashable
  have copy (es : Entries) (same : es = (w.items a).items) :
      (w.withMap es).items w.newMap = w.items a := by
    rw [World.newItems, same, ← World.itemsWhole left.root]
  refine ⟨⟨_, _, unionMakes formed left right, World.overlays formed left right,
    World.detaches formed (Entries.soundInsertedAll sound hashable), fun d ends => ?_⟩,
    unionsChain formed left right third,
    ⟨_, _, unionMakes formed left left, copy _ (Entries.overlaysItself sound)⟩,
    fun none has empty => ⟨_, _, unionMakes formed left has, copy _ ?_⟩, fun other => ?_⟩
  · obtain ⟨s, known, same⟩ | ⟨m, same⟩ := left
    · have rooted : a.root = .dictionary d := ends
      have there : d < w.dictionaries.length := by
        cases same.symm.trans ends
        exact known
      obtain ⟨w'', done, written⟩ := putAllLays formed there ends right
      refine ⟨w'', bindOk done, ?_⟩
      rw [World.itemsOver rooted, written, World.newItems, World.itemsOver rooted]
    · exact absurd (same.symm.trans ends) Value.noConfusion
  · rw [empty]
    rfl
  · have stays : Beyond w.dictionaries.length w ((perform a backing (.union other)).leaves w) :=
      unionBeyond formed.plain left other
    exact ⟨stays.only, fun old has => has.itemsStay stays.dictionaries (by rw [stays.only])⟩

end Attributes

end

namespace Attributes

theorem unionKeepsSpelling :
    let w : World := { dictionaries :=
      [[(.int 1, .text "one"), (.text "x", .text "a")],
        [(.bool true, .text "yes"), (.text "y", .text "b")]] }
    let backing : Value := .attributes 1 false (.dictionary 0)
    ∃ u w', perform (.attributes 0 true backing) backing (.union (.dictionary 1)) w = .ok u w' ∧
      Entries.keys (w'.items u).items = [.int 1, .text "x", .text "y"] ∧
      w'.item u (.int 1) = .ok (.text "yes") ∧ w'.item u (.text "x") = .ok (.text "a") ∧
      w.Detached w' u := by
  intro w backing
  have sound : ∀ es ∈ w.dictionaries, es.Sound := by
    intro es mem
    simp only [w, List.mem_cons, List.not_mem_nil, or_false] at mem
    rcases mem with rfl | rfl <;> exact ⟨by decide, by decide⟩
  have shared : w.HasMap (.attributes 2 false (.dictionary 0)) := .inl ⟨0, by decide, rfl⟩
  obtain ⟨⟨u, w', done, overlaid, apart, _⟩, _⟩ := unionIsDetachedOverlay
    (Context.formedStart sound : w.Formed)
    (.inl ⟨0, by decide, rfl⟩ : w.HasMap (.attributes 0 true backing))
    (.inl ⟨1, by decide, rfl⟩ : w.HasMap (.dictionary 1)) shared
  exact ⟨u, w', done, overlaid.keys, overlaid.looksUp _, overlaid.looksUp _, apart⟩

end Attributes

end FlowDouble
