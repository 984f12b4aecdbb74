import FlowDouble.Item
import FlowDouble.Proofs.Context.Formed
/-! Reading, writing, copying and searching through a value reaches no other map: only the dictionary
or the parameter map at the end of its chain changes, whether it succeeds or fails. -/
namespace FlowDouble

open FlowDouble.Action ParameterMap

structure Through (root : Value) (w w' : World) : Prop where
  attachments : w'.attachments = w.attachments
  contexts : w'.contexts = w.contexts
  writers : w'.writers = w.writers
  trail : w'.trail = w.trail
  grows : w.dictionaries.length ≤ w'.dictionaries.length
  maps : w.parameterMaps.length ≤ w'.parameterMaps.length
  dictionaries : ∀ d < w.dictionaries.length, root ≠ .dictionary d →
    w'.dictionary d = w.dictionary d
  parameters : ∀ m : ParameterMap, (∀ t, t.ref = m.ref → root ≠ .parameters t) →
    w'.parameters m = w.parameters m
  formed : w.Formed → w'.Formed

theorem through (root : Value) : Effect (Through root) where
  refl _ := ⟨rfl, rfl, rfl, rfl, Nat.le_refl _, Nat.le_refl _, fun _ _ _ => rfl, fun _ _ => rfl, id⟩
  trans ab bc :=
    { attachments := bc.attachments.trans ab.attachments
      contexts := bc.contexts.trans ab.contexts
      writers := bc.writers.trans ab.writers
      trail := bc.trail.trans ab.trail
      grows := Nat.le_trans ab.grows bc.grows
      maps := Nat.le_trans ab.maps bc.maps
      dictionaries := fun d known other =>
        (bc.dictionaries d (Nat.lt_of_lt_of_le known ab.grows) other).trans
          (ab.dictionaries d known other)
      parameters := fun m other => (bc.parameters m other).trans (ab.parameters m other)
      formed := fun formed => bc.formed (ab.formed formed) }
  attachments h := h.attachments

namespace Through

variable {root : Value} {w w' w'' : World}

theorem upholds (h : Through root w w') : Upholds w w' :=
  ⟨h.attachments, h.maps, Nat.le_of_eq (congrArg List.length h.contexts.symm), h.formed⟩

theorem ofAside (attachments : w'.attachments = w.attachments) (contexts : w'.contexts = w.contexts)
    (writers : w'.writers = w.writers) (trail : w'.trail = w.trail)
    (dictionaries : w'.dictionaries = w.dictionaries)
    (maps : w'.parameterMaps = w.parameterMaps) : Through root w w' where
  attachments := attachments
  contexts := contexts
  writers := writers
  trail := trail
  grows := Nat.le_of_eq (congrArg List.length dictionaries.symm)
  maps := Nat.le_of_eq (congrArg List.length maps.symm)
  dictionaries d _ _ := by simp only [World.dictionary, dictionaries]
  parameters m _ := by simp only [World.parameters, maps]
  formed := (Upholds.ofAside attachments dictionaries maps contexts).formed

theorem ofDictionary {d : Nat} {es : Entries} (sound : w.Formed → es.Sound) :
    Through (.dictionary d) w (w.setDictionary d es) where
  attachments := rfl
  contexts := rfl
  writers := rfl
  trail := rfl
  grows := Nat.le_of_eq (Heap.writeKeepsLength _ _ _).symm
  maps := Nat.le_refl _
  dictionaries _ _ other := Heap.readOther _ _ fun same => other (same ▸ rfl)
  parameters _ _ := rfl
  formed := (Upholds.ofDictionary sound).formed

theorem ofNewDictionary {es : Entries} (sound : w.Formed → es.Sound) :
    Through root w { w with dictionaries := w.dictionaries.push es } where
  attachments := rfl
  contexts := rfl
  writers := rfl
  trail := rfl
  grows := by simp [Heap.push]
  maps := Nat.le_refl _
  dictionaries d known _ := Heap.readKept es known
  parameters _ _ := rfl
  formed formed := by
    refine ⟨formed.plain, fun ds mem => ?_, formed.held, formed.owned⟩
    rcases List.mem_append.mp mem with old | new
    · exact formed.sound ds old
    · exact List.mem_singleton.mp new ▸ sound formed

theorem ofWrites {m : ParameterMap} (writes : Writes m.ref (fun _ c => c.Proper) w w') :
    Through (.parameters m) w w' where
  attachments := onlyParameters.attachments writes.only
  contexts := by rw [writes.only]
  writers := by rw [writes.only]
  trail := by rw [writes.only]
  grows := Nat.le_of_eq (by rw [writes.only])
  maps := writes.grows
  dictionaries d _ _ := by rw [writes.only]; rfl
  parameters t other := writes.others t.ref fun same => other m same.symm rfl
  formed := (Upholds.ofWrites writes).formed

theorem thenNew (first : Through root w w')
    (second : Through (.dictionary w.dictionaries.length) w' w'') : Through root w w'' where
  attachments := second.attachments.trans first.attachments
  contexts := second.contexts.trans first.contexts
  writers := second.writers.trans first.writers
  trail := second.trail.trans first.trail
  grows := Nat.le_trans first.grows second.grows
  maps := Nat.le_trans first.maps second.maps
  dictionaries d known other := by
    have apart : Value.dictionary w.dictionaries.length ≠ .dictionary d := by
      intro same
      cases same
      exact Nat.lt_irrefl _ known
    exact (second.dictionaries d (Nat.lt_of_lt_of_le known first.grows) apart).trans
      (first.dictionaries d known other)
  parameters m other := by
    have apart (t : ParameterMap) (_ : t.ref = m.ref) :
        Value.dictionary w.dictionaries.length ≠ .parameters t := by simp
    exact (second.parameters m apart).trans (first.parameters m other)
  formed formed := second.formed (first.formed formed)

end Through

theorem Value.rootCases : ∀ v : Value, v.root.isMapping = true →
    (∃ d, v.root = .dictionary d) ∨ ∃ m, v.root = .parameters m
  | .dictionary d, _ => .inl ⟨d, rfl⟩
  | .parameters m, _ => .inr ⟨m, rfl⟩
  | .attributes _ _ backing, map => rootCases backing map

theorem World.tellsMapping {w : World} :
    ∀ v : Value, w.tellsEntries v = true → v.root.isMapping = true
  | .dictionary _, _ | .parameters _, _ => rfl
  | .attributes _ _ backing, tells => by
    simp only [tellsEntries, Bool.and_eq_true] at tells
    exact tellsMapping backing tells.2

theorem World.itemsWhole {w : World} {v : Value} (map : v.root.isMapping = true) :
    (w.items v).fault = none := by
  rcases v.rootCases map with ⟨d, ends⟩ | ⟨m, ends⟩ <;> simp only [items, ends]

theorem World.Formed.itemsSound {w : World} (formed : w.Formed) {v : Value}
    (map : v.root.isMapping = true) : Entries.Sound (w.items v).items := by
  rcases v.rootCases map with ⟨d, ends⟩ | ⟨m, ends⟩
  · rw [itemsOver ends]
    exact w.soundDictionary formed.sound d
  · simp only [items, ends]
    exact (formed.held m).sound

namespace Action

variable {α : Type} {R : World → World → Prop} {root : Value}

theorem tryRuns (a : Action α) (handler : Fault → Action α) (w : World) :
    (tryCatch a handler : Action α) w = match a w with
      | .ok v w' => .ok v w'
      | .error f w' => handler f w' := by
  show EStateM.tryCatch _ _ w = _
  unfold EStateM.tryCatch
  cases a w <;> rfl

theorem withinTryCatch (effect : Effect R) {a : Action α} {handler : Fault → Action α}
    (first : Within R a) (handles : ∀ f, Within R (handler f)) :
    Within R (tryCatch a handler) := by
  intro w plain
  have before := first w plain
  have run := tryRuns a handler w
  cases h : a w with
  | ok v w' =>
    rw [h] at run
    rw [leavesOk run, ← leavesOk h]
    exact before
  | error f w' =>
    rw [h] at run
    rw [leavesError h] at before
    have handled : (tryCatch a handler).leaves w = (handler f).leaves w' := by
      simp only [leaves, run]
    rw [handled]
    exact effect.trans before (handles f w' (World.plainKept (effect.attachments before) plain))

theorem throughStream (w : World) (s : Nat) (stream : Stream) :
    Through root w (w.setStream s stream) := .ofAside rfl rfl rfl rfl rfl rfl

theorem throughTag : Within (Through root) newTag :=
  withinModifyGet fun _ => .ofAside rfl rfl rfl rfl rfl rfl

theorem throughList (vs : List Value) : Within (Through root) (newList vs) :=
  withinModifyGet fun _ => .ofAside rfl rfl rfl rfl rfl rfl

theorem throughReading {a : Action α} (h : Within Unchanged a) : Within (Through root) a :=
  withinUnchanged (through root) h

theorem readsItem (v key : Value) : Within Unchanged (v.getItem key) :=
  withinBind unchanged (withinWorld unchanged) fun _ => withinOfExcept unchanged _

theorem readsFound (v key : Value) : Within Unchanged (v.find key) := by
  refine withinBind unchanged (withinWorld unchanged) fun w => ?_
  split
  · exact withinPure unchanged _
  · exact withinPure unchanged _
  · exact withinThrow unchanged _

theorem readsAhead (v : Value) : Within Unchanged (ahead v) := by
  refine withinBind unchanged (withinWorld unchanged) fun w => ?_
  split
  · exact withinPure unchanged _
  · exact withinThrow unchanged _

theorem readsLength (v : Value) : Within Unchanged (length v) :=
  withinBind unchanged (withinWorld unchanged) fun _ => withinOfExcept unchanged _

theorem throughElements (v : Value) : Within (Through root) (elements v) := by
  refine withinBind (through root) (throughReading (readsAhead v)) fun vs => ?_
  exact withinBind (through root) (withinTakeAll (through root) throughStream v vs)
    fun _ => withinPure (through root) _

theorem throughMade {es : Entries} {next : Value → Action α} (sound : es.Sound)
    (h : ∀ d, Within (Through (.dictionary d)) (next (.dictionary d))) :
    Within (Through root) (newDictionary es >>= next) := by
  intro w plain
  have made : newDictionary es w = .ok (.dictionary w.dictionaries.length)
      { w with dictionaries := w.dictionaries.push es } := rfl
  rw [leavesBind made]
  have first : Through root w { w with dictionaries := w.dictionaries.push es } :=
    .ofNewDictionary fun _ => sound
  exact first.thenNew (h _ _ (World.plainKept first.attachments plain))

variable [Calls]

theorem readsEqual (a b : Value) : Within Unchanged (a.isEqual b) :=
  withinBind unchanged (withinWorld unchanged) fun _ => withinOfExcept unchanged _

theorem readsAlike (a b : Value) : Within Unchanged (a.isAlike b) :=
  withinBind unchanged (withinWorld unchanged) fun _ => withinOfExcept unchanged _

omit [Calls] in
theorem insertEntryThrough (d : Nat) (key value : Value) :
    Within (Through (.dictionary d)) ((Value.dictionary d).insertEntry key value) := by
  intro w _
  by_cases hashable : key.hashable = true
  · rw [leavesOk (Context.insertsEntry hashable value w)]
    exact .ofDictionary fun formed =>
      Entries.soundInserted (w.soundDictionary formed.sound d) hashable value
  · obtain ⟨f, failed, _⟩ := keyRefused hashable w
    have refused : (Value.dictionary d).insertEntry key value w = .error f w := bindError failed
    rw [leavesError refused]
    exact (through _).refl w

theorem setItemThrough (target key value : Value) :
    Within (Through target.root) (target.setItem key value) := by
  unfold Value.setItem
  split
  · rename_i d ends
    rw [ends]
    exact insertEntryThrough d key value
  · rename_i m ends
    rw [ends]
    unfold assign
    split
    · exact fun w plain => .ofWrites ((askToPutWrites plain).mono putsProper)
    · exact withinThrow (through _) _
  · refine withinBind (through _) (withinWorld (through _)) fun w => ?_
    refine withinBind (through _) (withinOfExcept (through _) _) fun i => ?_
    exact withinModify fun _ => .ofAside rfl rfl rfl rfl rfl rfl
  · exact withinThrow (through _) _

omit [Calls] in
theorem deleteItemThrough (target key : Value) :
    Within (Through target.root) (target.deleteItem key) := by
  unfold Value.deleteItem
  split
  · rename_i d ends
    rw [ends]
    refine withinBind (through _) (withinWorld (through _)) fun w => ?_
    refine withinBind (through _) (withinOfExcept (through _) _) fun _ => ?_
    exact withinModify fun w => .ofDictionary fun formed =>
      Entries.soundErased (w.soundDictionary formed.sound d) key
  · rename_i m ends
    rw [ends]
    by_cases writable : m.writable = true
    · intro w plain
      refine .ofWrites ((eraseWrites writable key w plain).mono fun {_ c} deletes => ?_)
      rw [deletes]
      trivial
    · exact throughReading (eraseRefused writable key)
  · refine withinBind (through _) (withinWorld (through _)) fun w => ?_
    refine withinBind (through _) (withinOfExcept (through _) _) fun i => ?_
    exact withinModify fun _ => .ofAside rfl rfl rfl rfl rfl rfl
  · exact throughReading (readsRefuseDeletion _ _)

theorem copiedThrough (v : Value) : Within (Through root) v.copied := by
  intro w plain
  unfold Value.copied
  rw [leavesSame (worldBind w)]
  split
  · rename_i tells
    exact .ofNewDictionary fun formed => formed.itemsSound (World.tellsMapping v tells)
  · refine throughMade Entries.soundNil (fun d => ?_) w plain
    refine withinBind (through _) ?_ fun _ => withinPure (through _) _
    exact withinForEntries (through _) throughStream .dictionary v (insertEntryThrough d)

theorem copiedNew {v x : Value} {w w' : World} (done : v.copied w = .ok x w') :
    x = .dictionary w.dictionaries.length := by
  unfold Value.copied at done
  rw [worldBind] at done
  split at done
  · cases done
    rfl
  · have made : newDictionary [] w = .ok (.dictionary w.dictionaries.length)
        { w with dictionaries := w.dictionaries.push [] } := rfl
    rw [bindOk made] at done
    obtain ⟨_, _, _, done⟩ := bindInv done
    cases done
    rfl

theorem toldThrough (v : Value) : Within (Through root) v.told := by
  unfold Value.told
  split
  · exact withinAnswer (by decide) (copiedThrough _)
  · exact copiedThrough v

theorem toldNew {v x : Value} {w w' : World} (plain : w.Plain) (done : v.told w = .ok x w') :
    x = .dictionary w.dictionaries.length := by
  unfold Value.told at done
  split at done
  · rw [Value.answerUnhidden (plain _ "as_dict" (by decide))] at done
    exact copiedNew done
  · exact copiedNew done

theorem amongThrough (source key : Value) (vs : List Value) :
    Within (Through root) (source.isAmong key vs) := by
  induction vs with
  | nil => exact withinPure (through _) _
  | cons x xs ih =>
    refine withinBind (through _) (withinTake (through _) throughStream source x) fun _ => ?_
    refine withinIte _ (withinPure (through _) _) ?_
    refine withinBind (through _) (throughReading (readsAlike x key)) fun alike => ?_
    exact withinIte _ (withinPure (through _) _) ih

omit [Calls] in
theorem readsHasKey (v key : Value) : Within Unchanged (v.hasKey key) := by
  unfold Value.hasKey
  split
  · refine withinBind unchanged (readsKey key) fun _ => ?_
    exact withinBind unchanged (withinWorld unchanged) fun _ => withinPure unchanged _
  · exact withinBind unchanged (readsFound _ key) fun _ => withinPure unchanged _

theorem containsThrough (v key : Value) : Within (Through root) (v.contains key) := by
  unfold Value.contains
  split
  · exact throughReading (readsHasKey _ key)
  · exact throughReading (readsHasKey _ key)
  · exact throughReading (readsHasKey _ key)
  · exact throughReading (readsHasKey _ key)
  · refine withinBind (through _) (withinPair (through _) throughStream .map 0 key) fun p => ?_
    refine withinBind (through _) (throughReading (readsFound _ _)) fun found => ?_
    split
    · exact withinIte _ (withinPure (through _) _) (throughReading (readsAlike _ _))
    · exact withinPure (through _) _
  · split
    · exact withinPure (through _) _
    · exact withinThrow (through _) _
  · unfold Value.bytesContain
    have byte (bs : List UInt8) (n : Int) : Within (Through root)
        (if 0 ≤ n ∧ n < 256 then return bs.contains (UInt8.ofNat n.toNat) else misuse .notByte) :=
      withinIte _ (withinPure (through _) _) (withinThrow (through _) _)
    split
    · exact withinPure (through _) _
    · exact byte _ _
    · exact byte _ _
    · exact withinThrow (through _) _
  · refine withinBind (through _) (withinWorld (through _)) fun w => ?_
    split
    · exact amongThrough _ _ _
    · exact withinThrow (through _) _

end Action

end FlowDouble
