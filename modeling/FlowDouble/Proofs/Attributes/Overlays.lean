import FlowDouble.Proofs.Attributes.Table
/-! Entries laid over others: the later ones win, old keys stay in front and as they were spelled. Sound
entries are told apart by their keys in order and what is found under each, and the laws of overlays
follow from that. -/
namespace FlowDouble.Entries

variable {es fs under middle upper : Entries}

theorem tabulated (sound : es.Sound) :
    es.keys.map (fun key => (key, (es.find? key).getD .null)) = es := by
  unfold keys
  rw [List.map_map]
  refine (List.map_congr_left fun e mem => ?_).trans (List.map_id es)
  simp [findMember sound mem]

theorem sameWhenFoundSame (sound : es.Sound) (keys : fs.keys = es.keys)
    (found : ∀ key, fs.find? key = es.find? key) : fs = es := by
  have table := tabulated (soundKeys sound keys)
  simp only [keys, found] at table
  exact table.symm.trans (tabulated sound)

theorem writesAll (sound : es.Sound) {pairs : List (Value × Value)}
    (hashable : ∀ p ∈ pairs, p.1.hashable = true) :
    Table.writeAll pairs es = insertAll es pairs := by
  induction pairs generalizing es with
  | nil => rfl
  | cons p rest ih =>
    have first := soundInserted sound (hashable p List.mem_cons_self) p.2
    have later := ih first fun q mem => hashable q (List.mem_cons_of_mem _ mem)
    calc Table.writeAll (p :: rest) es
        = Table.writeAll rest (es.insert p.1 p.2) := by rw [Table.writeInserts sound]; rfl
      _ = insertAll es (p :: rest) := later

theorem soundInsertedAll (sound : es.Sound) {pairs : List (Value × Value)}
    (hashable : ∀ p ∈ pairs, p.1.hashable = true) : (insertAll es pairs).Sound :=
  writesAll sound hashable ▸ Table.soundWrittenAll sound hashable

theorem findOverlaid (sound : upper.Sound) (key : Value) :
    (insertAll under upper).find? key = (upper.find? key).or (under.find? key) := by
  rw [findInsertedAll, findSoundPairs sound]

theorem hasOverlaid (sound : upper.Sound) (key : Value) :
    (insertAll under upper).has key = (upper.has key || under.has key) := by
  simp only [has, findOverlaid sound, Option.isSome_or]

theorem keysOverlaid (sound : upper.Sound) :
    (insertAll under upper).keys = under.keys ++ upper.keys.filter fun key => !under.has key := by
  induction upper generalizing under with
  | nil => simp [insertAll, keys]
  | cons e rest ih =>
    obtain ⟨apart, _⟩ := List.pairwise_cons.mp sound.distinct
    have later : (insertAll (under.insert e.1 e.2) rest).keys = _ := ih (soundTail sound)
    have others : ((keys rest).filter fun key => !(under.insert e.1 e.2).has key) =
        (keys rest).filter fun key => !under.has key := by
      refine List.filter_congr fun key mem => ?_
      obtain ⟨d, inside, rfl⟩ := List.mem_map.mp mem
      simp only [has, findInsertedOther (apart d inside)]
    have step : insertAll under (e :: rest) = insertAll (under.insert e.1 e.2) rest := rfl
    rw [step, later, others, keysInserted]
    cases there : under.has e.1 <;> simp [keys, there]

theorem overlaysOverlay (lowest : under.Sound) (between : middle.Sound) (highest : upper.Sound) :
    insertAll (insertAll under middle) upper = insertAll under (insertAll middle upper) := by
  have joined := soundInsertedAll between highest.hashable
  refine sameWhenFoundSame (soundInsertedAll lowest joined.hashable) ?_ fun key => ?_
  · rw [keysOverlaid highest, keysOverlaid between, keysOverlaid joined, keysOverlaid highest]
    simp [List.filter_append, List.filter_filter, hasOverlaid between, Bool.and_comm]
  · rw [findOverlaid highest, findOverlaid between, findOverlaid joined, findOverlaid highest,
      Option.or_assoc]

theorem overlaysItself (sound : es.Sound) : insertAll es es = es := by
  refine sameWhenFoundSame sound ?_ fun key => ?_
  · have known : (es.keys.filter fun key => !es.has key) = [] := by
      refine List.filter_eq_nil_iff.mpr fun key mem => ?_
      obtain ⟨e, inside, rfl⟩ := List.mem_map.mp mem
      simp [has, findMember sound inside]
    rw [keysOverlaid sound, known, List.append_nil]
  · rw [findOverlaid sound, Option.or_self]

end FlowDouble.Entries
