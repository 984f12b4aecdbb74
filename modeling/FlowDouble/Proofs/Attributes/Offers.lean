import FlowDouble.Proofs.Attributes.Layers
/-! What a source has to offer to a bulk write: the pairs before the first bad part, and the kind of
failure that part is. Dictionaries and maps take pairs apart in their own ways and write the same. -/
namespace FlowDouble

open FlowDouble.Action

abbrev Offer := List (Value × Value) × Option Kind

def Offer.followed (o : Offer) (pairs : List (Value × Value)) : Offer :=
  match o.2 with
  | none => (o.1 ++ pairs, none)
  | some k => (o.1, some k)

def hashableOnly (fault : Option Kind) : List (Value × Value) → Offer
  | [] => ([], fault)
  | (key, value) :: rest =>
    if key.hashable then
      let (pairs, fault) := hashableOnly fault rest
      ((key, value) :: pairs, fault)
    else ([], some .wrongType)

namespace World

def pairOf (w : World) (part : Value) : Except Kind (Value × Value) :=
  match w.elements? part with
  | none => .error .wrongType
  | some [key, value] => if key.hashable then .ok (key, value) else .error .wrongType
  | some _ => .error .wrongValue

def pairsOf (d : Nat) (source : Value) (total index : Nat) : List Value → World → Offer
  | [], w =>
    match w.partNow source total index .null with
    | .error f => ([], some f.kind)
    | .ok _ => ([], none)
  | part :: rest, w =>
    match w.partNow source total index part with
    | .error f => ([], some f.kind)
    | .ok part =>
      let w := (take source part).leaves w
      match w.pairOf part with
      | .error k => ([], some k)
      | .ok (key, value) =>
        let w := (takeAll part [key, value]).leaves w
        let (pairs, fault) := pairsOf d source total (index + 1) rest
          (w.setDictionary d (Table.write key value (w.dictionary d)))
        ((key, value) :: pairs, fault)

def offered (d : Nat) (w : World) (source : Value) : Offer :=
  if source.isMapping then
    let y := w.items source
    hashableOnly (y.fault.map Fault.kind) y.items
  else
    match w.elements? source with
    | some parts => pairsOf d source parts.length 0 parts w
    | none => ([], some .wrongType)

structure BreaksAfter (w : World) (source : Value) (rows : List (Nat × Value × Value)) : Prop where
  parts : ∃ bad rest, (∀ w : World, ∃ k, w.pairOf bad = .error k) ∧ w.elements? source =
    some (rows.map (fun row => .tuple row.1 [row.2.1, row.2.2]) ++ bad :: rest)
  hashable : ∀ row ∈ rows, row.2.1.hashable = true
  noMapping : source.isMapping = false
  noView : ∀ tag facet map, source.root ≠ .facet tag facet map

end World

theorem Offer.followedNone (o : Offer) : o.followed [] = o := by
  obtain ⟨pairs, fault⟩ := o
  cases fault with
  | none => simp only [followed, List.append_nil]
  | some k => rfl

theorem hashableOnlyHashable {fault : Option Kind} {pairs : List (Value × Value)} :
    ∀ p ∈ (hashableOnly fault pairs).1, p.1.hashable = true := by
  induction pairs with
  | nil => simp [hashableOnly]
  | cons q rest ih =>
    obtain ⟨key, value⟩ := q
    unfold hashableOnly
    split
    · rename_i hashable
      intro p mem
      rcases List.mem_cons.mp mem with rfl | inside
      · exact hashable
      · exact ih p inside
    · simp

theorem hashableOnlyAll {fault : Option Kind} {pairs : List (Value × Value)}
    (all : ∀ p ∈ pairs, p.1.hashable = true) : hashableOnly fault pairs = (pairs, fault) := by
  induction pairs with
  | nil => rfl
  | cons p rest ih =>
    unfold hashableOnly
    rw [if_pos (all p List.mem_cons_self), ih fun q mem => all q (List.mem_cons_of_mem _ mem)]

theorem World.pairHashable {w : World} {part key value : Value}
    (good : w.pairOf part = .ok (key, value)) : key.hashable = true := by
  unfold pairOf at good
  split at good
  · contradiction
  · split at good
    · rename_i hashable
      cases good
      exact hashable
    · contradiction
  · contradiction

theorem World.pairsHashable {d total index : Nat} {source : Value} {parts : List Value}
    {w : World} : ∀ p ∈ (pairsOf d source total index parts w).1, p.1.hashable = true := by
  induction parts generalizing index w with
  | nil =>
    unfold pairsOf
    split <;> simp
  | cons part rest ih =>
    unfold pairsOf
    split
    · simp
    · simp only
      split
      · simp
      · rename_i good
        intro p mem
        rcases List.mem_cons.mp mem with rfl | inside
        · exact pairHashable good
        · exact ih p inside

theorem World.offeredHashable {d : Nat} {w : World} {source : Value} :
    ∀ p ∈ (w.offered d source).1, p.1.hashable = true := by
  unfold offered
  split
  · exact hashableOnlyHashable
  · split
    · exact pairsHashable
    · simp

theorem World.partSteady {source : Value}
    (noView : ∀ tag facet map, source.root ≠ .facet tag facet map) (w : World)
    (total index : Nat) (part : Value) :
    w.partNow source total index part = .ok part := by
  unfold partNow
  split
  · rename_i tag facet map view
    exact absurd view (noView tag facet map)
  · rfl

theorem World.pairsUpToBad {d total index : Nat} {source bad : Value} {rest : List Value}
    {rows : List (Nat × Value × Value)} {w : World}
    (noView : ∀ tag facet map, source.root ≠ .facet tag facet map)
    (hashable : ∀ row ∈ rows, row.2.1.hashable = true)
    (wrong : ∀ w : World, ∃ k, w.pairOf bad = .error k) :
    ∃ k, pairsOf d source total index
      (rows.map (fun row => .tuple row.1 [row.2.1, row.2.2]) ++ bad :: rest) w =
        (rows.map (·.2), some k) := by
  induction rows generalizing index w with
  | nil =>
    obtain ⟨k, broken⟩ := wrong ((take source bad).leaves w)
    refine ⟨k, ?_⟩
    simp only [List.map_nil, List.nil_append, pairsOf, partSteady noView, broken]
  | cons row rows ih =>
    obtain ⟨tag, key, value⟩ := row
    have good : ∀ w : World, w.pairOf (.tuple tag [key, value]) = .ok (key, value) := by
      intro w
      exact if_pos (hashable _ List.mem_cons_self)
    have others := fun row mem => hashable row (List.mem_cons_of_mem _ mem)
    simp only [List.map_cons, List.cons_append, pairsOf, partSteady noView, good]
    generalize World.setDictionary _ d _ = w'
    obtain ⟨k, later⟩ := @ih (index + 1) w' others
    exact ⟨k, by rw [later]⟩

theorem World.offeredUpToBad {d : Nat} {w : World} {source : Value}
    {rows : List (Nat × Value × Value)} (breaks : w.BreaksAfter source rows) :
    ∃ k, w.offered d source = (rows.map (·.2), some k) := by
  obtain ⟨bad, rest, wrong, parts⟩ := breaks.parts
  unfold offered
  rw [breaks.noMapping, parts]
  exact pairsUpToBad breaks.noView breaks.hashable wrong

def Pours (d : Nat) (w : World) (offer : Offer) : EStateM.Result Fault World Unit → Prop
  | .ok () w' => offer.2 = none ∧ After d w w' (Table.writeAll offer.1 (w.dictionary d))
  | .error f w' => offer.2 = some f.kind ∧ After d w w' (Table.writeAll offer.1 (w.dictionary d))

def Taken (w w' : World) : Prop := w' = { w with streams := w'.streams }

namespace Action

theorem takes (source part : Value) (w : World) :
    ∃ w', take source part w = .ok () w' ∧ Taken w w' := by
  unfold take
  cases source.root with
  | stream r =>
    cases part with
    | bytes line => exact ⟨_, rfl, rfl⟩
    | _ => exact ⟨w, rfl, rfl⟩
  | _ => exact ⟨w, rfl, rfl⟩

theorem takesAll (source : Value) (parts : List Value) (w : World) :
    ∃ w', takeAll source parts w = .ok () w' ∧ Taken w w' := by
  induction parts generalizing w with
  | nil => exact ⟨w, rfl, rfl⟩
  | cons part rest ih =>
    obtain ⟨w₁, first, taken⟩ := takes source part w
    obtain ⟨w₂, later, taken'⟩ := ih w₁
    refine ⟨w₂, (bindOk first).trans later, ?_⟩
    unfold Taken at *
    rw [taken] at taken'
    exact taken'

end Action

namespace Taken

variable {d : Nat} {w w' : World}

theorem after (taken : Taken w w') : After d w w' (w.dictionary d) := by
  rw [taken]
  exact .ofSame rfl rfl

end Taken

namespace Pours

variable {d : Nat} {w w₁ : World} {offer : Offer} {result : EStateM.Result Fault World Unit}

theorem following (pairs : List (Value × Value))
    (first : After d w w₁ (Table.writeAll pairs (w.dictionary d)))
    (rest : Pours d w₁ offer result) : Pours d w (pairs ++ offer.1, offer.2) result := by
  have written : Table.writeAll (pairs ++ offer.1) (w.dictionary d) =
      Table.writeAll offer.1 (w₁.dictionary d) := by
    rw [first.dictionary]
    exact List.foldl_append
  cases result with
  | ok u w' => exact ⟨rest.1, first.trans (written ▸ rest.2)⟩
  | error f w' => exact ⟨rest.1, first.trans (written ▸ rest.2)⟩

theorem fails {f : Fault} (after : After d w w₁ (w.dictionary d)) :
    Pours d w ([], some f.kind) (.error f w₁) := ⟨rfl, after⟩

end Pours

section
variable [Calls] {target : Value} {d : Nat} (ends : target.root = .dictionary d)
include ends

theorem pairsPour {w : World} (known : d < w.dictionaries.length)
    (sound : (w.dictionary d).Sound) (fault : Option Fault) (pairs : List (Value × Value)) :
    Pours d w (hashableOnly (fault.map Fault.kind) pairs)
      (Value.forYield target.setItem ⟨pairs, fault⟩ w) := by
  induction pairs generalizing w with
  | nil =>
    cases fault with
    | none => exact ⟨rfl, .same d w⟩
    | some f => exact .fails (.same d w)
  | cons p rest ih =>
    obtain ⟨key, value⟩ := p
    by_cases hashable : key.hashable = true
    · have first := Value.setItemOver ends sound hashable value
      have after := After.set known (Table.write key value (w.dictionary d))
      have written := Table.soundWritten sound hashable value
      rw [← after.dictionary] at written
      have later := ih (after.known known) written
      have offer : hashableOnly (fault.map Fault.kind) ((key, value) :: rest) =
          ((key, value) :: (hashableOnly (fault.map Fault.kind) rest).1,
            (hashableOnly (fault.map Fault.kind) rest).2) := by
        simp only [hashableOnly, if_pos hashable]
      have run : Value.forYield target.setItem ⟨(key, value) :: rest, fault⟩ w =
          Value.forYield target.setItem ⟨rest, fault⟩
            (w.setDictionary d (Table.write key value (w.dictionary d))) := by
        unfold Value.forYield
        simp only [Value.forPairs, bind_assoc]
        rw [bindOk first]
        rfl
      rw [offer, run]
      exact .following [(key, value)] after later
    · obtain ⟨f, refused, kind⟩ := Value.setItemRefused ends hashable value
      have run : Value.forYield target.setItem ⟨(key, value) :: rest, fault⟩ w = .error f w :=
        bindError (bindError refused)
      rw [run]
      unfold hashableOnly
      rw [if_neg hashable, ← kind]
      exact .fails (.same d w)

omit [Calls] ends in
theorem takesPair (t : Taker) (index : Nat) (part : Value) (w : World) :
    match w.elements? part with
    | some [key, value] =>
      t.pair index part w = .ok (key, value) ((takeAll part [key, value]).leaves w)
    | some _ => ∃ f w', t.pair index part w = .error f w' ∧ f.kind = .wrongValue ∧ Taken w w'
    | none => ∃ f, t.pair index part w = .error f w ∧ f.kind = .wrongType := by
  unfold Taker.pair
  rw [worldBind]
  cases w.elements? part with
  | none => cases t <;> exact ⟨_, rfl, rfl⟩
  | some vs =>
    obtain ⟨w', taken, only⟩ := takesAll part (t.reach vs) w
    match vs with
    | [key, value] =>
      have same : t.reach [key, value] = [key, value] := by cases t <;> rfl
      rw [same] at taken
      simp only [same]
      rw [bindOk taken, leavesOk taken]
      rfl
    | [] | [_] | _ :: _ :: _ :: _ =>
      simp only
      rw [bindOk taken]
      refine ⟨_, w', rfl, ?_, only⟩
      cases t <;> rfl

def writePart (t : Taker) (target : Value) (index : Nat) (part : Value) : Action Unit := do
  let (key, value) ← t.pair index part
  target.setItem key value

theorem partPours (t : Taker) (index : Nat) (part : Value) {w : World}
    (known : d < w.dictionaries.length) (sound : (w.dictionary d).Sound) :
    match w.pairOf part with
    | .ok (key, value) =>
      let w₁ := (takeAll part [key, value]).leaves w
      let w₂ := w₁.setDictionary d (Table.write key value (w₁.dictionary d))
      writePart t target index part w = .ok () w₂ ∧ key.hashable = true ∧
        After d w w₂ (Table.write key value (w.dictionary d))
    | .error k => ∃ f w', writePart t target index part w = .error f w' ∧ f.kind = k ∧
        After d w w' (w.dictionary d) := by
  have pair := takesPair t index part w
  unfold World.pairOf writePart
  cases parts : w.elements? part with
  | none =>
    rw [parts] at pair
    obtain ⟨f, failed, kind⟩ := pair
    exact ⟨f, w, bindError failed, kind, .same d w⟩
  | some vs =>
    rw [parts] at pair
    match vs with
    | [key, value] =>
      simp only at pair ⊢
      obtain ⟨w₁, taken, only⟩ := takesAll part [key, value] w
      rw [leavesOk taken] at pair
      have before := only.after (d := d)
      by_cases hashable : key.hashable = true
      · simp only [if_pos hashable, leavesOk taken]
        have sound' : (w₁.dictionary d).Sound := before.dictionary ▸ sound
        have written := After.set (before.known known) (Table.write key value (w₁.dictionary d))
        refine ⟨(bindOk pair).trans (Value.setItemOver ends sound' hashable value), hashable, ?_⟩
        exact before.dictionary ▸ before.trans written
      · rw [if_neg hashable]
        obtain ⟨f, refused, kind⟩ := Value.setItemRefused ends (w := w₁) hashable value
        exact ⟨f, w₁, (bindOk pair).trans refused, kind, before⟩
    | [] | [_] | _ :: _ :: _ :: _ =>
      obtain ⟨f, w', failed, kind, only⟩ := pair
      exact ⟨f, w', bindError failed, kind, only.after⟩

theorem partsPour (t : Taker) (source : Value) (total index : Nat) (parts : List Value)
    {w : World} (known : d < w.dictionaries.length) (sound : (w.dictionary d).Sound) :
    Pours d w (World.pairsOf d source total index parts w)
      (visit source (writePart t target) total index parts w) := by
  -- The index and the world are those of a part's turn, with all pairs before it written.
  induction parts generalizing w index with
  | nil =>
    unfold visit World.pairsOf
    rw [worldBind]
    cases w.partNow source total index .null with
    | error f => exact .fails (.same d w)
    | ok part => exact ⟨rfl, .same d w⟩
  | cons part rest ih =>
    unfold visit World.pairsOf
    rw [worldBind]
    cases w.partNow source total index part with
    | error f => exact .fails (.same d w)
    | ok part =>
      obtain ⟨w₁, taken, only⟩ := takes source part w
      have before := only.after (d := d)
      have sound' : (w₁.dictionary d).Sound := before.dictionary ▸ sound
      have written := partPours ends t index part (before.known known) sound'
      have run : (do
          let part ← ofExcept (.ok part)
          take source part
          writePart t target index part
          visit source (writePart t target) total (index + 1) rest : Action Unit) w = (do
            writePart t target index part
            visit source (writePart t target) total (index + 1) rest : Action Unit) w₁ :=
        bindOk taken
      rw [run]
      simp only [leavesOk taken]
      cases pair : w₁.pairOf part with
      | error k =>
        rw [pair] at written
        obtain ⟨f, w', failed, kind, after⟩ := written
        rw [bindError failed, ← kind]
        exact .following [] before (.fails after)
      | ok p =>
        obtain ⟨key, value⟩ := p
        rw [pair] at written
        obtain ⟨done, hashable, after⟩ := written
        rw [bindOk done]
        have sound'' := Table.soundWritten sound' hashable value
        rw [← after.dictionary] at sound''
        have later := ih (index + 1) (after.known (before.known known)) sound''
        exact .following [] before (.following [(key, value)] after later)

omit [Calls] ends in
theorem mappingsAsked {k : Kind} (mappings : k.under .mapping = true) (name : String) :
    (Misuse.ofKind k name).kind = .wrongType := by
  unfold Misuse.ofKind
  rw [if_pos mappings]
  split <;> rfl

omit ends in
theorem forEntriesParts (t : Taker) (target : Value) {source : Value} {w : World}
    (plain : w.Plain) (other : ¬ source.isMapping = true) :
    source.forEntries t target.setItem w = visitAll source (writePart t target) w ∨
      ∃ f, source.forEntries t target.setItem w = .error f w ∧ f.kind = .wrongType ∧
        w.elements? source = none := by
  unfold Value.forEntries
  rw [bindOk (keysPlain plain)]
  cases source with
  | kind k =>
    refine .inr ?_
    by_cases mappings : k.under .mapping = true
    · simp only [mappings, if_true]
      exact ⟨_, rfl, mappingsAsked mappings "keys", rfl⟩
    · simp only [mappings]
      exact ⟨_, rfl, rfl, rfl⟩
  | dictionary r | parameters m | attributes tag shared backing => exact absurd rfl other
  | _ => exact .inl rfl

theorem updatePours (t : Taker) (source : Value) {w : World} (plain : w.Plain)
    (known : d < w.dictionaries.length) (sound : (w.dictionary d).Sound) :
    Pours d w (w.offered d source) (Value.update t target source w) := by
  unfold World.offered Value.update
  by_cases mapping : source.isMapping = true
  · rw [if_pos mapping, forEntriesMapping plain mapping]
    exact pairsPour ends known sound _ _
  · rw [if_neg mapping]
    rcases forEntriesParts t target plain mapping with parts | ⟨f, failed, kind, nothing⟩
    · rw [parts]
      unfold visitAll ahead
      simp only [bind_assoc]
      rw [worldBind]
      cases w.elements? source with
      | none => exact ⟨rfl, .same d w⟩
      | some vs => exact partsPour ends t source _ 0 vs known sound
    · rw [failed, nothing, ← kind]
      exact .fails (.same d w)

end

end FlowDouble
