import FlowDouble.Snapshot.Text
import Mathlib.Data.List.Infix
/-! The text of an explained failure, read back. What belongs to a section is indented and headings are
not, so the text tells all its parts, unless one of them breaks a line or a key ends early. -/
namespace FlowDouble.Sections

def contextTitle : String := "Error Context:"

def debugTitle : String := "Debug Information:"

def suggestionsTitle : String := "Did you mean?"

def linesOf (text : String) : List String := (text.toList.splitOn '\n').map String.ofList

def pairIn : List Char → Option (List Char × List Char)
  | [] => none
  | c :: cs =>
    if [':', ' '].isPrefixOf (c :: cs) then some ([], cs.drop 1)
    else (pairIn cs).map fun e => (c :: e.1, e.2)

def pairOf (cs : List Char) : Option (String × String) :=
  (pairIn cs).map fun e => (String.ofList e.1, String.ofList e.2)

def indented (line : String) : Bool := line.toList.take 2 == [' ', ' ']

def sectionOf (title : String) (ls : List String) : List String × List String :=
  if ls.take 2 = ["", title] then
    ((ls.drop 2).takeWhile indented, (ls.drop 2).dropWhile indented)
  else ([], ls)

def read? (text : String) : Option Sections :=
  match linesOf text with
  | [] => none
  | header :: rest => do
    let context := sectionOf contextTitle rest
    let debug := sectionOf debugTitle context.2
    let suggestions := sectionOf suggestionsTitle debug.2
    let (kind, message) ← pairOf header.toList
    return {
      kind
      message
      context := ← context.1.mapM fun line => pairOf (line.toList.drop 2)
      debug := ← debug.1.mapM fun line => pairOf (line.toList.drop 2)
      suggestions := suggestions.1.map fun line => String.ofList (line.toList.drop 4) }

def OneLine (s : String) : Prop := '\n' ∉ s.toList

instance (s : String) : Decidable (OneLine s) := inferInstanceAs (Decidable ('\n' ∉ s.toList))

structure PlainKey (s : String) : Prop where
  line : OneLine s
  whole : ¬ [':', ' '] <:+: s.toList

structure Plain (s : Sections) : Prop where
  message : OneLine s.message
  context : ∀ e ∈ s.context, PlainKey e.1 ∧ OneLine e.2
  debug : ∀ e ∈ s.debug, PlainKey e.1 ∧ OneLine e.2
  suggestions : ∀ x ∈ s.suggestions, OneLine x

theorem pairRead {key : List Char} (whole : ¬ [':', ' '] <:+: key) (value : List Char) :
    pairIn (key ++ ':' :: ' ' :: value) = some (key, value) := by
  induction key with
  | nil => rfl
  | cons c key ih =>
    have later : ¬ [':', ' '] <:+: key :=
      fun inside => whole (inside.trans (List.infix_cons List.infix_rfl))
    have here : [':', ' '].isPrefixOf (c :: (key ++ ':' :: ' ' :: value)) = false := by
      cases key with
      | nil => simp [List.isPrefixOf]
      | cons d key =>
        refine Bool.eq_false_iff.mpr fun starts => whole ?_
        simp only [List.isPrefixOf, List.cons_append, Bool.and_eq_true, beq_iff_eq] at starts
        obtain ⟨rfl, rfl, _⟩ := starts
        exact ⟨[], key, rfl⟩
    rw [List.cons_append, pairIn, here, ih later]
    rfl

variable {s : Sections} {title : String} {body rest : List String}

theorem titledSome (own : body ≠ []) : titled title body = "" :: title :: body := by
  cases body with
  | nil => contradiction
  | cons => rfl

structure Ahead (title : String) (rest : List String) : Prop where
  other : rest.take 2 ≠ ["", title]
  ended : ∀ l ∈ rest.head?, indented l = false

theorem sectionRead (lines : ∀ l ∈ body, indented l = true) (ahead : Ahead title rest) :
    sectionOf title (titled title body ++ rest) = (body, rest) := by
  by_cases none : body = []
  · rw [none, sectionOf]
    exact if_neg ahead.other
  · have own : (titled title body ++ rest).take 2 = ["", title] := by
      rw [titledSome none]
      rfl
    have after : (titled title body ++ rest).drop 2 = body ++ rest := by
      rw [titledSome none]
      rfl
    have stops : rest.takeWhile indented = [] ∧ rest.dropWhile indented = rest := by
      cases rest with
      | nil => exact ⟨rfl, rfl⟩
      | cons l rest =>
        have plain := ahead.ended l rfl
        exact ⟨by rw [List.takeWhile_cons, plain]; rfl, by rw [List.dropWhile_cons, plain]; rfl⟩
    unfold sectionOf
    rw [if_pos own, after, List.takeWhile_append_of_pos lines, List.dropWhile_append_of_pos lines,
      stops.1, stops.2, List.append_nil]

theorem entryIndented (e : String × String) : indented (entryLine e) = true := by
  simp [indented, entryLine]

theorem suggestionIndented (x : String) : indented (suggestionLine x) = true := by
  simp [indented, suggestionLine]

theorem entryRead {e : String × String} (key : PlainKey e.1) :
    pairOf ((entryLine e).toList.drop 2) = some e := by
  have inner : (entryLine e).toList.drop 2 = e.1.toList ++ ':' :: ' ' :: e.2.toList := by
    simp [entryLine]
  rw [inner, pairOf, pairRead key.whole]
  simp

theorem entriesRead {es : List (String × String)} (keys : ∀ e ∈ es, PlainKey e.1) :
    (es.map entryLine).mapM (fun line => pairOf (line.toList.drop 2)) = some es := by
  induction es with
  | nil => rfl
  | cons e es ih =>
    rw [List.map_cons, List.mapM_cons, entryRead (keys e List.mem_cons_self),
      ih fun e mem => keys e (List.mem_cons_of_mem _ mem)]
    rfl

theorem suggestionsRead (xs : List String) :
    (xs.map suggestionLine).map (fun line => String.ofList (line.toList.drop 4)) = xs := by
  induction xs with
  | nil => rfl
  | cons x xs ih =>
    have inner : (suggestionLine x).toList.drop 4 = x.toList := by simp [suggestionLine]
    rw [List.map_cons, List.map_cons, ih, inner, String.ofList_toList]

theorem headerRead (named : PlainKey s.kind) :
    pairOf (s.kind ++ ": " ++ s.message).toList = some (s.kind, s.message) := by
  have whole : (s.kind ++ ": " ++ s.message).toList =
      s.kind.toList ++ ':' :: ' ' :: s.message.toList := by simp
  rw [whole, pairOf, pairRead named.whole]
  simp

theorem oneLineAppend {a b : String} : OneLine (a ++ b) ↔ OneLine a ∧ OneLine b := by
  simp [OneLine]

theorem titledLines (title : String) (oneLine : OneLine title) (lines : ∀ l ∈ body, OneLine l) :
    ∀ l ∈ titled title body, OneLine l := by
  cases body with
  | nil => exact nofun
  | cons l body =>
    simp only [titled, List.forall_mem_cons] at lines ⊢
    exact ⟨by decide, oneLine, lines⟩

theorem entryLines {es : List (String × String)} (plain : ∀ e ∈ es, PlainKey e.1 ∧ OneLine e.2) :
    ∀ l ∈ es.map entryLine, OneLine l := by
  simp only [List.forall_mem_map, entryLine, oneLineAppend]
  exact fun e mem => ⟨⟨⟨by decide, (plain e mem).1.line⟩, by decide⟩, (plain e mem).2⟩

theorem suggestionLines {xs : List String} (plain : ∀ x ∈ xs, OneLine x) :
    ∀ l ∈ xs.map suggestionLine, OneLine l := by
  simp only [List.forall_mem_map, suggestionLine, oneLineAppend]
  exact fun x mem => ⟨by decide, plain x mem⟩

theorem linesRead (named : PlainKey s.kind) (plain : s.Plain) : linesOf s.render = s.lines := by
  have all : ∀ l ∈ s.lines, OneLine l := by
    simp only [lines, List.forall_mem_cons, List.forall_mem_append, oneLineAppend]
    exact ⟨⟨⟨named.line, by decide⟩, plain.message⟩,
      ⟨titledLines _ (by decide) (entryLines plain.context),
        titledLines _ (by decide) (entryLines plain.debug)⟩,
      titledLines _ (by decide) (suggestionLines plain.suggestions)⟩
  have newline : "\n".toList = ['\n'] := by decide
  unfold linesOf render
  rw [String.toList_intercalate, newline, List.splitOn_intercalate]
  · simp
  · simpa [OneLine] using all
  · simp [lines]

theorem nothingAhead (title : String) : Ahead title [] := ⟨nofun, nofun⟩

theorem titledAhead {next : String} (apart : next ≠ title) (ahead : Ahead title rest) :
    Ahead title (titled next body ++ rest) := by
  cases body with
  | nil => exact ahead
  | cons l body =>
    refine ⟨fun same => apart ?_, fun l mem => ?_⟩
    · simpa [titled] using same
    · obtain rfl : "" = l := by simpa [titled] using mem
      decide

theorem textRead (named : PlainKey s.kind) (plain : s.Plain) : read? s.render = some s := by
  have header := headerRead named
  have context := entriesRead fun e mem => (plain.context e mem).1
  have debug := entriesRead fun e mem => (plain.debug e mem).1
  have suggestions := suggestionsRead s.suggestions
  have entries (es : List (String × String)) : ∀ l ∈ es.map entryLine, indented l = true :=
    List.forall_mem_map.mpr fun e _ => entryIndented e
  have hints : ∀ l ∈ s.suggestions.map suggestionLine, indented l = true :=
    List.forall_mem_map.mpr fun x _ => suggestionIndented x
  have last : sectionOf suggestionsTitle
      (titled suggestionsTitle (s.suggestions.map suggestionLine) ++ []) = _ :=
    sectionRead hints (nothingAhead _)
  have middle : sectionOf debugTitle (titled debugTitle (s.debug.map entryLine) ++
      (titled suggestionsTitle (s.suggestions.map suggestionLine) ++ [])) = _ :=
    sectionRead (entries s.debug) (titledAhead (by decide) (nothingAhead _))
  have first : sectionOf contextTitle (titled contextTitle (s.context.map entryLine) ++
      (titled debugTitle (s.debug.map entryLine) ++
        (titled suggestionsTitle (s.suggestions.map suggestionLine) ++ []))) = _ :=
    sectionRead (entries s.context)
      (titledAhead (by decide) (titledAhead (by decide) (nothingAhead _)))
  have whole : s.lines = (s.kind ++ ": " ++ s.message) ::
      (titled contextTitle (s.context.map entryLine) ++ (titled debugTitle (s.debug.map entryLine) ++
        (titled suggestionsTitle (s.suggestions.map suggestionLine) ++ []))) := by
    rw [List.append_nil, ← List.append_assoc]
    rfl
  unfold read?
  rw [linesRead named plain, whole]
  dsimp only
  rw [first, middle, last, header, context, debug, suggestions]
  rfl

theorem renderInjective {t : Sections} (named : PlainKey s.kind) (plain : s.Plain)
    (named' : PlainKey t.kind) (plain' : t.Plain) (same : s.render = t.render) : s = t := by
  have read := textRead named plain
  rw [same, textRead named' plain'] at read
  exact (Option.some.inj read).symm

def headings : List String := [contextTitle, debugTitle, suggestionsTitle]

def headed {α : Type} (title : String) (parts : List α) : List String :=
  if parts.isEmpty then [] else [title]

theorem titledHeadings {α : Type} {line : α → String} (known : title ∈ headings)
    (inset : ∀ x, indented (line x) = true) (parts : List α) :
    (titled title (parts.map line)).filter (· ∈ headings) = headed title parts := by
  have flush : ∀ h ∈ headings, indented h = false := by decide
  have blank : "" ∉ headings := by decide
  have none : (parts.map line).filter (· ∈ headings) = [] := by
    refine List.filter_eq_nil_iff.mpr (List.forall_mem_map.mpr fun x _ heading => ?_)
    have out := flush _ (of_decide_eq_true heading)
    rw [inset x] at out
    contradiction
  by_cases empty : parts = []
  · rw [empty]
    rfl
  · have some : parts.map line ≠ [] := by simpa using empty
    have heads : headed title parts = [title] := if_neg (by simpa using empty)
    rw [titledSome some, heads, List.filter_cons_of_neg (by simpa using blank),
      List.filter_cons_of_pos (by simpa using known), none]

theorem headingsRead (named : PlainKey s.kind) (plain : s.Plain) :
    (linesOf s.render).filter (· ∈ headings) =
      headed contextTitle s.context ++ headed debugTitle s.debug ++
        headed suggestionsTitle s.suggestions := by
  have header : s.kind ++ ": " ++ s.message ∉ headings := by
    intro heading
    have unpaired : ∀ h ∈ headings, pairOf h.toList = none := by decide
    have paired := headerRead named
    rw [unpaired _ heading] at paired
    contradiction
  rw [linesRead named plain]
  unfold lines
  rw [List.filter_cons_of_neg (by simpa using header), List.filter_append, List.filter_append]
  congr 1
  · congr 1
    · exact titledHeadings (by decide) entryIndented s.context
    · exact titledHeadings (by decide) entryIndented s.debug
  · exact titledHeadings (by decide) suggestionIndented s.suggestions

theorem kindNamePlain (k : Kind) : PlainKey k.name := by
  have names : ∀ k : Kind, OneLine k.name ∧ ¬ [':', ' '] <:+: k.name.toList := by
    intro k
    cases k <;> decide
  exact ⟨(names k).1, (names k).2⟩

end FlowDouble.Sections
