/-
Items written in one text.  Without a line feed they stand between commas and
with one they stand on lines.  Both ways read back the items that were written,
whatever white space stands around them.
-/
import Stencil.Input.Coercion
import Stencil.Proofs.Text.Pieces

namespace Stencil

open Text

/-- No white space stands at either end. -/
def IsTrimmed (item : String) : Prop :=
  Stops isBlank item.toList ∧ Stops isBlank item.toList.reverse

instance (item : String) : Decidable (IsTrimmed item) :=
  inferInstanceAs
    (Decidable (Stops isBlank item.toList ∧ Stops isBlank item.toList.reverse))

/-- An item with characters of a class around it. -/
def PaddedBy (p : Char → Bool) (item : String) (written : List Char) : Prop :=
  ∃ before after, written = before ++ (item.toList ++ after) ∧
    (∀ c ∈ before, p c = true) ∧
    ∀ c ∈ after, p c = true

/-- White space within a line. -/
def isInlineBlank (c : Char) : Bool :=
  isBlank c && c != '\n'

/-- The pieces of a text in which items stand between commas. -/
inductive CommaPieces : List String → List (List Char) → Prop
  | nil : CommaPieces [] []
  | cons {item : String} {piece : List Char} {items : List String}
      {pieces : List (List Char)} :
      IsTrimmed item → ',' ∉ item.toList → '\n' ∉ item.toList →
      PaddedBy isInlineBlank item piece →
      CommaPieces items pieces → CommaPieces (item :: items) (piece :: pieces)

/-- The lines of a text in which every item has its own and any others are
blank.  The white space in a line may hold further line feeds. -/
inductive ItemLines : List String → List (List Char) → Prop
  | nil : ItemLines [] []
  | blank {line : List Char} {items : List String} {lines : List (List Char)} :
      (∀ c ∈ line, isBlank c = true) → ItemLines items lines →
        ItemLines items (line :: lines)
  | item {item : String} {line : List Char} {items : List String}
      {lines : List (List Char)} :
      item ≠ "" → IsTrimmed item → '\n' ∉ item.toList →
      PaddedBy isBlank item line →
      ItemLines items lines → ItemLines (item :: items) (line :: lines)

variable {item : String} {cs piece line before : List Char}
  {items : List String} {pieces lines : List (List Char)}

theorem isBlank_of_isInlineBlank {c : Char} (hc : isInlineBlank c = true) :
    isBlank c = true ∧ c ≠ '\n' := by
  simpa [isInlineBlank] using hc

theorem PaddedBy.front {p : Char → Bool} (before : List Char)
    (hbefore : ∀ c ∈ before, p c = true) :
    PaddedBy p item (before ++ item.toList) := by
  refine ⟨before, [], ?_, hbefore, List.forall_mem_nil _⟩
  rw [List.append_nil]

theorem IsTrimmed.trimBlanks_eq {p : Char → Bool}
    (hp : ∀ c, p c = true → isBlank c = true) (htrimmed : IsTrimmed item)
    (hpadded : PaddedBy p item piece) :
    trimBlanks piece = item.toList := by
  obtain ⟨before, after, rfl, hbefore, hafter⟩ := hpadded
  exact trimWhere_pad (fun c hc => hp c (hbefore c hc))
    (fun c hc => hp c (hafter c hc))
    htrimmed.1 htrimmed.2

theorem trimBlanks_of_blank (hcs : ∀ c ∈ cs, isBlank c = true) :
    trimBlanks cs = [] := by
  rw [trimBlanks, trimWhere, List.dropWhile_eq_nil_iff.2 hcs]
  rfl

theorem mem_of_mem_trimBlanks {c : Char} (hc : c ∈ trimBlanks cs) : c ∈ cs := by
  obtain ⟨before, after, hcs, -⟩ := exists_trimWhere isBlank cs
  rw [hcs]
  exact List.mem_append_right before (List.mem_append_left after hc)

theorem isTrimmed_trimBlanks (cs : List Char) :
    IsTrimmed (String.ofList (trimBlanks cs)) := by
  obtain ⟨-, -, -, -, -, hhead⟩ := exists_trimWhere isBlank cs
  rw [IsTrimmed, String.toList_ofList]
  exact ⟨hhead, stops_reverse_trimWhere isBlank cs⟩

section Commas

theorem CommaPieces.not_mem (h : CommaPieces items pieces) :
    ∀ piece ∈ pieces, ',' ∉ piece ∧ '\n' ∉ piece := by
  induction h with
  | nil => simp
  | cons _ hcomma hline hpadded _ ih =>
      obtain ⟨before, after, rfl, hbefore, hafter⟩ := hpadded
      have hblank : isInlineBlank ',' = false ∧ isInlineBlank '\n' = false := by
        decide
      rw [List.forall_mem_cons]
      refine ⟨?_, ih⟩
      simp only [List.mem_append, not_or]
      exact ⟨⟨not_mem_of_class hbefore hblank.1, hcomma,
        not_mem_of_class hafter hblank.1⟩,
        not_mem_of_class hbefore hblank.2, hline,
        not_mem_of_class hafter hblank.2⟩

theorem CommaPieces.map_trimBlanks (h : CommaPieces items pieces) :
    pieces.map trimBlanks = items.map String.toList := by
  induction h with
  | nil => rfl
  | cons htrimmed _ _ hpadded _ ih =>
      have hpiece :=
        htrimmed.trimBlanks_eq
          (fun c hc => (isBlank_of_isInlineBlank hc).1) hpadded
      rw [List.map_cons, List.map_cons, hpiece, ih]

theorem itemsOfText_commas {text : String} (htext : '\n' ∉ text.toList) :
    Json.itemsOfText text =
      ((text.toList.splitOn ',').map trimBlanks).map String.ofList := by
  rw [Json.itemsOfText, if_neg (by simpa using htext), splitString,
    List.map_map, List.map_map]
  apply List.map_congr_left
  intro piece _
  simp [trim]

theorem CommaPieces.itemsOfText_eq (h : CommaPieces items pieces)
    (hne : items ≠ []) :
    Json.itemsOfText (String.ofList (List.intercalate [','] pieces)) =
      items := by
  have hpieces : pieces ≠ [] := by
    rintro rfl
    cases h
    contradiction
  have hline : '\n' ∉ List.intercalate [','] pieces := by
    intro hmem
    rcases mem_intercalate hmem with hcomma | ⟨piece, hpiece, hfeed⟩
    · contradiction
    · exact (h.not_mem piece hpiece).2 hfeed
  rw [itemsOfText_commas (by rwa [String.toList_ofList]), String.toList_ofList,
    List.splitOn_intercalate ','
      (fun piece hpiece => (h.not_mem piece hpiece).1) hpieces,
    h.map_trimBlanks, List.map_map]
  simp

end Commas

section Lines

/-- The items on the lines of a text. -/
def lineItems (cs : List Char) : List (List Char) :=
  ((cs.splitOn '\n').map trimBlanks).filter (· ≠ [])

theorem lineItems_append (cs rest : List Char) :
    lineItems (cs ++ '\n' :: rest) = lineItems cs ++ lineItems rest := by
  simp [lineItems, List.splitOn_append_cons_self]

theorem lineItems_of_blank (hcs : ∀ c ∈ cs, isBlank c = true) :
    lineItems cs = [] := by
  apply List.filter_eq_nil_iff.2
  intro trimmed htrimmed
  obtain ⟨piece, hpiece, rfl⟩ := List.mem_map.1 htrimmed
  have hblank : ∀ c ∈ piece, isBlank c = true := fun c hc =>
    hcs c (mem_of_mem_splitOn hpiece c hc).1
  simp [trimBlanks_of_blank hblank]

/-- White space in front of a text adds no item. -/
theorem lineItems_blank_append (hbefore : ∀ c ∈ before, isBlank c = true)
    (cs : List Char) :
    lineItems (before ++ cs) = lineItems cs := by
  induction before with
  | nil => rfl
  | cons c before ih =>
      rw [List.forall_mem_cons] at hbefore
      by_cases hc : c = '\n'
      · have hcut := lineItems_append [] (before ++ cs)
        rw [List.nil_append, lineItems_of_blank (List.forall_mem_nil _),
          List.nil_append] at hcut
        rw [hc, List.cons_append, hcut, ih hbefore.2]
      · obtain ⟨piece, pieces, hpieces, hcons⟩ :=
          exists_splitOn_cons hc (before ++ cs)
        have htrim : trimBlanks (c :: piece) = trimBlanks piece := by
          rw [trimBlanks, trimWhere, List.dropWhile_cons_of_pos hbefore.1]
          rfl
        rw [← ih hbefore.2, List.cons_append, lineItems, lineItems, hcons,
          hpieces, List.map_cons, List.map_cons, htrim]

/-- An item with white space around it is one item, also if the white space
holds line feeds. -/
theorem lineItems_padded (hne : item ≠ "") (htrimmed : IsTrimmed item)
    (hline : '\n' ∉ item.toList) (hpadded : PaddedBy isBlank item line) :
    lineItems line = [item.toList] := by
  obtain ⟨before, after, rfl, hbefore, hafter⟩ := hpadded
  rw [lineItems_blank_append hbefore]
  have hsingle : ∀ inner, (∀ c ∈ inner, isBlank c = true) → '\n' ∉ inner →
      lineItems (item.toList ++ inner) = [item.toList] := by
    intro inner hinner hfeed
    have htrim := htrimmed.trimBlanks_eq (fun _ hc => hc)
      ⟨[], inner, rfl, List.forall_mem_nil _, hinner⟩
    have hmem : '\n' ∉ item.toList ++ inner := by
      rw [List.mem_append, not_or]
      exact ⟨hline, hfeed⟩
    rw [List.nil_append] at htrim
    rw [lineItems, List.splitOn_eq_singleton hmem, List.map_singleton, htrim]
    simpa using hne
  by_cases hfeed : '\n' ∈ after
  · -- the item ends at the first line feed, and what follows is blank
    obtain ⟨inner, outer, rfl, hinner⟩ := List.eq_append_cons_of_mem hfeed
    have hblank := List.forall_mem_append.1 hafter
    rw [← List.append_assoc, lineItems_append, hsingle inner hblank.1 hinner,
      lineItems_of_blank (List.forall_mem_cons.1 hblank.2).2, List.append_nil]
  · exact hsingle after hafter hfeed

theorem lineItems_intercalate_cons (line : List Char)
    (lines : List (List Char)) :
    lineItems (List.intercalate ['\n'] (line :: lines)) =
      lineItems line ++ lineItems (List.intercalate ['\n'] lines) := by
  cases lines with
  | nil => simp [lineItems_of_blank]
  | cons next lines =>
      rw [List.intercalate_cons_cons, List.append_assoc, List.singleton_append,
        lineItems_append]

theorem ItemLines.lineItems_eq (h : ItemLines items lines) :
    lineItems (List.intercalate ['\n'] lines) = items.map String.toList := by
  induction h with
  | nil => exact lineItems_of_blank (List.forall_mem_nil _)
  | blank hblank _ ih =>
      rw [lineItems_intercalate_cons, lineItems_of_blank hblank,
        List.nil_append, ih]
  | item hne htrimmed hline hpadded _ ih =>
      rw [lineItems_intercalate_cons,
        lineItems_padded hne htrimmed hline hpadded, ih, List.map_cons,
        List.singleton_append]

theorem itemsOfText_lines {text : String} (htext : '\n' ∈ text.toList) :
    Json.itemsOfText text = (lineItems text.toList).map String.ofList := by
  rw [Json.itemsOfText, if_pos (by simpa using htext), splitString, lineItems]
  generalize text.toList.splitOn '\n' = pieces
  induction pieces with
  | nil => rfl
  | cons piece pieces ih =>
      by_cases hnil : trimBlanks piece = []
      · simpa [trim, hnil] using ih
      · simpa [trim, hnil] using ih

end Lines

/-- Whatever a text holds, its items are trimmed and none holds a line feed. -/
theorem itemsOfText_trimmed (text : String) :
    ∀ item ∈ Json.itemsOfText text, IsTrimmed item ∧ '\n' ∉ item.toList := by
  intro item hitem
  by_cases htext : '\n' ∈ text.toList
  · rw [itemsOfText_lines htext, List.mem_map] at hitem
    obtain ⟨trimmed, htrimmed, rfl⟩ := hitem
    obtain ⟨piece, hpiece, rfl⟩ := List.mem_map.1 (List.mem_filter.1 htrimmed).1
    refine ⟨isTrimmed_trimBlanks piece, ?_⟩
    rw [String.toList_ofList]
    intro hfeed
    exact (mem_of_mem_splitOn hpiece '\n' (mem_of_mem_trimBlanks hfeed)).2 rfl
  · rw [itemsOfText_commas htext, List.map_map, List.mem_map] at hitem
    obtain ⟨piece, hpiece, rfl⟩ := hitem
    refine ⟨isTrimmed_trimBlanks piece, ?_⟩
    intro hfeed
    rw [Function.comp_apply, String.toList_ofList] at hfeed
    exact htext (mem_of_mem_splitOn hpiece '\n' (mem_of_mem_trimBlanks hfeed)).1

namespace Variable

/-- A text is read as the items that were written in it, between commas or on
lines.  Any text yields items without white space around them and without line
feeds: one more than there are commas, or, if it holds a line feed, none that is
empty. -/
theorem coerce_arrayText {v : Variable} (hv : v.type = .array) :
    (∀ items pieces, CommaPieces items pieces → items ≠ [] →
        v.coerce (.string (String.ofList (List.intercalate [','] pieces))) =
          .ok (.array (items.map .string))) ∧
      (∀ items lines, ItemLines items lines →
        '\n' ∈ List.intercalate ['\n'] lines →
        v.coerce (.string (String.ofList (List.intercalate ['\n'] lines))) =
          .ok (.array (items.map .string))) ∧
      ∀ text : String, ∃ items : List String,
        v.coerce (.string text) = .ok (.array (items.map .string)) ∧
          (∀ item ∈ items, IsTrimmed item ∧ '\n' ∉ item.toList) ∧
          ('\n' ∉ text.toList → items.length = text.toList.count ',' + 1) ∧
          ('\n' ∈ text.toList → ∀ item ∈ items, item ≠ "") := by
  have hcoerce : ∀ text, v.coerce (.string text) =
      .ok (.array ((Json.itemsOfText text).map .string)) := by
    intro text
    rw [coerce, hv]
    rfl
  refine ⟨?_, ?_, ?_⟩
  · intro items pieces h hne
    rw [hcoerce, h.itemsOfText_eq hne]
  · intro items lines h hfeed
    rw [hcoerce, itemsOfText_lines (by rwa [String.toList_ofList]),
      String.toList_ofList, h.lineItems_eq, List.map_map]
    simp
  · intro text
    refine ⟨Json.itemsOfText text, hcoerce text,
      itemsOfText_trimmed text, ?_, ?_⟩
    · intro hfeed
      rw [itemsOfText_commas hfeed, List.length_map, List.length_map,
        length_splitOn]
    · intro hfeed item hitem hempty
      rw [itemsOfText_lines hfeed, List.mem_map] at hitem
      obtain ⟨trimmed, htrimmed, rfl⟩ := hitem
      have hne : trimmed ≠ [] := by simpa using (List.mem_filter.1 htrimmed).2
      exact hne (by simpa using hempty)

/-- A variable for a list of words. -/
def tagsVariable : Variable :=
  { name := "tags", type := .array }

/-- The items `a`, nothing and `b` between commas, and the items `a , b` and `c`
on lines with an empty one between them. -/
theorem coerce_arrayText_tags :
    tagsVariable.coerce (.string "a, ,b") =
      .ok (.array [.string "a", .string "", .string "b"]) ∧
      tagsVariable.coerce (.string " a , b\n\n  c") =
        .ok (.array [.string "a , b", .string "c"]) := by
  let commas := [['a'], [' '], ['b']]
  let lines := [[' ', 'a', ' ', ',', ' ', 'b'], [], [' ', ' ', 'c']]
  have hcommas : CommaPieces ["a", "", "b"] commas := by
    apply CommaPieces.cons (by decide) (by decide) (by decide)
      (.front [] (List.forall_mem_nil _))
    apply CommaPieces.cons (by decide) (by decide) (by decide)
      (.front [' '] (forall_mem_of_all rfl))
    apply CommaPieces.cons (by decide) (by decide) (by decide)
      (.front [] (List.forall_mem_nil _))
    exact .nil
  have hlines : ItemLines ["a , b", "c"] lines := by
    apply ItemLines.item (by decide) (by decide) (by decide)
      (.front [' '] (forall_mem_of_all rfl))
    apply ItemLines.blank (List.forall_mem_nil _)
    apply ItemLines.item (by decide) (by decide) (by decide)
      (.front [' ', ' '] (forall_mem_of_all rfl))
    exact .nil
  have hcommaText :
      "a, ,b" = String.ofList (List.intercalate [','] commas) := by decide
  have hlineText : " a , b\n\n  c" =
      String.ofList (List.intercalate ['\n'] lines) := by decide
  have hread := coerce_arrayText (v := tagsVariable) rfl
  rw [hcommaText, hlineText]
  exact ⟨hread.1 _ _ hcommas (List.cons_ne_nil _ _),
    hread.2.1 _ _ hlines (by decide)⟩

end Variable

end Stencil
