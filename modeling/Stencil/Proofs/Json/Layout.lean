/-
One writer for all layouts.  The compact and the indented text differ only in
the white space around items and after colons, so what is proved of a writer
with such white space holds of both.
-/
import Stencil.Json.Reader
import Stencil.Json.Writer

namespace Stencil.Json

/-- White space before the items and the end of a container, by its level, and
after the name of a field. -/
structure Layout where
  gap : Nat → List Char
  colon : List Char
  gap_space : ∀ level, ∀ c ∈ gap level, isSpace c = true
  colon_space : ∀ c ∈ colon, isSpace c = true

namespace Layout

/-- No white space at all. -/
def compact : Layout where
  gap _ := []
  colon := []
  gap_space _ := List.forall_mem_nil _
  colon_space := List.forall_mem_nil _

theorem isSpace_of_mem_newLine {level : Nat} {c : Char}
    (hc : c ∈ newLine level) :
    isSpace c = true := by
  rcases List.mem_cons.1 hc with rfl | hc
  · rfl
  · rw [List.eq_of_mem_replicate hc]
    rfl

/-- A line for every item, indented by its level. -/
def indented : Layout where
  gap := newLine
  colon := [' ']
  gap_space _ _ hc := isSpace_of_mem_newLine hc
  colon_space _ hc := by
    rw [List.mem_singleton.1 hc]
    rfl

end Layout

mutual

/-- The text of a value in a layout. -/
def laidOut (L : Layout) (level : Nat) : Json → List Char
  | array [] => ['[', ']']
  | array (item :: rest) =>
      '[' :: (L.gap (level + 1) ++ laidOut L (level + 1) item ++
        laidOutItems L (level + 1) rest ++ L.gap level ++ [']'])
  | object [] => ['\x7b', '\x7d']
  | object ((name, value) :: rest) =>
      '\x7b' :: (L.gap (level + 1) ++ quote name ++
        ':' :: (L.colon ++ laidOut L (level + 1) value) ++
        laidOutFields L (level + 1) rest ++ L.gap level ++ ['\x7d'])
  | value => scalarText value

/-- The further items, each after a comma. -/
def laidOutItems (L : Layout) (level : Nat) : List Json → List Char
  | [] => []
  | item :: rest =>
      ',' :: (L.gap level ++ laidOut L level item ++ laidOutItems L level rest)

/-- The further fields, each after a comma. -/
def laidOutFields (L : Layout) (level : Nat) : List (String × Json) → List Char
  | [] => []
  | (name, value) :: rest =>
      ',' :: (L.gap level ++ quote name ++
        ':' :: (L.colon ++ laidOut L level value) ++
        laidOutFields L level rest)

end

mutual

theorem compactChars_eq : ∀ (level : Nat) (j : Json),
    compactChars j = laidOut .compact level j
  | _, array [] => rfl
  | level, array (item :: rest) => by
      have hitems := compactItems_eq (level + 1) (item :: rest)
        (List.cons_ne_nil item rest)
      rw [laidOutItems, List.cons.injEq] at hitems
      rw [compactChars, hitems.2, laidOut]
      simp [Layout.compact]
  | _, object [] => rfl
  | level, object ((name, value) :: rest) => by
      have hfields := compactFields_eq (level + 1) ((name, value) :: rest)
        (List.cons_ne_nil _ rest)
      rw [laidOutFields, List.cons.injEq] at hfields
      rw [compactChars, hfields.2, laidOut]
      simp [Layout.compact]
  | _, null => rfl
  | _, bool _ => rfl
  | _, integer _ => rfl
  | _, number _ => rfl
  | _, string _ => rfl

theorem compactItems_eq : ∀ (level : Nat) (items : List Json), items ≠ [] →
    ',' :: compactItems items = laidOutItems .compact level items
  | _, [], h => absurd rfl h
  | level, [item], _ => by
      rw [compactItems, compactChars_eq level item, laidOutItems, laidOutItems,
        List.append_nil]
      rfl
  | level, item :: next :: rest, _ => by
      have hrest := compactItems_eq level (next :: rest)
        (List.cons_ne_nil next rest)
      rw [compactItems, compactChars_eq level item, hrest, laidOutItems]
      · rfl
      · exact List.cons_ne_nil next rest

theorem compactFields_eq :
    ∀ (level : Nat) (fields : List (String × Json)), fields ≠ [] →
    ',' :: compactFields fields = laidOutFields .compact level fields
  | _, [], h => absurd rfl h
  | level, [(name, value)], _ => by
      rw [compactFields, compactChars_eq level value, laidOutFields,
        laidOutFields, List.append_nil]
      rfl
  | level, (name, value) :: next :: rest, _ => by
      have hrest := compactFields_eq level (next :: rest)
        (List.cons_ne_nil next rest)
      rw [compactFields, compactChars_eq level value, hrest, laidOutFields]
      · rfl
      · exact List.cons_ne_nil next rest

end

mutual

theorem indentedChars_eq : ∀ (level : Nat) (j : Json),
    indentedChars level j = laidOut .indented level j
  | _, array [] => rfl
  | level, array (item :: rest) => by
      rw [indentedChars, indentedChars_eq (level + 1) item,
        indentedItems_eq (level + 1) rest, laidOut]
      simp [Layout.indented]
  | _, object [] => rfl
  | level, object ((name, value) :: rest) => by
      rw [indentedChars, indentedChars_eq (level + 1) value,
        indentedFields_eq (level + 1) rest, laidOut]
      simp [Layout.indented]
  | _, null => rfl
  | _, bool _ => rfl
  | _, integer _ => rfl
  | _, number _ => rfl
  | _, string _ => rfl

theorem indentedItems_eq : ∀ (level : Nat) (items : List Json),
    indentedItems level items = laidOutItems .indented level items
  | _, [] => rfl
  | level, item :: rest => by
      rw [indentedItems, indentedChars_eq level item,
        indentedItems_eq level rest, laidOutItems]
      simp [Layout.indented]

theorem indentedFields_eq : ∀ (level : Nat) (fields : List (String × Json)),
    indentedFields level fields = laidOutFields .indented level fields
  | _, [] => rfl
  | level, (name, value) :: rest => by
      rw [indentedFields, indentedChars_eq level value,
        indentedFields_eq level rest, laidOutFields]
      simp [Layout.indented]

end

end Stencil.Json
