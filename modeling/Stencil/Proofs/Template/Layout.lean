/-
Texts with tags between them.  What is shown of such a layout is decided tag by
tag: what stands in its place, and whether it takes the white space of the text
before it and of the text after it.
-/
import Mathlib.Data.List.Basic
import Stencil.Proofs.Text.Runs
import Stencil.Template.Segment

namespace Stencil.Template

open Text

/-- A text, and what is left of it without the line break that it ends in. -/
inductive FinalBreak : List Char → List Char → Prop where
  | none {cs : List Char} (h : ∀ c ∈ cs.getLast?, c ≠ '\n' ∧ c ≠ '\r') :
      FinalBreak cs cs
  | lineFeed {cs : List Char} (h : cs.getLast? ≠ some '\r') :
      FinalBreak (cs ++ ['\n']) cs
  | carriageReturn (cs : List Char) : FinalBreak (cs ++ ['\r']) cs
  | both (cs : List Char) : FinalBreak (cs ++ ['\r', '\n']) cs

namespace FinalBreak

theorem dropFinalBreak_eq {cs kept : List Char} (h : FinalBreak cs kept) :
    Segment.dropFinalBreak cs = kept := by
  cases h with
  | none h =>
      have hfeed : cs.getLast? ≠ some '\n' := fun heq => (h '\n' heq).1 rfl
      have hreturn : cs.getLast? ≠ some '\r' := fun heq => (h '\r' heq).2 rfl
      simp [Segment.dropFinalBreak, hfeed, hreturn]
  | lineFeed h => simp [Segment.dropFinalBreak, h]
  | carriageReturn => simp [Segment.dropFinalBreak]
  | both =>
      rw [show kept ++ ['\r', '\n'] = (kept ++ ['\r']) ++ ['\n'] by simp]
      simp only [Segment.dropFinalBreak, List.getLast?_concat,
        List.dropLast_concat, if_true]

theorem exists_of_text (cs : List Char) : ∃ kept, FinalBreak cs kept := by
  rcases List.eq_nil_or_concat' cs with rfl | ⟨init, c, rfl⟩
  · exact ⟨[], .none (by simp)⟩
  · by_cases hreturn : c = '\r'
    · exact ⟨init, hreturn ▸ .carriageReturn init⟩
    · by_cases hfeed : c = '\n'
      · subst hfeed
        rcases List.eq_nil_or_concat' init with rfl | ⟨inner, d, rfl⟩
        · exact ⟨[], .lineFeed (by simp)⟩
        · by_cases hd : d = '\r'
          · refine ⟨inner, ?_⟩
            rw [hd, List.append_assoc]
            exact .both inner
          · exact ⟨_, .lineFeed (by simpa using hd)⟩
      · exact ⟨_, .none (by simp [hfeed, hreturn])⟩

theorem mem {cs kept : List Char} (h : FinalBreak cs kept) {c : Char}
    (hc : c ∈ kept) : c ∈ cs := by
  cases h with
  | none _ => exact hc
  | lineFeed _ => exact List.mem_append_left _ hc
  | carriageReturn => exact List.mem_append_left _ hc
  | both => exact List.mem_append_left _ hc

/-- A final line break belongs to what follows a character that is none. -/
theorem append {cs kept before : List Char} (h : FinalBreak cs kept)
    (hbefore : ∀ c ∈ before.getLast?, c ≠ '\n' ∧ c ≠ '\r') :
    FinalBreak (before ++ cs) (before ++ kept) := by
  have hlast : ∀ {rest : List Char} {c : Char}, rest.getLast? ≠ some c →
      before.getLast? ≠ some c → (before ++ rest).getLast? ≠ some c := by
    intro rest c hrest hbefore
    rw [List.getLast?_append]
    cases hget : rest.getLast? with
    | none => simpa using hbefore
    | some d => simpa [hget] using hrest
  cases h with
  | none h =>
      refine .none fun c hc => ?_
      rw [List.getLast?_append] at hc
      rcases Option.or_eq_some_iff.1 hc with hc | ⟨-, hc⟩
      · exact h c hc
      · exact hbefore c hc
  | lineFeed h =>
      rw [← List.append_assoc]
      exact .lineFeed (hlast h fun heq => (hbefore _ heq).2 rfl)
  | carriageReturn =>
      rw [← List.append_assoc]
      exact .carriageReturn _
  | both =>
      rw [← List.append_assoc]
      exact .both _

end FinalBreak

/-- A text without white space at its start or at its end, where asked for. -/
def trimText (start stop : Bool) (cs : List Char) : List Char :=
  let rest := if start then cs.dropWhile isBlank else cs
  if stop then trimBlanksEnd rest else rest

theorem trimText_true (start : Bool) (cs : List Char) :
    trimText start true cs = trimBlanksEnd (trimText start false cs) := by
  simp [trimText]

theorem mem_of_mem_trimText {start stop : Bool} {cs : List Char} {c : Char}
    (h : c ∈ trimText start stop cs) : c ∈ cs := by
  have hstart : ∀ {d}, d ∈ trimText start false cs → d ∈ cs := by
    intro d hd
    cases start with
    | false => exact hd
    | true => exact (List.dropWhile_suffix isBlank).subset hd
  cases stop with
  | false => exact hstart h
  | true =>
      rw [trimText_true, trimBlanksEnd_eq_rdropWhile] at h
      exact hstart ((List.rdropWhile_prefix isBlank _).subset h)

/-- What stands in the place of tags, and which white space they take. -/
structure Display (α : Type) where
  trimsBefore : α → Bool
  trimsAfter : α → Bool
  shown : α → List Char

/-- Texts with tags between them: every tag with the text before it, and the
text after the last one. -/
structure Layout (α : Type) where
  pieces : List (List Char × α)
  last : List Char

namespace Layout

variable {α : Type}

def tags (t : Layout α) : List α :=
  t.pieces.map Prod.snd

/-- No text holds an opening brace, with which all tags begin. -/
def Plain (t : Layout α) : Prop :=
  (∀ piece ∈ t.pieces, '{' ∉ piece.1) ∧ '{' ∉ t.last

/-- The texts and tags as they are written. -/
def chars (spell : α → List Char) (t : Layout α) : List Char :=
  (t.pieces.flatMap fun piece => piece.1 ++ spell piece.2) ++ t.last

theorem chars_cons (spell : α → List Char) (text : List Char) (tag : α)
    (rest : List (List Char × α)) (last : List Char) :
    chars spell ⟨(text, tag) :: rest, last⟩ =
      text ++ (spell tag ++ chars spell ⟨rest, last⟩) := by
  simp [chars]

/-- What is shown after a tag that takes the white space after it, or that does
not. -/
def displayFrom (d : Display α) (last : List Char) :
    Bool → List (List Char × α) → List Char
  | trim, [] => trimText trim false last
  | trim, (text, tag) :: rest =>
      trimText trim (d.trimsBefore tag) text ++ d.shown tag ++
        displayFrom d last (d.trimsAfter tag) rest

def display (d : Display α) (t : Layout α) : List Char :=
  displayFrom d t.last false t.pieces

end Layout

end Stencil.Template
