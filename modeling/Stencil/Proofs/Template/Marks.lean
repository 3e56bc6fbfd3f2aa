/-
Comments and plain references in a template.  The scanner cuts a template at
its tags; a comment leaves nothing behind, and a tag with one name leaves that
name with its line.
-/
import Stencil.Proofs.Template.Layout
import Stencil.Proofs.Text.Pairs
import Stencil.Rendering

namespace Stencil

namespace Template

open Text

/-- Words that do not stand for a variable: an operator, the literals, and what
is defined in every template. -/
def reservedNames : List String :=
  ["not", "true", "True", "false", "False", "none", "None", "range", "dict",
    "namespace", "debug"]

/-- An identifier that stands for a variable. -/
structure PlainName (name : String) : Prop where
  identifier : ∃ c cs, name.toList = c :: cs ∧ isNameStart c = true ∧
    ∀ d ∈ cs, isNameChar d = true
  not_reserved : name ∉ reservedNames

/-- A tag that holds no code: a comment, or one name between blanks. -/
inductive Mark where
  | comment (body : List Char)
  | reference (name : String)

namespace Mark

def chars : Mark → List Char
  | comment body => '{' :: '#' :: (body ++ ['#', '}'])
  | reference name => '{' :: '{' :: ' ' :: (name.toList ++ [' ', '}', '}'])

/-- A comment ends where the text says, and a name stands for a variable. -/
def Admissible : Mark → Prop
  | comment body => ¬ ['#', '}'] <:+: body
  | reference name => PlainName name

/-- A comment that begins with a hyphen, which is not also its last
character. -/
def trimsBefore : Mark → Bool
  | comment body => body.head? == some '-' && body != ['-']
  | reference _ => false

def trimsAfter : Mark → Bool
  | comment body => body.getLast? == some '-'
  | reference _ => false

end Mark

/-- What the scanner leaves of a template with such tags only. -/
inductive Part where
  | text (chars : List Char)
  | reference (name : String) (line : Nat)

namespace Part

def segment : Part → Segment
  | text cs => .text cs
  | reference name line => .output [⟨.name name, line⟩] line

def ofText (cs : List Char) : List Part :=
  if cs.isEmpty then [] else [text cs]

theorem map_segment_ofText (cs : List Char) :
    (ofText cs).map segment = Segment.ofText cs := by
  cases cs <;> rfl

end Part

/-- What a tag on some line leaves. -/
def Mark.parts (line : Nat) : Mark → List Part
  | comment _ => []
  | reference name => [.reference name line]

/-- What pieces leave after a tag that trims, or that does not, from a line
on. -/
def Layout.partsFrom (last : List Char) :
    Bool → Nat → List (List Char × Mark) → List Part
  | trim, _, [] => Part.ofText (trimText trim false last)
  | trim, line, (text, mark) :: rest =>
      Part.ofText (trimText trim mark.trimsBefore text) ++
        (mark.parts (line + text.count '\n') ++
          partsFrom last mark.trimsAfter
            (line + (text ++ mark.chars).count '\n') rest)

namespace Segment

variable {text after : List Char} {line : Nat} {trim : Bool}

theorem splitAtTag_plain (h : '{' ∉ text) : splitAtTag text = (text, none) := by
  induction text with
  | nil => rfl
  | cons c cs ih =>
      rw [List.mem_cons, not_or] at h
      simp [splitAtTag, Ne.symm h.1, ih h.2]

theorem splitAtTag_append {kind : TagKind} {k : Char} (h : '{' ∉ text)
    (hkind : TagKind.ofChar? k = some kind) :
    splitAtTag (text ++ '{' :: k :: after) = (text, some (kind, after)) := by
  induction text with
  | nil => simp [splitAtTag, hkind]
  | cons c cs ih =>
      rw [List.mem_cons, not_or] at h
      simp [splitAtTag, Ne.symm h.1, ih h.2]

/-- Text without a tag is one segment. -/
theorem scan_plain (h : '{' ∉ text) :
    scan trim line text = ofText (trimText trim false text) := by
  have hstart : '{' ∉ trimText trim false text := fun hmem =>
    h (mem_of_mem_trimText hmem)
  have htrim : (if trim then text.dropWhile isBlank else text) =
      trimText trim false text := by
    simp [trimText]
  rw [scan, htrim, splitAtTag_plain hstart]

/-- A tag is scanned after the text before it, and the scan goes on behind
it. -/
theorem scan_tag {kind : TagKind} {k : Char} {rest : List Char}
    {segments : List Segment} {trimAfter : Bool} (htext : '{' ∉ text)
    (hkind : TagKind.ofChar? k = some kind)
    (hread : readTag kind (line + text.count '\n') after =
      (segments, trimAfter, rest)) (hlength : rest.length ≤ after.length) :
    scan trim line (text ++ '{' :: k :: after) =
      ofText (trimText trim (trimsBefore kind after) text) ++ segments ++
        scan trimAfter
          (line + (text ++ '{' :: k :: after).count '\n' - rest.count '\n')
          rest := by
  have hk : k ≠ '\n' := by
    rintro rfl
    cases hkind
  have hline : line + (text ++ '{' :: k :: after).count '\n' -
      after.count '\n' =
      line + text.count '\n' := by
    simp only [List.count_append,
      List.count_cons_of_ne (show '{' ≠ '\n' by decide),
      List.count_cons_of_ne hk]
    omega
  have hshorter : rest.length < (text ++ '{' :: k :: after).length := by
    simp only [List.length_append, List.length_cons]
    omega
  have hstart : '{' ∉ trimText trim false text := fun hmem =>
    htext (mem_of_mem_trimText hmem)
  have htrim : (if trim then (text ++ '{' :: k :: after).dropWhile isBlank
      else text ++ '{' :: k :: after) =
      trimText trim false text ++ '{' :: k :: after := by
    cases trim with
    | false => rfl
    | true => exact dropWhile_append_of_stops text (stops_cons.2 (by decide))
  rw [scan, htrim, splitAtTag_append hstart hkind]
  simp only [hline, hread, hshorter, ↓reduceDIte]
  cases trimsBefore kind after with
  | false => rfl
  | true => rw [if_pos rfl, trimText_true]

/-- The sign of a comment is its first character, if that is one. -/
theorem takeTrimSign_body (body : List Char) :
    (∃ inner, body = '-' :: inner ∧
      ∀ rest, takeTrimSign (body ++ rest) = (true, inner ++ rest)) ∨
    (∃ inner, body = '+' :: inner ∧
      ∀ rest, takeTrimSign (body ++ rest) = (false, inner ++ rest)) ∨
    (body.head? ≠ some '-' ∧
      ∀ rest,
        takeTrimSign (body ++ '#' :: rest) = (false, body ++ '#' :: rest)) := by
  cases body with
  | nil => exact Or.inr (Or.inr ⟨by simp, fun rest => rfl⟩)
  | cons c inner =>
      by_cases hminus : c = '-'
      · exact Or.inl ⟨inner, by rw [hminus], fun rest => by rw [hminus]; rfl⟩
      · by_cases hplus : c = '+'
        · exact Or.inr
            (Or.inl ⟨inner, by rw [hplus], fun rest => by rw [hplus]; rfl⟩)
        · refine Or.inr (Or.inr ⟨by simpa using hminus, fun rest => ?_⟩)
          rw [List.cons_append, takeTrimSign]
          · exact fun cs h => hminus (List.cons.inj h).1
          · exact fun cs h => hplus (List.cons.inj h).1

/-- A comment without its end inside ends where it is said to. -/
theorem readTag_comment {body : List Char} (h : ¬ ['#', '}'] <:+: body) :
    readTag .comment line (body ++ '#' :: '}' :: after) =
      ([], (Mark.comment body).trimsAfter, after) := by
  have hend : ∀ {inner : List Char}, ¬ ['#', '}'] <:+: inner →
      splitAtFirst? ['#', '}'] (inner ++ '#' :: '}' :: after) =
        some (inner, after) :=
    fun hinner => splitAtFirst?_pair (by decide) hinner
  rcases takeTrimSign_body body with ⟨inner, rfl, hsign⟩ | ⟨inner, rfl, hsign⟩ |
    ⟨-, hsign⟩
  · simp only [readTag, hsign, hend (not_pair_of_cons h), Mark.trimsAfter]
    cases inner <;> simp
  · simp only [readTag, hsign, hend (not_pair_of_cons h), Mark.trimsAfter]
    cases inner <;> simp
  · simp only [readTag, hsign, hend h, Mark.trimsAfter]
    cases body <;> simp

theorem trimsBefore_comment {body : List Char} (h : ¬ ['#', '}'] <:+: body) :
    trimsBefore .comment (body ++ '#' :: '}' :: after) =
      (Mark.comment body).trimsBefore := by
  rcases takeTrimSign_body body with ⟨inner, rfl, hsign⟩ | ⟨inner, rfl, hsign⟩ |
    ⟨hhead, hsign⟩
  · rw [trimsBefore, hsign, List.cons_append]
    rcases inner with _ | ⟨c, _ | ⟨d, inner⟩⟩
    · simp [Mark.trimsBefore, List.isPrefixOf?]
    · simp [Mark.trimsBefore, List.isPrefixOf?]
    · have hpair :
          ['#', '}'].isPrefixOf? (c :: d :: (inner ++ '#' :: '}' :: after)) =
          none := by
        rw [Option.eq_none_iff_forall_ne_some]
        intro rest hrest
        have heq := (List.isPrefixOf?_eq_some_iff_append_eq.1 hrest).symm
        simp only [List.cons_append, List.cons.injEq] at heq
        exact h ⟨['-'], inner, by rw [heq.1, heq.2.1]; rfl⟩
      simp [Mark.trimsBefore, List.isPrefixOf?, hpair]
  · rw [trimsBefore, hsign]
    simp [Mark.trimsBefore]
  · rw [trimsBefore, hsign]
    simp [Mark.trimsBefore, hhead]

end Segment

theorem isDigit_eq_false_of_isNameStart {c : Char} (h : isNameStart c = true) :
    c.isDigit = false := by
  have hdigits : ∀ k : Fin 10, isNameStart (Char.ofNat (48 + k)) = false := by
    decide
  cases hdigit : c.isDigit with
  | false => rfl
  | true =>
      obtain ⟨hlow, hhigh⟩ : 48 ≤ c.toNat ∧ c.toNat ≤ 57 :=
        Char.isDigit_iff_toNat.1 hdigit
      have hcode : 48 + (c.toNat - 48) = c.toNat := by omega
      have hnone := hdigits ⟨c.toNat - 48, by omega⟩
      rw [hcode, Char.ofNat_toNat, h] at hnone
      contradiction

theorem PlainName.isNameChar_of_mem {name : String} (h : PlainName name) :
    ∀ c ∈ name.toList, isNameChar c = true := by
  obtain ⟨c, cs, htext, hstart, hchars⟩ := h.identifier
  rw [htext]
  refine List.forall_mem_cons.2 ⟨?_, hchars⟩
  simp only [isNameStart, isNameChar, Char.isAlphanum,
    Bool.or_eq_true] at hstart ⊢
  exact hstart.imp_left Or.inl

/-- An identifier begins like no other word. -/
theorem Token.read_name {name : String} (hname : PlainName name) (line : Nat)
    {rest : List Char} (hrest : Stops isNameChar rest) :
    Token.read line (name.toList ++ rest) = (.name name, rest) := by
  obtain ⟨c, cs, htext, hstart, hchars⟩ := hname.identifier
  have hsingle : c ∉ Token.singles := fun hmem => by
    have hnone : ∀ d ∈ Token.singles, isNameStart d = false :=
      forall_mem_of_all (by decide)
    rw [hnone c hmem] at hstart
    contradiction
  have hpair : String.ofList ((c :: (cs ++ rest)).take 2) ∉ Token.pairs :=
    fun hmem => by
    have hpairs : (Token.pairs.all fun pair => pair.toList.head?.all fun d =>
      !isNameStart d) = true :=
      by decide
    have hnone := List.all_eq_true.1 hpairs _ hmem
    simp [hstart] at hnone
  have hquote : ¬ (c = '"' ∨ c = '\'') := by
    rintro (rfl | rfl) <;> contradiction
  have hdigit := isDigit_eq_false_of_isNameStart hstart
  rw [htext, List.cons_append, Token.read, List.contains_eq_mem,
    decide_eq_false hpair]
  simp [hsingle, hquote, hdigit, hstart, takeWhile_run hchars hrest,
    dropWhile_run hchars hrest, ← htext]

namespace TagContent

/-- An identifier at the start of a tag is its first word, and stands on one
line. -/
theorem read_name_append {name : String} (hname : PlainName name) (line : Nat)
    {rest : List Char} (hrest : Stops isNameChar rest) :
    read '}' 0 line (name.toList ++ rest) =
      { read '}' 0 line rest with
        lexemes := ⟨.name name, line⟩ :: (read '}' 0 line rest).lexemes } := by
  have hread := Token.read_name hname line hrest
  have hline : passLines line name.toList = line := by
    have hbreak : '\n' ∉ name.toList := not_mem_of_class hname.isNameChar_of_mem
        (by decide)
    rw [passLines, List.count_eq_zero.2 hbreak, Nat.add_zero]
  have htake : (name.toList ++ rest).take
      ((name.toList ++ rest).length - rest.length) =
      name.toList := by
    rw [List.length_append, Nat.add_sub_cancel, List.take_left]
  obtain ⟨c, cs, htext, hstart, -⟩ := hname.identifier
  have hblank : ¬ isCodeBlank c = true := by
    intro hblank
    simp only [isCodeBlank, Bool.or_eq_true, beq_iff_eq] at hblank
    rcases hblank with (((rfl | rfl) | rfl) | rfl) | rfl <;> contradiction
  have hclosing : readClosing? '}' (c :: (cs ++ rest)) = none := by
    have hclose : '}' ≠ c := Ne.symm (ne_of_class hstart (by decide))
    have hminus : c ≠ '-' := ne_of_class hstart (by decide)
    have hplus : c ≠ '+' := ne_of_class hstart (by decide)
    simp [readClosing?, List.isPrefixOf?, hclose, hminus, hplus]
  have hlength : rest.length < (name.toList ++ rest).length := by
    rw [List.length_append, htext, List.length_cons]
    omega
  rw [htext, List.cons_append] at hread hlength htake ⊢
  rw [read, if_neg hblank, if_pos rfl, hclosing]
  simp only [hread, hlength, ↓reduceDIte, htake, ← htext, hline]
  rfl

/-- A tag with one name between blanks holds that name. -/
theorem read_reference {name : String} (hname : PlainName name) (line : Nat)
    (after : List Char) :
    read '}' 0 line (' ' :: (name.toList ++ ' ' :: '}' :: '}' :: after)) =
      ⟨[⟨.name name, line⟩], false, after⟩ := by
  have hend : read '}' 0 line (' ' :: '}' :: '}' :: after) =
      ⟨[], false, after⟩ := by
    rw [read, if_pos (by decide), read, if_neg (by decide)]
    simp [readClosing?, List.isPrefixOf?]
  have hline : passLines line [' '] = line := rfl
  rw [read, if_pos (by decide), hline,
    read_name_append hname line (stops_cons.2 (by decide)), hend]

end TagContent

namespace Segment

theorem readTag_reference {name : String} (hname : PlainName name) (line : Nat)
    (after : List Char) :
    readTag .output line (' ' :: (name.toList ++ ' ' :: '}' :: '}' :: after)) =
      ([.output [⟨.name name, line⟩] line], false, after) := by
  have hsign : ∀ cs, takeTrimSign (' ' :: cs) = (false, ' ' :: cs) :=
    fun cs => rfl
  simp only [readTag, hsign, TagContent.read_reference hname]

/-- How the scanner sees a tag in front of some text. -/
theorem exists_tag {mark : Mark} (h : mark.Admissible) (rest : List Char) :
    ∃ kind k after, mark.chars ++ rest = '{' :: k :: after ∧
      TagKind.ofChar? k = some kind ∧
      trimsBefore kind after = mark.trimsBefore ∧ rest.length ≤ after.length ∧
      ∀ line, readTag kind line after =
        ((mark.parts line).map Part.segment, mark.trimsAfter, rest) := by
  cases mark with
  | comment body =>
      refine ⟨.comment, '#',
        body ++ '#' :: '}' :: rest, by simp [Mark.chars], rfl,
        trimsBefore_comment h, ?_, fun line => readTag_comment h⟩
      rw [List.length_append, List.length_cons, List.length_cons]
      omega
  | reference name =>
      refine ⟨.output, '{', ' ' :: (name.toList ++ ' ' :: '}' :: '}' :: rest),
        by simp [Mark.chars], rfl, rfl, ?_, fun line =>
          readTag_reference h line rest⟩
      simp only [List.length_append, List.length_cons]
      omega

/-- Scanning cuts pieces into what their tags leave. -/
theorem scan_chars {last : List Char} (hlast : '{' ∉ last)
    {pieces : List (List Char × Mark)}
    (hplain : ∀ piece ∈ pieces, '{' ∉ piece.1)
    (hmarks : ∀ piece ∈ pieces, piece.2.Admissible) (trim : Bool) (line : Nat) :
    scan trim line (Layout.chars Mark.chars ⟨pieces, last⟩) =
      (Layout.partsFrom last trim line pieces).map Part.segment := by
  induction pieces generalizing trim line with
  | nil => exact (scan_plain hlast).trans (Part.map_segment_ofText _).symm
  | cons piece pieces ih =>
      obtain ⟨text, mark⟩ := piece
      have hrest := ih (fun p hp => hplain p (List.mem_cons_of_mem _ hp))
        (fun p hp => hmarks p (List.mem_cons_of_mem _ hp))
      obtain ⟨kind, k, after, hchars, hkind, htrims, hlength, hread⟩ :=
        exists_tag (hmarks _ List.mem_cons_self)
          (Layout.chars Mark.chars ⟨pieces, last⟩)
      have htext : Layout.chars Mark.chars ⟨(text, mark) :: pieces, last⟩ =
          text ++ '{' :: k :: after := by
        rw [Layout.chars_cons, ← hchars]
      have hline : line + (text ++ '{' :: k :: after).count '\n' -
          (Layout.chars Mark.chars ⟨pieces, last⟩).count '\n' =
            line + (text ++ mark.chars).count '\n' := by
        rw [← hchars]
        simp only [List.count_append]
        omega
      rw [htext, scan_tag (hplain _ List.mem_cons_self) hkind (hread _) hlength,
        hline, hrest, htrims, Layout.partsFrom, List.map_append,
        List.map_append, Part.map_segment_ofText, List.append_assoc]

end Segment

end Template

end Stencil
