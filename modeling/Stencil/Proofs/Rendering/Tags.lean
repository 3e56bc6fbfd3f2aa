/-
Declarations and references between texts without an opening brace.  The
template syntax takes a declaration for a comment, and what stands behind the
first end of a comment in a declaration for text like any other; the reader of
declarations finds just the declarations.
-/
import Stencil.Proofs.Schema.Comment
import Stencil.Proofs.Template.Substitution

namespace Stencil

namespace Template

open Text

/-- What stands between the texts of an annotated template. -/
inductive Tag where
  | declaration (s : Spelling)
  | reference (name : String)

namespace Tag

def chars : Tag → List Char
  | declaration s => s.chars
  | reference name => (Mark.reference name).chars

/-- The declaration that a tag makes. -/
def declaration? : Tag → Option Declaration
  | declaration s => some s.declaration
  | reference _ => none

/-- What the template syntax takes for the tag. -/
def mark : Tag → Mark
  | declaration s => .comment s.comment
  | reference name => .reference name

/-- What it takes for text behind the tag. -/
def leak : Tag → List Char
  | declaration s => s.leak
  | reference _ => []

/-- No code leaks from a declaration, and a name stands for a variable. -/
def Admissible : Tag → Prop
  | declaration s => '{' ∉ s.leak
  | reference name => PlainName name

/-- A declaration holds no end of a comment but its own, and a name stands for a
variable. -/
def Closed : Tag → Prop
  | declaration s => ¬ ['#', '}'] <:+: s.body
  | reference name => PlainName name

/-- A reference is to one of the inputs. -/
def Defined (inputs : Inputs) : Tag → Prop
  | declaration _ => True
  | reference name => inputs.contains name = true

/-- A declaration takes the white space on both sides and shows nothing; a
reference shows the value of an input. -/
def display (inputs : Inputs) : Display Tag where
  trimsBefore
    | declaration _ => true
    | reference _ => false
  trimsAfter
    | declaration _ => true
    | reference _ => false
  shown
    | declaration _ => []
    | reference name => printedInput inputs name

/-- A declaration shows what leaks from it, and takes the white space after it
only if nothing does. -/
def leakingDisplay (inputs : Inputs) : Display Tag where
  trimsBefore
    | declaration _ => true
    | reference _ => false
  trimsAfter
    | declaration s => s.leak.isEmpty
    | reference _ => false
  shown
    | declaration s => s.leak
    | reference name => printedInput inputs name

variable {inputs : Inputs} {tag : Tag}

theorem chars_eq_mark (tag : Tag) : tag.chars = tag.mark.chars ++ tag.leak := by
  cases tag with
  | declaration s => exact s.chars_eq_comment
  | reference name => exact (List.append_nil _).symm

theorem mark_admissible (h : tag.Admissible) : tag.mark.Admissible := by
  cases tag with
  | declaration s => exact s.comment_admissible
  | reference name => exact h

theorem leak_plain (h : tag.Admissible) : '{' ∉ tag.leak := by
  cases tag with
  | declaration s => exact h
  | reference name => exact List.not_mem_nil

theorem Closed.leak_eq_nil (h : tag.Closed) : tag.leak = [] := by
  cases tag with
  | declaration s => exact s.leak_eq_nil_iff.2 h
  | reference name => rfl

theorem Closed.admissible (h : tag.Closed) : tag.Admissible := by
  cases tag with
  | declaration s =>
      have hleak : s.leak = [] := h.leak_eq_nil
      rw [Admissible, hleak]
      exact List.not_mem_nil
  | reference name => exact h

theorem mark_defined (h : tag.Defined inputs) : tag.mark.Defined inputs := by
  cases tag <;> exact h

theorem trimsBefore_mark (inputs : Inputs) (tag : Tag) :
    tag.mark.trimsBefore = (leakingDisplay inputs).trimsBefore tag := by
  cases tag with
  | declaration s => exact s.trimsBefore_comment
  | reference name => rfl

theorem trimsAfter_mark (inputs : Inputs) (tag : Tag) :
    tag.mark.trimsAfter = (leakingDisplay inputs).trimsAfter tag := by
  cases tag with
  | declaration s => exact s.trimsAfter_comment
  | reference name => rfl

theorem shown_mark (inputs : Inputs) (tag : Tag) :
    tag.mark.shown inputs ++ tag.leak = (leakingDisplay inputs).shown tag := by
  cases tag with
  | declaration s => rfl
  | reference name => exact List.append_nil _

end Tag

/-- A text that white space around it does not reach into: there is none, or it
ends in a brace and begins where no white space is taken. -/
def Firm (trim : Bool) (carry : List Char) : Prop :=
  carry = [] ∨ trim = false ∧ carry.getLast? = some '}'

theorem Tag.leak_firm (inputs : Inputs) (tag : Tag) :
    Firm ((leakingDisplay inputs).trimsAfter tag) tag.leak := by
  cases tag with
  | declaration s =>
      by_cases hleak : s.leak = []
      · exact Or.inl hleak
      · exact Or.inr ⟨by simpa [leakingDisplay] using hleak,
          s.getLast?_leak hleak⟩
  | reference name => exact Or.inl rfl

theorem Firm.trimText_append {trim : Bool} {carry : List Char}
    (h : Firm trim carry) (stop : Bool) (text : List Char) :
    trimText trim stop (carry ++ text) = carry ++ trimText trim stop text := by
  rcases h with rfl | ⟨rfl, hlast⟩
  · rfl
  · cases stop with
    | false => rfl
    | true =>
        have hstops : Stops isBlank carry.reverse := by
          rw [Stops, List.head?_reverse, hlast]
          rintro c ⟨⟩
          decide
        simp [trimText, trimBlanksEnd, dropWhile_append_of_stops _ hstops]

theorem Firm.finalBreak_append {trim : Bool} {carry last kept : List Char}
    (h : Firm trim carry) (hkept : FinalBreak last kept) :
    FinalBreak (carry ++ last) (carry ++ kept) := by
  refine hkept.append fun c hc => ?_
  rcases h with rfl | ⟨-, hlast⟩
  · cases hc
  · rw [hlast, Option.mem_some_iff] at hc
    subst hc
    decide

namespace Layout

variable {inputs : Inputs} {trim : Bool} {last carry : List Char}
  {pieces : List (List Char × Tag)}

/-- The layout that the template syntax sees: in front of every text stands what
leaked from the tag before it. -/
def marksFrom (last : List Char) :
    List Char → List (List Char × Tag) → Layout Mark
  | carry, [] => ⟨[], carry ++ last⟩
  | carry, (text, tag) :: rest =>
      let later := marksFrom last tag.leak rest
      ⟨(carry ++ text, tag.mark) :: later.pieces, later.last⟩

theorem chars_marksFrom (last carry : List Char)
    (pieces : List (List Char × Tag)) :
    chars Mark.chars (marksFrom last carry pieces) =
      carry ++ chars Tag.chars ⟨pieces, last⟩ := by
  induction pieces generalizing carry with
  | nil => simp [chars, marksFrom]
  | cons piece rest ih =>
      obtain ⟨text, tag⟩ := piece
      rw [marksFrom, chars_cons, ih, chars_cons, tag.chars_eq_mark]
      simp

theorem marksFrom_plain (hcarry : '{' ∉ carry) (hlast : '{' ∉ last)
    (hplain : ∀ piece ∈ pieces, '{' ∉ piece.1)
    (htags : ∀ piece ∈ pieces, piece.2.Admissible) :
    (marksFrom last carry pieces).Plain := by
  induction pieces generalizing carry with
  | nil =>
      refine ⟨fun piece hpiece => (nomatch hpiece), ?_⟩
      simp [marksFrom, hcarry, hlast]
  | cons piece rest ih =>
      have hrest := ih (Tag.leak_plain (htags piece List.mem_cons_self))
        (fun p hp => hplain p (List.mem_cons_of_mem _ hp))
        (fun p hp => htags p (List.mem_cons_of_mem _ hp))
      refine ⟨List.forall_mem_cons.2 ⟨?_, hrest.1⟩, hrest.2⟩
      simp [hcarry, hplain piece List.mem_cons_self]

theorem tags_marksFrom (last carry : List Char)
    (pieces : List (List Char × Tag)) :
    (marksFrom last carry pieces).tags = pieces.map fun piece =>
      piece.2.mark := by
  induction pieces generalizing carry with
  | nil => rfl
  | cons piece rest ih => exact congrArg (_ :: ·) (ih piece.2.leak)

/-- What holds of the tags holds of what the template syntax takes for them. -/
theorem forall_marksFrom {p : Mark → Prop}
    (h : ∀ piece ∈ pieces, p piece.2.mark) :
    ∀ piece ∈ (marksFrom last carry pieces).pieces, p piece.2 := by
  intro piece hpiece
  have hmem : piece.2 ∈ (marksFrom last carry pieces).tags :=
    List.mem_map_of_mem hpiece
  rw [tags_marksFrom] at hmem
  obtain ⟨source, hsource, heq⟩ := List.mem_map.1 hmem
  exact heq ▸ h source hsource

theorem finalBreak_marksFrom {kept : List Char} (hkept : FinalBreak last kept)
    (hcarry : Firm trim carry) (inputs : Inputs)
    (pieces : List (List Char × Tag)) :
    (marksFrom kept carry pieces).pieces =
      (marksFrom last carry pieces).pieces ∧
      FinalBreak (marksFrom last carry pieces).last
        (marksFrom kept carry pieces).last := by
  induction pieces generalizing carry trim with
  | nil => exact ⟨rfl, hcarry.finalBreak_append hkept⟩
  | cons piece rest ih =>
      have hrest := ih (piece.2.leak_firm inputs)
      exact ⟨congrArg (_ :: ·) hrest.1, hrest.2⟩

theorem displayFrom_marksFrom (hcarry : Firm trim carry) :
    displayFrom (Mark.display inputs) (marksFrom last carry pieces).last trim
        (marksFrom last carry pieces).pieces =
      carry ++ displayFrom (Tag.leakingDisplay inputs) last trim pieces := by
  induction pieces generalizing carry trim with
  | nil => exact hcarry.trimText_append false last
  | cons piece rest ih =>
      obtain ⟨text, tag⟩ := piece
      have hrest := ih (tag.leak_firm inputs)
      simp only [marksFrom, displayFrom, Mark.display,
        tag.trimsAfter_mark inputs, tag.trimsBefore_mark inputs,
        ← tag.shown_mark inputs, hcarry.trimText_append] at hrest ⊢
      rw [hrest]
      simp

/-- Where nothing leaks, declarations show nothing. -/
theorem displayFrom_leaking (h : ∀ piece ∈ pieces, piece.2.leak = []) :
    displayFrom (Tag.leakingDisplay inputs) last trim pieces =
      displayFrom (Tag.display inputs) last trim pieces := by
  induction pieces generalizing trim with
  | nil => rfl
  | cons piece rest ih =>
      obtain ⟨text, tag⟩ := piece
      have hleak : tag.leak = [] := h _ List.mem_cons_self
      have hrest : ∀ {trim},
          displayFrom (Tag.leakingDisplay inputs) last trim rest =
          displayFrom (Tag.display inputs) last trim rest :=
        ih fun p hp => h p (List.mem_cons_of_mem _ hp)
      rw [displayFrom, displayFrom, hrest]
      cases tag with
      | declaration s =>
          simp [Tag.leakingDisplay, Tag.display, show s.leak = [] from hleak]
      | reference name => rfl

/-- The pieces around a tag. -/
theorem marksFrom_append {before after : List (List Char × Tag)}
    {text : List Char} {tag : Tag} (last carry : List Char) :
    (marksFrom last carry (before ++ (text, tag) :: after)).pieces =
      (marksFrom text carry before).pieces ++
        ((marksFrom text carry before).last, tag.mark) ::
          (marksFrom last tag.leak after).pieces := by
  induction before generalizing carry with
  | nil => rfl
  | cons piece rest ih => exact congrArg (_ :: ·) (ih piece.2.leak)

end Layout

section Rendering

variable {t : Layout Tag} {template : String} {kept : List Char}
  {inputs : Inputs}

/-- If all references are defined, every tag is replaced by what it shows. -/
theorem render_tags_ok (htext : template.toList = t.chars Tag.chars)
    (hplain : t.Plain) (htags : ∀ piece ∈ t.pieces, piece.2.Admissible)
    (hkept : FinalBreak t.last kept)
    (hdefined : ∀ piece ∈ t.pieces, piece.2.Defined inputs) :
    render template inputs =
      .ok (String.ofList
        (Layout.display (Tag.leakingDisplay inputs) ⟨t.pieces, kept⟩)) := by
  have hfirm : Firm false [] := Or.inl rfl
  obtain ⟨hpieces, hbreak⟩ :=
    Layout.finalBreak_marksFrom hkept hfirm inputs t.pieces
  have hdisplay : Layout.display (Mark.display inputs)
      ⟨(Layout.marksFrom t.last [] t.pieces).pieces,
        (Layout.marksFrom kept [] t.pieces).last⟩ =
        Layout.display (Tag.leakingDisplay inputs) ⟨t.pieces, kept⟩ := by
    rw [← hpieces]
    exact Layout.displayFrom_marksFrom hfirm
  rw [← hdisplay]
  exact render_layout_ok
    (htext.trans (Layout.chars_marksFrom t.last [] t.pieces).symm)
    (Layout.marksFrom_plain List.not_mem_nil hplain.2 hplain.1 htags)
    (Layout.forall_marksFrom fun piece hpiece =>
      Tag.mark_admissible (htags piece hpiece)) hbreak
    (Layout.forall_marksFrom fun piece hpiece =>
      Tag.mark_defined (hdefined piece hpiece))

/-- Otherwise the line of the first one that is not defined is reported. -/
theorem render_tags_undefined (htext : template.toList = t.chars Tag.chars)
    (hplain : t.Plain) (htags : ∀ piece ∈ t.pieces, piece.2.Admissible)
    {before after : List (List Char × Tag)} {text : List Char} {name : String}
    (hpieces : t.pieces = before ++ (text, .reference name) :: after)
    (hdefined : ∀ piece ∈ before, piece.2.Defined inputs)
    (hname : inputs.get? name = none) :
    render template inputs =
      .error (.fault .undefinedValue
        (1 + (Layout.chars Tag.chars ⟨before, text⟩).count '\n')) := by
  have hbefore : Layout.chars Mark.chars (Layout.marksFrom text [] before) =
      Layout.chars Tag.chars ⟨before, text⟩ :=
    Layout.chars_marksFrom text [] before
  have hmarks : (Layout.marksFrom t.last [] t.pieces).pieces =
      (Layout.marksFrom text [] before).pieces ++
        ((Layout.marksFrom text [] before).last, .reference name) ::
          (Layout.marksFrom t.last [] after).pieces := by
    rw [hpieces]
    exact Layout.marksFrom_append t.last []
  rw [← hbefore]
  exact render_layout_undefined
    (htext.trans (Layout.chars_marksFrom t.last [] t.pieces).symm)
    (Layout.marksFrom_plain List.not_mem_nil hplain.2 hplain.1 htags)
    (Layout.forall_marksFrom fun piece hpiece =>
      Tag.mark_admissible (htags piece hpiece)) hmarks
    (Layout.forall_marksFrom fun piece hpiece =>
      Tag.mark_defined (hdefined piece hpiece)) hname

end Rendering

end Template

namespace Declaration

open Text Template

theorem at?_eq_none_of_ne {c : Char} (h : c ≠ '{') (cs : List Char) : at?
    (c :: cs) = none := by
  simp [at?, opening, List.isPrefixOf?, Ne.symm h]

/-- No declaration begins in text without an opening brace. -/
theorem scan_append_of_plain {text : List Char} (h : '{' ∉ text)
    (rest : List Char) :
    scan (text ++ rest) = scan rest := by
  induction text with
  | nil => rfl
  | cons c cs ih =>
      rw [List.mem_cons, not_or] at h
      rw [List.cons_append,
        scan_of_at?_eq_none (at?_eq_none_of_ne (Ne.symm h.1) _), ih h.2]

theorem scan_reference {name : String} (h : PlainName name) (rest : List Char) :
    scan ((Mark.reference name).chars ++ rest) = scan rest := by
  have hname : '{' ∉ name.toList :=
    not_mem_of_class h.isNameChar_of_mem (by decide)
  have hinner : '{' ∉ ' ' :: (name.toList ++ [' ', '}', '}']) := by
    simp [hname]
  have hfirst : at?
      ('{' :: '{' :: ((' ' :: (name.toList ++ [' ', '}', '}'])) ++ rest)) =
      none := by
    simp [at?, opening, List.isPrefixOf?]
  have hsecond : at?
      ('{' :: ((' ' :: (name.toList ++ [' ', '}', '}'])) ++ rest)) = none := by
    simp [at?, opening, List.isPrefixOf?]
  calc scan ((Mark.reference name).chars ++ rest)
    _ = scan
          ('{' :: '{' :: ((' ' :: (name.toList ++ [' ', '}', '}'])) ++ rest)) :=
        rfl
    _ = scan ((' ' :: (name.toList ++ [' ', '}', '}'])) ++ rest) := by
        rw [scan_of_at?_eq_none hfirst, scan_of_at?_eq_none hsecond]
    _ = scan rest := scan_append_of_plain hinner rest

/-- The declarations of an annotated template are those between its texts. -/
theorem scan_tags {last : List Char} (hlast : '{' ∉ last)
    {pieces : List (List Char × Tag)} (hplain : ∀ piece ∈ pieces, '{' ∉ piece.1)
    (htags : ∀ piece ∈ pieces, piece.2.Admissible) :
    scan (Layout.chars Tag.chars ⟨pieces, last⟩) =
      (Layout.tags ⟨pieces, last⟩).filterMap Tag.declaration? := by
  induction pieces with
  | nil =>
      simpa [Layout.chars, Layout.tags, scan] using
        scan_append_of_plain hlast []
  | cons piece rest ih =>
      obtain ⟨text, tag⟩ := piece
      have hrest := ih (fun p hp => hplain p (List.mem_cons_of_mem _ hp))
        (fun p hp => htags p (List.mem_cons_of_mem _ hp))
      rw [Layout.chars_cons, scan_append_of_plain (hplain _ List.mem_cons_self)]
      cases tag with
      | declaration s =>
          rw [Tag.chars, scan_of_at? (s.at?_chars _), hrest]
          rfl
      | reference name =>
          rw [Tag.chars, scan_reference (htags _ List.mem_cons_self), hrest]
          rfl

end Declaration

/-- The variables of an annotated template are those that its tags declare. -/
theorem Schema.ofTemplate_tags {t : Template.Layout Template.Tag}
    {template : String} (htext : template.toList = t.chars Template.Tag.chars)
    (hplain : t.Plain) (htags : ∀ piece ∈ t.pieces, piece.2.Admissible) :
    Schema.ofTemplate template =
      (t.tags.filterMap Template.Tag.declaration?).map
        Declaration.toVariable := by
  rw [ofTemplate, htext]
  exact congrArg _ (Declaration.scan_tags hplain.2 hplain.1 htags)

section

variable {now : DateTime} {mode : CoercionMode} {template : String}
  {raw : RawInputs} {inputs : Inputs}

theorem renderTemplate_of_render {result : String}
    (hcoerce : (Schema.ofTemplate template).coerce now mode raw = .ok inputs)
    (hrender : Template.render template inputs = .ok result) :
    renderTemplate now mode template raw = .ok ⟨result, inputs⟩ := by
  simp only [renderTemplate, hcoerce, hrender]

theorem renderTemplate_of_failure {failure : Template.Failure}
    (hcoerce : (Schema.ofTemplate template).coerce now mode raw = .ok inputs)
    (hrender : Template.render template inputs = .error failure) :
    renderTemplate now mode template raw = .error (.template failure) := by
  simp only [renderTemplate, hcoerce, hrender]

end

end Stencil
