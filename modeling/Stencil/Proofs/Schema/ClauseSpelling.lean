/-
The written form of clauses.  A value is written in quotes, as a list, in
digits or as a bare word, and a clause puts a key and an equals sign in front
of it.  The scanner reads the clauses back and passes over what separates
them.
-/
import Stencil.Proofs.Number.Digits
import Stencil.Proofs.Text.Pieces
import Stencil.Schema.Declaration

namespace Stencil

open Text

/-- One option as written: white space around it, and perhaps a quote on both
sides. -/
structure OptionSpelling where
  before : List Char
  quote : Option Char
  text : List Char
  after : List Char

namespace OptionSpelling

def chars (o : OptionSpelling) : List Char :=
  o.before ++ (o.quote.toList ++ (o.text ++ (o.quote.toList ++ o.after)))

/-- An option has no comma, bracket, hyphen or quote in it and no white space
at its ends. -/
structure Valid (o : OptionSpelling) : Prop where
  before_blank : ∀ c ∈ o.before, isBlank c = true
  after_blank : ∀ c ∈ o.after, isBlank c = true
  quote_mem : ∀ c ∈ o.quote, c = '"' ∨ c = '\''
  text_plain : ∀ c ∈ o.text, c ∉ [',', ']', '-', '"', '\'']
  text_head : Stops isBlank o.text
  text_last : Stops isBlank o.text.reverse

theorem not_mem_chars {o : OptionSpelling} (ho : o.Valid) {d : Char}
    (hd : d ∈ [',', ']', '-']) : d ∉ o.chars := by
  have hblank : isBlank d = false := by
    have hall : ∀ c ∈ [',', ']', '-'], isBlank c = false :=
      forall_mem_of_all (by decide)
    exact hall d hd
  have htext : d ∉ o.text := by
    intro hmem
    have hplain := ho.text_plain d hmem
    simp only [List.mem_cons, List.not_mem_nil, or_false, not_or] at hd hplain
    rcases hd with rfl | rfl | rfl <;> simp_all
  have hquote : d ∉ o.quote.toList := by
    intro hmem
    rw [Option.mem_toList] at hmem
    rcases ho.quote_mem d hmem with rfl | rfl <;> simp at hd
  simp only [chars, List.mem_append, not_or]
  exact ⟨not_mem_of_class ho.before_blank hblank, hquote, htext, hquote,
    not_mem_of_class ho.after_blank hblank⟩

/-- Trimming a quote off an option in that quote leaves the text. -/
theorem trimWhere_quoted {quote : Char} {text : List Char} (h : quote ∉ text) :
    trimWhere (· == quote) (quote :: (text ++ [quote])) = text := by
  have hall : ∀ c ∈ text, (c == quote) = false := fun c hc =>
    beq_false_of_ne (ne_of_mem_of_not_mem hc h)
  have hquote : ∀ c ∈ [quote], (c == quote) = true := by simp
  have hlast : ∀ c ∈ text.reverse, (c == quote) = false := fun c hc =>
    hall c (List.mem_reverse.1 hc)
  exact trimWhere_pad hquote hquote (stops_of_all hall) (stops_of_all hlast)

theorem trimWhere_of_not_mem {quote : Char} {text : List Char}
    (h : quote ∉ text) :
    trimWhere (· == quote) text = text := by
  have hall : ∀ c ∈ text, (c == quote) = false := fun c hc =>
    beq_false_of_ne (ne_of_mem_of_not_mem hc h)
  have hlast : ∀ c ∈ text.reverse, (c == quote) = false := fun c hc =>
    hall c (List.mem_reverse.1 hc)
  exact trimWhere_eq_self (stops_of_all hall) (stops_of_all hlast)

theorem trimBlanks_quoted {o : OptionSpelling} {quote : Char} (ho : o.Valid)
    (hquote : isBlank quote = false) :
    trimBlanks (o.before ++ (quote :: (o.text ++ quote :: o.after))) =
      quote :: (o.text ++ [quote]) := by
  have hlast : Stops isBlank (quote :: (o.text ++ [quote])).reverse := by
    simpa [Stops] using hquote
  have hpad := trimWhere_pad ho.before_blank ho.after_blank
    (stops_cons.2 hquote) hlast
  simpa [trimBlanks] using hpad

/-- Trimming leaves the text of an option. -/
theorem trim_chars {o : OptionSpelling} (ho : o.Valid) :
    trimWhere (· == '\'') (trimWhere (· == '"') (trimBlanks o.chars)) =
      o.text := by
  have hdouble : '"' ∉ o.text := fun hmem => ho.text_plain _ hmem (by simp)
  have hsingle : '\'' ∉ o.text := fun hmem => ho.text_plain _ hmem (by simp)
  cases hquote : o.quote with
  | none =>
      have hblanks : trimBlanks o.chars = o.text := by
        simpa [chars, hquote, trimBlanks] using
          trimWhere_pad ho.before_blank ho.after_blank ho.text_head ho.text_last
      rw [hblanks, trimWhere_of_not_mem hdouble, trimWhere_of_not_mem hsingle]
  | some quote =>
      simp only [chars, hquote, Option.toList_some, List.singleton_append]
      rcases ho.quote_mem quote hquote with rfl | rfl
      · rw [trimBlanks_quoted ho (by decide), trimWhere_quoted hdouble,
          trimWhere_of_not_mem hsingle]
      · have hother : '"' ∉ '\'' :: (o.text ++ ['\'']) := by simpa using hdouble
        rw [trimBlanks_quoted ho (by decide), trimWhere_of_not_mem hother,
          trimWhere_quoted hsingle]

end OptionSpelling

/-- A value as written. -/
inductive ValueSpelling where
  | quoted (quote : Char) (text : List Char)
  | list (items : List OptionSpelling)
  | digits (text : List Char)
  | bare (text : List Char)

namespace ValueSpelling

/-- What stands between the brackets of a list. -/
def listInner (items : List OptionSpelling) : List Char :=
  List.intercalate [','] (items.map OptionSpelling.chars)

def chars : ValueSpelling → List Char
  | quoted quote text => quote :: (text ++ [quote])
  | list items => '[' :: (listInner items ++ [']'])
  | digits text => text
  | bare text => text

/-- Quoted text lacks its quote, a list is not empty, and a bare word does not
begin with a digit. -/
def Valid : ValueSpelling → Prop
  | quoted quote text =>
      (quote = '"' ∨ quote = '\'') ∧ quote ∉ text ∧ '-' ∉ text
  | list items => items ≠ [] ∧ ∀ item ∈ items, item.Valid
  | digits text => Numeral.isDigits text = true
  | bare text =>
      text ≠ [] ∧ (∀ c ∈ text, isWord c = true) ∧ Stops isDecimal text

/-- The value that is written. -/
def value : ValueSpelling → ClauseValue
  | quoted _ text => .quoted (String.ofList text)
  | list items => .list (String.ofList (listInner items))
  | digits text => .number (String.ofList text)
  | bare text => .bareword (String.ofList text)

end ValueSpelling

/-- What may follow a value: a comma or white space. -/
def Breaks (cs : List Char) : Prop :=
  ∃ c rest, cs = c :: rest ∧ (c = ',' ∨ isBlank c = true)

theorem Breaks.stops {p : Char → Bool} {cs : List Char} (h : Breaks cs)
    (hcomma : p ',' = false) (hblank : ∀ c, isBlank c = true → p c = false) :
    Stops p cs := by
  obtain ⟨c, rest, rfl, rfl | hc⟩ := h
  · exact stops_cons.2 hcomma
  · exact stops_cons.2 (hblank c hc)

namespace Clause

theorem untilChar?_append {close : Char} {inner rest : List Char}
    (h : close ∉ inner) :
    untilChar? close (inner ++ close :: rest) = some (inner, rest) := by
  induction inner with
  | nil => simp [untilChar?]
  | cons c cs ih =>
      rw [List.mem_cons, not_or] at h
      rw [List.cons_append, untilChar?, if_neg (Ne.symm h.1), ih h.2]
      rfl

/-- Digits are read whole when neither a digit nor a point follows. -/
theorem takeNumber_digits {digits rest : List Char}
    (hdigits : ∀ c ∈ digits, isDecimal c = true) (hrest : Stops isDecimal rest)
    (hpoint : rest.head? ≠ some '.') :
    takeNumber (digits ++ rest) = (digits, rest) := by
  rw [takeNumber, takeWhile_run hdigits hrest, dropWhile_run hdigits hrest]
  split
  next tail => simp at hpoint
  next => rfl

end Clause

namespace ValueSpelling

variable {v : ValueSpelling} {rest : List Char}

theorem isDecimal_of_mem_digits {text : List Char}
    (h : Numeral.isDigits text = true) :
    ∀ c ∈ text, isDecimal c = true := by
  rw [Numeral.isDigits, Bool.and_eq_true, List.all_eq_true] at h
  exact fun c hc => isDecimal_of_isDigit (h.2 c hc)

theorem not_mem_listInner {items : List OptionSpelling}
    (h : ∀ item ∈ items, item.Valid) {d : Char} (hd : d ∈ [']', '-']) :
    d ∉ listInner items := by
  intro hmem
  rcases mem_intercalate hmem with rfl | ⟨piece, hpiece, hdpiece⟩
  · simp at hd
  · obtain ⟨item, hitem, rfl⟩ := List.mem_map.1 hpiece
    exact OptionSpelling.not_mem_chars (h item hitem)
      (List.mem_cons_of_mem _ hd) hdpiece

/-- A written value is read back if a comma or white space follows it. -/
theorem valueAt?_chars (hv : v.Valid) (hrest : Breaks rest) :
    Clause.valueAt? (v.chars ++ rest) = some (v.value, rest) := by
  have hword : Stops isWord rest := hrest.stops (by decide) fun _ =>
    isWord_eq_false_of_isBlank
  have hdecimal : Stops isDecimal rest :=
    hrest.stops (by decide) fun _ => isDecimal_eq_false_of_isBlank
  have hpoint : rest.head? ≠ some '.' := by
    obtain ⟨c, cs, rfl, rfl | hc⟩ := hrest
    · simp
    · intro heq
      rw [List.head?_cons, Option.some.injEq] at heq
      exact absurd (heq ▸ hc) (by decide)
  cases v with
  | quoted quote text =>
      obtain ⟨rfl | rfl, htext, -⟩ := hv
      · simp [chars, value, Clause.valueAt?, Clause.untilChar?_append htext]
      · simp [chars, value, Clause.valueAt?, Clause.untilChar?_append htext]
  | list items =>
      have hinner : ']' ∉ listInner items :=
        not_mem_listInner hv.2 List.mem_cons_self
      simp [chars, value, Clause.valueAt?, Clause.untilChar?_append hinner]
  | digits text =>
      have hall := isDecimal_of_mem_digits hv
      cases text with
      | nil => simp [Valid, Numeral.isDigits] at hv
      | cons c cs =>
          have hc := hall c List.mem_cons_self
          have hnumber := Clause.takeNumber_digits hall hdecimal hpoint
          have hdouble : c ≠ '"' := ne_of_class hc (by decide)
          have hsingle : c ≠ '\'' := ne_of_class hc (by decide)
          have hbracket : c ≠ '[' := ne_of_class hc (by decide)
          rw [List.cons_append] at hnumber
          simp only [chars, value, List.cons_append, Clause.valueAt?,
            if_neg hdouble, if_neg hsingle, if_neg hbracket, if_pos hc, hnumber]
  | bare text =>
      obtain ⟨hne, hall, hdigit⟩ := hv
      cases text with
      | nil => contradiction
      | cons c cs =>
          have hc := hall c List.mem_cons_self
          have hdouble : c ≠ '"' := ne_of_class hc (by decide)
          have hsingle : c ≠ '\'' := ne_of_class hc (by decide)
          have hbracket : c ≠ '[' := ne_of_class hc (by decide)
          have htake := takeWhile_run hall hword
          have hdrop := dropWhile_run hall hword
          rw [List.cons_append] at htake hdrop
          simp [chars, value, List.cons_append, Clause.valueAt?, hdouble,
            hsingle, hbracket, stops_cons.1 hdigit, hc, htake, hdrop]

theorem stops_isBlank_chars (hv : v.Valid) :
    Stops isBlank (v.chars ++ rest) := by
  cases v with
  | quoted quote text =>
      obtain ⟨rfl | rfl, -⟩ := hv
      · exact stops_cons.2 (by decide)
      · exact stops_cons.2 (by decide)
  | list items => exact stops_cons.2 (by decide)
  | digits text =>
      have hall := isDecimal_of_mem_digits hv
      cases text with
      | nil => simp [Valid, Numeral.isDigits] at hv
      | cons c cs =>
          have hc := hall c List.mem_cons_self
          refine stops_cons.2 ?_
          by_contra hblank
          rw [isDecimal_eq_false_of_isBlank
            (Bool.not_eq_false _ ▸ hblank)] at hc
          contradiction
  | bare text =>
      obtain ⟨hne, hall, -⟩ := hv
      cases text with
      | nil => contradiction
      | cons c cs => exact stops_cons.2 (isBlank_eq_false_of_isWord
          (hall c List.mem_cons_self))

theorem hyphen_not_mem_chars (hv : v.Valid) : '-' ∉ v.chars := by
  cases v with
  | quoted quote text =>
      obtain ⟨rfl | rfl, -, htext⟩ := hv
      · simpa [chars] using htext
      · simpa [chars] using htext
  | list items =>
      have hinner : '-' ∉ listInner items := not_mem_listInner hv.2 (by simp)
      simpa [chars] using hinner
  | digits text =>
      exact not_mem_of_class (isDecimal_of_mem_digits hv) (by decide)
  | bare text => exact not_mem_of_class hv.2.1 (by decide)

end ValueSpelling

/-- Text that may stand in front of a clause, and after the last one. -/
structure Separates (cs : List Char) : Prop where
  equals_not_mem : '=' ∉ cs
  hyphen_not_mem : '-' ∉ cs
  head_breaks : Breaks cs
  last_breaks : Breaks cs.reverse

/-- The key that a clause begins with. -/
inductive ClauseKey where
  | type
  | label
  | required
  | options
  | min
  | max
  | default
  | placeholder
  | description
deriving DecidableEq, Repr

def ClauseKey.word : ClauseKey → List Char
  | type => "type".toList
  | label => "label".toList
  | required => "required".toList
  | options => "options".toList
  | min => "min".toList
  | max => "max".toList
  | default => "default".toList
  | placeholder => "placeholder".toList
  | description => "description".toList

/-- A clause as written: a key, an equals sign between white space, and a
value. -/
structure ClauseSpelling where
  key : ClauseKey
  beforeEquals : List Char
  afterEquals : List Char
  value : ValueSpelling

namespace ClauseSpelling

def chars (c : ClauseSpelling) : List Char :=
  c.key.word ++ (c.beforeEquals ++ '=' :: (c.afterEquals ++ c.value.chars))

structure Valid (c : ClauseSpelling) : Prop where
  before_blank : ∀ d ∈ c.beforeEquals, isBlank d = true
  after_blank : ∀ d ∈ c.afterEquals, isBlank d = true
  value_valid : c.value.Valid

/-- The clause that is written. -/
def clause (c : ClauseSpelling) : Clause :=
  ⟨String.ofList c.key.word, c.value.value⟩

end ClauseSpelling

namespace Clause

variable {cs rest : List Char}

theorem scan_of_not_word {c : Char} (hc : isWord c = false) :
    scan (c :: cs) = scan cs := by
  rw [scan, if_neg (by simp [hc])]

theorem scan_dropWhile_isBlank (cs : List Char) :
    scan (cs.dropWhile isBlank) = scan cs := by
  induction cs with
  | nil => rfl
  | cons c cs ih =>
      rw [List.dropWhile_cons]
      split
      next hc => rw [ih, scan_of_not_word (isWord_eq_false_of_isBlank hc)]
      next => rfl

theorem scan_of_assignment {key : List Char} {value : ClauseValue}
    (hne : key ≠ []) (hkey : ∀ c ∈ key, isWord c = true) (hcs : Stops isWord cs)
    (h : assignmentAt? cs = some (value, rest)) :
    scan (key ++ cs) = ⟨String.ofList key, value⟩ :: scan rest := by
  cases key with
  | nil => contradiction
  | cons c key =>
      have hc := hkey c List.mem_cons_self
      have hkey' : ∀ d ∈ key, isWord d = true := fun d hd =>
        hkey d (List.mem_cons_of_mem c hd)
      rw [List.cons_append, scan, if_pos hc, dropWhile_run hkey' hcs,
        takeWhile_run hkey' hcs]
      split
      next value' rest' heq =>
        rw [h, Option.some.injEq, Prod.mk.injEq] at heq
        rw [heq.1, heq.2]
      next heq => simp [h] at heq

theorem scan_of_no_assignment {c : Char} (hc : isWord c = true)
    (h : assignmentAt? (cs.dropWhile isWord) = none) :
    scan (c :: cs) = scan (cs.dropWhile isWord) := by
  rw [scan, if_pos hc]
  split
  next heq => simp [h] at heq
  next => rfl

/-- No equals sign comes next, white space aside. -/
def NoEquals (cs : List Char) : Prop :=
  (cs.dropWhile isBlank).head? ≠ some '='

theorem noEquals_append {skipped : List Char} (hskipped : '=' ∉ skipped)
    (hcs : NoEquals cs) :
    NoEquals (skipped ++ cs) := by
  induction skipped with
  | nil => exact hcs
  | cons c skipped ih =>
      rw [List.mem_cons, not_or] at hskipped
      rw [NoEquals, List.cons_append, List.dropWhile_cons]
      split
      · exact ih hskipped.2
      · simpa using Ne.symm hskipped.1

theorem assignmentAt?_eq_none (h : NoEquals cs) : assignmentAt? cs = none := by
  rw [assignmentAt?]
  split
  next heq => simp [NoEquals, heq] at h
  next => rfl

/-- Text without an equals sign begins no clause if it does not end in a word.
The induction is on its length, since a word is skipped as a whole. -/
theorem scan_skip {skipped : List Char} {last : Char} (hskipped : '=' ∉ skipped)
    (hlast : isWord last = false) (hequals : last ≠ '=') (hcs : NoEquals cs) :
    scan (skipped ++ last :: cs) = scan cs := by
  induction hn : skipped.length using Nat.strong_induction_on
    generalizing skipped with
  | _ n ih =>
    cases skipped with
    | nil => exact scan_of_not_word hlast
    | cons c skipped =>
        rw [List.mem_cons, not_or] at hskipped
        rw [List.length_cons] at hn
        cases hc : isWord c with
        | false =>
            rw [List.cons_append, scan_of_not_word hc]
            exact ih skipped.length (by omega) hskipped.2 rfl
        | true =>
            have hrest : '=' ∉ skipped.dropWhile isWord := fun hmem =>
              hskipped.2 ((List.dropWhile_suffix isWord).mem hmem)
            have hle : (skipped.dropWhile isWord).length ≤ skipped.length :=
              (List.dropWhile_suffix isWord).length_le
            have hdrop : (skipped ++ last :: cs).dropWhile isWord =
                skipped.dropWhile isWord ++ last :: cs :=
              dropWhile_append_of_stops skipped (stops_cons.2 hlast)
            have hnone :
                assignmentAt? (skipped.dropWhile isWord ++ last :: cs) =
                none := by
              have hlast : '=' ∉ [last] := by simpa using Ne.symm hequals
              exact assignmentAt?_eq_none
                (noEquals_append hrest (noEquals_append hlast hcs))
            rw [List.cons_append,
              scan_of_no_assignment hc (by rw [hdrop, hnone]), hdrop]
            exact ih _ (by omega) hrest rfl

theorem scan_separator {skipped : List Char} (h : Separates skipped)
    (hcs : NoEquals cs) :
    scan (skipped ++ cs) = scan cs := by
  obtain ⟨last, init, hreverse, hlast⟩ := h.last_breaks
  have hskipped : skipped = init.reverse ++ [last] := by
    rw [← List.reverse_reverse skipped, hreverse, List.reverse_cons]
  have hequals := h.equals_not_mem
  rw [hskipped, List.mem_append, List.mem_singleton, not_or] at hequals
  have hword : isWord last = false := by
    rcases hlast with rfl | hblank
    · decide
    · exact isWord_eq_false_of_isBlank hblank
  rw [hskipped, List.append_assoc, List.singleton_append]
  exact scan_skip hequals.1 hword (Ne.symm hequals.2) hcs

end Clause

namespace ClauseKey

theorem word_ne_nil (k : ClauseKey) : k.word ≠ [] := by
  cases k <;> decide

theorem isWord_of_mem_word (k : ClauseKey) : ∀ c ∈ k.word, isWord c = true := by
  cases k <;> exact forall_mem_of_all (by decide)

end ClauseKey

namespace ClauseSpelling

open Clause

variable {c : ClauseSpelling} {rest : List Char}

theorem noEquals_chars : NoEquals (c.chars ++ rest) := by
  have hne := c.key.word_ne_nil
  have hword := c.key.isWord_of_mem_word
  rw [NoEquals, chars]
  cases hkey : c.key.word with
  | nil => exact absurd hkey hne
  | cons d ds =>
      have hd := hword d (by simp [hkey])
      rw [List.cons_append, List.cons_append,
        dropWhile_eq_self_of_stops
          (stops_cons.2 (isBlank_eq_false_of_isWord hd))]
      simpa using ne_of_class hd (by decide)

/-- A written clause is scanned if a comma or white space follows it. -/
theorem scan_chars (hc : c.Valid) (hrest : Breaks rest) :
    scan (c.chars ++ rest) = c.clause :: scan rest := by
  have hequals :
      Stops isBlank ('=' :: (c.afterEquals ++ (c.value.chars ++ rest))) :=
    stops_cons.2 (by decide)
  have hassignment : assignmentAt? (c.beforeEquals ++
      '=' :: (c.afterEquals ++ (c.value.chars ++ rest))) =
        some (c.value.value, rest) := by
    rw [assignmentAt?, dropWhile_run hc.before_blank hequals]
    simp only
    rw [dropWhile_run hc.after_blank
        (ValueSpelling.stops_isBlank_chars hc.value_valid),
      ValueSpelling.valueAt?_chars hc.value_valid hrest]
  have hstops : Stops isWord (c.beforeEquals ++
      '=' :: (c.afterEquals ++ (c.value.chars ++ rest))) := by
    cases hbefore : c.beforeEquals with
    | nil => exact stops_cons.2 (by decide)
    | cons d ds =>
        have hd := hc.before_blank d (by simp [hbefore])
        exact stops_cons.2 (isWord_eq_false_of_isBlank hd)
  have htext : c.chars ++ rest = c.key.word ++ (c.beforeEquals ++
      '=' :: (c.afterEquals ++ (c.value.chars ++ rest))) := by
    simp [chars]
  rw [htext,
    scan_of_assignment c.key.word_ne_nil c.key.isWord_of_mem_word hstops
    hassignment]
  rfl

theorem hyphen_not_mem_chars (hc : c.Valid) : '-' ∉ c.chars := by
  have hkey : '-' ∉ c.key.word := not_mem_of_class c.key.isWord_of_mem_word
      (by decide)
  have hbefore : '-' ∉ c.beforeEquals :=
    not_mem_of_class hc.before_blank (by decide)
  have hafter : '-' ∉ c.afterEquals :=
    not_mem_of_class hc.after_blank (by decide)
  have hvalue := ValueSpelling.hyphen_not_mem_chars hc.value_valid
  simp [chars, hkey, hbefore, hafter, hvalue]

end ClauseSpelling

/-- Clauses with a separator in front of each, and one after the last. -/
def clausesChars (clauses : List (List Char × ClauseSpelling))
    (tail : List Char) : List Char :=
  clauses.flatMap (fun clause => clause.1 ++ clause.2.chars) ++ tail

theorem breaks_append {cs : List Char} (h : Breaks cs) (rest : List Char) :
    Breaks (cs ++ rest) := by
  obtain ⟨c, tail, rfl, hc⟩ := h
  exact ⟨c, tail ++ rest, rfl, hc⟩

theorem breaks_clausesChars {clauses : List (List Char × ClauseSpelling)}
    {tail : List Char} (hseparators : ∀ clause ∈ clauses, Separates clause.1)
    (htail : Separates tail) :
    Breaks (clausesChars clauses tail) := by
  cases clauses with
  | nil => exact htail.head_breaks
  | cons clause clauses =>
      have hhead := (hseparators clause List.mem_cons_self).head_breaks
      simp only [clausesChars, List.flatMap_cons, List.append_assoc]
      exact breaks_append hhead _

/-- Written clauses are scanned in order, whatever separates them. -/
theorem scan_clausesChars {clauses : List (List Char × ClauseSpelling)}
    {tail : List Char} (hseparators : ∀ clause ∈ clauses, Separates clause.1)
    (hclauses : ∀ clause ∈ clauses, clause.2.Valid) (htail : Separates tail) :
    Clause.scan (clausesChars clauses tail) = clauses.map fun clause =>
      clause.2.clause := by
  induction clauses with
  | nil =>
      have hscan : Clause.scan (tail ++ []) = Clause.scan [] :=
        Clause.scan_separator htail (by simp [Clause.NoEquals])
      rw [List.append_nil] at hscan
      simpa [clausesChars, Clause.scan] using hscan
  | cons clause clauses ih =>
      have hseparator := hseparators clause List.mem_cons_self
      have hvalid := hclauses clause List.mem_cons_self
      have hseparators' : ∀ c ∈ clauses, Separates c.1 := fun c hc =>
        hseparators c (List.mem_cons_of_mem clause hc)
      have hclauses' : ∀ c ∈ clauses, c.2.Valid := fun c hc =>
        hclauses c (List.mem_cons_of_mem clause hc)
      have htext : clausesChars (clause :: clauses) tail =
          clause.1 ++ (clause.2.chars ++ clausesChars clauses tail) := by
        simp [clausesChars]
      rw [htext, Clause.scan_separator hseparator ClauseSpelling.noEquals_chars,
        ClauseSpelling.scan_chars hvalid
          (breaks_clausesChars hseparators' htail),
        ih hseparators' hclauses', List.map_cons]

end Stencil
