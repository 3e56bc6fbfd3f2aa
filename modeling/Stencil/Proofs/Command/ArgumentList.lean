/-
Command lines as they are spelled.  The arguments of an accepted command are its
options and words in their order, so that what the command is given can be read
off them, and a command line that spells options is accepted with these.
-/
import Stencil.Command.Arguments
import Stencil.Proofs.Result
import Stencil.Proofs.Text.Pairs

namespace Stencil

/-- An argument that is no option: it does not begin with a hyphen, or is no
more than one. -/
def IsPlain (argument : String) : Prop :=
  argument = "-" ∨ argument.toList.head? ≠ some '-'

theorem startsWith_hyphen_iff {argument : String} :
    argument.startsWith "-" = true ↔ argument.toList.head? = some '-' := by
  rw [String.startsWith_string_iff, List.head?_eq_some_iff]
  constructor
  · rintro ⟨rest, hrest⟩
    exact ⟨rest, hrest.symm⟩
  · rintro ⟨rest, hrest⟩
    exact ⟨rest, hrest.symm⟩

theorem looksLikeOption_eq_false_iff {argument : String} :
    looksLikeOption argument = false ↔ IsPlain argument := by
  rw [looksLikeOption, IsPlain, Bool.and_eq_false_iff, ← Bool.not_eq_true,
    startsWith_hyphen_iff, or_comm]
  simp

/-- An option by its long name, with its value behind an equals sign. -/
def longSpelling (name : String) (value? : Option String) : String :=
  value?.elim ("--" ++ name) fun value => "--" ++ name ++ "=" ++ value

namespace OptionTable

/-- No name of an option is empty or has an equals sign in it, and no name
stands for an option with a value and for one without. -/
structure Proper (table : OptionTable) : Prop where
  named : ∀ name ∈ table.switches ++ table.valued, name ≠ ""
  unsplit : ∀ name ∈ table.switches ++ table.valued, '=' ∉ name.toList
  apart : ∀ name ∈ table.switches, name ∉ table.valued

/-- How an argument of each kind is written. -/
def Writes (table : OptionTable) (argument : String) : Argument → Prop
  | .separator => argument = "--"
  | .word text => text = argument ∧ IsPlain argument
  | .switch name =>
      (name ∈ table.switches ∧ argument = "--" ++ name) ∨
        ∃ c, table.letters.lookup c = some name
  | .valued name none => name ∈ table.valued ∧ argument = "--" ++ name
  | .valued name (some value) =>
      name ∈ table.valued ∧ '=' ∉ name.toList ∧
        argument = "--" ++ name ++ "=" ++ value
  | .wrong _ => True

theorem writes_longOption {table : OptionTable} {argument name : String}
    {value? : Option String} (hargument : argument = longSpelling name value?)
    (hname : value?.isSome = true → '=' ∉ name.toList) :
    table.Writes argument (table.longOption argument name value?) := by
  unfold longOption
  split
  next hvalued =>
      cases value? with
      | none => exact ⟨hvalued, hargument⟩
      | some value => exact ⟨hvalued, hname rfl, hargument⟩
  next =>
      split
      next hswitch =>
          cases value? with
          | none => exact Or.inl ⟨hswitch, hargument⟩
          | some value => trivial
      next => trivial

theorem writes_classify (table : OptionTable) (argument : String) :
    table.Writes argument (table.classify argument) := by
  unfold classify
  split
  next hcs => exact String.toList_injective hcs
  next cs _ hcs =>
      have hargument : argument = "--" ++ String.ofList cs := by
        apply String.toList_injective
        simp [hcs, String.toList_append]
      split
      next name value hcut =>
          obtain ⟨hnot, rfl⟩ := Text.of_splitAtFirst?_singleton hcut
          refine writes_longOption ?_ (fun _ => by rwa [String.toList_ofList])
          rw [hargument, longSpelling, Option.elim_some]
          apply String.toList_injective
          simp [String.toList_append]
      next => exact writes_longOption hargument nofun
  next c rest _ _ hcs =>
      split
      next name hlookup => exact Or.inr ⟨c, hlookup⟩
      next => trivial
  next hword =>
      refine ⟨rfl, ?_⟩
      by_cases hlone : argument = "-"
      · exact Or.inl hlone
      · right
        intro hhead
        obtain ⟨rest, hrest⟩ := List.head?_eq_some_iff.1 hhead
        cases rest with
        | nil => exact hlone (String.toList_injective hrest)
        | cons c rest => exact hword c rest hrest

theorem writes_of_classify {table : OptionTable} {argument : String}
    {kind : Argument} (h : table.classify argument = kind) :
    table.Writes argument kind := by
  rw [← h]
  exact table.writes_classify argument

/-- The arguments that spell options and words.  After a separator there are
only words. -/
inductive Spells (table : OptionTable) : List String → Gathered → Prop
  | done : Spells table [] {}
  | separator (words : List String) : Spells table ("--" :: words) { words }
  | word {text : String} {rest : List String} {g : Gathered}
      (plain : IsPlain text)
      (more : Spells table rest g) :
      Spells table (text :: rest) { g with words := text :: g.words }
  | switch {name : String} {rest : List String} {g : Gathered}
      (known : name ∈ table.switches)
      (more : Spells table rest g) :
      Spells table (("--" ++ name) :: rest)
        { g with switches := name :: g.switches }
  | joined {name value : String} {rest : List String} {g : Gathered}
      (known : name ∈ table.valued)
      (first : '=' ∉ name.toList) (more : Spells table rest g) :
      Spells table (("--" ++ name ++ "=" ++ value) :: rest)
        { g with values := (name, value) :: g.values }
  | apart {name value : String} {rest : List String} {g : Gathered}
      (known : name ∈ table.valued)
      (plain : IsPlain value) (more : Spells table rest g) :
      Spells table (("--" ++ name) :: value :: rest)
        { g with values := (name, value) :: g.values }

/-- The only letter after a command asks for help. -/
theorem letters_ofCommand (switches valued : List String) :
    ∀ c name, (ofCommand switches valued).letters.lookup c = some name →
      name = "help" := by
  intro c name hlookup
  rw [ofCommand, List.lookup_cons] at hlookup
  split at hlookup <;> cases hlookup
  rfl

theorem spells_of_ofArguments {table : OptionTable} {arguments : List String}
    {g : Gathered}
    (hletters : ∀ c name, table.letters.lookup c = some name → name = "help")
    (h : Gathered.ofArguments table arguments = .ok g)
    (hhelp : g.has "help" = false) :
    table.Spells arguments g := by
  fun_induction Gathered.ofArguments table arguments generalizing g with
  | case1 =>
      cases h
      exact .done
  | case2 argument rest hseparator =>
      cases h
      obtain rfl : argument = "--" := writes_of_classify hseparator
      exact .separator rest
  | case3 argument rest text hword ih =>
      obtain ⟨later, hlater, rfl⟩ := of_map_eq_ok h
      obtain ⟨rfl, hplain⟩ := writes_of_classify hword
      exact .word hplain (ih hlater hhelp)
  | case4 =>
      cases h
      cases hhelp
  | case5 argument rest name hswitch hname ih =>
      obtain ⟨later, hlater, rfl⟩ := of_map_eq_ok h
      rcases writes_of_classify hswitch with ⟨hknown, rfl⟩ | ⟨c, hletter⟩
      · simp only [Gathered.has, List.mem_cons, decide_eq_false_iff_not,
          not_or] at hhelp
        exact .switch hknown (ih hlater (decide_eq_false hhelp.2))
      · exact absurd (hletters c name hletter) hname
  | case6 argument rest name value hvalued ih =>
      obtain ⟨later, hlater, rfl⟩ := of_map_eq_ok h
      obtain ⟨hknown, hfirst, rfl⟩ := writes_of_classify hvalued
      exact .joined hknown hfirst (ih hlater hhelp)
  | case7 => cases h
  | case8 => cases h
  | case9 argument name hvalued value rest hlooks ih =>
      obtain ⟨later, hlater, rfl⟩ := of_map_eq_ok h
      obtain ⟨hknown, rfl⟩ := writes_of_classify hvalued
      have hplain := looksLikeOption_eq_false_iff.1 (Bool.eq_false_iff.2 hlooks)
      exact .apart hknown hplain (ih hlater hhelp)
  | case10 => cases h

section Classified

variable {table : OptionTable}

theorem classify_of_isPlain {argument : String} (h : IsPlain argument) :
    table.classify argument = .word argument := by
  have hrest : ∀ c rest, argument.toList ≠ '-' :: c :: rest := by
    intro c rest hcs
    rcases h with rfl | hhead
    · cases hcs
    · rw [hcs] at hhead
      exact hhead rfl
  unfold classify
  split
  next hcs => exact absurd hcs (hrest '-' [])
  next cs _ hcs => exact absurd hcs (hrest '-' cs)
  next c rest _ _ hcs => exact absurd hcs (hrest c rest)
  next => rfl

theorem classify_longSpelling {name : String} (hnamed : name ≠ "")
    (hunsplit : '=' ∉ name.toList) (value? : Option String) :
    table.classify (longSpelling name value?) =
      table.longOption (longSpelling name value?) name value? := by
  obtain ⟨c, cs, hname⟩ :=
    List.exists_cons_of_ne_nil (by simpa using hnamed : name.toList ≠ [])
  obtain rfl : name = String.ofList (c :: cs) := by
    rw [← hname, String.ofList_toList]
  rw [String.toList_ofList] at hunsplit
  cases value? with
  | none =>
      have hcs : (longSpelling (String.ofList (c :: cs)) none).toList =
          '-' :: '-' :: c :: cs := by
        simp [longSpelling, String.toList_append]
      rw [classify, hcs]
      simp only
      rw [Text.splitAtFirst?_singleton_eq_none hunsplit]
  | some value =>
      have hcs : (longSpelling (String.ofList (c :: cs)) (some value)).toList =
          '-' :: '-' :: c :: (cs ++ '=' :: value.toList) := by
        simp [longSpelling, String.toList_append]
      have hcut := Text.splitAtFirst?_singleton hunsplit value.toList
      rw [List.cons_append] at hcut
      rw [classify, hcs]
      simp only
      rw [hcut]
      simp only
      rw [String.ofList_toList]

theorem Proper.classify_switch (h : table.Proper) {name : String}
    (hknown : name ∈ table.switches) :
    table.classify ("--" ++ name) = .switch name := by
  have hmem := List.mem_append_left table.valued hknown
  refine (classify_longSpelling (h.named name hmem)
    (h.unsplit name hmem) none).trans ?_
  rw [longOption, if_neg (h.apart name hknown), if_pos hknown]
  rfl

theorem Proper.classify_valued (h : table.Proper) {name : String}
    (hknown : name ∈ table.valued) (value? : Option String) :
    table.classify (longSpelling name value?) = .valued name value? := by
  have hmem := List.mem_append_right table.switches hknown
  rw [classify_longSpelling (h.named name hmem) (h.unsplit name hmem),
    longOption, if_pos hknown]

/-- Arguments that spell options and words are sorted into these. -/
theorem Proper.ofArguments_of_spells (h : table.Proper)
    {arguments : List String} {g : Gathered}
    (hspells : table.Spells arguments g) (hhelp : "help" ∉ g.switches) :
    Gathered.ofArguments table arguments = .ok g := by
  induction hspells with
  | done => rfl
  | separator words => rfl
  | word plain more ih =>
      rw [Gathered.ofArguments, classify_of_isPlain plain]
      simp only
      rw [ih hhelp]
      rfl
  | @switch name rest g known more ih =>
      rw [List.mem_cons, not_or] at hhelp
      rw [Gathered.ofArguments, h.classify_switch known]
      simp only
      rw [if_neg (Ne.symm hhelp.1), ih hhelp.2]
      rfl
  | @joined name value rest g known first more ih =>
      have hclassify := h.classify_valued known (some value)
      rw [longSpelling, Option.elim_some] at hclassify
      rw [Gathered.ofArguments, hclassify]
      simp only
      rw [ih hhelp]
      rfl
  | @apart name value rest g known plain more ih =>
      have hclassify := h.classify_valued known none
      rw [longSpelling, Option.elim_none] at hclassify
      rw [Gathered.ofArguments, hclassify]
      simp only
      rw [looksLikeOption_eq_false_iff.2 plain, ih hhelp]
      rfl

end Classified

end OptionTable

namespace Gathered

theorem firstRepeated?_eq_none_iff {names : List String} :
    firstRepeated? names = none ↔ names.Nodup := by
  induction names with
  | nil => exact iff_of_true rfl List.nodup_nil
  | cons name names ih =>
      rw [firstRepeated?, List.nodup_cons]
      split
      next hold => exact iff_of_false nofun fun h => h.1 hold
      next hnew => exact ih.trans (iff_and_self.2 fun _ => hnew)

theorem assignment?_eq_some {text : String} {pair : String × String}
    (h : assignment? text = some pair) :
    text = pair.1 ++ "=" ++ pair.2 ∧ '=' ∉ pair.1.toList := by
  obtain ⟨⟨key, value⟩, hcut, rfl⟩ := Option.map_eq_some_iff.1 h
  obtain ⟨hnot, htext⟩ := Text.of_splitAtFirst?_singleton hcut
  refine ⟨?_, by rwa [String.toList_ofList]⟩
  apply String.toList_injective
  simp [htext, String.toList_append]

theorem assignment?_spelled {key : String} (hkey : '=' ∉ key.toList)
    (value : String) :
    assignment? (key ++ "=" ++ value) = some (key, value) := by
  have htext : (key ++ "=" ++ value).toList =
      key.toList ++ '=' :: value.toList := by
    simp [String.toList_append]
  rw [assignment?, htext, Text.splitAtFirst?_singleton hkey]
  simp only [Option.map_some, String.ofList_toList]

theorem forM_checkValue_eq_ok_iff {values : List (String × String)} :
    values.forM checkValue = .ok () ↔ ∀ option ∈ values,
      checkValue option = .ok () := by
  induction values with
  | nil => exact iff_of_true rfl nofun
  | cons first values ih =>
      rw [List.forall_mem_cons, ← ih]
      change (checkValue first >>= fun _ => values.forM checkValue) = .ok () ↔ _
      cases checkValue first with
      | error cause => exact iff_of_false nofun nofun
      | ok => exact (and_iff_right rfl).symm

/-- A path may not be empty. -/
theorem checkValue_path {option : String × String} (hname : option.1 ≠ "var") :
    checkValue option = .ok () ↔ option.2 ≠ "" := by
  rw [checkValue, if_neg hname]
  split
  next hempty => exact iff_of_false nofun fun hfilled => hfilled hempty
  next hfilled => exact iff_of_true rfl hfilled

/-- Checked assignments are all parted, and their parts spell them. -/
theorem map_assignment? {values : List (String × String)}
    (h : ∀ option ∈ values, checkValue option = .ok ()) :
    (values.filter (·.1 = "var")).map Prod.snd =
      ((values.filter (·.1 = "var")).filterMap (assignment? ·.2)).map
        fun pair => pair.1 ++ "=" ++ pair.2 := by
  induction values with
  | nil => rfl
  | cons option values ih =>
      have hrest :=
        ih fun other hother => h other (List.mem_cons_of_mem option hother)
      by_cases hname : option.1 = "var"
      · have hcheck := h option List.mem_cons_self
        rw [checkValue, if_pos hname] at hcheck
        cases hpair : assignment? option.2 with
        | none =>
            rw [hpair] at hcheck
            cases hcheck
        | some pair =>
            rw [List.filter_cons_of_pos (by simpa using hname), List.map_cons,
              List.filterMap_cons]
            simp only [hpair, List.map_cons]
            rw [← hrest, ← (assignment?_eq_some hpair).1]
      · rw [List.filter_cons_of_neg (by simpa using hname)]
        exact hrest

/-- What gathered arguments set: the one word is the template, and each
assignment is a key and a value around the first equals sign.  No path is empty,
only assignments are repeated, and nobody asks for help. -/
structure Sets (g : Gathered) (options : RenderOptions) : Prop where
  words : g.words = [options.template]
  template : options.template ≠ ""
  paths : ∀ option ∈ g.values, option.1 ≠ "var" → option.2 ≠ ""
  unhelped : "help" ∉ g.switches
  batch : options.batch = true ↔ "batch" ∈ g.switches
  strict : options.strict = true ↔ "strict" ∈ g.switches
  json : options.json = true ↔ "json" ∈ g.switches
  inputs : options.inputs = g.values.lookup "inputs"
  output : options.output = g.values.lookup "output"
  assignments : (g.values.filter (·.1 = "var")).map Prod.snd =
    options.assignments.map fun pair => pair.1 ++ "=" ++ pair.2
  keys : ∀ pair ∈ options.assignments, '=' ∉ pair.1.toList
  once : (g.switches ++ (g.values.map Prod.fst).filter (· ≠ "var")).Nodup

theorem check_eq_ok_iff {g : Gathered} :
    g.check = .ok () ↔ (∀ option ∈ g.values, checkValue option = .ok ()) ∧
      (g.switches ++ (g.values.map Prod.fst).filter (· ≠ "var")).Nodup := by
  rw [← forM_checkValue_eq_ok_iff, ← firstRepeated?_eq_none_iff, check]
  cases g.values.forM checkValue with
  | error cause => exact iff_of_false nofun nofun
  | ok =>
      rw [and_iff_right rfl]
      cases firstRepeated?
        (g.switches ++ (g.values.map Prod.fst).filter (· ≠ "var")) with
      | none => exact iff_of_true rfl rfl
      | some name => exact iff_of_false nofun nofun

theorem template_eq_ok_iff {g : Gathered} {path : String} :
    g.template = .ok path ↔ g.words = [path] ∧ path ≠ "" := by
  rw [template]
  split
  next hwords =>
      exact iff_of_false nofun fun h => by cases hwords.symm.trans h.1
  next word hwords =>
      rw [hwords, List.singleton_inj]
      split
      next hempty =>
          exact iff_of_false nofun fun ⟨hword, hpath⟩ => hpath (hword ▸ hempty)
      next hnamed =>
          constructor
          · intro h
            cases h
            exact ⟨rfl, hnamed⟩
          · rintro ⟨rfl, -⟩
            rfl
  next hwords =>
      exact iff_of_false nofun fun h => by cases hwords.symm.trans h.1

theorem sets_of_ofGathered {g : Gathered} {name : String}
    {options : RenderOptions} (hhelp : g.has "help" = false)
    (hcheck : g.check = .ok ())
    (h : Command.ofGathered name g = .ok (.render options)) :
    name = "render" ∧ g.Sets options := by
  obtain ⟨hvalues, honce⟩ := check_eq_ok_iff.1 hcheck
  unfold Command.ofGathered at h
  split at h
  next =>
      obtain ⟨template, -, h⟩ := of_map_eq_ok h
      cases h
  next =>
      obtain ⟨path, hpath, h⟩ := of_map_eq_ok h
      cases h
      obtain ⟨hwords, hnamed⟩ := template_eq_ok_iff.1 hpath
      refine ⟨rfl, hwords, hnamed, ?_, of_decide_eq_false hhelp,
        decide_eq_true_iff, decide_eq_true_iff, decide_eq_true_iff, rfl, rfl,
        map_assignment? hvalues, ?_, honce⟩
      · intro option hoption hname
        exact (checkValue_path hname).1 (hvalues option hoption)
      · intro pair hpair
        obtain ⟨option, -, hassignment⟩ := List.mem_filterMap.1 hpair
        exact (assignment?_eq_some hassignment).2
  next =>
      split at h <;> cases h

section Accepted

variable {g : Gathered} {options : RenderOptions}

/-- The assignments that are set are the values of the option for them,
parted. -/
theorem Sets.filterMap_assignment? (h : g.Sets options) :
    (g.values.filter (·.1 = "var")).filterMap (assignment? ·.2) =
      options.assignments := by
  have hparted : ∀ pairs : List (String × String),
      (∀ pair ∈ pairs, '=' ∉ pair.1.toList) →
      (pairs.map fun pair => pair.1 ++ "=" ++ pair.2).filterMap assignment? =
        pairs := by
    intro pairs hkeys
    induction pairs with
    | nil => rfl
    | cons pair pairs ih =>
        obtain ⟨hkey, hkeys⟩ := List.forall_mem_cons.1 hkeys
        rw [List.map_cons,
          List.filterMap_cons_some (assignment?_spelled hkey pair.2), ih hkeys]
  have hvalues := congrArg (List.filterMap assignment?) h.assignments
  rw [List.filterMap_map, hparted options.assignments h.keys] at hvalues
  exact hvalues

theorem Sets.check (h : g.Sets options) : g.check = .ok () := by
  refine check_eq_ok_iff.2 ⟨fun option hoption => ?_, h.once⟩
  by_cases hname : option.1 = "var"
  · have hspelled : option.2 ∈ options.assignments.map fun pair =>
      pair.1 ++ "=" ++ pair.2 := by
      rw [← h.assignments]
      exact List.mem_map_of_mem
        (List.mem_filter.2 ⟨hoption, by simpa using hname⟩)
    obtain ⟨pair, hpair, htext⟩ := List.mem_map.1 hspelled
    rw [checkValue, if_pos hname, ← htext,
      assignment?_spelled (h.keys pair hpair)]
    rfl
  · exact (checkValue_path hname).2 (h.paths option hoption hname)

theorem Sets.ofGathered (h : g.Sets options) :
    Command.ofGathered "render" g = .ok (.render options) := by
  have hswitch : ∀ {name on}, (on = true ↔ name ∈ g.switches) →
      g.has name = on :=
    fun hon => Bool.eq_iff_iff.2 (decide_eq_true_iff.trans hon.symm)
  change g.template.map _ = _
  rw [template_eq_ok_iff.2 ⟨h.words, h.template⟩]
  simp only [Except.map]
  rw [h.filterMap_assignment?, hswitch h.batch, hswitch h.strict,
    hswitch h.json, value?, value?, ← h.inputs, ← h.output]

end Accepted

end Gathered

/-- What may stand before a command: at most one path of settings. -/
inductive SpellsConfig : List String → Option String → Prop
  | absent : SpellsConfig [] none
  | joined {path : String} (named : path ≠ "") :
      SpellsConfig ["--config=" ++ path] (some path)
  | apart {path : String} (named : path ≠ "") (plain : IsPlain path) :
      SpellsConfig ["--config", path] (some path)

/-- A command line that asks for a rendering with these options and the settings
of this path. -/
def RenderOptions.SpelledBy (options : RenderOptions) (config : Option String)
    (arguments : List String) : Prop :=
  ∃ front path? rest g, arguments = front ++ "render" :: rest ∧
    SpellsConfig front path? ∧
    (OptionTable.ofCommand ["batch", "strict", "json"]
      ["var", "inputs", "output"]).Spells rest g ∧
    config = (g.values.lookup "config").or path? ∧ g.Sets options

namespace Request

theorem ofCommand_of_readFrom {config : Option String} {arguments : List String}
    {invocation : Invocation}
    (h : readFrom config arguments = .ok (.run invocation)) :
    ∃ front path? name rest, arguments = front ++ name :: rest ∧
      SpellsConfig front path? ∧
      (config.isSome = true → path? = none) ∧
      ofCommand (path?.or config) name rest = .ok (.run invocation) := by
  fun_induction readFrom config arguments with
  | case3 config argument rest name hword =>
      obtain ⟨rfl, -⟩ := OptionTable.writes_of_classify hword
      exact ⟨[], none, name, rest, rfl, .absent, fun _ => rfl, h⟩
  | case4 config argument rest name =>
      split at h <;> cases h
  | case7 config argument rest option path hvalued hnone hnamed ih =>
      obtain ⟨front, path?, name, later, rfl, hfront, hlater, hcommand⟩ := ih h
      obtain rfl := hlater rfl
      cases hfront
      obtain ⟨hknown, -, rfl⟩ := OptionTable.writes_of_classify hvalued
      obtain rfl := List.mem_singleton.1 hknown
      exact ⟨["--config=" ++ path], some path, name, later, rfl, .joined hnamed,
        fun hgiven => absurd hgiven hnone, hcommand⟩
  | case12 config argument option hvalued path rest hlooks hnone hnamed ih =>
      obtain ⟨front, path?, name, later, rfl, hfront, hlater, hcommand⟩ := ih h
      obtain rfl := hlater rfl
      cases hfront
      obtain ⟨hknown, rfl⟩ := OptionTable.writes_of_classify hvalued
      obtain rfl := List.mem_singleton.1 hknown
      have hplain := looksLikeOption_eq_false_iff.1 (Bool.eq_false_iff.2 hlooks)
      exact ⟨["--config", path], some path, name, later, rfl,
        .apart hnamed hplain, fun hgiven => absurd hgiven hnone, hcommand⟩
  | _ => cases h

theorem spelledBy_of_ofArguments {config : Option String}
    {arguments : List String} {options : RenderOptions}
    (h : ofArguments arguments = .ok (.run ⟨config, .render options⟩)) :
    options.SpelledBy config arguments := by
  obtain ⟨front, path?, name, rest, rfl, hfront, -, hcommand⟩ :=
    ofCommand_of_readFrom h
  rw [ofCommand] at hcommand
  split at hcommand
  next =>
      split at hcommand <;> cases hcommand
  next table htable =>
      obtain ⟨g, hgathered, hcommand⟩ := of_bind_eq_ok hcommand
      split at hcommand
      next => cases hcommand
      next hhelp =>
          obtain ⟨_, hcheck, hcommand⟩ := of_bind_eq_ok hcommand
          obtain ⟨command, hcommand, hrun⟩ := of_bind_eq_ok hcommand
          cases hrun
          have hhelp := Bool.eq_false_iff.2 hhelp
          obtain ⟨rfl, hsets⟩ :=
            Gathered.sets_of_ofGathered hhelp hcheck hcommand
          cases htable
          refine ⟨front, path?, rest, g, rfl, hfront, ?_, ?_, hsets⟩
          · exact OptionTable.spells_of_ofArguments
              (OptionTable.letters_ofCommand _ _) hgathered
              hhelp
          · rw [Gathered.value?, Option.or_none]
            cases List.lookup "config" g.values <;> rfl

/-- In front of a command, a path of settings is read and the command is
reached. -/
theorem readFrom_front {front : List String} {path? : Option String}
    (h : SpellsConfig front path?) {name : String} (hname : IsPlain name)
    (rest : List String) :
    ofArguments (front ++ name :: rest) = ofCommand path? name rest := by
  have hcommand : ∀ config,
      readFrom config (name :: rest) = ofCommand config name rest := by
    intro config
    rw [readFrom, OptionTable.classify_of_isPlain hname]
  have hproper : OptionTable.general.Proper := by constructor <;> decide
  have hconfig :=
    hproper.classify_valued (List.mem_singleton.2 rfl : "config" ∈ _)
  rw [ofArguments]
  cases h with
  | absent => exact hcommand none
  | @joined path named =>
      have hclassify := hconfig (some path)
      have hspelled : longSpelling "config" (some path) =
          "--config=" ++ path := rfl
      rw [hspelled] at hclassify
      rw [List.singleton_append, readFrom, hclassify]
      simp only
      rw [Option.isSome_none, if_neg Bool.false_ne_true, if_neg named, hcommand]
  | @apart path named plain =>
      have hclassify := hconfig none
      have hspelled : longSpelling "config" none = "--config" := rfl
      rw [hspelled] at hclassify
      change readFrom none ("--config" :: path :: name :: rest) = _
      rw [readFrom, hclassify]
      simp only
      rw [looksLikeOption_eq_false_iff.2 plain, if_neg Bool.false_ne_true,
        Option.isSome_none, if_neg Bool.false_ne_true, if_neg named, hcommand]

/-- A command line asks for a rendering with some options just where it spells
them. -/
theorem ofArguments_render_iff {config : Option String}
    {arguments : List String} {options : RenderOptions} :
    ofArguments arguments = .ok (.run ⟨config, .render options⟩) ↔
      options.SpelledBy config arguments := by
  refine ⟨spelledBy_of_ofArguments, ?_⟩
  rintro ⟨front, path?, rest, g, rfl, hfront, hspells, rfl, hsets⟩
  have hplain : IsPlain "render" := Or.inr (by decide)
  have hproper : (OptionTable.ofCommand ["batch", "strict", "json"]
      ["var", "inputs", "output"]).Proper := by constructor <;> decide
  have hgathered := hproper.ofArguments_of_spells hspells hsets.unhelped
  have htable : Command.optionTable? "render" =
      some (OptionTable.ofCommand ["batch", "strict", "json"]
        ["var", "inputs", "output"]) := rfl
  have hhelp : g.has "help" = false := decide_eq_false hsets.unhelped
  rw [readFrom_front hfront hplain, ofCommand, htable]
  simp only
  rw [hgathered]
  simp only [bind, Except.bind]
  rw [hhelp, hsets.check, hsets.ofGathered]
  simp only [Bool.false_eq_true, if_false, Gathered.value?]
  cases g.values.lookup "config" <;> rfl

end Request

end Stencil
