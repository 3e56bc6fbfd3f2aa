/-
What a write leaves behind.  It stores a file in a directory that is there, so
the path leads to that file afterwards and everything else stands as it did.
-/
import Stencil.Files.Tree
import Stencil.Proofs.Result

namespace Stencil

namespace FileNode

/-- The bytes of a file; a directory has none. -/
def content? : FileNode → Option ByteArray
  | file content => some content
  | directory _ => none

theorem get?_directory_cons (entries : List (String × FileNode)) (name : String)
    (rest : Location) :
    get? (name :: rest) (directory entries) =
      (Entries.get? name entries).bind (get? rest) := by
  rw [get?]
  cases Entries.get? name entries <;> rfl

/-- What stands below a name stands in the directory that holds the name. -/
theorem of_get?_cons {node found : FileNode} {name : String} {rest : Location}
    (h : node.get? (name :: rest) = some found) :
    ∃ entries child, node = directory entries ∧
      Entries.get? name entries = some child ∧
      child.get? rest = some found := by
  cases node with
  | file content => cases h
  | directory entries =>
      rw [get?_directory_cons] at h
      obtain ⟨child, hchild, hfound⟩ := Option.bind_eq_some_iff.1 h
      exact ⟨entries, child, rfl, hchild, hfound⟩

/-- Nothing stands below a file or below nothing. -/
theorem bind_get?_of_no_directory {node? : Option FileNode}
    {location : Location} (hne : location ≠ [])
    (hnode : ∀ entries, node? ≠ some (directory entries)) :
    node?.bind (get? location) = none := by
  obtain ⟨name, rest, rfl⟩ := List.exists_cons_of_ne_nil hne
  cases node? with
  | none => rfl
  | some node =>
      cases node with
      | file content => rfl
      | directory entries => exact absurd rfl (hnode entries)

/-- A file stored in a directory, where no directory is replaced, changes what
stands at its own location only. -/
theorem get?_put_other {node : FileNode} {parent other : Location}
    {name : String} {content : ByteArray} {entries : List (String × FileNode)}
    (hparent : node.get? parent = some (.directory entries))
    (htarget : ∀ inner, node.get? (parent ++ [name]) ≠ some (.directory inner))
    (hother : other ≠ parent ++ [name]) :
    ((node.put (parent ++ [name]) (.file content)).get? other).map content? =
      (node.get? other).map content? := by
  induction parent generalizing node other with
  | nil =>
      obtain rfl := Option.some.inj hparent
      cases other with
      | nil => rfl
      | cons first rest =>
          rw [List.nil_append, put, get?_directory_cons, get?_directory_cons,
            Entries.get?_insert]
          by_cases heq : first = name
          · subst heq
            have hrest : rest ≠ [] := fun hnil =>
              hother (by rw [hnil, List.nil_append])
            have hold : ∀ inner,
                Entries.get? first entries ≠ some (.directory inner) := by
              intro inner hget
              refine htarget inner ?_
              rw [List.nil_append, get?_directory_cons, hget]
              rfl
            have hnew : ∀ inner,
                some (put ((Entries.get? first entries).getD empty) []
                (file content)) ≠ some (.directory inner) := by
              intro inner hput
              cases hput
            rw [if_pos rfl, bind_get?_of_no_directory hrest hold,
              bind_get?_of_no_directory hrest hnew]
          · rw [if_neg heq]
  | cons step parent ih =>
      obtain ⟨siblings, child, rfl, hchild, hbelow⟩ := of_get?_cons hparent
      have hinner : ∀ inner,
          child.get? (parent ++ [name]) ≠ some (.directory inner) := by
        intro inner hget
        refine htarget inner ?_
        rw [List.cons_append, get?_directory_cons, hchild]
        exact hget
      cases other with
      | nil => rfl
      | cons first rest =>
          rw [List.cons_append, put, get?_directory_cons, get?_directory_cons,
            Entries.get?_insert]
          by_cases heq : first = step
          · subst heq
            have hrest : rest ≠ parent ++ [name] := by
              intro hsame
              exact hother (by rw [hsame, List.cons_append])
            rw [if_pos rfl, hchild]
            exact ih hbelow hinner hrest
          · rw [if_neg heq]

/-- A directory holds a name if something stands there. -/
theorem isSome_get?_append {node : FileNode} {location : Location}
    {name : String} {entries : List (String × FileNode)}
    (h : node.get? location = some (.directory entries)) :
    (node.get? (location ++ [name])).isSome =
      Entries.contains name entries := by
  induction location generalizing node with
  | nil =>
      obtain rfl := Option.some.inj h
      rw [List.nil_append, get?_directory_cons, Entries.contains]
      cases Entries.get? name entries <;> rfl
  | cons step rest ih =>
      obtain ⟨siblings, child, rfl, hchild, hrest⟩ := of_get?_cons h
      rw [List.cons_append, get?_directory_cons, hchild]
      exact ih hrest

end FileNode

namespace Files

variable {files after : Files} {path : String} {content : ByteArray}

/-- What stands at a location: nothing, a directory, or a file with its
bytes. -/
def look (files : Files) (location : Location) : Option (Option ByteArray) :=
  (files.root.get? location).map FileNode.content?

theorem directory_of_look {location : Location}
    (h : files.look location = some none) :
    ∃ entries, files.root.get? location = some (.directory entries) := by
  obtain ⟨node, hnode, hkind⟩ := Option.map_eq_some_iff.1 h
  cases node with
  | file old => cases hkind
  | directory entries => exact ⟨entries, hnode⟩

/-- A write that went well: the path leads to a file with the new bytes, and
what stands at any other location is what stood there. -/
structure Wrote (files after : Files) (path : String) (content : ByteArray) :
    Prop where
  workplace : after.workplace = files.workplace
  reads : after.read path = .ok content
  others : ∃ location, after.locate path = .ok location ∧
    ∀ other ≠ location, after.look other = files.look other

/-- Words without the empty ones at the end are all the words if they are as
many, and do not end with an empty one. -/
theorem eq_concat_of_named {names : List String} {name : String}
    (hlast : (names.reverse.dropWhile (· = "")).reverse.getLast? = some name)
    (hlength : ¬ (names.reverse.dropWhile (· = "")).reverse.length <
      names.length) :
    name ≠ "" ∧ names = (names.reverse.dropWhile (· = "")).reverse.dropLast ++
      [name] := by
  have hsplit := List.takeWhile_append_dropWhile (p := (· = ""))
    (l := names.reverse)
  have hnone : names.reverse.takeWhile (· = "") = [] := by
    have hall := congrArg List.length hsplit
    rw [List.length_append, List.length_reverse] at hall
    rw [List.length_reverse] at hlength
    exact List.eq_nil_of_length_eq_zero (by omega)
  constructor
  · rw [List.getLast?_reverse] at hlast
    have hhead :=
      List.head?_dropWhile_not
        (fun word : String => decide (word = "")) names.reverse
    rw [hlast] at hhead
    simpa using hhead
  · have hsame : (names.reverse.dropWhile (· = "")).reverse = names := by
      rw [hnone, List.nil_append] at hsplit
      rw [hsplit, List.reverse_reverse]
    rw [hsame] at hlast ⊢
    obtain ⟨before, hbefore⟩ := List.getLast?_eq_some_iff.1 hlast
    rw [hbefore, List.dropLast_concat]

/-- A step is taken from a directory only. -/
theorem get?_of_step {location next : Location} {word : String}
    (h : files.step location word = .ok next) :
    ∃ entries, files.root.get? location = some (.directory entries) := by
  unfold step at h
  split at h
  next => cases h
  next => cases h
  next entries hentries => exact ⟨entries, hentries⟩

/-- A path leads to a file, new or not: its words lead to the directory and end
with the name. -/
structure LeadsToFile (files : Files) (path : String) (parent : Location)
    (name : String) :
    Prop where
  path_ok : checkPath path = .ok ()
  words : ∃ before, words path = before ++ [name] ∧
    before.foldlM files.step (files.start path) = .ok parent
  stays : ¬ (name = "" ∨ name = ".")
  ascends : name ≠ ".."
  name_ok : checkName name = .ok ()
  directory : ∃ entries, files.root.get? parent = some (.directory entries)
  target : ∀ inner, files.root.get? (parent ++ [name]) ≠ some (.directory inner)

theorem leadsToFile_of_locateNew {location : Location}
    (h : files.locateNew path = .ok location) :
    ∃ parent name, files.LeadsToFile path parent name ∧
      location = parent ++ [name] := by
  unfold locateNew at h
  obtain ⟨_, hpath, h⟩ := of_bind_eq_ok h
  simp only at h
  split at h
  next => cases h
  next name hlast =>
      obtain ⟨parent, hparent, h⟩ := of_bind_eq_ok h
      obtain ⟨_, hstep, h⟩ := of_bind_eq_ok h
      split at h
      next => cases h
      next hplain =>
          obtain ⟨_, hname, h⟩ := of_bind_eq_ok h
          rw [not_or, not_or] at hplain
          obtain ⟨hdot, hdots, hlength⟩ := hplain
          obtain ⟨hempty, hwords⟩ := eq_concat_of_named hlast hlength
          split at h
          next => cases h
          next hfile =>
              refine ⟨parent, name, ?_, (Except.ok.inj h).symm⟩
              exact ⟨hpath, ⟨_, hwords, hparent⟩, not_or.2 ⟨hempty, hdot⟩,
                hdots, hname, get?_of_step hstep, hfile⟩

/-- Where a name that is no word for a directory leads. -/
theorem step_of_present {location : Location} {name : String}
    {entries : List (String × FileNode)}
    (hentries : files.root.get? location = some (.directory entries))
    (hstay : ¬ (name = "" ∨ name = ".")) (hup : name ≠ "..")
    (hname : checkName name = .ok ())
    (hpresent : (files.root.get? (location ++ [name])).isSome) :
    files.step location name = .ok (location ++ [name]) := by
  rw [FileNode.isSome_get?_append hentries] at hpresent
  rw [step, hentries]
  simp only
  rw [if_neg hstay, if_neg hup, hname]
  simp only [bind, Except.bind]
  rw [if_pos hpresent]

/-- What was there still is, and directories are directories. -/
structure Kept (files after : Files) : Prop where
  directory : ∀ place, files.look place = some none →
    after.look place = some none
  present : ∀ place, (files.look place).isSome → (after.look place).isSome

theorem Kept.exists_directory (h : Kept files after) {location : Location}
    {entries : List (String × FileNode)}
    (hentries : files.root.get? location = some (.directory entries)) :
    ∃ kept, after.root.get? location = some (.directory kept) := by
  have hlook : files.look location = some none := by
    rw [look, hentries]
    rfl
  exact directory_of_look (h.directory location hlook)

/-- Steps lead where they led before. -/
theorem Kept.step (hkept : Kept files after) {location next : Location}
    {word : String} (h : files.step location word = .ok next) :
    after.step location word = .ok next := by
  obtain ⟨entries, hentries⟩ := get?_of_step h
  obtain ⟨others, hothers⟩ := hkept.exists_directory hentries
  rw [Files.step, hentries] at h
  simp only at h
  split at h
  next hstay =>
      rw [Files.step, hothers]
      simp only
      rw [if_pos hstay]
      exact h
  next hstay =>
      split at h
      next hup =>
          rw [Files.step, hothers]
          simp only
          rw [if_neg hstay, if_pos hup]
          exact h
      next hup =>
          obtain ⟨_, hname, h⟩ := of_bind_eq_ok h
          split at h
          next hthere =>
              obtain rfl := Except.ok.inj h
              have hbefore : (files.look (location ++ [word])).isSome := by
                rw [look, Option.isSome_map,
                  FileNode.isSome_get?_append hentries]
                exact hthere
              have hafter := hkept.present _ hbefore
              rw [look, Option.isSome_map] at hafter
              exact step_of_present hothers hstay hup hname hafter
          next => cases h

theorem Kept.foldlM_step (hkept : Kept files after) {names : List String}
    {location next : Location}
    (h : names.foldlM files.step location = .ok next) :
    names.foldlM after.step location = .ok next := by
  induction names generalizing location with
  | nil => exact h
  | cons word names ih =>
      rw [List.foldlM_cons] at h ⊢
      obtain ⟨middle, hstep, hrest⟩ := of_bind_eq_ok h
      rw [hkept.step hstep]
      exact ih hrest

theorem wrote_of_write (h : files.write path content = .ok after) :
    Wrote files after path content := by
  obtain ⟨location, hlocation, hafter⟩ := of_bind_eq_ok h
  obtain ⟨parent, name, hleads, rfl⟩ := leadsToFile_of_locateNew hlocation
  obtain ⟨entries, hentries⟩ := hleads.directory
  have hroot : after.root =
      files.root.put (parent ++ [name]) (.file content) := by
    rw [← Except.ok.inj hafter]
  have hworkplace : after.workplace = files.workplace := by
    rw [← Except.ok.inj hafter]
  have hself : after.root.get? (parent ++ [name]) = some (.file content) := by
    rw [hroot]
    exact FileNode.get?_put_self _ _ _
  have hothers : ∀ other ≠ parent ++ [name],
      after.look other = files.look other := by
    intro other hother
    rw [look, look, hroot]
    exact FileNode.get?_put_other hentries hleads.target hother
  have hkept : Kept files after := by
    constructor
    · intro place hplace
      by_cases heq : place = parent ++ [name]
      · obtain ⟨inner, hinner⟩ := directory_of_look hplace
        exact absurd (heq ▸ hinner) (hleads.target inner)
      · rw [hothers place heq, hplace]
    · intro place hplace
      by_cases heq : place = parent ++ [name]
      · rw [heq, look, hself]
        rfl
      · rw [hothers place heq, hplace]
  have hlocated : after.locate path = .ok (parent ++ [name]) := by
    obtain ⟨before, hwords, hbefore⟩ := hleads.words
    obtain ⟨kept, hparent⟩ := hkept.exists_directory hentries
    have hlast : after.step parent name = .ok (parent ++ [name]) :=
      step_of_present hparent hleads.stays hleads.ascends hleads.name_ok
        (by rw [hself]; rfl)
    have hstart : after.start path = files.start path := by
      rw [start, start, hworkplace]
    rw [locate, hleads.path_ok, hwords, hstart]
    change (before ++ [name]).foldlM after.step (files.start path) = _
    rw [List.foldlM_append, hkept.foldlM_step hbefore]
    change after.step parent name >>= pure = _
    rw [hlast]
    rfl
  refine ⟨hworkplace, ?_, parent ++ [name], hlocated, hothers⟩
  rw [read, hlocated]
  simp only [bind, Except.bind]
  rw [hself]

end Files

end Stencil
