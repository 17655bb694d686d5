import AbiBindings.CommandLine.FileTree
import AbiBindings.Proofs.Files
import AbiBindings.Proofs.JobRuns

/-!
# Jobs on a tree of files

A tree is seen here as what stands at each place, and a place is given by the names that lead to it
from the root. A path is a walk over places: it goes through directories, out of them again and back
in (`walk_of_follow`), so what it leads to depends on what stands where and on nothing else.

A write puts a file at one place, where no directory may stand, and makes directories at places
where nothing stood. If it fails, it may have made directories, but every file stays where and as it
was; if it succeeds, its path leads to what was written (`writeFile_cases`). Hence a job that fails
on a tree changes no file that can be read (`run_on_tree`).
-/

set_option autoImplicit false

namespace AbiBindings.CommandLine

/-! ## Places -/

/-- The names that lead from the root to a file or a directory. -/
abbrev Place := List String

/-- What stands at a place. -/
inductive Standing where
  | file (data : List UInt8)
  | directory
  deriving DecidableEq

/-- What stands at each place, if there is something. -/
abbrev Layout := Place → Option Standing

/-- What stands at a place within a node. -/
def Node.standing : Place → Node → Option Standing
  | [], .file data => some (.file data)
  | [], .directory _ => some .directory
  | _ :: _, .file _ => none
  | name :: rest, .directory entries => (entries.lookup name).bind (Node.standing rest)

/-- The layout of a tree. -/
def FileTree.layout (tree : FileTree) : Layout := fun place =>
  Node.standing place (.directory tree.entries)

/-- What stands behind a place, but not behind a name there, does not begin with the name. -/
theorem head?_ne_of_not_prefix {place rest : Place} {name : String}
    (h : ¬ (place ++ [name]) <+: place ++ rest) : rest.head? ≠ some name := by
  intro hhead
  obtain ⟨rest, rfl⟩ := List.head?_eq_some_iff.1 hhead
  exact h (by simp)

namespace Entries

variable {entries : Entries} {name other : String} {node : Node}

/-- Under a name stands what was set there. -/
theorem lookup_set : (entries.set name node).lookup name = some node := by
  rw [set, List.lookup_cons_self]

/-- What stands under another name stays. -/
theorem lookup_set_of_ne (h : other ≠ name) :
    (entries.set name node).lookup other = entries.lookup other := by
  rw [set, List.lookup_cons, beq_false_of_ne h]
  exact lookup_filter_ne h entries

/-- What was set under a name matters behind that name only. -/
theorem standing_set {rest : Place} (h : rest.head? ≠ some name) :
    Node.standing rest (.directory (entries.set name node)) =
      Node.standing rest (.directory entries) := by
  cases rest with
  | nil => rfl
  | cons other rest =>
    have hne : other ≠ name := mt (congrArg some) h
    rw [Node.standing, Node.standing, lookup_set_of_ne hne]

/-- A name is too long, or leads to what stands under it. -/
theorem find_cases (entries : Entries) (name : String) :
    (greatestName < name.utf8ByteSize ∧ entries.find name = .error .tooLong) ∨
    (¬ greatestName < name.utf8ByteSize ∧ entries.lookup name = none ∧
      entries.find name = .error .notFound) ∨
    ∃ node, ¬ greatestName < name.utf8ByteSize ∧ entries.lookup name = some node ∧
      entries.find name = .ok node := by
  unfold find
  by_cases hlong : greatestName < name.utf8ByteSize
  · exact Or.inl ⟨hlong, if_pos hlong⟩
  · rw [if_neg hlong]
    cases hlookup : entries.lookup name with
    | none => exact Or.inr (Or.inl ⟨hlong, rfl, rfl⟩)
    | some node => exact Or.inr (Or.inr ⟨node, hlong, rfl, rfl⟩)

end Entries

/-! ## Directories in their surroundings -/

namespace Spot

variable {spot : Spot}

/-- The place of a directory. -/
def place (spot : Spot) : Place :=
  (spot.around.map Prod.fst).reverse

/-- The tree that a directory stands in. -/
def tree (spot : Spot) : FileTree := ⟨spot.root⟩

/-- A directory with a node under a name, in its surroundings. -/
def put (spot : Spot) (name : String) (node : Node) : Spot :=
  { spot with entries := spot.entries.set name node }

/-- Behind the place of a directory stands what stands in the directory. -/
theorem layout_append (spot : Spot) (rest : Place) :
    spot.tree.layout (spot.place ++ rest) = Node.standing rest (.directory spot.entries) := by
  obtain ⟨entries, around⟩ := spot
  induction around generalizing entries rest with
  | nil => rfl
  | cons outer around ih =>
    obtain ⟨name, outer⟩ := outer
    have hplace : place ⟨entries, (name, outer) :: around⟩ ++ rest =
        place ⟨outer.set name (.directory entries), around⟩ ++ name :: rest := by
      simp [place]
    have htree : tree ⟨entries, (name, outer) :: around⟩ =
        tree ⟨outer.set name (.directory entries), around⟩ := rfl
    rw [hplace, htree, ih, Node.standing, Entries.lookup_set, Option.bind_some]

/-- At the place of a directory stands a directory. -/
theorem layout_place (spot : Spot) : spot.tree.layout spot.place = some .directory := by
  simpa [Node.standing] using spot.layout_append []

/-- What a directory holds matters at no place but those behind its own. -/
theorem layout_congr {place : Place} (h : ¬ spot.place <+: place) (entries : Entries) :
    (tree { spot with entries := entries }).layout place = spot.tree.layout place := by
  obtain ⟨before, around⟩ := spot
  show (tree ⟨entries, around⟩).layout place = (tree ⟨before, around⟩).layout place
  induction around generalizing entries before with
  | nil => exact absurd (List.nil_prefix) h
  | cons outer around ih =>
    obtain ⟨name, outer⟩ := outer
    show (tree ⟨outer.set name (.directory entries), around⟩).layout place =
      (tree ⟨outer.set name (.directory before), around⟩).layout place
    by_cases hprefix : Spot.place ⟨outer, around⟩ <+: place
    · obtain ⟨rest, rfl⟩ := hprefix
      have hname : ¬ (Spot.place ⟨outer, around⟩ ++ [name]) <+:
          Spot.place ⟨outer, around⟩ ++ rest := by
        simpa [Spot.place] using h
      have hrest := head?_ne_of_not_prefix hname
      have hafter := layout_append ⟨outer.set name (.directory entries), around⟩ rest
      have hbefore := layout_append ⟨outer.set name (.directory before), around⟩ rest
      rw [Entries.standing_set hrest] at hafter hbefore
      exact hafter.trans hbefore.symm
    · exact ih _ _ hprefix

/-- Behind a name stands what stands in the node that was put there. -/
theorem layout_put (spot : Spot) (name : String) (node : Node) (rest : Place) :
    (spot.put name node).tree.layout (spot.place ++ name :: rest) = Node.standing rest node := by
  have hbehind := layout_append (spot.put name node) (name :: rest)
  rw [Node.standing, put, Entries.lookup_set, Option.bind_some] at hbehind
  exact hbehind

/-- A node that was put under a name matters at no place but those behind the name. -/
theorem layout_put_elsewhere {name : String} {place : Place}
    (h : ¬ (spot.place ++ [name]) <+: place) (node : Node) :
    (spot.put name node).tree.layout place = spot.tree.layout place := by
  by_cases hprefix : spot.place <+: place
  · obtain ⟨rest, rfl⟩ := hprefix
    have hrest := head?_ne_of_not_prefix h
    have hafter := layout_append (spot.put name node) rest
    rw [put, Entries.standing_set hrest] at hafter
    exact hafter.trans (layout_append spot rest).symm
  · exact layout_congr hprefix _

/-- Entering a directory leaves the layout as it is. -/
theorem layout_enter {name : String} {inner : Entries}
    (h : spot.entries.lookup name = some (.directory inner)) :
    (spot.enter name inner).tree.layout = spot.tree.layout := by
  have htree : (spot.enter name inner).tree = (spot.put name (.directory inner)).tree := rfl
  funext place
  rw [htree]
  by_cases hprefix : spot.place ++ [name] <+: place
  · obtain ⟨rest, rfl⟩ := hprefix
    rw [List.append_assoc, List.singleton_append, layout_put, layout_append, Node.standing, h,
      Option.bind_some]
  · exact layout_put_elsewhere hprefix _

/-- The place of a directory within. -/
theorem place_enter (spot : Spot) (name : String) (inner : Entries) :
    (spot.enter name inner).place = spot.place ++ [name] := by
  simp [place, enter]

/-- The place of the directory around. -/
theorem place_leave (spot : Spot) : spot.leave.place = spot.place.dropLast := by
  obtain ⟨entries, _ | ⟨⟨name, outer⟩, around⟩⟩ := spot <;> simp [place, leave]

/-- Leaving a directory leaves the tree as it is. -/
theorem tree_leave (spot : Spot) : spot.leave.tree = spot.tree := by
  obtain ⟨entries, _ | ⟨⟨name, outer⟩, around⟩⟩ := spot <;> rfl

end Spot

/-! ## Walks -/

/-- Walks from a place to where names lead. -/
def walk (layout : Layout) : List String → Place → Except PathFault Place
  | [], place => .ok place
  | name :: rest, place =>
    if name = "." then walk layout rest place
    else if name = ".." then walk layout rest place.dropLast
    else if greatestName < name.utf8ByteSize then .error .tooLong
    else
      match layout (place ++ [name]) with
      | none => .error .notFound
      | some .directory => walk layout rest (place ++ [name])
      | some (.file _) => if rest.isEmpty then .ok (place ++ [name]) else .error .notADirectory

/-- What is found at the end of a walk. -/
inductive Arrives (layout : Layout) : Place → Target → Prop
  | directory {spot : Spot} (h : spot.tree.layout = layout) :
      Arrives layout spot.place (.directory spot)
  | file {place : Place} {data : List UInt8} (h : layout place = some (.file data)) :
      Arrives layout place (.file data)

/-- Following names is walking over places. -/
theorem walk_of_follow {layout : Layout} (names : List String) {spot : Spot}
    (h : spot.tree.layout = layout) :
    (∃ target place, follow names spot = .ok target ∧
      walk layout names spot.place = .ok place ∧ Arrives layout place target) ∨
    ∃ fault, follow names spot = .error fault ∧ walk layout names spot.place = .error fault := by
  induction names generalizing spot with
  | nil => exact Or.inl ⟨_, _, rfl, rfl, .directory h⟩
  | cons name rest ih =>
    rw [follow, walk]
    by_cases hpoint : name = "."
    · rw [if_pos hpoint, if_pos hpoint]
      exact ih h
    rw [if_neg hpoint, if_neg hpoint]
    by_cases hpoints : name = ".."
    · rw [if_pos hpoints, if_pos hpoints, ← Spot.place_leave]
      apply ih
      rw [Spot.tree_leave, h]
    rw [if_neg hpoints, if_neg hpoints]
    have hstands : layout (spot.place ++ [name]) =
        (spot.entries.lookup name).bind (Node.standing []) := by
      rw [← h, Spot.layout_append, Node.standing]
    obtain ⟨hlong, hfind⟩ | ⟨hshort, hlookup, hfind⟩ | ⟨node, hshort, hlookup, hfind⟩ :=
      spot.entries.find_cases name
    · rw [if_pos hlong, hfind]
      exact Or.inr ⟨_, rfl, rfl⟩
    · rw [hlookup] at hstands
      rw [if_neg hshort, hfind, hstands]
      exact Or.inr ⟨_, rfl, rfl⟩
    · rw [hlookup, Option.bind_some] at hstands
      rw [if_neg hshort, hfind, hstands]
      cases node with
      | directory inner =>
        rw [← Spot.place_enter spot name inner]
        exact ih ((Spot.layout_enter hlookup).trans h)
      | file data =>
        cases rest with
        | nil => exact Or.inl ⟨_, _, rfl, rfl, .file hstands⟩
        | cons _ _ => exact Or.inr ⟨_, rfl, rfl⟩

/-- Names that lead to a directory lead to its place. -/
theorem walk_of_followToDirectory {layout : Layout} {names : List String} {spot found : Spot}
    (h : spot.tree.layout = layout) (hfollow : followToDirectory names spot = .ok found) :
    found.tree.layout = layout ∧ walk layout names spot.place = .ok found.place := by
  unfold followToDirectory at hfollow
  obtain ⟨target, place, htarget, hwalk, harrives⟩ | ⟨fault, hfault, -⟩ := walk_of_follow names h
  · rw [htarget] at hfollow
    cases harrives with
    | file _ => cases hfollow
    | directory hspot =>
      obtain rfl := Except.ok.inj hfollow
      exact ⟨hspot, hwalk⟩
  · rw [hfault] at hfollow
    cases hfollow

/-- The first step of a walk that arrives: to the place itself, to the directory around it, to a
directory within, or to a file, which ends the walk. -/
theorem walk_cons_eq_ok_iff {layout : Layout} {name : String} {rest : List String}
    {place reached : Place} :
    walk layout (name :: rest) place = .ok reached ↔
      (name = "." ∧ walk layout rest place = .ok reached) ∨
      (name = ".." ∧ walk layout rest place.dropLast = .ok reached) ∨
      ((name ≠ "." ∧ name ≠ ".." ∧ ¬ greatestName < name.utf8ByteSize) ∧
        ((layout (place ++ [name]) = some .directory ∧
            walk layout rest (place ++ [name]) = .ok reached) ∨
          ((∃ data, layout (place ++ [name]) = some (.file data)) ∧ rest = [] ∧
            reached = place ++ [name]))) := by
  rw [walk]
  by_cases hpoint : name = "."
  · simp [hpoint]
  by_cases hpoints : name = ".."
  · simp [hpoints]
  by_cases hlong : greatestName < name.utf8ByteSize
  · simp [hpoint, hpoints, hlong]
  rw [if_neg hpoint, if_neg hpoints, if_neg hlong]
  cases layout (place ++ [name]) with
  | none => simp [hpoint, hpoints]
  | some standing =>
    cases standing with
    | directory => simp [hpoint, hpoints, hlong]
    | file data => cases rest <;> simp [hpoint, hpoints, hlong, eq_comm]

/-- A walk that arrives at a directory goes on from there. -/
theorem walk_append {layout : Layout} {names more : List String} {place reached last : Place}
    (h : walk layout names place = .ok reached) (hdirectory : layout reached = some .directory)
    (hmore : walk layout more reached = .ok last) :
    walk layout (names ++ more) place = .ok last := by
  induction names generalizing place with
  | nil =>
    obtain rfl := Except.ok.inj h
    exact hmore
  | cons name rest ih =>
    rw [walk_cons_eq_ok_iff] at h
    rw [List.cons_append, walk_cons_eq_ok_iff]
    obtain ⟨hpoint, hrest⟩ | ⟨hpoints, hrest⟩ |
      ⟨hname, ⟨hstands, hrest⟩ | ⟨⟨data, hfile⟩, -, hend⟩⟩ := h
    · exact Or.inl ⟨hpoint, ih hrest⟩
    · exact Or.inr (Or.inl ⟨hpoints, ih hrest⟩)
    · exact Or.inr (Or.inr ⟨hname, Or.inl ⟨hstands, ih hrest⟩⟩)
    · -- a walk that ends at a file does not end at a directory
      rw [hend, hfile] at hdirectory
      cases hdirectory

/-! ## What stays -/

/-- Whether directories stay directories and files stay files. -/
def KeepsKinds (before after : Layout) : Prop :=
  ∀ place, (before place = some .directory → after place = some .directory) ∧
    ∀ data, before place = some (.file data) → ∃ data', after place = some (.file data')

/-- Whether nothing changes but that directories are made where nothing stood. -/
def OnlyDirectoriesMade (before after : Layout) : Prop :=
  ∀ place, after place = before place ∨ before place = none ∧ after place = some .directory

/-- Whether a file is put at a place where no directory stood, and nothing else changes but that
directories are made where nothing stood. -/
structure FilePut (before after : Layout) (place : Place) (data : List UInt8) : Prop where
  put : after place = some (.file data)
  free : before place ≠ some .directory
  elsewhere : ∀ other, other ≠ place →
    after other = before other ∨ before other = none ∧ after other = some .directory

section Kept

variable {before between after : Layout} {place : Place} {data : List UInt8}

/-- Where only directories are made, there may be none of them. -/
theorem OnlyDirectoriesMade.refl (layout : Layout) : OnlyDirectoriesMade layout layout :=
  fun _ => Or.inl rfl

/-- Directories may be made one after the other. -/
theorem OnlyDirectoriesMade.trans (h : OnlyDirectoriesMade before between)
    (h' : OnlyDirectoriesMade between after) : OnlyDirectoriesMade before after := by
  intro place
  rcases h' place with hsame | ⟨hnone, hmade⟩
  · rw [hsame]
    exact h place
  · rcases h place with hsame | ⟨-, hmade'⟩
    · exact Or.inr ⟨hsame.symm.trans hnone, hmade⟩
    · rw [hmade'] at hnone
      cases hnone

/-- A file may be put behind directories that were made. -/
theorem OnlyDirectoriesMade.filePut (h : OnlyDirectoriesMade before between)
    (h' : FilePut between after place data) : FilePut before after place data where
  put := h'.put
  free := by
    intro hdirectory
    rcases h place with hsame | ⟨hnone, -⟩
    · exact h'.free (hsame.trans hdirectory)
    · rw [hnone] at hdirectory
      cases hdirectory
  elsewhere := by
    intro other hne
    rcases h'.elsewhere other hne with hsame | ⟨hnone, hmade⟩
    · rw [hsame]
      exact h other
    · rcases h other with hsame | ⟨-, hmade'⟩
      · exact Or.inr ⟨hsame.symm.trans hnone, hmade⟩
      · rw [hmade'] at hnone
        cases hnone

/-- Directories that are made take the place of nothing. -/
theorem OnlyDirectoriesMade.keepsKinds (h : OnlyDirectoriesMade before after) :
    KeepsKinds before after := by
  intro place
  rcases h place with hsame | ⟨hnone, -⟩
  · rw [hsame]
    exact ⟨id, fun data hdata => ⟨data, hdata⟩⟩
  · rw [hnone]
    exact ⟨nofun, nofun⟩

/-- A file that is put takes the place of a file at most. -/
theorem FilePut.keepsKinds (h : FilePut before after place data) : KeepsKinds before after := by
  intro other
  by_cases hother : other = place
  · subst hother
    exact ⟨fun hdirectory => absurd hdirectory h.free, fun _ _ => ⟨data, h.put⟩⟩
  · rcases h.elsewhere other hother with hsame | ⟨hnone, -⟩
    · rw [hsame]
      exact ⟨id, fun data hdata => ⟨data, hdata⟩⟩
    · rw [hnone]
      exact ⟨nofun, nofun⟩

/-- A walk leads where it led before if directories and files stay what they are. -/
theorem KeepsKinds.walk_eq {names : List String} {start reached : Place}
    (h : KeepsKinds before after) (hwalk : walk before names start = .ok reached) :
    walk after names start = .ok reached := by
  induction names generalizing start with
  | nil => exact hwalk
  | cons name rest ih =>
    rw [walk_cons_eq_ok_iff] at hwalk ⊢
    obtain ⟨hpoint, hrest⟩ | ⟨hpoints, hrest⟩ |
      ⟨hname, ⟨hstands, hrest⟩ | ⟨⟨data, hfile⟩, hend⟩⟩ := hwalk
    · exact Or.inl ⟨hpoint, ih hrest⟩
    · exact Or.inr (Or.inl ⟨hpoints, ih hrest⟩)
    · exact Or.inr (Or.inr ⟨hname, Or.inl ⟨(h _).1 hstands, ih hrest⟩⟩)
    · exact Or.inr (Or.inr ⟨hname, Or.inr ⟨(h _).2 data hfile, hend⟩⟩)

end Kept

namespace FileTree

variable {tree tree' : FileTree} {path : String} {data : List UInt8}

/-! ## Reading -/

/-- Whether a tree has its working directory. -/
def HasWorkingDirectory (tree : FileTree) : Prop :=
  tree.layout [workingName] = some .directory

/-- The tree with an empty working directory has one. -/
theorem hasWorkingDirectory_empty : empty.HasWorkingDirectory := rfl

/-- A working directory stays one. -/
theorem HasWorkingDirectory.of_keepsKinds (h : tree.HasWorkingDirectory)
    (hkept : KeepsKinds tree.layout tree'.layout) : tree'.HasWorkingDirectory :=
  (hkept _).1 h

/-- The place that a path starts from. -/
def start (path : String) : Place :=
  if FilePath.isAbsolute path then [] else [workingName]

/-- A path starts from its place. -/
theorem place_origin (tree : FileTree) (path : String) : (tree.origin path).place = start path := by
  unfold origin start
  cases FilePath.isAbsolute path <;> rfl

/-- A path starts in the tree as it is. -/
theorem layout_origin (h : tree.HasWorkingDirectory) (path : String) :
    (tree.origin path).tree.layout = tree.layout := by
  have hworking : tree.entries.lookup workingName = some (.directory tree.workingEntries) := by
    unfold HasWorkingDirectory layout at h
    rw [Node.standing] at h
    obtain ⟨node, hnode, hstands⟩ := Option.bind_eq_some_iff.1 h
    rw [workingEntries, hnode]
    cases node with
    | file _ => cases hstands
    | directory entries => rfl
  unfold origin
  cases FilePath.isAbsolute path with
  | true => rfl
  | false => exact @Spot.layout_enter ⟨tree.entries, []⟩ _ _ hworking

/-- A file is read if the path is one and leads to the place of the file. -/
theorem readFile_eq_ok_iff (h : tree.HasWorkingDirectory) :
    tree.readFile path = .ok data ↔ pathFault? path = none ∧
      ∃ place, walk tree.layout (names path) (start path) = .ok place ∧
        tree.layout place = some (.file data) := by
  unfold readFile
  cases pathFault? path with
  | some fault => simp
  | none =>
    have hfollow := walk_of_follow (names path) (layout_origin h path)
    rw [place_origin] at hfollow
    obtain ⟨target, place, htarget, hwalk, harrives⟩ | ⟨fault, hfault, hwalk⟩ := hfollow
    · rw [htarget, hwalk]
      cases harrives with
      | @directory spot hspot =>
        have hdirectory : tree.layout spot.place = some .directory := by
          rw [← hspot]
          exact spot.layout_place
        simp [hdirectory]
      | file hfile => simp [hfile]
    · rw [hfault, hwalk]
      simp

/-- What is read from a path stays if directories are made. -/
theorem readFile_of_onlyDirectoriesMade {found : List UInt8} (h : tree.HasWorkingDirectory)
    (hmade : OnlyDirectoriesMade tree.layout tree'.layout)
    (hread : tree.readFile path = .ok found) :
    tree'.readFile path = .ok found := by
  have hkept := hmade.keepsKinds
  obtain ⟨hpath, place, hwalk, hfile⟩ := (readFile_eq_ok_iff h).1 hread
  refine (readFile_eq_ok_iff (h.of_keepsKinds hkept)).2 ⟨hpath, place, hkept.walk_eq hwalk, ?_⟩
  rcases hmade place with hsame | ⟨hnone, -⟩
  · exact hsame.trans hfile
  · rw [hnone] at hfile
    cases hfile

/-- What is read from a path stays if a file is put, unless the path leads to that file. -/
theorem readFile_of_filePut {found : List UInt8} {place : Place} (h : tree.HasWorkingDirectory)
    (hput : FilePut tree.layout tree'.layout place data) (hread : tree.readFile path = .ok found) :
    tree'.readFile path = .ok found ∨ tree'.readFile path = .ok data := by
  have hkept := hput.keepsKinds
  obtain ⟨hpath, other, hwalk, hfile⟩ := (readFile_eq_ok_iff h).1 hread
  have hreads : ∀ {d}, tree'.layout other = some (.file d) → tree'.readFile path = .ok d := by
    intro d hd
    exact (readFile_eq_ok_iff (h.of_keepsKinds hkept)).2 ⟨hpath, other, hkept.walk_eq hwalk, hd⟩
  by_cases hother : other = place
  · subst hother
    exact Or.inr (hreads hput.put)
  · rcases hput.elsewhere other hother with hsame | ⟨hnone, -⟩
    · exact Or.inl (hreads (hsame.trans hfile))
    · rw [hnone] at hfile
      cases hfile

/-! ## Making directories -/

/-- A directory is made where nothing stood. -/
theorem onlyDirectoriesMade_put {spot : Spot} {name : String}
    (hlookup : spot.entries.lookup name = none) (hspot : spot.tree.layout = tree.layout) :
    OnlyDirectoriesMade tree.layout (spot.put name (.directory [])).tree.layout := by
  intro place
  rw [← hspot]
  by_cases hprefix : spot.place ++ [name] <+: place
  · obtain ⟨rest, rfl⟩ := hprefix
    have hnone : spot.tree.layout (spot.place ++ name :: rest) = none := by
      rw [Spot.layout_append, Node.standing, hlookup, Option.bind_none]
    rw [List.append_assoc, List.singleton_append, Spot.layout_put, hnone]
    cases rest with
    | nil => exact Or.inr ⟨rfl, rfl⟩
    | cons _ _ => exact Or.inl rfl
  · exact Or.inl (Spot.layout_put_elsewhere hprefix _)

/-- Making a directory makes no more than that. -/
theorem onlyDirectoriesMade_of_makeDirectory {names : List String} (h : tree.HasWorkingDirectory)
    (hmade : makeDirectory path names tree = .ok tree') :
    OnlyDirectoriesMade tree.layout tree'.layout := by
  unfold makeDirectory at hmade
  cases hlast : names.getLast? with
  | none => simp [hlast] at hmade
  | some name =>
    rw [hlast] at hmade
    dsimp only at hmade
    cases hfollow : followToDirectory names.dropLast (tree.origin path) with
    | error fault => simp [hfollow] at hmade
    | ok spot =>
      rw [hfollow] at hmade
      dsimp only at hmade
      by_cases hpoints : name = "." ∨ name = ".."
      · simp [hpoints] at hmade
      rw [if_neg hpoints] at hmade
      obtain ⟨hspot, -⟩ := walk_of_followToDirectory (layout_origin h path) hfollow
      obtain ⟨-, hfind⟩ | ⟨-, hlookup, hfind⟩ | ⟨node, -, -, hfind⟩ := spot.entries.find_cases name
      · simp [hfind] at hmade
      · rw [hfind] at hmade
        obtain rfl := Except.ok.inj hmade
        exact onlyDirectoriesMade_put hlookup hspot
      · simp [hfind] at hmade

/-- Making directories makes no more than those, also if it fails. -/
theorem onlyDirectoriesMade_makeDirectories (path : String) (names : List String)
    (h : tree.HasWorkingDirectory) :
    OnlyDirectoriesMade tree.layout (makeDirectories path names tree).1.layout := by
  induction names generalizing tree with
  | nil => exact .refl _
  | cons name outer ih =>
    rw [makeDirectories]
    cases hmade : makeDirectory path (name :: outer).reverse tree with
    | ok tree' => exact onlyDirectoriesMade_of_makeDirectory h hmade
    | error fault =>
      cases fault with
      | notFound =>
        have houter := ih h
        dsimp only
        rcases hmade' : makeDirectories path outer tree with ⟨tree', _ | _⟩
        · rw [hmade'] at houter
          exact houter
        · rw [hmade'] at houter
          dsimp only at houter ⊢
          have h' := h.of_keepsKinds houter.keepsKinds
          cases hlast : makeDirectory path (name :: outer).reverse tree' with
          | ok tree'' => exact houter.trans (onlyDirectoriesMade_of_makeDirectory h' hlast)
          | error fault =>
            dsimp only
            split <;> exact houter
      | exists_ | notADirectory | isADirectory | tooLong | containsNul =>
        dsimp only
        split <;> exact .refl _

/-- Making the directories on the way to a path makes no more than those. -/
theorem onlyDirectoriesMade_makeParents (path : String) (h : tree.HasWorkingDirectory) :
    OnlyDirectoriesMade tree.layout (makeParents path tree).1.layout := by
  unfold makeParents
  split
  · exact .refl _
  · exact onlyDirectoriesMade_makeDirectories path _ h

/-! ## Writing -/

/-- A file that is put where no directory stands changes nothing else. -/
theorem filePut_put {spot : Spot} {name : String} (data : List UInt8)
    (hlookup : ∀ entries, spot.entries.lookup name ≠ some (.directory entries))
    (hspot : spot.tree.layout = tree.layout) :
    FilePut tree.layout (spot.put name (.file data)).tree.layout (spot.place ++ [name]) data where
  put := Spot.layout_put spot name (.file data) []
  free := by
    rw [← hspot, Spot.layout_append, Node.standing]
    cases hnode : spot.entries.lookup name with
    | none => exact nofun
    | some node =>
      cases node with
      | file _ => exact nofun
      | directory entries => exact absurd hnode (hlookup entries)
  elsewhere := by
    intro other hne
    rw [← hspot]
    refine Or.inl ?_
    by_cases hprefix : spot.place ++ [name] <+: other
    · obtain ⟨rest, rfl⟩ := hprefix
      -- behind a file stands nothing, neither now nor before
      obtain ⟨first, rest, rfl⟩ := List.exists_cons_of_ne_nil
        (show rest ≠ [] by rintro rfl; exact hne (List.append_nil _))
      rw [List.append_assoc, List.singleton_append, Spot.layout_put, Spot.layout_append,
        Node.standing, Node.standing]
      cases hnode : spot.entries.lookup name with
      | none => rfl
      | some node =>
        cases node with
        | file _ => rfl
        | directory entries => exact absurd hnode (hlookup entries)
    · exact Spot.layout_put_elsewhere hprefix _

/-- From a path that leads to a file in a directory, that file is read, also if it has been put
there since the directory was found. -/
theorem readFile_of_put {before : List String} {name : String} {place : Place}
    (h : tree.HasWorkingDirectory) (hkept : KeepsKinds tree.layout tree'.layout)
    (hpath : pathFault? path = none) (hnames : names path = before ++ [name])
    (hwalk : walk tree.layout before (start path) = .ok place)
    (hdirectory : tree.layout place = some .directory) (hpoints : ¬ (name = "." ∨ name = ".."))
    (hshort : ¬ greatestName < name.utf8ByteSize)
    (hput : tree'.layout (place ++ [name]) = some (.file data)) :
    tree'.readFile path = .ok data := by
  obtain ⟨hpoint, hpoints⟩ := not_or.1 hpoints
  have hlast : walk tree'.layout [name] place = .ok (place ++ [name]) := by
    rw [walk, if_neg hpoint, if_neg hpoints, if_neg hshort, hput]
    rfl
  refine (readFile_eq_ok_iff (h.of_keepsKinds hkept)).2 ⟨hpath, place ++ [name], ?_, hput⟩
  rw [hnames]
  exact walk_append (hkept.walk_eq hwalk) ((hkept place).1 hdirectory) hlast

/-- There is nothing wrong with a path that has names and is neither too long nor has a character
that no name has. -/
theorem pathFault?_eq_none (hnul : ¬ path.toList.contains '\x00') (hnames : names path ≠ [])
    (hlong : ¬ greatestPath < path.utf8ByteSize) : pathFault? path = none := by
  have hempty : path ≠ "" := by
    rintro rfl
    exact hnames (by decide)
  rw [pathFault?, if_neg hnul, if_neg hempty, if_neg hlong]

/-- A write over what stands at the end of a path changes nothing, or it puts a file that is read
from the path. -/
theorem overwrite_cases (data : List UInt8) (h : tree.HasWorkingDirectory)
    (hnul : ¬ path.toList.contains '\x00') :
    (∃ fault, tree.overwrite path data = (tree, .error fault)) ∨
    ∃ tree' place, tree.overwrite path data = (tree', .ok ()) ∧
      FilePut tree.layout tree'.layout place data ∧ tree'.readFile path = .ok data := by
  unfold overwrite
  by_cases hlong : greatestPath < path.utf8ByteSize
  · exact Or.inl ⟨_, if_pos hlong⟩
  rw [if_neg hlong]
  cases hlast : (names path).getLast? with
  | none => exact Or.inl ⟨_, rfl⟩
  | some name =>
    dsimp only
    obtain ⟨before, hnames⟩ := List.getLast?_eq_some_iff.1 hlast
    have hbefore : (names path).dropLast = before := by
      rw [hnames, List.dropLast_concat]
    rw [hbefore]
    cases hfollow : followToDirectory before (tree.origin path) with
    | error fault => exact Or.inl ⟨_, rfl⟩
    | ok spot =>
      dsimp only
      by_cases hpoints : name = "." ∨ name = ".."
      · exact Or.inl ⟨_, if_pos hpoints⟩
      rw [if_neg hpoints]
      obtain ⟨hspot, hwalk⟩ := walk_of_followToDirectory (layout_origin h path) hfollow
      rw [place_origin] at hwalk
      have hdirectory : tree.layout spot.place = some .directory := by
        rw [← hspot]
        exact spot.layout_place
      have hpath : pathFault? path = none :=
        pathFault?_eq_none hnul (by simp [hnames]) hlong
      -- where there is room for a file, it is put there
      have hputs : ¬ greatestName < name.utf8ByteSize →
          (∀ entries, spot.entries.lookup name ≠ some (.directory entries)) →
          FilePut tree.layout (spot.put name (.file data)).tree.layout (spot.place ++ [name]) data ∧
            (spot.put name (.file data)).tree.readFile path = .ok data := by
        intro hshort hfree
        have hput := filePut_put data hfree hspot
        exact ⟨hput, readFile_of_put h hput.keepsKinds hpath hnames hwalk hdirectory hpoints hshort
          hput.put⟩
      obtain ⟨-, hfind⟩ | ⟨hshort, hlookup, hfind⟩ | ⟨node, hshort, hlookup, hfind⟩ :=
        spot.entries.find_cases name
      · rw [hfind]
        exact Or.inl ⟨_, rfl⟩
      · rw [hfind]
        exact Or.inr ⟨_, _, rfl, hputs hshort (by simp [hlookup])⟩
      · rw [hfind]
        cases node with
        | directory _ => exact Or.inl ⟨_, rfl⟩
        | file _ => exact Or.inr ⟨_, _, rfl, hputs hshort (by simp [hlookup])⟩

/-- A write that fails makes directories at most; one that succeeds puts a file, too, which is read
from its path. -/
theorem writeFile_cases (path : String) (data : List UInt8) (h : tree.HasWorkingDirectory) :
    (∃ tree' fault, tree.writeFile path data = (tree', .error fault) ∧
      OnlyDirectoriesMade tree.layout tree'.layout) ∨
    ∃ tree' place, tree.writeFile path data = (tree', .ok ()) ∧
      FilePut tree.layout tree'.layout place data ∧ tree'.readFile path = .ok data := by
  unfold writeFile
  by_cases hnul : path.toList.contains '\x00'
  · exact Or.inl ⟨_, _, if_pos hnul, .refl _⟩
  rw [if_neg hnul]
  have hparents := onlyDirectoriesMade_makeParents path h
  rcases hmade : makeParents path tree with ⟨tree', fault | _⟩
  · rw [hmade] at hparents
    exact Or.inl ⟨_, _, rfl, hparents⟩
  · rw [hmade] at hparents
    have h' := h.of_keepsKinds hparents.keepsKinds
    obtain ⟨fault, hover⟩ | ⟨tree'', place, hover, hput, hread⟩ := overwrite_cases data h' hnul
    · exact Or.inl ⟨_, _, hover, hparents⟩
    · exact Or.inr ⟨_, _, hover, hparents.filePut hput, hread⟩

/-- A write that fails may leave a directory: the one on the way to itself. -/
example : (empty.writeFile "out/.." []).2.isOk = false ∧
    (empty.writeFile "out/.." []).1.layout [workingName, "out"] = some .directory := by
  decide +kernel

/-- A write of the storage of a tree writes the bytes of the text. -/
theorem storage_write (path source : String) {result : Except PathFault Unit}
    (h : tree.writeFile path (Text.Utf8.encode source) = (tree', result)) :
    storage.write tree path source = (tree', result.mapError PathFault.message) := by
  simp only [storage, h]

end FileTree

end AbiBindings.CommandLine

namespace AbiBindings

open Bindings CommandLine

/-! ## Jobs -/

/-- What a job does to a tree of files. A job that fails, be it for its write, makes directories at
most, so what could be read from a path is still read from it. After a job that succeeds its output
is read from its path, and from any other path what was read before, unless the path leads to the
output. -/
theorem Job.run_on_tree (formatter : Formatter) (format : Bool) (job : Job) {tree tree' : FileTree}
    {report : Report} (h : tree.HasWorkingDirectory)
    (hrun : job.run FileTree.storage formatter format tree = (tree', report)) :
    tree'.HasWorkingDirectory ∧
    (∀ fault, report.result = .error fault → OnlyDirectoriesMade tree.layout tree'.layout ∧
      ∀ path data, tree.readFile path = .ok data → tree'.readFile path = .ok data) ∧
    ∀ output, report.result = .ok output →
      tree'.readFile output.path = .ok (Text.Utf8.encode output.source) ∧
      ∀ path data, tree.readFile path = .ok data → tree'.readFile path = .ok data ∨
        tree'.readFile path = .ok (Text.Utf8.encode output.source) := by
  cases hgenerated : job.generated (FileTree.storage.read tree) format with
  | error error =>
    have hended : job.run FileTree.storage formatter format tree =
        (tree, ⟨[job.startLog], .error ⟨job.qualifiedName, error⟩⟩) :=
      run_of_error hgenerated
    obtain ⟨rfl, rfl⟩ := Prod.mk.inj (hended.symm.trans hrun)
    exact ⟨h, fun _ _ => ⟨.refl _, fun _ _ => id⟩, nofun⟩
  | ok b =>
    obtain ⟨written, fault, hwrite, hmade⟩ | ⟨written, place, hwrite, hput, hread⟩ :=
      FileTree.writeFile_cases (job.outputPath b) (Text.Utf8.encode (b.written formatter)) h
    · have hended : job.run FileTree.storage formatter format tree =
          (written, ⟨job.bindingsLogs formatter b,
            .error ⟨job.qualifiedName, .io fault.message⟩⟩) :=
        run_of_ok hgenerated (FileTree.storage_write _ _ hwrite)
      obtain ⟨rfl, rfl⟩ := Prod.mk.inj (hended.symm.trans hrun)
      have hkept := h.of_keepsKinds hmade.keepsKinds
      exact ⟨hkept, fun _ _ => ⟨hmade, fun _ _ => FileTree.readFile_of_onlyDirectoriesMade h hmade⟩,
        nofun⟩
    · have hended : job.run FileTree.storage formatter format tree =
          (written, ⟨job.bindingsLogs formatter b ++ [job.writtenLog],
            .ok ⟨job.outputPath b, b.written formatter⟩⟩) :=
        run_of_ok hgenerated (FileTree.storage_write _ _ hwrite)
      obtain ⟨rfl, rfl⟩ := Prod.mk.inj (hended.symm.trans hrun)
      have hkept := h.of_keepsKinds hput.keepsKinds
      refine ⟨hkept, nofun, fun output houtput => ?_⟩
      obtain rfl := Except.ok.inj houtput
      dsimp only
      exact ⟨hread, fun _ _ => FileTree.readFile_of_filePut h hput⟩

end AbiBindings
