import LawFirmDigitalTwin.PyText

/-!
# Pure paths

Paths as texts, by the rules of POSIX and by those of Windows, as `pathlib` of Python 3.11 reads and
joins them: a path has a drive, a root and names. A path without drive and root, and
without a step to the parent, stays inside whatever it is joined to (`inside_join`); a path with a
drive or a root leaves some directory of Windows (`exists_not_inside`).
-/

namespace LawFirmDigitalTwin

namespace PyPath

/-- A path that was read: its drive, its root, and the names that follow. -/
structure PurePath where
  drive : List Char
  root : List Char
  names : List (List Char)
  deriving DecidableEq

namespace PurePath

/-- `path.parts`: drive and root make one part. -/
def parts (p : PurePath) : List (List Char) :=
  (if p.drive ++ p.root = [] then [] else [p.drive ++ p.root]) ++ p.names

/-- Drives are compared in lower case. The drives of relative paths are ASCII, and so are the texts
that they can be equal to. -/
def casefold (drive : List Char) : List Char := drive.flatMap lowerChar

/-- `base / path`. -/
def join (base path : PurePath) : PurePath :=
  if path.root ≠ [] then
    if path.drive = [] ∧ base.drive ≠ [] then ⟨base.drive, path.root, path.names⟩ else path
  else if path.drive ≠ [] then
    if casefold path.drive = casefold base.drive then
      ⟨base.drive, base.root, base.names ++ path.names⟩
    else path
  else ⟨base.drive, base.root, base.names ++ path.names⟩

/-- The names of an absolute path, where a step to the parent takes the name before it back. -/
def collapse (names : List (List Char)) : List (List Char) :=
  names.foldl (fun done name => if name = ['.', '.'] then done.dropLast else done ++ [name]) []

/-- The path is the directory, or lies in it, once both are normalised. -/
def Inside (base path : PurePath) : Prop :=
  path.drive = base.drive ∧ path.root = base.root ∧ collapse base.names <+: collapse path.names

end PurePath

/-- The names between separators: no empty ones, and no steps to the same directory. -/
def namesOf (sep : Char) (rel : List Char) : List (List Char) :=
  (rel.splitOn sep).filter fun name => name ≠ [] ∧ name ≠ ['.']

/-! ## POSIX -/

/-- `PurePosixPath(text)`. Two slashes in front are a root of their own. -/
def posixPath (text : List Char) : PurePath :=
  let rel := text.dropWhile (· = '/')
  let root := if text.length - rel.length = 2 then ['/', '/'] else if text = rel then [] else ['/']
  ⟨[], root, namesOf '/' rel⟩

/-- `PurePosixPath(text).is_absolute()`. -/
def posixAbsolute (p : PurePath) : Prop := p.root ≠ []

instance decidablePosixAbsolute (p : PurePath) : Decidable (posixAbsolute p) :=
  inferInstanceAs (Decidable (p.root ≠ []))

/-! ## Windows -/

/-- A prefix `\\?\`, with `UNC` where it stands before a share, and what it is a prefix of. -/
def splitExtendedPath : List Char → List Char × List Char
  | '\\' :: '\\' :: '?' :: '\\' :: 'U' :: 'N' :: 'C' :: '\\' :: rest =>
    (['\\', '\\', '?', '\\', 'U', 'N', 'C'], '\\' :: '\\' :: rest)
  | '\\' :: '\\' :: '?' :: '\\' :: rest => (['\\', '\\', '?', '\\'], rest)
  | part => ([], part)

/-- A share `\\machine\mountpoint`, and the path in it. -/
def splitShare : List Char → Option (List Char × List Char)
  | '\\' :: '\\' :: more =>
    if more.head? = some '\\' then none
    else
      let machine := more.takeWhile (· ≠ '\\')
      match more.dropWhile (· ≠ '\\') with
      | [] => none
      | _ :: after =>
        if after.head? = some '\\' then none
        else
          let mountpoint := after.takeWhile (· ≠ '\\')
          some ('\\' :: '\\' :: machine ++ '\\' :: mountpoint,
            (after.dropWhile (· ≠ '\\')).drop 1)
  | _ => none

/-- A drive letter, and what follows it. -/
def splitLetter : List Char → List Char × List Char
  | c :: ':' :: rest => if c.isAlpha then ([c, ':'], rest) else ([], c :: ':' :: rest)
  | part => ([], part)

/-- The drive, the root and the rest of a path whose separators are backslashes. -/
def splitroot (part : List Char) : List Char × List Char × List Char :=
  let (ext, part) := splitExtendedPath part
  match splitShare part with
  | some (share, rel) => (if ext = [] then share else ext ++ share.drop 1, ['\\'], rel)
  | none =>
    let (letter, part) := splitLetter part
    (ext ++ letter, if part.head? = some '\\' then ['\\'] else [], part.dropWhile (· = '\\'))

/-- `PureWindowsPath(text)`. -/
def windowsPath (text : List Char) : PurePath :=
  let (drive, root, rel) := splitroot (text.map fun c => if c = '/' then '\\' else c)
  ⟨drive, root, namesOf '\\' rel⟩

/-- `PureWindowsPath(text).is_absolute()`. -/
def windowsAbsolute (p : PurePath) : Prop := p.root ≠ [] ∧ p.drive ≠ []

instance decidableWindowsAbsolute (p : PurePath) : Decidable (windowsAbsolute p) :=
  inferInstanceAs (Decidable (p.root ≠ [] ∧ p.drive ≠ []))

/-! ## Staying inside -/

/-- Names without a step to the parent are kept. -/
theorem foldl_collapse {names done : List (List Char)} (h : ['.', '.'] ∉ names) :
    names.foldl (fun done name => if name = ['.', '.'] then done.dropLast else done ++ [name]) done =
      done ++ names := by
  induction names generalizing done with
  | nil => exact (List.append_nil _).symm
  | cons name names ih =>
    have hname : name ≠ ['.', '.'] := by
      rintro rfl
      exact h (.head _)
    rw [List.foldl_cons, if_neg hname, ih fun hin => h (.tail _ hin), List.append_assoc]
    rfl

/-- Names without a step to the parent are kept after others. -/
theorem collapse_append (names : List (List Char)) {more : List (List Char)}
    (h : ['.', '.'] ∉ more) :
    PurePath.collapse (names ++ more) = PurePath.collapse names ++ more := by
  rw [PurePath.collapse, List.foldl_append, foldl_collapse h]
  rfl

/-- A path without a step to the parent is normalised. -/
theorem collapse_of_notMem {names : List (List Char)} (h : ['.', '.'] ∉ names) :
    PurePath.collapse names = names :=
  foldl_collapse h

/-- **A path without drive and root, and without a step to the parent, stays inside.** -/
theorem inside_join (base : PurePath) {path : PurePath} (hdrive : path.drive = [])
    (hroot : path.root = []) (hdots : ['.', '.'] ∉ path.names) : base.Inside (base.join path) := by
  rw [PurePath.join, if_neg (not_not.2 hroot), if_neg (not_not.2 hdrive)]
  refine ⟨rfl, rfl, ?_⟩
  rw [collapse_append _ hdots]
  exact List.prefix_append _ _

/-! ## Leaving a directory of Windows -/

/-- A text without the separator is one name. -/
theorem namesOf_of_notMem {sep : Char} {name : List Char} (hsep : sep ∉ name) (hne : name ≠ [])
    (hdot : name ≠ ['.']) : namesOf sep name = [name] := by
  rw [namesOf, List.splitOn_eq_singleton hsep]
  exact List.filter_eq_self.2 (List.forall_mem_singleton.2 (decide_eq_true ⟨hne, hdot⟩))

/-- A directory on a drive, named by a run of one letter. -/
def directory (letter : Char) (n : Nat) : List Char :=
  letter :: ':' :: '\\' :: List.replicate (n + 2) 'q'

/-- The path of the directory: its drive, the root and one name. -/
theorem windowsPath_directory {letter : Char} (hletter : letter = 'C' ∨ letter = 'D') (n : Nat) :
    windowsPath (directory letter n) =
      ⟨[letter, ':'], ['\\'], [List.replicate (n + 2) 'q']⟩ := by
  have hmap : (directory letter n).map (fun c => if c = '/' then '\\' else c) =
      directory letter n := by
    rcases hletter with rfl | rfl <;> simp [directory]
  have hrel : ('\\' :: List.replicate (n + 2) 'q').dropWhile (· = '\\') =
      List.replicate (n + 2) 'q' := by
    simp [List.replicate_succ]
  have hnames : namesOf '\\' (List.replicate (n + 2) 'q') = [List.replicate (n + 2) 'q'] := by
    refine namesOf_of_notMem ?_ (List.cons_ne_nil _ _) ?_
    · simp [List.mem_replicate]
    · simp [List.replicate_succ]
  have hroot : splitroot (directory letter n) =
      ([letter, ':'], ['\\'], List.replicate (n + 2) 'q') := by
    rcases hletter with rfl | rfl
    · exact congrArg (fun rel => (['C', ':'], ['\\'], rel)) hrel
    · exact congrArg (fun rel => (['D', ':'], ['\\'], rel)) hrel
  rw [windowsPath, hmap, hroot]
  exact congrArg (PurePath.mk _ _) hnames

/-- No name is longer than all of them together. -/
theorem length_le_flatten {name : List Char} {names : List (List Char)} (h : name ∈ names) :
    name.length ≤ names.flatten.length := (List.sublist_flatten_of_mem h).length_le

/-- **A path with a drive or a root leaves some directory.** -/
theorem exists_not_inside {path : PurePath} (h : ¬ (path.drive = [] ∧ path.root = []))
    (hrelative : ¬ windowsAbsolute path) (hdots : ['.', '.'] ∉ path.names) :
    ∃ base, windowsAbsolute (windowsPath base) ∧
      ¬ (windowsPath base).Inside ((windowsPath base).join path) := by
  have habsolute : ∀ {letter : Char} (n : Nat), letter = 'C' ∨ letter = 'D' →
      windowsAbsolute (windowsPath (directory letter n)) := by
    intro letter n hletter
    rw [windowsPath_directory hletter]
    exact ⟨List.cons_ne_nil _ _, List.cons_ne_nil _ _⟩
  by_cases hroot : path.root = []
  · -- only a drive: a directory of another drive is left
    have hdrive : path.drive ≠ [] := fun hdrive => h ⟨hdrive, hroot⟩
    obtain ⟨letter, hletter, hother⟩ : ∃ letter : Char, (letter = 'C' ∨ letter = 'D') ∧
        PurePath.casefold path.drive ≠ PurePath.casefold [letter, ':'] := by
      by_cases hc : PurePath.casefold path.drive = PurePath.casefold ['C', ':']
      · exact ⟨'D', .inr rfl, by rw [hc]; decide⟩
      · exact ⟨'C', .inl rfl, hc⟩
    refine ⟨directory letter 0, habsolute 0 hletter, fun hinside => ?_⟩
    rw [windowsPath_directory hletter, PurePath.join, if_neg (not_not.2 hroot), if_pos hdrive,
      if_neg hother] at hinside
    exact absurd (hroot.symm.trans hinside.2.1) (List.cons_ne_nil _ _).symm
  · -- only a root: the names of the path are not those of the directory
    have hdrive : path.drive = [] := by
      by_contra hdrive
      exact hrelative ⟨hroot, hdrive⟩
    refine ⟨directory 'D' path.names.flatten.length, habsolute _ (.inr rfl), ?_⟩
    rintro ⟨-, -, hprefix⟩
    rw [windowsPath_directory (.inr rfl), PurePath.join, if_pos hroot,
      if_pos ⟨hdrive, List.cons_ne_nil _ _⟩] at hprefix
    have hin : List.replicate (path.names.flatten.length + 2) 'q' ∈ path.names := by
      have hmem := hprefix.subset (List.mem_singleton_self _)
      rwa [collapse_of_notMem hdots] at hmem
    have hle := length_le_flatten hin
    rw [List.length_replicate] at hle
    omega

end PyPath

end LawFirmDigitalTwin
