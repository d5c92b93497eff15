import MiGate.Disk.Files
import MiGate.Go.Strings

namespace MiGate.Cert

open Go Disk

/-! Where the two files of a certificate are kept. -/

/-- A path of a directory in the form that `filepath.Clean` gives it. -/
structure Directory where
  path : String
  given : path ≠ ""
  clean : path = "/" ∨ path.toList.getLast? ≠ some '/'

/-- The runes of a file name that stay as they are. -/
def isAssetRune (rune : Char) : Bool :=
  ('a' ≤ rune && rune ≤ 'z') || ('0' ≤ rune && rune ≤ '9') || rune == '.' || rune == '-'

def isMark (rune : Char) : Bool :=
  rune == '.' || rune == '-'

/-- An empty name is replaced by random hexadecimal digits. -/
def sanitizeAssetName (random name : String) : String :=
  let name := toLower (trimSpace name)
  let name := if name = "" then random else name
  String.ofList (trimList isMark (name.toList.map fun rune => if isAssetRune rune then rune else '-'))

/-- `filepath.Join`, for which an empty name adds nothing. -/
def Directory.join (directory : Directory) (name : String) : String :=
  if name = "" then directory.path else joinPath directory.path name

/-- The paths of the certificate and its key in a directory of their own. -/
structure AssetPaths where
  certPath : String
  keyPath : String
deriving DecidableEq, Repr

def pathsIn (dir : String) : AssetPaths where
  certPath := joinPath dir "fullchain.pem"
  keyPath := joinPath dir "privkey.key"

def assetPaths (certDir : Directory) (random name : String) : AssetPaths :=
  pathsIn (certDir.join (sanitizeAssetName random name))

/-- `filepath.Base`, for a path with a name in it. -/
def baseName (path : String) : String :=
  String.ofList (path.toList.reverse.takeWhile (· != '/')).reverse

def legacyPrivateKeyPath (keyPath : String) : String :=
  if baseName keyPath ≠ "privkey.key" then "" else joinPath (dirOf keyPath) "privkey.pem"

/-! ### Paths -/

variable {dir name other : String}

/-- A directory that a name can be put into, and taken out of again. -/
structure CleanDir (dir : String) : Prop where
  given : dir ≠ ""
  clean : dir = "/" ∨ dir.toList.getLast? ≠ some '/'

/-- A name of one element. -/
def Plain (name : String) : Prop :=
  '/' ∉ name.toList

theorem joinPath_toList (clean : CleanDir dir) (name : String) :
    (joinPath dir name).toList = (if dir = "/" then [] else dir.toList) ++ '/' :: name.toList := by
  have slash : "/".toList = ['/'] := by decide
  unfold joinPath
  by_cases root : dir = "/"
  · have ends : dir.toList.getLast? = some '/' := by
      rw [root, slash]
      rfl
    rw [if_pos ends, if_pos root, root, String.toList_append, slash]
    rfl
  · rw [if_neg (clean.clean.resolve_left root), if_neg root, String.toList_append, String.toList_append, slash,
      List.append_assoc, List.singleton_append]

theorem takeWhile_reverse (before : List Char) (plain : Plain name) :
    (before ++ '/' :: name.toList).reverse.takeWhile (· != '/') = name.toList.reverse ∧
      (before ++ '/' :: name.toList).reverse.dropWhile (· != '/') = '/' :: before.reverse := by
  have whole : (before ++ '/' :: name.toList).reverse = name.toList.reverse ++ '/' :: before.reverse := by
    simp
  have stays : ∀ rune ∈ name.toList.reverse, (rune != '/') = true := by
    intro rune member
    rw [List.mem_reverse] at member
    rw [bne_iff_ne]
    exact fun same => plain (same ▸ member)
  rw [whole]
  constructor
  · rw [List.takeWhile_append_of_pos stays]
    simp
  · rw [List.dropWhile_append_of_pos stays]
    simp

theorem baseName_joinPath (clean : CleanDir dir) (plain : Plain name) : baseName (joinPath dir name) = name := by
  rw [baseName, joinPath_toList clean, (takeWhile_reverse _ plain).1, List.reverse_reverse, String.ofList_toList]

theorem dirOf_joinPath (clean : CleanDir dir) (plain : Plain name) : dirOf (joinPath dir name) = dir := by
  rw [dirOf, joinPath_toList clean, (takeWhile_reverse _ plain).2]
  by_cases root : dir = "/"
  · rw [if_pos root, root]
    rfl
  · rw [if_neg root]
    cases shape : dir.toList.reverse with
    | nil =>
        have empty : dir.toList = [] := List.reverse_eq_nil_iff.mp shape
        exact absurd (String.toList_eq_nil_iff.mp empty) clean.given
    | cons last rest =>
        dsimp only
        rw [← shape, List.reverse_reverse, String.ofList_toList]

theorem joinPath_inj (clean : CleanDir dir) {dir' : String} (clean' : CleanDir dir') (plain : Plain name)
    (plain' : Plain other) (same : joinPath dir name = joinPath dir' other) : dir = dir' ∧ name = other := by
  constructor
  · rw [← dirOf_joinPath clean plain, same, dirOf_joinPath clean' plain']
  · rw [← baseName_joinPath clean plain, same, baseName_joinPath clean' plain']

theorem Directory.cleanDir (directory : Directory) : CleanDir directory.path :=
  ⟨directory.given, directory.clean⟩

theorem plain_sanitizeAssetName (random name : String) : Plain (sanitizeAssetName random name) := by
  intro inside
  rw [sanitizeAssetName, String.toList_ofList] at inside
  have among := (List.rdropWhile_prefix _ _).subset inside
  have mapped := (List.dropWhile_suffix _).subset among
  obtain ⟨rune, _, same⟩ := List.mem_map.mp mapped
  split at same
  · rename_i kept
    rw [same] at kept
    exact absurd kept (by decide)
  · exact absurd same (by decide)

theorem CleanDir.joinPath (clean : CleanDir dir) (plain : Plain name) (given : name ≠ "") :
    CleanDir (Disk.joinPath dir name) := by
  have runes := joinPath_toList clean name
  constructor
  · intro empty
    rw [empty] at runes
    have length := congrArg List.length runes
    simp at length
  · refine .inr fun ends => ?_
    have some : name.toList ≠ [] := fun none => given (String.toList_eq_nil_iff.mp none)
    rw [runes, List.getLast?_append_of_ne_nil _ (List.cons_ne_nil _ _)] at ends
    cases shape : name.toList with
    | nil => exact some shape
    | cons first rest =>
        rw [shape, List.getLast?_cons_cons] at ends
        exact plain (shape ▸ List.mem_of_getLast? ends)

theorem Directory.join_clean (directory : Directory) (plain : Plain name) : CleanDir (directory.join name) := by
  unfold Directory.join
  split
  · exact directory.cleanDir
  · rename_i given
    exact directory.cleanDir.joinPath plain given

theorem plain_fullchain : Plain "fullchain.pem" := by
  unfold Plain
  decide

theorem plain_privkey : Plain "privkey.key" := by
  unfold Plain
  decide

theorem plain_legacy : Plain "privkey.pem" := by
  unfold Plain
  decide

theorem legacyPrivateKeyPath_pathsIn (clean : CleanDir dir) :
    legacyPrivateKeyPath (pathsIn dir).keyPath = joinPath dir "privkey.pem" := by
  rw [legacyPrivateKeyPath, pathsIn, baseName_joinPath clean plain_privkey, if_neg (not_not.mpr rfl),
    dirOf_joinPath clean plain_privkey]

end MiGate.Cert
