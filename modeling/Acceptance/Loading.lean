import Acceptance.FileTree
import Acceptance.Gherkin.Parser
import Acceptance.Glob

/-!
# Loading of features

A path names a file with a feature, a directory whose feature files are loaded, or a pattern for
paths. The features of one path are in the order of their paths.
-/

namespace Acceptance

/-- Why features cannot be loaded: a file holds no feature, or a pattern is not well formed. -/
inductive LoadError
  | notFeature (path : FilePath)
  | badPattern (pattern : String)
deriving DecidableEq

namespace FileTree

/-- The directories and files on the way to a file, the file itself included. -/
def placesTo (path : FilePath) : List FilePath :=
  (List.range path.length).map fun index => path.take (index + 1)

/-- All directories and files of a tree. -/
def places (tree : FileTree) : List FilePath :=
  (tree.files.flatMap fun file => placesTo file.1).eraseDups

/-- The paths from a place to itself and to what is below it. -/
def below (tree : FileTree) (start : FilePath) : List FilePath :=
  [] :: tree.places.filterMap fun place =>
    (start.isPrefixOf? place).bind fun path => if path.isEmpty then none else some path

/-- Whether a file name is that of a feature, its extension being in any case. -/
def isFeatureName (name : String) : Bool :=
  ".feature".toList.isSuffixOf (name.toList.map Char.toLower)

/-- The paths from a directory to what is below it and named like a feature. -/
def featurePaths (tree : FileTree) (directory : FilePath) : List FilePath :=
  (tree.below directory).filter fun path => path.getLast?.any isFeatureName

/-- Whether a name of a path is a pattern. -/
def isPattern (name : String) : Bool :=
  name.toList.any fun c => c = '*' || c = '{' || c = '}'

/-- The paths that a pattern matches. Its names up to the first one with a star or a brace lead to the
place where the search begins, which is not in the tree if the pattern is absolute. -/
def matchingPaths? (tree : FileTree) (absolute : Bool) (pattern : FilePath) :
    Option (List FilePath) := do
  let start := pattern.takeWhile fun name => !isPattern name
  let glob ← Glob.compile? (FilePath.toText (pattern.drop start.length))
  match if absolute then none else tree.resolve? start with
  | none => some []
  | some place =>
    some (((tree.below place).filter fun path => glob.isMatch (FilePath.toText path)).map (start ++ ·))

/-- The paths that a path names, in order. -/
def select (tree : FileTree) (path : String) : Except LoadError (List FilePath) :=
  let selected := match tree.place? path with
    | some place =>
      if tree.isDirectory place then some ((tree.featurePaths place).map (place ++ ·))
      else some [place]
    | none => tree.matchingPaths? (FilePath.isAbsolute path) (FilePath.ofText path)
  match selected with
  | some paths => .ok (paths.mergeSort FilePath.le)
  | none => .error (.badPattern path)

/-- Loads the feature of a file. -/
def loadFile (tree : FileTree) (path : FilePath) : Except LoadError Feature :=
  match ((tree.resolve? path).bind tree.read?).bind Gherkin.parseFeature? with
  | some feature => .ok { feature with path := some (FilePath.toText path) }
  | none => .error (.notFeature path)

/-- Loads the features that a path names. -/
def load (tree : FileTree) (path : String) : Except LoadError (List Feature) := do
  (← tree.select path).mapM tree.loadFile

/-- Loads the features that some paths name, in the order of these. -/
def loadAll (tree : FileTree) (paths : List String) : Except LoadError (List Feature) := do
  .ok (← paths.mapM tree.load).flatten

end FileTree

end Acceptance
