import Acceptance.Text

/-!
# File trees

The text files below a directory, and paths into it. A directory exists when it holds a file.
-/

namespace Acceptance

/-- The names on the way from the directory to a file. -/
abbrev FilePath := List String

namespace FilePath

/-- Splits a text at every slash, given the part read so far in reverse. -/
def split (part : List Char) : List Char → List String
  | [] => [String.ofList part.reverse]
  | c :: rest =>
    if c == '/' then String.ofList part.reverse :: split [] rest else split (c :: part) rest

/-- The path with a text, empty parts and single dots left out. -/
def ofText (text : String) : FilePath :=
  (split [] text.toList).filter fun part => part != "" && part != "."

/-- Drops slashes and single dots between slashes from the start of a text. On the reverse of a text it
drops them from the end. -/
def dropPlaces : List Char → List Char
  | '/' :: rest => dropPlaces rest
  | '.' :: '/' :: rest => dropPlaces rest
  | ['.'] => []
  | text => text

/-- The text of a path without the slashes and single dots at its end. -/
def trimEnd (text : String) : String := String.ofList (dropPlaces text.toList.reverse).reverse

/-- The text of a path without the slashes and single dots at its start. -/
def trimStart (text : String) : String := String.ofList (dropPlaces text.toList)

/-- Whether the text of a path says by a slash or a single dot at its end that it names a directory. -/
def asksForDirectory (text : String) : Bool := trimEnd text != text

/-- Whether the text of a path begins at the root of all files. -/
def isAbsolute (text : String) : Bool := text.startsWith "/"

/-- The path as text. -/
def toText (path : FilePath) : String := Text.join "/" path

/-- Whether a file name has an extension: a dot that is not its first character. -/
def hasExtension (name : String) : Bool := name != ".." && name.toList.tail.contains '.'

/-- Compares paths name by name, and names by their characters. -/
def le : FilePath → FilePath → Bool
  | [], _ => true
  | _ :: _, [] => false
  | name :: rest, name' :: rest' =>
    if name < name' then true else if name = name' then le rest rest' else false

end FilePath

/-- The files below a directory, with their texts. -/
structure FileTree where
  files : List (FilePath × String) := []

namespace FileTree

/-- Whether a path leads to a directory. -/
def isDirectory (tree : FileTree) (path : FilePath) : Bool :=
  path.isEmpty || tree.files.any fun file => path.isPrefixOf file.1 && file.1.length > path.length

/-- The text of the file at a path. -/
def read? (tree : FileTree) (path : FilePath) : Option String := tree.files.lookup path

/-- Follows the names of a path from a directory given in reverse. A double dot leads up again, but
not out of the tree, and every other name but the last one has to lead to a directory. -/
def resolveFrom (tree : FileTree) (directory : FilePath) : List String → Option FilePath
  | [] => some directory.reverse
  | ".." :: rest =>
    match directory with
    | [] => none
    | _ :: parent => if tree.isDirectory directory.reverse then tree.resolveFrom parent rest else none
  | name :: rest =>
    if tree.isDirectory directory.reverse then tree.resolveFrom (name :: directory) rest else none

/-- The place that a path leads to, if there is a file or a directory. -/
def resolve? (tree : FileTree) (path : FilePath) : Option FilePath := do
  let place ← tree.resolveFrom [] path
  if tree.isDirectory place || (tree.read? place).isSome then some place else none

/-- The place that the text of a path leads to, if there is one. -/
def place? (tree : FileTree) (path : String) : Option FilePath := do
  if FilePath.isAbsolute path then none
  let place ← tree.resolve? (FilePath.ofText path)
  if FilePath.asksForDirectory path && !tree.isDirectory place then none else some place

end FileTree

end Acceptance
