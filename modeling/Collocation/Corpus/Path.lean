import Collocation.Text.Fields

/-!
# Paths

A path is a text whose parts stand between slashes.  An empty part or a single point stays in the
directory reached so far, and two points lead to the one above it.  Paths are compared part by part.
-/

namespace Collocation
namespace Path

/-- The parts of a path. -/
def parts (path : String) : List (List Char) :=
  Text.fields '/' path.toList

/-- The parts of a text; a slash at the end makes no part. -/
def pieces (text : List Char) : List (List Char) :=
  let all := Text.fields '/' text
  if all.getLast? = some [] then all.dropLast else all

/-- Whether a path starts at the root of the file system. -/
def isAbsolute (path : String) : Bool :=
  path.startsWith "/"

/-- Whether a part stays where it is. -/
def isStill (part : List Char) : Bool :=
  part == [] || part == ['.']

/-- The part that leads to the directory above. -/
def upwards : List Char :=
  ['.', '.']

/-- The parts of a path that lead somewhere. -/
def steps (path : String) : List (List Char) :=
  (parts path).filter fun part => !isStill part

/-- The path of a directory's entry; nothing stands before the entries of the current directory. -/
def child (path name : String) : String :=
  if path = "" then name else if path.endsWith "/" then path ++ name else path ++ "/" ++ name

/-- Whether a step stands before another; the step upwards stands before all names. -/
def stepLt (left right : List Char) : Bool :=
  if left = upwards then right != upwards else right != upwards && decide (left < right)

/-- Whether steps stand before others or are the same. -/
def stepsLe : List (List Char) → List (List Char) → Bool
  | [], _ => true
  | _ :: _, [] => false
  | first :: left, second :: right =>
      stepLt first second || (first == second && stepsLe left right)

/-- Whether a path stands before another or leads the same way. -/
def le (left right : String) : Bool :=
  stepsLe (steps left) (steps right)

/-- A path seen from a directory whose path it begins with. -/
def below (directory path : String) : String :=
  let rest := (parts path).drop (parts directory).length
  String.ofList (Text.joinFields '/' (rest.dropWhile isStill))

/-- The place that parts lead to from a directory, as the steps that lead there from the root.  A part
can be followed only out of a directory; above the root there is nothing but the root. -/
def follow? (isDirectory : List (List Char) → Bool) :
    List (List Char) → List (List Char) → Option (List (List Char))
  | place, [] => some place
  | place, part :: parts =>
      if !isDirectory place then none
      else if isStill part then follow? isDirectory place parts
      else if part = upwards then follow? isDirectory place.dropLast parts
      else follow? isDirectory (place ++ [part]) parts

end Path
end Collocation
