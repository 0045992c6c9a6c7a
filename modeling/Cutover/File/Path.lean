/-
**Paths of files.**

A path is a text whose parts are separated by slashes.  Joining keeps both texts as they are, so
that a message shows a path as it was put together.

Main definitions:

* `Cutover.Path.join` — a path behind another;
* `Cutover.Path.parent?` — the directory that a path lies in;
* `Cutover.Path.parts` — the parts between the slashes.
-/

set_option autoImplicit false

namespace Cutover.Path

/-- Whether a path starts at the root. -/
def isAbsolute (path : String) : Bool := path.startsWith "/"

/-- A path behind another.  An absolute one replaces what is before it, and a slash is put between
them unless there is nothing before it or a slash already. -/
def join (base path : String) : String :=
  if isAbsolute path then path
  else if base.isEmpty || base.endsWith "/" then base ++ path
  else base ++ "/" ++ path

/-- The parts between the slashes, some of which may be empty. -/
def parts (path : String) : List String :=
  (path.toList.splitOn '/').map String.ofList

/-- The reversed characters of a path without the slashes and single dots at its end, except the
root and a dot at the start. -/
def trimReversed : List Char → List Char
  | [] => []
  | ['/'] => ['/']
  | '/' :: rest => trimReversed rest
  | '.' :: '/' :: rest => trimReversed ('/' :: rest)
  | cs => cs

/-- The directory that a path lies in; the root and the empty path lie in none. -/
def parent? (path : String) : Option String :=
  match trimReversed path.toList.reverse with
  | [] => none
  | ['/'] => none
  | cs => some (String.ofList (trimReversed (cs.dropWhile (· != '/'))).reverse)

end Cutover.Path
