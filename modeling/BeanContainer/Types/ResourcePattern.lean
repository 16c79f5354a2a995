import BeanContainer.NameMap
import BeanContainer.Regex.Matching
import BeanContainer.Regex.Reading

/-!
# Resource patterns

A scan looks for types in a package and below. Package and pattern are joined to one glob over
paths, where the path of a type is its name with `/` for `::`. In a glob `**/` stands for nothing or
any text up to a slash, `**` for any text, `*` for any text without a slash and `?` for one
character that is no slash.
-/

namespace BeanContainer

/-- Puts a slash for each separator of a type name, from the left. -/
def pathOfName : List Char → List Char
  | ':' :: ':' :: cs => '/' :: pathOfName cs
  | c :: cs => c :: pathOfName cs
  | [] => []

/-- Drops all separators at the end of a type name. -/
def dropTrailingSeparators (cs : List Char) : List Char := (go cs.reverse).reverse
where
  go : List Char → List Char
    | ':' :: ':' :: cs => go cs
    | cs => cs

/-- A piece of a glob. -/
inductive GlobPiece where
  /-- `**/`. -/
  | directories
  /-- `**`. -/
  | anything
  /-- `*`. -/
  | segmentPart
  /-- `?`. -/
  | one
  | literal (c : Char)
  deriving DecidableEq, Repr

namespace GlobPiece

/-- The pieces of a glob, read from the left, the longest piece first. -/
def ofChars : List Char → List GlobPiece
  | '*' :: '*' :: '/' :: cs => directories :: ofChars cs
  | '*' :: '*' :: cs => anything :: ofChars cs
  | '*' :: cs => segmentPart :: ofChars cs
  | '?' :: cs => one :: ofChars cs
  | c :: cs => literal c :: ofChars cs
  | [] => []

/-- The text of an expression for what a piece stands for. -/
def regex : GlobPiece → List Char
  | directories => "(?:.*/)?".toList
  | anything => ".*".toList
  | segmentPart => "[^/]*".toList
  | one => "[^/]".toList
  | literal c => Regex.escaped c

end GlobPiece

/-- A package joined with a pattern for the paths in it. -/
structure ResourcePattern where
  glob : List Char
  deriving DecidableEq, Repr

namespace ResourcePattern

/-- The pattern for the paths in a package: separators at the package's end are dropped, and slashes
at the pattern's start unless there is no package. -/
def ofPackage (package pattern : String) : ResourcePattern :=
  let base := pathOfName (dropTrailingSeparators package.toList)
  ⟨if base.isEmpty then pattern.toList
    else base ++ '/' :: pattern.toList.dropWhile (· == '/')⟩

def text (p : ResourcePattern) : String := String.ofList p.glob

/-- The expression for the paths that the glob stands for. The limit on the size of a compiled
expression (`Regex.fits`), which only a glob of many thousand characters would exceed, is left
out. -/
def regex? (p : ResourcePattern) : Except Regex.Fault Regex :=
  Regex.readAnchored? ((GlobPiece.ofChars p.glob).flatMap GlobPiece.regex)

/-- Whether the path of a type is one that the glob stands for, whatever the size of its
expression. -/
def selects (p : ResourcePattern) (name : String) : Bool :=
  match p.regex? with
  | .ok r => r.search (pathOfName name.toList)
  | .error _ => false

end ResourcePattern

end BeanContainer
