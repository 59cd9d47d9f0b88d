import SourceFlow.Text.Basic

/-!
# Paths as texts

Slash-separated paths and the usual operations on their texts. Nothing
here looks at a file system: a path is split at its slashes, put back
together, and simplified by the rules for `.` and `..`.
-/

namespace SourceFlow.Path

/-- The parts between the slashes; an empty part stands for two slashes in a row. -/
def parts (path : String) : List String :=
  (path.toList.splitOn '/').map String.ofList

def ofParts (ps : List String) : String :=
  "/".intercalate ps

/-! ## Names and extensions -/

/-- The characters after the last slash. -/
def nameChars (path : String) : List Char :=
  (path.toList.reverse.takeWhile (· != '/')).reverse

/-- A name cut at its last dot: what stands before the dot and what stands after it. -/
def cutAtLastDot (name : List Char) : Option (List Char × List Char) :=
  -- in reverse the last dot comes first
  match name.reverse.dropWhile (· != '.') with
  | [] => none
  | _ :: stem => some (stem.reverse, (name.reverse.takeWhile (· != '.')).reverse)

/-- The extension of a path, its dot included: what begins at the last dot of the name, unless only
dots stand before that dot. -/
def extension (path : String) : String :=
  match cutAtLastDot (nameChars path) with
  | none => ""
  | some (stem, rest) => if stem.any (· != '.') then String.ofList ('.' :: rest) else ""

/-- The suffix of a file name, its dot included: what begins at the last dot, unless that dot is the
first or the last character. It differs from `extension` on names such as `..ts`. -/
def suffix (name : String) : String :=
  match cutAtLastDot name.toList with
  | some (_ :: _, c :: rest) => String.ofList ('.' :: c :: rest)
  | _ => ""

/-! ## Joining and simplifying -/

/-- The text up to the last slash, without slashes at its end unless there is nothing else. -/
def directory (path : String) : String :=
  let head := (path.toList.reverse.dropWhile (· != '/')).reverse
  if head.all (· == '/') then String.ofList head
  else String.ofList (Text.dropTrailing (· == '/') head)

/-- `path` as seen from `base`; a path that begins with a slash stands for itself. -/
def join (base path : String) : String :=
  if Text.startsWith path "/" then path
  else if base.isEmpty || Text.endsWith base "/" then base ++ path
  else base ++ "/" ++ path

/-- Adds one part to simplified parts (the last one first). A `..` takes back the part before it,
stays if there is none to take back, and is lost at the root. -/
def pushPart (rooted : Bool) (done : List String) (part : String) : List String :=
  if part = "" ∨ part = "." then done
  else if part = ".." then
    match done with
    | [] => if rooted then [] else [part]
    -- a `..` that stayed cannot be taken back
    | last :: before => if last = ".." then part :: last :: before else before
  else part :: done

/-- The parts of a path without empty parts, `.` and removable `..`. -/
def simplify (rooted : Bool) (ps : List String) : List String :=
  (ps.foldl (pushPart rooted) []).reverse

/-- How many slashes a simplified path begins with: exactly two stay two, more become one. -/
def leadingSlashes (path : String) : Nat :=
  match (path.toList.takeWhile (· == '/')).length with
  | 0 => 0
  | 2 => 2
  | _ => 1

/-- The simplest text of the same path; a path of no parts is `.`. -/
def normalize (path : String) : String :=
  let slashes := leadingSlashes path
  -- leading slashes decide whether `..` can be lost at the root
  let text := String.ofList (List.replicate slashes '/') ++
    ofParts (simplify (slashes != 0) (parts path))
  if text.isEmpty then "." else text

end SourceFlow.Path
