import Colloquy.Error.Basic

/-!
# Disks

The folders and files that rows are written to. A file holds text, or a table of texts, which can
be read only when it is finished. A path leads to a place: a part `..` leads one folder up.
-/

set_option autoImplicit false

namespace Colloquy

inductive FileContent where
  | text (content : String)
  | table (columns : List String) (rows : List (List String)) (finished : Bool)
  deriving Repr, DecidableEq

def pathParts (path : String) : List String := (path.toList.splitOn '/').map String.ofList

def plainPath (path : String) : String :=
  let parts := (pathParts path).filter fun part => part ≠ "" ∧ part ≠ "."
  let relative := "/".intercalate parts
  if path.toList.head? = some '/' then "/" ++ relative
  else if relative = "" then "." else relative

def parentPath (path : String) : String :=
  match (pathParts path).dropLast with
  | [] => "."
  | [""] => "/"
  | parts => "/".intercalate parts

/-- The parts of a path behind one more part, the last part first. -/
def enterPart (places : List String) (part : String) : List String :=
  if part ≠ ".." then part :: places
  else
    match places with
    | [] => [".."]
    | ".." :: _ => ".." :: places
    | "" :: _ => places
    | _ :: above => above

def placeOfParts (parts : List String) : String :=
  match (parts.foldl enterPart []).reverse with
  | [] => "."
  | places => "/".intercalate places

def placeOf (path : String) : String := placeOfParts ((pathParts path).filter (· ≠ "."))

structure Disk where
  folders : List String
  files : List (String × FileContent)
  deriving Repr, DecidableEq

namespace Disk

def empty : Disk := ⟨["."], []⟩

def read? (disk : Disk) (path : String) : Option FileContent := disk.files.lookup (placeOf path)

/-- Whether there is a folder at a place; folders above the one that paths start from are there. -/
def hasFolder (disk : Disk) (place : String) : Bool :=
  (pathParts place).all (· = "..") || disk.folders.contains place

def passed (path : String) : List String :=
  let parts := pathParts path
  (List.range (parts.length - 1)).map fun count => placeOfParts (parts.take (count + 1))

def makeFolder (path : String) (disk : Disk) : Disk :=
  let wanted := passed path ++ [placeOf path]
  { disk with folders := disk.folders ++ wanted.filter fun folder => !disk.folders.contains folder }

def put (path : String) (content : FileContent) (disk : Disk) : Disk :=
  { disk with
    files := (placeOf path, content) :: disk.files.filter fun file => file.1 ≠ placeOf path }

/-- Writes the file at a path, which has to lie in a folder and not to be one. No path holds the
null character. -/
def write (path : String) (content : FileContent) (disk : Disk) : Except Error Disk :=
  if '\x00' ∈ path.toList then .error (.unsupported .value "embedded null byte")
  else if !(passed path).all disk.hasFolder then
    .error (.unsupported .missingFile ("No such file or directory: " ++ path))
  else if disk.hasFolder (placeOf path) then
    .error (.unsupported .isDirectory ("Is a directory: " ++ path))
  else .ok (disk.put path content)

def append (path text : String) (disk : Disk) : Except Error Disk :=
  match disk.read? path with
  | some (.text content) => disk.write path (.text (content ++ text))
  | _ => disk.write path (.text text)

/-- Writes a row behind the rows of the table in the file at a path. -/
def appendRow (path : String) (columns row : List String) (disk : Disk) : Except Error Disk :=
  match disk.read? path with
  | some (.table known rows finished) => disk.write path (.table known (rows ++ [row]) finished)
  | _ => disk.write path (.table columns [row] false)

/-- The disk in which the table in the file at a path is finished. -/
def finishTable (path : String) (disk : Disk) : Disk :=
  match disk.read? path with
  | some (.table columns rows _) => disk.put path (.table columns rows true)
  | _ => disk

@[simp]
theorem read?_put (disk : Disk) (path : String) (content : FileContent) :
    (disk.put path content).read? path = some content := by
  simp [put, read?]

/-- Putting one file leaves the files in all other places as they were. -/
theorem read?_put_of_ne (disk : Disk) {path other : String} (content : FileContent)
    (differs : placeOf other ≠ placeOf path) :
    (disk.put path content).read? other = disk.read? other := by
  have missed : (placeOf other == placeOf path) = false := by simpa using differs
  simp only [put, read?, List.lookup_cons, missed]
  induction disk.files with
  | nil => rfl
  | cons file files ih =>
      obtain ⟨name, held⟩ := file
      by_cases replaced : name = placeOf path
      · subst replaced
        simpa [List.lookup_cons, missed] using ih
      · by_cases found : placeOf other = name
        · subst found
          simp [replaced]
        · have passed : (placeOf other == name) = false := by simpa using found
          simpa [List.lookup_cons, replaced, passed] using ih

end Disk

end Colloquy
