/-!
# Files of settings

A file is asked for by name. If there is none of that name, an ending is added to it.
A name that begins with a separator leads on from the root, every other name from
where one is. It may go through directories and back out of them.
-/

set_option autoImplicit false

namespace Interception.Settings

/-- The parts that lead from the root to something. -/
abbrev Place := List String

/-- Where one is if nothing is said of it. -/
def Place.usual : Place := ["work"]

/-- Files under their names, with their texts; a file that is not valid UTF-8 has none.
A name that can only be that of a directory says that there is one. -/
structure FileSystem where
  files : List (String × Option String) := []

/-- A file that was found, under the name by which it is spoken of. -/
structure FoundFile where
  name : String
  text : Option String
  deriving DecidableEq

namespace FileSystem

def separator : Char := '/'

/-- What stands before, between and behind the separators. -/
def pieces : List Char → List (List Char)
  | [] => [[]]
  | c :: rest =>
    if c = separator then [] :: pieces rest
    else match pieces rest with
      | [] => [[c]]
      | piece :: more => (c :: piece) :: more

/-- The parts of a name that count. -/
def parts (name : String) : List String :=
  ((pieces name.toList).map String.ofList).filter fun part => part != "" && part != "."

def isAbsolute (name : String) : Bool :=
  name.toList.head? == some separator

/-- Whether a name can only be that of a directory. -/
def namesDirectory (name : String) : Bool :=
  match (pieces name.toList).getLast? with
  | some last => last == [] || last == ['.']
  | none => true

/-- The parts of a name from the root on. -/
def route (here : Place) (name : String) : List String :=
  if isAbsolute name then parts name else here ++ parts name

/-- One part further: `..` leads back out of a directory, and out of the root nowhere. -/
def enter (place : Place) (part : String) : Place :=
  if part = ".." then place.dropLast else place ++ [part]

/-- Where parts lead, if there are directories all the way. -/
def arrival (parts : List String) : Place :=
  parts.foldl enter []

/-- What parts lead through on the way from a place, the end left out. -/
def passed : Place → List String → List Place
  | _, [] => []
  | place, part :: rest => place :: passed (enter place part) rest

/-- The directories that have to be there for a name to be that of something. -/
def directories (here : Place) (name : String) : List Place :=
  let route := route here name
  passed [] route ++ if namesDirectory name then [arrival route] else []

/-- One is in a directory, whether or not it has files. -/
def hasDirectory (fs : FileSystem) (here place : Place) : Bool :=
  (arrival here :: passed [] here).contains place ||
    fs.files.any fun file => (directories here file.1).contains place

/-- Follows parts from a place; only a directory can be left by `..`. -/
def follow? (isDirectory : Place → Bool) (place : Place) (parts : List String) : Option Place :=
  parts.foldlM (fun place part =>
    if part = ".." && !isDirectory place then none else some (enter place part)) place

/-- How something is spoken of from where one is. -/
def fromHere : Place → List String → List String
  | a :: here, b :: parts =>
    if a = b then fromHere here parts
    else List.replicate (here.length + 1) ".." ++ b :: parts
  | here, parts => List.replicate here.length ".." ++ parts

/-- Of two files in one place the later one stays. -/
def fileAt? (fs : FileSystem) (here : Place) (parts : List String) : Option FoundFile := do
  let place ← follow? (fs.hasDirectory here) [] parts
  let file ← fs.files.reverse.find? fun file =>
    !namesDirectory file.1 && arrival (route here file.1) == place
  return ⟨separator.toString.intercalate (fromHere here parts), file.2⟩

def endings : List String := [".yaml", ".yml"]

/-- A name by itself comes before the name with an ending. -/
def find? (fs : FileSystem) (here : Place) (name : String) : Option FoundFile :=
  let route := route here name
  match route.getLast? with
  | none => none
  | some last =>
    if last = ".." then none
    else
      let exact := if namesDirectory name then none else fs.fileAt? here route
      exact <|> endings.findSome? fun ending =>
        fs.fileAt? here (route.dropLast ++ [last ++ ending])

/-- What is below where one is is spoken of by what leads there. -/
theorem fromHere_append (here : Place) (parts : List String) :
    fromHere here (here ++ parts) = parts := by
  induction here with
  | nil => cases parts <;> simp [fromHere]
  | cons a here ih => simp [fromHere, ih]

theorem arrival_append_singleton {part : String} (ordinary : part ≠ "..")
    (parts : List String) : arrival (parts ++ [part]) = arrival parts ++ [part] := by
  rw [arrival, List.foldl_append, List.foldl_cons, List.foldl_nil, enter, if_neg ordinary,
    arrival]

/-- All that is followed leads to where it would with directories all the way. -/
theorem eq_foldl_of_follow? {isDirectory : Place → Bool} {parts : List String}
    {place there : Place} (followed : follow? isDirectory place parts = some there) :
    there = parts.foldl enter place := by
  induction parts generalizing place with
  | nil => exact (Option.some.inj followed).symm
  | cons part rest ih =>
    rw [follow?, List.foldlM_cons] at followed
    split at followed
    · cases followed
    · exact ih followed

/-- With directories all the way, parts can be followed. -/
theorem follow?_of_passed {isDirectory : Place → Bool} {parts : List String} {place : Place}
    (present : ∀ there ∈ passed place parts, isDirectory there = true) :
    follow? isDirectory place parts = some (parts.foldl enter place) := by
  induction parts generalizing place with
  | nil => rfl
  | cons part rest ih =>
    rw [passed, List.forall_mem_cons] at present
    rw [follow?, List.foldlM_cons, present.1]
    simp only [Bool.not_true, Bool.and_false, Bool.false_eq_true, if_false]
    exact ih present.2

end FileSystem

end Interception.Settings
