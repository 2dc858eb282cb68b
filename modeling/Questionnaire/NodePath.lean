/-!
This module contains the paths of nodes and the relative paths between them. Relative paths are read
as in XPath, from the node that owns an expression: `.` is that node, and `..` its container.
-/

namespace Questionnaire

def splitAtChar (separator : Char) : List Char → List (List Char)
  | [] => [[]]
  | c :: cs =>
    if c = separator then [] :: splitAtChar separator cs
    else (splitAtChar separator cs).modifyHead (c :: ·)

abbrev NodePath := List String

inductive Scope where
  | sameContainer
  | outer (levels : Nat)
  | inside
deriving DecidableEq, Inhabited

structure RelativePath where
  climbs : Nat
  names : List String
deriving DecidableEq, Inhabited

namespace RelativePath

def text (relative : RelativePath) : String :=
  let climb :=
    if relative.climbs = 0 then "./" else String.join (List.replicate relative.climbs "../")
  climb ++ "/".intercalate relative.names

def scope (relative : RelativePath) : Scope :=
  match relative.climbs with
  | 0 => .inside
  | 1 => .sameContainer
  | climbs + 2 => .outer (climbs + 1)

end RelativePath

namespace NodePath

def child (path : NodePath) (name : String) : NodePath :=
  path ++ [name]

def parent? (path : NodePath) : Option NodePath :=
  if path.isEmpty then none else some path.dropLast

def name? (path : NodePath) : Option String :=
  path.getLast?

def text (path : NodePath) : String :=
  "/".intercalate path

def absolute (root : String) (path : NodePath) : String :=
  "/" ++ "/".intercalate (root :: path)

def isNameStep (step : String) : Bool :=
  step != "" && step != "." && step != ".."

def ofAbsolute? (root text : String) : Option NodePath :=
  match text.toList with
  | '/' :: cs =>
    match (splitAtChar '/' cs).map String.ofList with
    | [] => none
    | first :: steps => if first == root && steps.all isNameStep then some steps else none
  | _ => none

def follow? (path : NodePath) : List String → Option NodePath
  | [] => some path
  | step :: steps =>
    if step = "." then follow? path steps
    else if step = ".." then path.parent? >>= fun parent => follow? parent steps
    else if step = "" then none
    else follow? (path.child step) steps

theorem follow?_append (path : NodePath) (steps steps' : List String) :
    path.follow? (steps ++ steps') = path.follow? steps >>= (follow? · steps') := by
  induction steps generalizing path with
  | nil => rfl
  | cons step steps ih =>
    simp only [List.cons_append, follow?]
    split
    · exact ih path
    · split
      · cases path.parent? with
        | none => rfl
        | some parent => exact ih parent
      · split
        · rfl
        · exact ih _

def resolve? (path : NodePath) (relative : String) : Option NodePath :=
  follow? path ((splitAtChar '/' relative.toList).map String.ofList)

def dropCommon : NodePath → NodePath → NodePath × NodePath
  | a :: as, b :: bs => if a = b then dropCommon as bs else (a :: as, b :: bs)
  | as, bs => (as, bs)

theorem exists_append_dropCommon (path target : NodePath) :
    ∃ common, path = common ++ (dropCommon path target).1 ∧
      target = common ++ (dropCommon path target).2 := by
  fun_induction dropCommon path target with
  | case1 as b bs ih =>
    obtain ⟨common, h, h'⟩ := ih
    exact ⟨b :: common, by simp [← h], by simp [← h']⟩
  | case2 => exact ⟨[], rfl, rfl⟩
  | case3 => exact ⟨[], rfl, rfl⟩

/--
The relative path from a node to a target. A node reaches itself by its own name in its container,
so that the path still shows the name.
-/
def relativeTo (path target : NodePath) : RelativePath :=
  match dropCommon path target with
  | ([], []) => ⟨1, target.getLast?.toList⟩
  | ([], names) => ⟨0, names⟩
  | (up, names) => ⟨up.length, names⟩

end NodePath

end Questionnaire
