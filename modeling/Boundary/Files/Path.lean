/-!
Paths as they are written: the parts between slashes, where an empty part or a dot stays in place and
two dots lead up. A path counts from a root directory of ours, or is absolute.
-/

namespace Boundary

structure Path where
  absolute : Bool := false
  parts : List String
  deriving DecidableEq

namespace Path

def ofText (text : String) : Path :=
  match text.splitOn "/" with
  | "" :: part :: rest => ⟨true, part :: rest⟩
  | parts => ⟨false, parts⟩

def isIdle (part : String) : Bool := part.isEmpty || part == "."

def text (path : Path) (root : String) : String :=
  (if path.absolute then "" else root) ++ String.join (path.parts.map fun part => "/" ++ part)

def join (path : Path) (name : String) : Path :=
  match path.parts.reverse with
  | "" :: before => { path with parts := (name :: before).reverse }
  | _ => { path with parts := path.parts ++ [name] }

def components (path : Path) : List String :=
  match path.absolute, path.parts with
  | false, "." :: rest => "." :: rest.filter fun part => !isIdle part
  | _, parts => parts.filter fun part => !isIdle part

def trimmed (path : Path) : List String := (path.parts.reverse.dropWhile isIdle).reverse

/-- The path without its last part that is neither empty nor a dot; where a path counts from has no
parent. -/
def parent? (path : Path) : Option Path :=
  match path.trimmed with
  | [] => none
  | part :: rest =>
    let above : Path := { path with parts := (part :: rest).dropLast }
    some { path with parts := above.trimmed }

/-- The directory of a path that slashes after a proper name declare to be a directory itself. -/
def declaredIn? (path : Path) : Option Path :=
  match path.parts.reverse with
  | "" :: before =>
    match before.dropWhile String.isEmpty with
    | [] => none
    | name :: above =>
      if name = "." ∨ name = ".." then none else some { path with parts := above.reverse }
  | _ => none

theorem length_dropWhile_le (test : String → Bool) (parts : List String) :
    (parts.dropWhile test).length ≤ parts.length := by
  induction parts with
  | nil => simp
  | cons part rest ih =>
      simp only [List.dropWhile_cons]
      split
      · simp only [List.length_cons]
        omega
      · simp

theorem length_trimmed_le (path : Path) : path.trimmed.length ≤ path.parts.length := by
  have bound := length_dropWhile_le isIdle path.parts.reverse
  simpa [trimmed] using bound

theorem length_parent? {path above : Path} (found : path.parent? = some above) :
    above.parts.length < path.parts.length := by
  unfold parent? at found
  split at found
  · simp at found
  · next part rest same =>
      simp only [Option.some.injEq] at found
      subst found
      have whole := length_trimmed_le path
      have short := length_trimmed_le { path with parts := (part :: rest).dropLast }
      rw [same] at whole
      simp only [List.length_dropLast, List.length_cons] at whole short
      simp only
      omega

end Path

end Boundary
