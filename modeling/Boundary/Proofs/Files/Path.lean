import Boundary.Files.Path
import Mathlib.Data.List.DropRight
import Mathlib.Data.List.Infix

/-!
The directories above a path, as it is written. Main statement: on the way up each directory loses the
last proper name of the one before it, until none is left.
-/

namespace Boundary.Path

def names (path : Path) : List String := path.parts.filter fun part => !isIdle part

/-- A path, the directory above it, the one above that, and so on to where it counts from. -/
def chain (start : Path) : List Path :=
  match _ : start.parent? with
  | none => [start]
  | some above => start :: chain above
termination_by start.parts.length
decreasing_by exact length_parent? ‹start.parent? = some _›

variable {path above : Path}

theorem chain_of_top (top : path.parent? = none) : path.chain = [path] := by
  rw [chain]
  split
  · rfl
  · simp_all

theorem chain_of_below (below : path.parent? = some above) : path.chain = path :: above.chain := by
  rw [chain]
  split
  · simp_all
  · simp_all

theorem filter_rdropWhile (test : String → Bool) (parts : List String) :
    (parts.rdropWhile test).filter (fun part => !test part) = parts.filter fun part => !test part := by
  induction parts using List.reverseRecOn with
  | nil => rfl
  | append_singleton parts last ih =>
      rw [List.rdropWhile_concat]
      split
      · rename_i dropped
        simp [ih, List.filter_append, dropped]
      · rfl

theorem filter_trimmed (path : Path) : path.trimmed.filter (fun part => !isIdle part) = path.names :=
  filter_rdropWhile isIdle path.parts

theorem trimmed_isPrefix (path : Path) : path.trimmed <+: path.parts :=
  List.rdropWhile_prefix isIdle path.parts

theorem isIdle_getLast_trimmed (nonempty : path.trimmed ≠ []) :
    isIdle (path.trimmed.getLast nonempty) = false :=
  Bool.eq_false_iff.2 (List.rdropWhile_last_not isIdle path.parts nonempty)

theorem parent?_eq_none (top : path.parent? = none) : path.names = [] := by
  rw [parent?] at top
  split at top
  · rename_i bare
    rw [← filter_trimmed, bare, List.filter_nil]
  · cases top

theorem parent?_eq_some (found : path.parent? = some above) :
    above.absolute = path.absolute ∧ above.parts <+: path.parts ∧
      ∃ last, path.names = above.names ++ [last] := by
  rw [parent?] at found
  split at found
  · cases found
  · rename_i part rest trimmed
    cases found
    have nonempty : path.trimmed ≠ [] := by simp [trimmed]
    have whole := List.dropLast_append_getLast nonempty
    have proper := isIdle_getLast_trimmed nonempty
    generalize path.trimmed.getLast nonempty = last at whole proper
    rw [← trimmed]
    refine ⟨rfl, ?_, last, ?_⟩
    · have kept := trimmed_isPrefix { path with parts := path.trimmed.dropLast }
      exact (kept.trans (List.dropLast_prefix _)).trans path.trimmed_isPrefix
    · calc path.names = path.trimmed.filter fun part => !isIdle part := (filter_trimmed path).symm
        _ = (path.trimmed.dropLast.filter fun part => !isIdle part) ++ [last] := by
            rw [← whole, List.filter_append]
            simp [proper]
        _ = _ := by
            rw [names, filter_trimmed { path with parts := path.trimmed.dropLast }, names]

/-- On the way up the proper names are lost one by one from the end, down to none. -/
theorem names_chain (start : Path) : start.chain.map names = start.names.inits.reverse := by
  induction start using chain.induct with
  | case1 start top => simp [chain_of_top top, parent?_eq_none top]
  | case2 start above below ih =>
      obtain ⟨_, _, last, names⟩ := parent?_eq_some below
      rw [chain_of_below below, List.map_cons, ih, names, List.inits_append]
      simp

theorem isPrefix_of_mem_chain {start directory : Path} (member : directory ∈ start.chain) :
    directory.absolute = start.absolute ∧ directory.parts <+: start.parts := by
  induction start using chain.induct with
  | case1 start top =>
      rw [chain_of_top top, List.mem_singleton] at member
      exact member ▸ ⟨rfl, List.prefix_rfl⟩
  | case2 start above below ih =>
      obtain ⟨same, beginning, _⟩ := parent?_eq_some below
      rw [chain_of_below below, List.mem_cons] at member
      rcases member with rfl | further
      · exact ⟨rfl, List.prefix_rfl⟩
      · exact ⟨(ih further).1.trans same, (ih further).2.trans beginning⟩

end Boundary.Path
