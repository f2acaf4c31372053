import Boundary.Log.Directive
import Boundary.Log.Filter

/-!
One kind of filter, written out: a list of directives with commas between them, of which the narrowest
one that cares about an event decides.
-/

namespace Boundary

namespace Directive

def decisive? (directives : List Directive) (event : Event) : Option Directive :=
  (directives.filter fun directive => directive.isStatic && directive.caresAbout event).foldl
    (fun best directive =>
      match best with
      | none => some directive
      | some best => if directive.outweighs best then some directive else some best)
    none

def greatest (directives : List Directive) : Threshold :=
  if directives.any fun directive => directive.fields.any FieldMatch.hasValue then
    some .trace
  else
    directives.foldl (fun best directive => Threshold.max best directive.threshold) none

def filter (directives : List Directive) : Filter where
  passes event :=
    match decisive? directives event with
    | none => false
    | some directive => decide (event.level.verbosity ≤ directive.threshold.verbosity)
  greatest := greatest directives

def parts (text : String) : List (List Char) :=
  (text.toList.splitOn ',').filter fun part => !part.isEmpty

def readStrictly (text : String) : Except Panic (Option Filter) :=
  match (parts text).mapM read with
  | .ok directives => .ok (some (filter directives))
  | .error .malformed => .ok none
  | .error (.panic cause) => .error cause

def readWellFormed : List (List Char) → Except Panic (List Directive)
  | [] => .ok []
  | part :: rest =>
    match read part with
    | .ok directive => (readWellFormed rest).map fun directives => directive :: directives
    | .error .malformed => readWellFormed rest
    | .error (.panic cause) => .error cause

def reader : FilterReader where
  strict := readStrictly
  lenient text := (readWellFormed (parts text)).map filter

end Directive

end Boundary
