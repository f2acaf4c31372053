import Boundary.Event
import Boundary.Log.Pattern
import Boundary.Log.Threshold

/-!
Directives: each names a part of the program, a span or a field, and the most talkative level that
may be used there. A directive is read character by character without the white space around it, but
what it names is cut out of the text with the white space, at the positions that were found.
-/

namespace Boundary

structure FieldMatch where
  name : String
  hasValue : Bool
  deriving DecidableEq

namespace FieldMatch

def ofText? (text : List Char) : Option FieldMatch :=
  let inPart (char : Char) : Bool := char != '='
  let name := String.ofList (text.takeWhile inPart)
  match text.dropWhile inPart with
  | [] => some ⟨name, false⟩
  | _ :: rest =>
    let value := rest.takeWhile inPart
    if Pattern.isNumber value || Pattern.isWellFormed value then some ⟨name, true⟩ else none

end FieldMatch

structure Directive where
  target : Option String := none
  span : Option String := none
  fields : List FieldMatch := []
  threshold : Threshold := some .trace
  deriving DecidableEq

inductive DirectiveFault where
  | malformed
  | panic (cause : Panic)
  deriving DecidableEq

inductive DirectivePart where
  | start
  | name (first : Nat)
  | span (first : Nat)
  | field (first : Nat)
  | spanEnd
  | targetEnd
  | level (first : Nat)

structure DirectiveReading where
  whole : List Char
  part : DirectivePart := .start
  directive : Directive := {}

namespace DirectiveReading

def cut (reading : DirectiveReading) (first past : Nat) : Except DirectiveFault (List Char) :=
  match Text.cut reading.whole first past with
  | .ok text => .ok text
  | .error broken => .error (.panic (.brokenCut broken))

def tail (reading : DirectiveReading) (first : Nat) : Except DirectiveFault (List Char) :=
  reading.cut first (String.ofList reading.whole).utf8ByteSize

def mayStart (char : Char) : Bool := "-:_".toList.contains char || Text.isAlphanumeric char

def goOn (reading : DirectiveReading) (part : DirectivePart) : DirectiveReading :=
  { reading with part := part }

def withTarget (reading : DirectiveReading) (name : List Char) (part : DirectivePart) :
    DirectiveReading :=
  { reading with
    part := part
    directive := { reading.directive with target := some (String.ofList name) } }

def withSpan (reading : DirectiveReading) (name : Option (List Char)) (part : DirectivePart) :
    DirectiveReading :=
  { reading with
    part := part
    directive := { reading.directive with span := name.map String.ofList } }

def withField (reading : DirectiveReading) (text : List Char) :
    Except DirectiveFault DirectiveReading :=
  match text, FieldMatch.ofText? text with
  | _ :: _, some field =>
    .ok { reading with
      part := .spanEnd
      directive := { reading.directive with fields := [field] } }
  | _, _ => .error .malformed

def step (reading : DirectiveReading) (position : Nat) (char : Char) :
    Except DirectiveFault DirectiveReading :=
  let next := position + 1
  match reading.part with
  | .start =>
    if char = '[' then .ok (reading.goOn (.span next))
    else if mayStart char then .ok (reading.goOn (.name position))
    else .error .malformed
  | .name first =>
    if char = '=' then do
      .ok (reading.withTarget (← reading.cut first position) (.level next))
    else if char = '[' then do
      .ok (reading.withTarget (← reading.cut first position) (.span next))
    else .ok reading
  | .span first =>
    if char = ']' then do
      .ok (reading.withSpan (some (← reading.cut first position)) .targetEnd)
    else if char = '\x7b' then do
      let name ← reading.cut first position
      .ok (reading.withSpan (if name.isEmpty then none else some name) (.field next))
    else .ok reading
  | .field first =>
    if char = '\x7d' then do reading.withField (← reading.cut first position)
    else .ok reading
  | .spanEnd => if char = ']' then .ok (reading.goOn .targetEnd) else .error .malformed
  | .targetEnd => if char = '=' then .ok (reading.goOn (.level next)) else .error .malformed
  | .level _ => .ok reading

def run (reading : DirectiveReading) (position : Nat) :
    List Char → Except DirectiveFault DirectiveReading
  | [] => .ok reading
  | char :: rest => do
    let after ← reading.step position char
    after.run (position + char.utf8Size) rest

def finish (reading : DirectiveReading) : Except DirectiveFault Directive :=
  match reading.part with
  | .name first => do
    let text ← reading.tail first
    match Threshold.ofText? text with
    | some threshold => .ok { threshold := threshold }
    | none => .ok { target := some (String.ofList text) }
  | .targetEnd => .ok reading.directive
  | .level first => do
    let text ← reading.tail first
    match text, Threshold.ofText? text with
    | [], _ => .ok reading.directive
    | _, some threshold => .ok { reading.directive with threshold := threshold }
    | _, none => .error .malformed
  | .start | .span _ | .field _ | .spanEnd => .error .malformed

end DirectiveReading

namespace Directive

def read (text : List Char) : Except DirectiveFault Directive := do
  let start : DirectiveReading := { whole := text }
  let reading ← start.run 0 (Text.trim text)
  reading.finish

def isStatic (directive : Directive) : Bool :=
  directive.span.isNone && directive.fields.all fun field => !field.hasValue

def caresAbout (directive : Directive) (event : Event) : Bool :=
  (match directive.target with
    | none => true
    | some target => target.toList.isPrefixOf event.target.toList) &&
  directive.fields.all fun field => event.fields.any fun entry => entry.1 == field.name

/-- How narrow a directive is: the size of its target, then the number of its fields, then their
names. The narrowest one that cares about an event decides. -/
def weight (directive : Directive) : List Nat :=
  (match directive.target with
    | none => 0
    | some target => target.utf8ByteSize + 1) :: directive.fields.length ::
    directive.fields.flatMap fun field => field.name.toList.map Char.toNat

def outweighs (directive other : Directive) : Bool :=
  !List.lex directive.weight other.weight fun left right => decide (left < right)

end Directive

end Boundary
