import Boundary.Halt
import Boundary.Log.Level
import Boundary.Record

/-!
What the library writes to the log. An event has a level, the name of the part that wrote it, an
optional message, and named fields in a fixed order.
-/

namespace Boundary

inductive Event where
  | probed (tag : Tag)
  | ready (tag : Tag)
  | bound (tag : Tag)
  | wrapped (handle : Handle) (count : Nat)
  | released (handle : Handle) (count : Nat)
  | packed (kind : String) (tag : Tag)
  | unpacking (tag : Tag) (length : Int32)
  | repaired (length : Int32)
  | aborting (cause : Abort)
  | unmappedType (typeName : String)
  | unmappedField (owner field typeName : String)
  | tooManyMembers (owner : String) (count : Nat)
  | laidOut (typeName : String) (members bytes : Nat)
  | exported (typeName : String) (members : Nat)
  | ignoredConfig (path error : String)
  deriving DecidableEq

namespace Event

def level : Event → Level
  | wrapped .. | released .. | packed .. | unpacking .. => .trace
  | probed .. | bound .. | laidOut .. | exported .. => .debug
  | ready .. => .info
  | repaired .. | ignoredConfig .. => .warn
  | aborting .. | unmappedType .. | unmappedField .. | tooManyMembers .. => .error

def target : Event → String
  | probed .. => "tagbridge::probe"
  | ready .. => "tagbridge"
  | bound .. => "tagbridge::bridge"
  | wrapped .. | released .. => "tagbridge::owner"
  | packed .. | unpacking .. | repaired .. | aborting .. => "tagbridge::interop::marshal"
  | unmappedType .. => "tagbridge::interop::resolve"
  | unmappedField .. | tooManyMembers .. | laidOut .. => "tagbridge::reflect::layout"
  | exported .. => "tagbridge::reflect::native"
  | ignoredConfig .. => "tagbridge::config"

def message? : Event → Option String
  | probed .. => some "native integer width resolved"
  | ready .. => some "tagbridge ready"
  | bound .. => some "bridge bound to engine thread"
  | repaired .. => some "string from native code is not UTF-8, replacing invalid sequences"
  | aborting (.unsupportedTag _) => some "unsupported data type"
  | aborting cause => some cause.message
  | unmappedType .. => some "type has no boundary mapping"
  | unmappedField .. => some "field type has no boundary mapping"
  | tooManyMembers .. => some "composite too large to export"
  | laidOut .. => some "type metadata built"
  | exported .. => some "type metadata handed to native code"
  | ignoredConfig .. => some "ignoring unreadable config"
  | wrapped .. | released .. | packed .. | unpacking .. => none

def name : Event → String
  | probed .. => "platform_probe"
  | ready .. => "init"
  | bound .. => "bridge_init"
  | wrapped .. => "handle_wrap"
  | released .. => "handle_release"
  | packed .. => "pack"
  | unpacking .. => "unpack"
  | repaired .. => "invalid_utf8"
  | aborting (.unsupportedTag _) => "abi_skew"
  | aborting _ => "contract_violation"
  | unmappedType .. => "unsupported_type"
  | unmappedField .. => "unsupported_field"
  | tooManyMembers .. => "too_many_members"
  | laidOut .. => "type_layout"
  | exported .. => "type_info_export"
  | ignoredConfig .. => "config_ignored"

def details : Event → List (String × String)
  | probed tag | ready tag | bound tag => [("int_type", tag.name)]
  | wrapped handle count | released handle count =>
    [("handle", handle.debugText), ("count", toString count)]
  | packed kind tag => [("kind", kind), ("data_type", Tag.debugText (some tag))]
  | unpacking tag length => [("data_type", tag.name), ("len", toString length.toInt)]
  | repaired length => [("len", toString length.toInt)]
  | aborting (.unsupportedTag raw) => [("data_type", toString raw.toInt)]
  | aborting _ => []
  | unmappedType typeName => [("type_name", typeName)]
  | unmappedField owner field typeName =>
    [("owner", owner), ("field", field), ("type_name", typeName)]
  | tooManyMembers owner count => [("owner", owner), ("count", toString count)]
  | laidOut typeName members bytes =>
    [("type_name", typeName), ("members", toString members), ("names_len", toString bytes)]
  | exported typeName members => [("type_name", typeName), ("members", toString members)]
  | ignoredConfig path error => [("path", path), ("error", error)]

def fields (event : Event) : List (String × String) :=
  (event.message?.map fun message => ("message", message)).toList ++
    ("event", event.name) :: event.details

end Event

end Boundary
