import Boundary.Files.Error
import Boundary.Handle
import Boundary.Text.Cut

/-!
How an operation can end without a result. A panic is a broken precondition on the managed side; an
abort ends the process because the two sides disagree, and so does an allocator that has no block left;
a fault is a read or a write outside native memory, for which nothing is promised.
-/

namespace Boundary

inductive LogFileStep where
  | openFile
  | makeDirectory
  deriving DecidableEq

namespace LogFileStep

def label : LogFileStep → String
  | openFile => "failed to create initial log file"
  | makeDirectory => "failed to create log directory"

end LogFileStep

inductive Panic where
  | textTooLong (size : Nat)
  | integerTooWide (value : Int64)
  | offEngineThread
  | negativeLength (length : Int32)
  | nullBuffer (length : Int32)
  | handlesExhausted (registrations : Nat)
  | referencesUnderflow
  | fieldNameHasNul (name : String)
  | arenaMismatch (written planned : Nat)
  | quoteRunTooLong
  | brokenCut (cut : Text.BrokenCut)
  | logFileUnusable (step : LogFileStep) (error : FileError)
  deriving DecidableEq

namespace Panic

def message : Panic → String
  | textTooLong size => s!"buffer of {size} bytes exceeds the boundary length field"
  | integerTooWide value =>
    s!"platform int {value.toInt} does not fit the probed 32-bit width"
  | offEngineThread => "composite values must be encoded on the engine thread"
  | negativeLength length => s!"negative buffer length {length.toInt}"
  | nullBuffer length => s!"null buffer with length {length.toInt}"
  | handlesExhausted registrations =>
    s!"handle table exhausted after {registrations} registrations"
  | referencesUnderflow => "handle refcount underflow"
  | fieldNameHasNul name => "field name " ++ Text.quoted name ++ " contains NUL"
  | arenaMismatch written planned =>
    s!"assertion \x60left == right\x60 failed\n  left: {written}\n right: {planned}"
  | quoteRunTooLong => "attempt to add with overflow"
  | brokenCut cut => cut.message
  | logFileUnusable step error =>
    "initializing rolling file appender failed: InitError \x7b context: \"" ++ step.label ++
      "\", source: " ++ error.debugText ++ " \x7d"

end Panic

inductive Abort where
  | unsupportedTag (raw : Int32)
  | nullHandle
  | strayHandle
  deriving DecidableEq

namespace Abort

def message : Abort → String
  | unsupportedTag raw => s!"unsupported data type: {raw.toInt}"
  | nullHandle => "null handle returned across the boundary"
  | strayHandle => "handle returned across the boundary was never issued"

def lastWords (abort : Abort) : String := "tagbridge: " ++ abort.message

end Abort

inductive Halt where
  | panic (cause : Panic)
  | abort (cause : Abort)
  | outOfMemory (size : Nat)
  | fault (address : Address) (count : Nat)
  deriving DecidableEq

namespace Halt

/-- An allocator is asked for one byte at least. -/
def outOfMemoryText (size : Nat) : String := s!"memory allocation of {max size 1} bytes failed"

end Halt

end Boundary
