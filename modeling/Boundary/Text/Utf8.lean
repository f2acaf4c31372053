/-!
UTF-8 in both directions. `decode?` reads well-formed bytes only; `repair` reads any bytes and puts
one replacement character for each longest stretch that starts a character and cannot finish it.
-/

namespace Boundary.Utf8

def encode (text : List Char) : List UInt8 := text.flatMap String.utf8EncodeChar

def bytes (text : String) : List UInt8 := encode text.toList

/-- What is known of a character between two of its bytes: how many bytes are to come, the range of
the next one, and the bits read so far. -/
structure Pending where
  missing : Nat
  low : UInt8
  high : UInt8
  code : Nat
  deriving DecidableEq

inductive Lead where
  | single (char : Char)
  | opens (start : Pending)
  | malformed
  deriving DecidableEq

/-- Overlong forms, surrogates and numbers past the last code point are kept out by the range of
the second byte. -/
def lead (byte : UInt8) : Lead :=
  if byte < 0x80 then .single (Char.ofNat byte.toNat)
  else if byte < 0xc2 then .malformed
  else if byte < 0xe0 then .opens ⟨1, 0x80, 0xbf, byte.toNat - 0xc0⟩
  else if byte = 0xe0 then .opens ⟨2, 0xa0, 0xbf, 0⟩
  else if byte = 0xed then .opens ⟨2, 0x80, 0x9f, 0xd⟩
  else if byte < 0xf0 then .opens ⟨2, 0x80, 0xbf, byte.toNat - 0xe0⟩
  else if byte = 0xf0 then .opens ⟨3, 0x90, 0xbf, 0⟩
  else if byte < 0xf4 then .opens ⟨3, 0x80, 0xbf, byte.toNat - 0xf0⟩
  else if byte = 0xf4 then .opens ⟨3, 0x80, 0x8f, 4⟩
  else .malformed

def Pending.next? (state : Pending) (byte : UInt8) : Option (Char ⊕ Pending) :=
  if state.low ≤ byte ∧ byte ≤ state.high then
    let code := state.code * 64 + (byte.toNat - 0x80)
    if state.missing = 1 then
      some (.inl (Char.ofNat code))
    else
      some (.inr ⟨state.missing - 1, 0x80, 0xbf, code⟩)
  else
    none

def decodeFrom? : Option Pending → List UInt8 → Option (List Char)
  | none, [] => some []
  | some _, [] => none
  | none, byte :: rest =>
    match lead byte with
    | .single char => (decodeFrom? none rest).map (char :: ·)
    | .opens start => decodeFrom? (some start) rest
    | .malformed => none
  | some state, byte :: rest =>
    match state.next? byte with
    | none => none
    | some (.inl char) => (decodeFrom? none rest).map (char :: ·)
    | some (.inr state) => decodeFrom? (some state) rest

def decode? (bytes : List UInt8) : Option (List Char) := decodeFrom? none bytes

def replacement : Char := '\ufffd'

def start (byte : UInt8) : List Char × Option Pending :=
  match lead byte with
  | .single char => ([char], none)
  | .opens state => ([], some state)
  | .malformed => ([replacement], none)

def step : Option Pending → UInt8 → List Char × Option Pending
  | none, byte => start byte
  | some state, byte =>
    match state.next? byte with
    | some (.inl char) => ([char], none)
    | some (.inr state) => ([], some state)
    | none => (replacement :: (start byte).1, (start byte).2)

def repairFrom : Option Pending → List UInt8 → List Char
  | none, [] => []
  | some _, [] => [replacement]
  | state, byte :: rest => (step state byte).1 ++ repairFrom (step state byte).2 rest

def repair (bytes : List UInt8) : List Char := repairFrom none bytes

end Boundary.Utf8
