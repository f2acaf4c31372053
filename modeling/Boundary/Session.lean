import Boundary.Echo

/-!
A session: a bridge, the state behind it, and managed objects known by name. Each name holds one
reference to its object. Steps that halt leave behind what they changed, and a session goes on after
a panic.
-/

namespace Boundary

inductive Argument where
  | plain (value : Value) (simple : value.object? = none)
  | named (name : String)

/-- What native code hands in. A text comes in a buffer, or as null; its length may be misstated.
A buffer may also be left unused beside an invalid record. -/
inductive Incoming where
  | record (record : NativeRecord)
  | buffer (raw : Int32) (bytes : Option (List UInt8)) (length : Option Int32)
  | unused (bytes : List UInt8)

inductive Shown where
  | plain (value : Value)
  | object (names : List String)

inductive ContentKind where
  | text
  | number
  | bytes
  deriving DecidableEq

def Content.kind : Content → ContentKind
  | .text _ => .text
  | .number _ => .number
  | .bytes _ => .bytes

inductive Step where
  | create (name : String) (content : Content)
  | copy (name target : String)
  | forget (name : String)
  | references (name : String)
  | describe (name : String)
  | compare (left right : String)
  | look (name : String) (kind : ContentKind)
  | wrap (name : String)
  | resolve (handle : Address) (target : Option String)
  | release (handle : Address)
  | count (handle : Address)
  | table
  | handle (handle : Address)
  | pack (thread : Thread) (value : Argument)
  | packAll (thread : Thread) (values : List Argument)
  | unpack (record : Incoming) (target : Option String)
  | unpackAll (records : List Incoming)
  | roundTrip (thread : Thread) (values : List Argument)
  | onHomeThread (thread : Thread)
  | platform
  | tagOf (type : HostType)
  | layout (composite : Composite)
  | metadata (composite : Composite)

structure Exported where
  typeName : List UInt8
  names : Address
  entries : List (MemberEntry × List UInt8)

inductive Reply where
  | flag (value : Bool)
  | number (value : Nat)
  | phrase (text : Option String)
  | comparison (equal identical : Bool)
  | look (found : Bool) (content : Option Content)
  | handle (handle : Handle)
  | names (names : Option (List String))
  | table (live : Nat) (empty : Bool) (debug : String)
  | record (record : Record)
  | records (records : List Record)
  | decoded (record : NativeRecord) (value : Option Shown)
  | values (values : List (Option Shown))
  | returned (values : List (Option Shown)) (equal : List Bool)
  | tag (tag : Tag)
  | tagOf (result : Except Error Tag)
  | layout (result : Except Error Layout)
  | metadata (result : Except Error Exported)

structure Session where
  bridge : Bridge
  state : State
  objects : Std.TreeMap String Object := {}

namespace Session

def namesOf (session : Session) (object : Object) : List String :=
  (session.objects.toList.filter fun entry => entry.2.same object).map Prod.fst

def showValue (session : Session) : Value → Shown
  | .object object => .object (session.namesOf object)
  | value => .plain value

def value? (session : Session) : Argument → Option Value
  | .plain value _ => some value
  | .named name => session.objects[name]?.map Value.object

def assign (session : Session) (name : String) (object : Object) : Session :=
  let objects :=
    match session.objects[name]? with
    | some former => session.state.objects.drop former
    | none => session.state.objects
  { session with
    state := { session.state with objects := objects }
    objects := session.objects.insert name object }

def keep (session : Session) (object : Object) : Option String → Session
  | some name => session.assign name object
  | none =>
    { session with
      state := { session.state with objects := session.state.objects.drop object } }

def keepValue (session : Session) (target : Option String) : Option Value → Session
  | some (.object object) => session.keep object target
  | _ => session

def keepValues (session : Session) (values : List (Option Value)) : Session :=
  values.foldl (fun session value => session.keepValue none value) session

def receive : Incoming → Action NativeRecord
  | .record record => pure record
  | .buffer raw none length => pure ⟨raw, .ofAddress 0, length.getD 0⟩
  | .buffer raw (some bytes) length => do
    let address ← supply Memory.bump bytes.length bytes
    pure ⟨raw, .ofAddress address, length.getD (Int32.ofNat bytes.length)⟩
  | .unused bytes => do
    let _ ← supply Memory.bump bytes.length bytes
    pure .invalid

def receiveAll : List Incoming → Action (List NativeRecord)
  | [] => pure []
  | incoming :: rest => do
    let record ← receive incoming
    let records ← receiveAll rest
    pure (record :: records)

def readExported (memory : Memory) (address : Address) : Option Exported := do
  let metadata ← Metadata.read? memory address
  let typeName ← memory.readTerminated? metadata.typeName
  let entries ← (List.range metadata.count).mapM fun index => do
    let entry ← metadata.entry? memory index
    let name ← memory.readTerminated? entry.name
    pure (entry, name)
  pure ⟨typeName, metadata.names, entries⟩

def inspectExport (action : Action (Except Error Address)) : Action (Except Error Exported) := do
  match ← action with
  | .error error => pure (.error error)
  | .ok address =>
    match readExported (← .get).memory address with
    | none => .halt (.fault address Metadata.size)
    | some exported => do
      freeMetadata address
      pure (.ok exported)

def act {result : Type} (session : Session) (action : Action result) :
    Except Halt result × Session :=
  match action.run session.state with
  | (outcome, state) => (outcome, { session with state := state })

def reply {result : Type} (session : Session) (action : Action result)
    (toReply : result → Reply) : Option (Except Halt Reply × Session) :=
  match session.act action with
  | (outcome, after) => some (outcome.map toReply, after)

def answer (session : Session) (reply : Reply) : Option (Except Halt Reply × Session) :=
  some (.ok reply, session)

def decode (session : Session) (incoming : Incoming) (target : Option String) :
    Except Halt Reply × Session :=
  let action : Action (NativeRecord × Option Value) := do
    let record ← receive incoming
    let value ← Boundary.unpack record
    pure (record, value)
  match session.act action with
  | (.ok (record, value), after) =>
    (.ok (.decoded record (value.map after.showValue)), after.keepValue target value)
  | (.error halt, after) => (.error halt, after)

def decodeAll (session : Session) (action : Action (List (Option Value)))
    (toReply : Session → List (Option Value) → Reply) : Except Halt Reply × Session :=
  match session.act action with
  | (.ok values, after) => (.ok (toReply after values), after.keepValues values)
  | (.error halt, after) => (.error halt, after)

def returnedEqual (value : Value) : Option Value → Bool
  | some other => value.equal other
  | none => false

def perform (session : Session) : Step → Option (Except Halt Reply × Session)
  | .create name content =>
    let (object, objects) :=
      session.state.objects.create content session.state.objects.freeAddress
    let created := { session with state := { session.state with objects := objects } }
    let after := created.assign name object
    after.answer (.number (after.state.objects.references object.address))
  | .copy name target => do
    let object ← session.objects[name]?
    let retained :=
      { session with
        state := { session.state with objects := session.state.objects.retain object } }
    let after := retained.assign target object
    after.answer (.number (after.state.objects.references object.address))
  | .forget name =>
    match session.objects[name]? with
    | none => session.answer (.flag false)
    | some object =>
      let after :=
        { session with
          state := { session.state with objects := session.state.objects.drop object }
          objects := session.objects.erase name }
      after.answer (.flag true)
  | .references name => do
    let object ← session.objects[name]?
    session.answer (.number (session.state.objects.references object.address))
  | .describe name => do
    let _ ← session.objects[name]?
    session.answer (.phrase (some "Object(<addr>)"))
  | .compare left right => do
    let first ← session.objects[left]?
    let second ← session.objects[right]?
    session.answer (.comparison (first.same second) (first.same second))
  | .look name kind => do
    let object ← session.objects[name]?
    if object.content.kind = kind then
      session.answer (.look true (some object.content))
    else
      session.answer (.look false none)
  | .wrap name => do
    let object ← session.objects[name]?
    session.reply (wrapObject object) .handle
  | .resolve address target =>
    match Handle.ofAddress? address with
    | none => session.answer (.names none)
    | some handle =>
      match session.act (resolveHandle handle) with
      | (.ok (some object), after) =>
        (after.keep object target).answer (.names (some (session.namesOf object)))
      | (.ok none, after) => after.answer (.names none)
      | (.error halt, after) => some (.error halt, after)
  | .release address =>
    match Handle.ofAddress? address with
    | none => session.answer (.flag false)
    | some handle => session.reply (releaseHandle handle) .flag
  | .count address =>
    match Handle.ofAddress? address with
    | none => session.answer (.number 0)
    | some handle => session.answer (.number (session.state.registry.count handle))
  | .table =>
    let registry := session.state.registry
    session.answer (.table registry.live registry.isEmpty registry.debugText)
  | .handle address => session.answer (.phrase ((Handle.ofAddress? address).map Handle.debugText))
  | .pack thread argument => do
    let value ← session.value? argument
    session.reply (session.bridge.pack thread value) .record
  | .packAll thread arguments => do
    let values ← arguments.mapM session.value?
    session.reply (session.bridge.packAll thread values) .records
  | .unpack incoming target => some (session.decode incoming target)
  | .unpackAll records =>
    let action := do Boundary.unpackAll (← receiveAll records)
    some (session.decodeAll action fun after values =>
      .values (values.map fun value => value.map after.showValue))
  | .roundTrip thread arguments => do
    let values ← arguments.mapM session.value?
    let action := session.bridge.roundTrip Memory.bump thread values
    some (session.decodeAll action fun after results =>
      .returned (results.map fun value => value.map after.showValue)
        (List.zipWith returnedEqual values results))
  | .onHomeThread thread => session.answer (.flag (session.bridge.onHomeThread thread))
  | .platform => session.answer (.tag session.bridge.platform.integerTag)
  | .tagOf type => session.reply (session.bridge.tagOfType type) .tagOf
  | .layout composite => session.reply (session.bridge.layout composite) .layout
  | .metadata composite =>
    session.reply (inspectExport (session.bridge.exportComposite Memory.bump composite)) .metadata

end Session

end Boundary
