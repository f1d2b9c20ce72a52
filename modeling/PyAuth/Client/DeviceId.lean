import PyAuth.Client.AuthCache

/-!
# Device identity

The device id of a product is kept in its row of the state bundle.  An id
given explicitly always wins and overwrites the stored one; otherwise the
stored id is used again, and only a product without one derives a new id from
the hardware.
-/

namespace PyAuth.Client

open Support

/-- The disk's answers during one `persist_device_id`. -/
structure PersistEnv where
  read : ReadEnv
  write : WriteOutcome
deriving DecidableEq

def PersistEnv.success : PersistEnv := ⟨.success, .done⟩

/-- The root written by `persist_device_id`. -/
def persistRoot (softwareName deviceId : String) (cur : Root) : Root :=
  (updateRow cur softwareName (·.set "device_id" (.str deviceId))).erase
    "device_id"

/-- `load_persisted_device_id`, after the bundle was read. -/
def persistedDeviceId (softwareName : String) (d : Option Root) :
    Option String :=
  (d.bind fun d => (loadAppsMap d).get softwareName).bind rowDeviceIdStr

section

variable {β : Type} (P : Primitives β) (serverUrl softwareName : String)

/-- `persist_device_id`. -/
def persistDeviceId (deviceId : String) (io : PersistEnv) (st : Storage β) :
    Storage β × Bool :=
  let (st, cur) := readStateDict P serverUrl io.read st
  writeStateDict P serverUrl
    (persistRoot softwareName deviceId (cur.getD .empty)) io.write st

/-- `load_persisted_device_id`. -/
def loadPersistedDeviceId (io : ReadEnv) (st : Storage β) :
    Storage β × Option String :=
  let (st, d) := readStateDict P serverUrl io st
  (st, persistedDeviceId softwareName d)

/-- The id derived from the hardware: the first 32 hexadecimal digits of the
hash of the non-empty components and the software name, or a random id when
there is no component. -/
def hardwareDeviceId (hardware : List (Option String)) (uuid4 : String) :
    String :=
  let filtered := (hardware ++ [some softwareName]).filterMap fun c =>
    match c with
    | some s => if s = "" then none else some s
    | none => none
  if filtered.isEmpty then uuid4
  else String.ofList ((P.hexdigest ("-".intercalate filtered)).toList.take 32)

/-- `build_device_id`, called with the id loaded by the constructor. -/
def buildDeviceId (provided : String) (persisted : Option String)
    (hardware : List (Option String)) (uuid4 : String) (io : PersistEnv)
    (st : Storage β) : Storage β × String :=
  if provided ≠ "" then
    ((persistDeviceId P serverUrl softwareName provided io st).1, provided)
  else
    match persisted with
    | some id => (st, Python.strip id)
    | none =>
        let id := hardwareDeviceId P softwareName hardware uuid4
        ((persistDeviceId P serverUrl softwareName id io st).1, id)

end

end PyAuth.Client
