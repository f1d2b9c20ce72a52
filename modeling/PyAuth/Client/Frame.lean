import PyAuth.Client.Offline

/-!
# Operations of one product leave the others alone

The three operations which write the state file: each reads the bundle,
rewrites the row of its own product in a private copy, and writes the copy
back.  When the read does not fail and the write succeeds, the row of every
other product can be read as before.
-/

namespace PyAuth.Client

open Support

/-- An operation on the state file, with its arguments and everything its
environment decides. -/
inductive Operation
  | save (authorized : Bool)
      (lastSuccessAt heartbeatTimes deviceInfoSnapshot : Json) (io : SaveEnv)
  | clear (io : ClearEnv)
  | persist (io : PersistEnv)

namespace Operation

/-- The disk's answer to the read of the operation. -/
def readEnv : Operation → ReadEnv
  | .save _ _ _ _ io => io.read
  | .clear io => io.read
  | .persist io => io.read

/-- The root the operation writes when it has read `d`; `none` when it does
not write one. -/
def rewritten (c : AuthCache) (d : Option Root) : Operation → Option Root
  | .save authorized lastSuccessAt heartbeatTimes deviceInfoSnapshot io =>
      some (c.saveRoot authorized
        (if lastSuccessAt = .null then .float (.fin io.now) else lastSuccessAt)
        heartbeatTimes deviceInfoSnapshot (d.getD .empty))
  | .clear _ =>
      match d with
      | none => none
      | some d =>
          if d.isEmpty then none
          else if AuthCache.anyAppDevice (c.clearApps d) then some (c.clearRoot d)
          else none
  | .persist _ => some (persistRoot c.softwareName c.deviceId (d.getD .empty))

variable {β : Type} (P : Primitives β) (c : AuthCache)

/-- The operation, performed by a client with the settings `c`. -/
def perform (st : Storage β) : Operation → Storage β × Bool
  | .save authorized lastSuccessAt heartbeatTimes deviceInfoSnapshot io =>
      c.saveCache P authorized lastSuccessAt heartbeatTimes deviceInfoSnapshot
        io st
  | .clear io => c.clearCache P io st
  | .persist io =>
      persistDeviceId P c.serverUrl c.softwareName c.deviceId io st

end Operation

/-- The row of product `t` which can be read from a root. -/
def rowIn (t : String) (root : Option Root) : Option Row :=
  root.bind fun d => (loadAppsMap d).get t

/-! ## The rewritten root -/

section Root

variable {c : AuthCache} {t : String}

theorem rowIn_erase_device_id (d : Root) :
    rowIn t (some (d.erase "device_id")) = rowIn t (some d) := by
  rw [rowIn, rowIn, Option.bind_some, Option.bind_some,
    loadAppsMap_erase (by decide)]

theorem rowIn_getD_empty (root : Option Root) :
    rowIn t (some (root.getD .empty)) = rowIn t root := by
  cases root <;> rfl

/-- The frame of an update: the rows of the other products. -/
theorem rowIn_updateRow_eraseAll {d : Root} {f : Row → Row}
    (ks : List String) (hks : ∀ k ∈ ks, k ∈ reservedRootKeys)
    (ht : t ∉ reservedRootKeys)
    (hne : Python.strip c.softwareName ≠ Python.strip t) :
    rowIn t (some (updateRow (d.eraseAll ks) c.softwareName f)) =
      rowIn t (some d) := by
  rw [rowIn, rowIn, Option.bind_some, Option.bind_some,
    get_loadAppsMap_updateRow_of_ne ht hne, loadAppsMap_eraseAll hks]

/-- **Frame.**  What an operation writes holds the row of every other product
as it was read. -/
theorem rowIn_rewritten {op : Operation} {root : Option Root} {d : Root}
    (ht : t ∉ reservedRootKeys)
    (hne : Python.strip c.softwareName ≠ Python.strip t)
    (h : op.rewritten c root = some d) : rowIn t (some d) = rowIn t root := by
  rw [← rowIn_getD_empty root]
  cases op with
  | save authorized lastSuccessAt heartbeatTimes deviceInfoSnapshot io =>
      obtain rfl := Option.some.inj h
      exact rowIn_updateRow_eraseAll _ (by decide) ht hne
  | clear io =>
      cases root with
      | none => contradiction
      | some root =>
          simp only [Operation.rewritten] at h
          split at h
          · contradiction
          · split at h
            · obtain rfl := Option.some.inj h
              exact rowIn_updateRow_eraseAll _ (by decide) ht hne
            · contradiction
  | persist io =>
      obtain rfl := Option.some.inj h
      rw [persistRoot, rowIn_erase_device_id]
      exact rowIn_updateRow_eraseAll [] (by simp) ht hne

end Root

/-! ## The operations on disk -/

section Disk

variable {β : Type} {P : Primitives β} {c : AuthCache} {st : Storage β}

/-- A successful `_write_bundle_with_retry` leaves the bundle it was given. -/
theorem stateRoot_writeBundle_of_ok {data : Root} {io : BundleEnv}
    (h : (c.writeBundleWithRetry P data io st).2 = true) :
    stateRoot P c.serverUrl (c.writeBundleWithRetry P data io st).1 =
      some (data.erase "device_id") := by
  rw [AuthCache.writeBundleWithRetry] at h ⊢
  by_cases hfirst : io.first = .done
  · simp [hfirst]
  · simp only [writeStateDict_snd, hfirst, decide_false, Bool.false_eq_true,
      if_false, decide_eq_true_eq] at h ⊢
    rw [h]
    exact stateRoot_write_done data _

/-- A client with a device id never removes the bundle in `clear_cache`. -/
theorem anyAppDevice_clearApps (hdev : Python.strip c.deviceId ≠ "")
    (d : Root) : AuthCache.anyAppDevice (c.clearApps d) = true := by
  have hget : (c.clearApps d).get c.softwareName =
      some (c.clearedRow (ownRow (d.eraseAll bundleRootStrayKeys)
        c.softwareName)) := Dict.get_set_self _ _ _
  rw [AuthCache.anyAppDevice, List.any_eq_true]
  refine ⟨_, Dict.get_eq_some_iff.mp hget, ?_⟩
  rw [rowDeviceIdStr, AuthCache.get_clearedRow, if_pos rfl]
  simp [hdev]

/-- A successful operation either leaves what can be read as it was, or leaves
the root it has rewritten. -/
theorem stateRoot_perform {op : Operation}
    (hdev : Python.strip c.deviceId ≠ "") (hread : op.readEnv.read = true)
    (hok : (op.perform P c st).2 = true) :
    (op.rewritten c (stateRoot P c.serverUrl st) = none ∧
        stateRoot P c.serverUrl (op.perform P c st).1 =
          stateRoot P c.serverUrl st) ∨
      ∃ d, op.rewritten c (stateRoot P c.serverUrl st) = some d ∧
        stateRoot P c.serverUrl (op.perform P c st).1 =
          some (d.erase "device_id") := by
  cases op with
  | save authorized lastSuccessAt heartbeatTimes deviceInfoSnapshot io =>
      change io.read.read = true at hread
      right
      refine ⟨_, rfl, ?_⟩
      simp only [Operation.perform, AuthCache.saveCache, readStateDict_snd,
        hread, if_true] at hok ⊢
      exact stateRoot_writeBundle_of_ok hok
  | clear io =>
      change io.read.read = true at hread
      have hkeep : stateRoot P c.serverUrl
          (readStateDict P c.serverUrl io.read st).1 =
            stateRoot P c.serverUrl st := stateRoot_readStateDict _ _
      simp only [Operation.perform, AuthCache.clearCache, readStateDict_snd,
        hread, if_true] at hok ⊢
      cases hroot : stateRoot P c.serverUrl st with
      | none =>
          left
          simp only [Operation.rewritten]
          exact ⟨trivial, hkeep.trans hroot⟩
      | some d =>
          simp only [hroot] at hok ⊢
          by_cases hd : d.isEmpty = true
          · left
            simp only [Operation.rewritten, hd, if_true]
            exact ⟨trivial, hkeep.trans hroot⟩
          · right
            simp only [Operation.rewritten, hd, if_false, Bool.false_eq_true,
              anyAppDevice_clearApps hdev, if_true] at hok ⊢
            exact ⟨_, rfl, stateRoot_writeBundle_of_ok hok⟩
  | persist io =>
      change io.read.read = true at hread
      right
      refine ⟨_, rfl, ?_⟩
      simp only [Operation.perform, persistDeviceId, readStateDict_snd, hread,
        if_true, writeStateDict_snd, decide_eq_true_eq] at hok ⊢
      rw [hok]
      exact stateRoot_write_done _ _

/-- **Operations of one product never change another product's row.**  After
an operation of a client with a device id whose read does not fail and whose
write succeeds, the row of a product with another trimmed name is read as
before. -/
theorem row_of_other_product_kept (op : Operation) (t : String)
    (hdev : Python.strip c.deviceId ≠ "") (ht : t ∉ reservedRootKeys)
    (hne : Python.strip c.softwareName ≠ Python.strip t)
    (hread : op.readEnv.read = true) (hok : (op.perform P c st).2 = true) :
    rowIn t (stateRoot P c.serverUrl (op.perform P c st).1) =
      rowIn t (stateRoot P c.serverUrl st) := by
  rcases stateRoot_perform hdev hread hok with ⟨-, hsame⟩ | ⟨d, hd, hsame⟩
  · rw [hsame]
  · rw [hsame, rowIn_erase_device_id]
    exact rowIn_rewritten ht hne hd

end Disk

/-! ## A bundle with several members -/

/-- A storage root whose bundle for `serverUrl` holds `root`. -/
def Storage.holding (serverUrl : String) (root : Root) : Storage Symbol :=
  (writeStateDict .symbolic serverUrl root .done .fresh).1

/-- A row authorised at the time `ts`. -/
def exampleRow (deviceId : String) (ts : ℚ) : Row :=
  .ofList
    [("device_id", .str deviceId), ("last_success_at", .float (.fin ts)),
      ("heartbeat_times", .int 1)]

/-- Two products, one of them under an untrimmed key, and a member which is
not a row. -/
def exampleRoot : Root :=
  .ofList
    [("editor", .ofDict (exampleRow "D" 100)),
      (" player ", .ofDict (exampleRow "E" 200)), ("note", .str "text")]

theorem row_of_other_product_kept_on_revocation :
    let st := Storage.holding "https://auth.example" exampleRoot
    let op : Operation := .save false .null .null .null (.success 300)
    rowIn "player" (stateRoot .symbolic "https://auth.example"
        (op.perform .symbolic (exampleClient "D").cache st).1) =
      rowIn "player" (stateRoot .symbolic "https://auth.example" st) :=
  row_of_other_product_kept (c := (exampleClient "D").cache)
    (.save false .null .null .null (.success 300)) "player"
    (by decide) (by decide) (by decide) rfl (by decide +kernel)

end PyAuth.Client
