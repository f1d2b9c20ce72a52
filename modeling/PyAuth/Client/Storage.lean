import PyAuth.Client.StateBundle

/-!
# The state file on disk

Reading and writing the bundle of one server, with every way in which the
disk can let an operation down.  A read may fail; a write may be refused
before the file is touched, or may tear the file, leaving a proper prefix of
the new bytes.  The JSON text codec, SHA-256 and AES-GCM are parameters,
bundled with the laws the client relies on.
-/

namespace PyAuth.Client

open Support

/-- The library functions behind the state file, over an alphabet `β` of
octets. -/
structure Primitives (β : Type) where
  /-- `hashlib.sha256(s.encode("utf-8")).digest()` and its hexadecimal form. -/
  sha256 : String → List β
  hexdigest : String → String
  /-- `json.dumps(v, ...).encode("utf-8")`. -/
  dumps : Json → List β
  /-- `json.loads(b.decode("utf-8"))`, `none` when either step raises. -/
  loads : List β → Option Json
  /-- `json.loads(s)`. -/
  loadsText : String → Option Json
  /-- `AESGCM(key).encrypt(nonce, body, None)`. -/
  encrypt : (key nonce body : List β) → List β
  /-- `AESGCM(key).decrypt(nonce, ct, None)`, `none` on `InvalidTag`. -/
  decrypt : (key nonce ct : List β) → Option (List β)
  loads_dumps : ∀ v, loads (dumps v) = some v
  dumps_ne_nil : ∀ v, dumps v ≠ []
  length_encrypt : ∀ key nonce body,
    (encrypt key nonce body).length = body.length + 16
  decrypt_encrypt : ∀ key nonce body,
    decrypt key nonce (encrypt key nonce body) = some body
  decrypt_truncated : ∀ key nonce body ct,
    ct <+: encrypt key nonce body → ct ≠ encrypt key nonce body →
      decrypt key nonce ct = none

def nonceLen : ℕ := 12

/-- The files of one storage root, and the octets `os.urandom` will yield. -/
structure Storage (β : Type) where
  files : String → Option (List β)
  urandom : ℕ → { nonce : List β // nonce.length = nonceLen }

namespace Storage

variable {β : Type}

def put (st : Storage β) (path : String) (content : Option (List β)) :
    Storage β :=
  { st with files := Function.update st.files path content }

/-- The storage after a nonce was drawn. -/
def drawn (st : Storage β) : Storage β :=
  { st with urandom := fun n => st.urandom (n + 1) }

@[simp] theorem files_put (st : Storage β) (path : String)
    (content : Option (List β)) :
    (st.put path content).files path = content := by
  simp [put]

@[simp] theorem files_drawn (st : Storage β) : st.drawn.files = st.files := rfl

end Storage

/-- How the disk answers a read, and the removal of a bundle which turns out
not to be an object. -/
structure ReadEnv where
  read : Bool
  unlink : Bool
deriving DecidableEq

def ReadEnv.success : ReadEnv := ⟨true, true⟩

/-- How the disk answers a write: it is completed, refused before the file is
touched, or torn with at most `kept` octets of the new content left. -/
inductive WriteOutcome
  | done
  | refused
  | torn (kept : ℕ)
deriving DecidableEq

/-! ## Paths and keys -/

/-- `_normalize_server_url`. -/
def normalizeServerUrl (serverUrl : String) : String :=
  rstrip (· == '/') (Python.strip serverUrl)

section

variable {β : Type} (P : Primitives β) (serverUrl : String)

/-- `bundle_path`, relative to the storage root. -/
def bundlePath : String :=
  "state_" ++
    String.ofList ((P.hexdigest (normalizeServerUrl serverUrl)).toList.take 12) ++
    "_default.dat"

/-- `_derive_key`. -/
def deriveKey : List β := P.sha256 (normalizeServerUrl serverUrl)

/-! ## Reading and writing -/

/-- What `read_state_dict` makes of the octets of the file: the JSON value
they seal. -/
def openBundle (raw : List β) : Option Json :=
  if raw.length < nonceLen + 16 + 1 then none
  else
    (P.decrypt (deriveKey P serverUrl) (raw.take nonceLen)
      (raw.drop nonceLen)).bind P.loads

/-- `read_state_dict`. -/
def readStateDict (io : ReadEnv) (st : Storage β) : Storage β × Option Root :=
  match st.files (bundlePath P serverUrl) with
  | none => (st, none)
  | some raw =>
      if io.read then
        match openBundle P serverUrl raw with
        | none => (st, none)
        | some v =>
            match v.dict? with
            | some data => (st, some (data.erase "device_id"))
            | none =>
                (if io.unlink then st.put (bundlePath P serverUrl) none else st,
                  none)
      else (st, none)

/-- The octets `write_state_dict` puts into the file. -/
def sealBundle (data : Root) (st : Storage β) : List β :=
  let nonce : List β := st.urandom 0
  nonce ++ P.encrypt (deriveKey P serverUrl) nonce (P.dumps (Json.ofDict data))

/-- `write_state_dict`. -/
def writeStateDict (data : Root) (io : WriteOutcome) (st : Storage β) :
    Storage β × Bool :=
  let path := bundlePath P serverUrl
  let content := sealBundle P serverUrl data st
  match io with
  | .done => (st.drawn.put path (some content), true)
  | .refused => (st.drawn, false)
  | .torn kept =>
      (st.drawn.put path (some (content.take (min kept (content.length - 1)))),
        false)

/-- The root that a read which does not fail returns. -/
def stateRoot (st : Storage β) : Option Root :=
  (readStateDict P serverUrl .success st).2

end

/-! ## What can be read after each step -/

section

variable {β : Type} {P : Primitives β} {serverUrl : String}

theorem stateRoot_eq (st : Storage β) :
    stateRoot P serverUrl st =
      (st.files (bundlePath P serverUrl)).bind fun raw =>
        (openBundle P serverUrl raw).bind fun v =>
          v.dict?.map (·.erase "device_id") := by
  rw [stateRoot, readStateDict]
  cases st.files (bundlePath P serverUrl) with
  | none => rfl
  | some raw =>
      simp only [ReadEnv.success, if_true, Option.bind_some]
      cases openBundle P serverUrl raw with
      | none => rfl
      | some v =>
          simp only [Option.bind_some]
          cases v.dict? <;> rfl

theorem stateRoot_congr {st st' : Storage β}
    (h : st'.files (bundlePath P serverUrl) =
      st.files (bundlePath P serverUrl)) :
    stateRoot P serverUrl st' = stateRoot P serverUrl st := by
  rw [stateRoot_eq, stateRoot_eq, h]

theorem readStateDict_snd (io : ReadEnv) (st : Storage β) :
    (readStateDict P serverUrl io st).2 =
      if io.read then stateRoot P serverUrl st else none := by
  rw [stateRoot, readStateDict, readStateDict]
  cases st.files (bundlePath P serverUrl) with
  | none => simp
  | some raw =>
      cases io.read with
      | false => rfl
      | true =>
          simp only [ReadEnv.success, if_true]
          cases openBundle P serverUrl raw with
          | none => rfl
          | some v => cases hv : v.dict? <;> simp [hv]

/-- A read never changes what a later read returns. -/
@[simp] theorem stateRoot_readStateDict (io : ReadEnv) (st : Storage β) :
    stateRoot P serverUrl (readStateDict P serverUrl io st).1 =
      stateRoot P serverUrl st := by
  rw [readStateDict]
  cases hfile : st.files (bundlePath P serverUrl) with
  | none => rfl
  | some raw =>
      cases io.read with
      | false => rfl
      | true =>
          simp only [if_true]
          cases hopen : openBundle P serverUrl raw with
          | none => rfl
          | some v =>
              cases hv : v.dict? with
              | some data => simp [hv]
              | none =>
                  cases io.unlink with
                  | false => simp [hv]
                  | true => simp [stateRoot_eq, hfile, hopen, hv]

theorem length_sealBundle (data : Root) (st : Storage β) :
    nonceLen + 16 + 1 ≤ (sealBundle P serverUrl data st).length := by
  have hbody := List.length_pos_iff.mpr (P.dumps_ne_nil (Json.ofDict data))
  simp only [sealBundle, List.length_append, P.length_encrypt,
    (st.urandom 0).2]
  omega

theorem openBundle_sealBundle (data : Root) (st : Storage β) :
    openBundle P serverUrl (sealBundle P serverUrl data st) =
      some (Json.ofDict data) := by
  rw [openBundle, if_neg (by
    have : nonceLen + 16 + 1 ≤ (sealBundle P serverUrl data st).length :=
      length_sealBundle data st
    omega)]
  simp only [sealBundle]
  rw [List.take_left' (st.urandom 0).2, List.drop_left' (st.urandom 0).2,
    P.decrypt_encrypt, Option.bind_some, P.loads_dumps]

/-- A torn bundle does not authenticate. -/
theorem openBundle_take_sealBundle {data : Root} {st : Storage β} {n : ℕ}
    (hn : n < (sealBundle P serverUrl data st).length) :
    openBundle P serverUrl ((sealBundle P serverUrl data st).take n) = none := by
  rw [openBundle]
  split
  · rfl
  next hlen =>
    rw [Option.bind_eq_none_iff]
    intro plain hplain
    exfalso
    simp only [sealBundle, List.length_take, List.length_append,
      (st.urandom 0).2] at hn hlen
    simp only [sealBundle] at hplain
    have hnonce : nonceLen ≤ n := by omega
    rw [List.take_take, min_eq_left hnonce,
      List.take_left' (st.urandom 0).2, List.drop_take,
      List.drop_left' (st.urandom 0).2] at hplain
    have hnone := P.decrypt_truncated (deriveKey P serverUrl)
      (st.urandom 0).1 (P.dumps (Json.ofDict data)) _
      (List.take_prefix (n - nonceLen) _) (by
        intro heq
        have hlength := congrArg List.length heq
        rw [List.length_take] at hlength
        omega)
    rw [hnone] at hplain
    contradiction

@[simp] theorem stateRoot_write_done (data : Root) (st : Storage β) :
    stateRoot P serverUrl (writeStateDict P serverUrl data .done st).1 =
      some (data.erase "device_id") := by
  simp [writeStateDict, stateRoot_eq, openBundle_sealBundle]

@[simp] theorem stateRoot_write_refused (data : Root) (st : Storage β) :
    stateRoot P serverUrl (writeStateDict P serverUrl data .refused st).1 =
      stateRoot P serverUrl st :=
  stateRoot_congr rfl

@[simp] theorem stateRoot_write_torn (data : Root) (kept : ℕ)
    (st : Storage β) :
    stateRoot P serverUrl
      (writeStateDict P serverUrl data (.torn kept) st).1 = none := by
  have hlen : nonceLen + 16 + 1 ≤ (sealBundle P serverUrl data st).length :=
    length_sealBundle data st
  simp only [writeStateDict, stateRoot_eq, Storage.files_put,
    Option.bind_some]
  rw [openBundle_take_sealBundle (by omega), Option.bind_none]

@[simp] theorem writeStateDict_snd (data : Root) (io : WriteOutcome)
    (st : Storage β) :
    (writeStateDict P serverUrl data io st).2 = decide (io = .done) := by
  cases io <;> simp [writeStateDict]

end

/-! ## A symbolic instance -/

/-- Octets which can also stand for the text of a whole JSON value. -/
inductive Symbol
  | raw (n : ℕ)
  | text (v : Json)
deriving DecidableEq

namespace Primitives

/-- The sealed form starts with sixteen symbols, the last of which holds the
length of the body. -/
def symbolicEncrypt (body : List Symbol) : List Symbol :=
  List.replicate 15 (.raw 0) ++ .raw body.length :: body

def symbolicDecrypt (ct : List Symbol) : Option (List Symbol) :=
  match ct.drop 15 with
  | .raw n :: body => if body.length = n then some body else none
  | _ => none

theorem symbolicDecrypt_truncated {body ct : List Symbol}
    (hpre : ct <+: symbolicEncrypt body) (hne : ct ≠ symbolicEncrypt body) :
    symbolicDecrypt ct = none := by
  have hlen : ct.length < (symbolicEncrypt body).length :=
    lt_of_le_of_ne hpre.length_le fun h => hne (hpre.eq_of_length h)
  rw [List.prefix_iff_eq_take] at hpre
  rw [symbolicDecrypt, hpre, symbolicEncrypt, List.drop_take,
    List.drop_left' (by simp)]
  cases hk : ct.length - 15 with
  | zero => rfl
  | succ k =>
      simp only [symbolicEncrypt, List.length_append, List.length_replicate,
        List.length_cons] at hlen
      have hshort : (body.take k).length ≠ body.length := by
        rw [List.length_take]
        omega
      simp only [List.take_succ_cons]
      exact if_neg hshort

/-- Primitives which compute: a JSON value is its own text, a string its own
hash, and a sealed body carries its length in the place of the tag. -/
def symbolic : Primitives Symbol where
  sha256 s := [.text (.str s)]
  hexdigest s := s
  dumps v := [.text v]
  loads
    | [.text v] => some v
    | _ => none
  loadsText _ := none
  encrypt _ _ := symbolicEncrypt
  decrypt _ _ := symbolicDecrypt
  loads_dumps _ := rfl
  dumps_ne_nil _ := List.cons_ne_nil _ _
  length_encrypt _ _ body := by simp [symbolicEncrypt]
  decrypt_encrypt _ _ body := by simp [symbolicEncrypt, symbolicDecrypt]
  decrypt_truncated _ _ _ _ := symbolicDecrypt_truncated

end Primitives

/-- A storage root without any file. -/
def Storage.fresh : Storage Symbol where
  files _ := none
  urandom _ := ⟨List.replicate nonceLen (.raw 0), by simp⟩

end PyAuth.Client
