import PyAuth.Client.Storage
import PyAuth.Support.Trailing

/-!
# Which state file is opened

The three SDKs normalise the server URL whenever they need the name of the
state file or its key, and store URLs in between which went through one
normalisation more or less.  `p` are the characters which `strip`, `TrimSpace`
and `trim` remove.
-/

namespace PyAuth.Sdk

open Support Client

/-! ## Names and keys -/

section

variable (p : Char → Bool)

/-- `_normalize_server_url`, `NormalizeServerURL` and `normalizeServerUrl`. -/
def normalizeServerUrl (serverUrl : String) : String :=
  rstrip (· == '/') (strip p serverUrl)

/-- `rstrip("/")` and `replace(/\\/+$/, "")`. -/
def dropSlashes (serverUrl : String) : String := rstrip (· == '/') serverUrl

/-- The name of a state file, under the storage root, and its key. -/
structure StateRef (β : Type) where
  fileName : String
  key : List β
deriving DecidableEq

/-- `bundle_path` with `_derive_key`, and their equivalents in Go and
TypeScript. -/
def stateRef {β : Type} (P : Primitives β) (serverUrl : String) :
    StateRef β where
  fileName := "state_" ++
    String.ofList ((P.hexdigest (normalizeServerUrl p serverUrl)).toList.take
      12) ++ "_default.dat"
  key := P.sha256 (normalizeServerUrl p serverUrl)

/-- The Python model reads and writes this file. -/
theorem stateRef_python {β : Type} (P : Primitives β) (serverUrl : String) :
    stateRef Python.isSpace P serverUrl =
      ⟨bundlePath P serverUrl, deriveKey P serverUrl⟩ := rfl

/-! ## Places -/

/-- `self.server_url` of the Python `AuthClient`. -/
def pythonServerUrl (serverUrl : String) : String := dropSlashes serverUrl

/-- `self.server_url` of the Python `AuthCache`. -/
def pythonCacheServerUrl (serverUrl : String) : String := dropSlashes serverUrl

/-- `serverURL` of `NewAuthClient`. -/
def goServerURL (serverURL : String) : String := normalizeServerUrl p serverURL

/-- `su` of `BuildDeviceID`. -/
def goBuildServerURL (serverURL : String) : String :=
  normalizeServerUrl p serverURL

/-- `serverURL` of `NewAuthCache`. -/
def goCacheServerURL (serverURL : String) : String :=
  normalizeServerUrl p serverURL

/-- `this.serverUrl` of the TypeScript `AuthClient`. -/
def typeScriptServerUrl (serverUrl : String) : String := dropSlashes serverUrl

/-- `this.serverUrl` of the TypeScript `AuthCache`. -/
def typeScriptCacheServerUrl (serverUrl : String) : String :=
  normalizeServerUrl p serverUrl

/-- The places which derive the name of the state file or its key. -/
inductive Place
  | pythonInit
  | pythonLoadDeviceId
  | pythonPersistDeviceId
  | pythonCache
  | goInit
  | goLoadDeviceID
  | goBuildLoadDeviceID
  | goPersistDeviceID
  | goCache
  | typeScriptInit
  | typeScriptLoadDeviceId
  | typeScriptPersistDeviceId
  | typeScriptCache
deriving DecidableEq

/-- The URL which a place passes on, when the client was built with
`serverUrl`. -/
def Place.serverUrl (serverUrl : String) : Place → String
  | .pythonInit | .pythonLoadDeviceId | .pythonPersistDeviceId =>
      pythonServerUrl serverUrl
  | .pythonCache => pythonCacheServerUrl (pythonServerUrl serverUrl)
  | .goInit | .goLoadDeviceID => goServerURL p serverUrl
  | .goBuildLoadDeviceID | .goPersistDeviceID =>
      goBuildServerURL p (goServerURL p serverUrl)
  | .goCache => goCacheServerURL p (goServerURL p serverUrl)
  | .typeScriptInit | .typeScriptLoadDeviceId | .typeScriptPersistDeviceId =>
      typeScriptServerUrl serverUrl
  | .typeScriptCache =>
      typeScriptCacheServerUrl p (typeScriptServerUrl serverUrl)

/-- What is hashed at a place. -/
def Place.hashed (serverUrl : String) (place : Place) : String :=
  normalizeServerUrl p (place.serverUrl p serverUrl)

/-- The URL has a trailing `/` between white space: it ends with a character
which is not white space, white space, slashes, white space and possibly
further slashes. -/
def SlashBetweenSpaces (serverUrl : String) : Prop :=
  EndsInTurns p (· == '/') serverUrl.toList

end

/-! ## What the places hash -/

section

variable {p : Char → Bool} {u : String}

theorem dropSlashes_dropSlashes :
    dropSlashes (dropSlashes u) = dropSlashes u := by
  apply String.toList_inj.mp
  rw [dropSlashes, dropSlashes, toList_rstrip, toList_rstrip,
    List.rdropWhile_idempotent]

/-- What is hashed for the device id in Python and TypeScript. -/
theorem toList_normalize_dropSlashes :
    (normalizeServerUrl p (dropSlashes u)).toList =
      (((u.toList.dropWhile p).rdropWhile (· == '/')).rdropWhile p).rdropWhile
        (· == '/') := by
  rw [normalizeServerUrl, dropSlashes, toList_rstrip, toList_strip,
    toList_rstrip, dropWhile_rdropWhile]

theorem toList_normalize_normalize :
    (normalizeServerUrl p (normalizeServerUrl p u)).toList =
      ((((u.toList.dropWhile p).rdropWhile p).rdropWhile (· == '/')).rdropWhile
        p).rdropWhile (· == '/') := by
  rw [normalizeServerUrl, normalizeServerUrl, toList_rstrip, toList_strip,
    toList_rstrip, toList_strip, dropWhile_rdropWhile, dropWhile_rdropWhile,
    List.dropWhile_idempotent]

/-- A further normalisation. -/
theorem toList_normalize_again {v : String}
    (hv : v.toList <+: u.toList.dropWhile p) :
    (normalizeServerUrl p v).toList =
      (v.toList.rdropWhile p).rdropWhile (· == '/') := by
  rw [normalizeServerUrl, toList_rstrip, toList_strip,
    dropWhile_eq_self_of_prefix hv (List.dropWhile_idempotent _ _)]

/-- Without a slash between white space every place hashes the same. -/
theorem hashed_eq (hslash : p '/' = false) (h : ¬SlashBetweenSpaces p u)
    (place : Place) :
    place.hashed p u = normalizeServerUrl p (dropSlashes u) := by
  have hdisjoint : ∀ x, p x = true → (x == '/') = false := by
    intro x hx
    rw [beq_eq_false_iff_ne]
    rintro rfl
    simp [hslash] at hx
  have hfirst := toList_normalize_dropSlashes (p := p) (u := u)
  have hkept : (normalizeServerUrl p (dropSlashes u)).toList.rdropWhile p =
      (normalizeServerUrl p (dropSlashes u)).toList := by
    rw [hfirst]
    by_contra hne
    exact h (endsInTurns_of_ne hne)
  have hpre : (normalizeServerUrl p (dropSlashes u)).toList <+:
      u.toList.dropWhile p := by
    rw [hfirst]
    exact (List.rdropWhile_prefix _ _).trans
      ((List.rdropWhile_prefix _ _).trans (List.rdropWhile_prefix _ _))
  have hagain : normalizeServerUrl p (normalizeServerUrl p (dropSlashes u)) =
      normalizeServerUrl p (dropSlashes u) := by
    apply String.toList_inj.mp
    rw [toList_normalize_again hpre, hkept, hfirst, List.rdropWhile_idempotent]
  have hgo : normalizeServerUrl p (normalizeServerUrl p u) =
      normalizeServerUrl p (dropSlashes u) := by
    apply String.toList_inj.mp
    rw [toList_normalize_normalize, hfirst]
    rw [hfirst] at hkept
    exact rdropWhile_turns_eq hdisjoint hkept
  cases place with
  | pythonInit | pythonLoadDeviceId | pythonPersistDeviceId | typeScriptInit
  | typeScriptLoadDeviceId | typeScriptPersistDeviceId => rfl
  | pythonCache =>
      change normalizeServerUrl p (dropSlashes (dropSlashes u)) = _
      rw [dropSlashes_dropSlashes]
  | goInit | goLoadDeviceID => exact hgo
  | goBuildLoadDeviceID | goPersistDeviceID | goCache =>
      change normalizeServerUrl p (normalizeServerUrl p
        (normalizeServerUrl p u)) = _
      rw [hgo, hagain]
  | typeScriptCache => exact hagain

/-- With one, the TypeScript client keeps the device id and the cache under
different hashes. -/
theorem hashed_ne (hslash : p '/' = false) (h : SlashBetweenSpaces p u) :
    Place.typeScriptLoadDeviceId.hashed p u ≠
      Place.typeScriptCache.hashed p u := by
  have hdisjoint : ∀ x, p x = true → (x == '/') = false := by
    intro x hx
    rw [beq_eq_false_iff_ne]
    rintro rfl
    simp [hslash] at hx
  have hfirst := toList_normalize_dropSlashes (p := p) (u := u)
  have hpre : (normalizeServerUrl p (dropSlashes u)).toList <+:
      u.toList.dropWhile p := by
    rw [hfirst]
    exact (List.rdropWhile_prefix _ _).trans
      ((List.rdropWhile_prefix _ _).trans (List.rdropWhile_prefix _ _))
  intro heq
  have hlist := congrArg String.toList heq
  change (normalizeServerUrl p (dropSlashes u)).toList =
    (normalizeServerUrl p (normalizeServerUrl p (dropSlashes u))).toList
    at hlist
  rw [toList_normalize_again hpre, hfirst, eq_comm,
    rdropWhile_rdropWhile_eq_iff (List.rdropWhile_idempotent _ _)] at hlist
  exact h.rdropWhile_ne hdisjoint hlist.symm

/-! ## One state file -/

/-- **When everyone opens the same state file.**  All places derive the same
name and key exactly for the URLs without a slash between white space at their
end, provided the hash tells apart what is hashed. -/
theorem one_state_file_iff {β : Type} (P : Primitives β)
    (hslash : p '/' = false)
    (hhash : ∀ a b : Place,
      P.sha256 (a.hashed p u) = P.sha256 (b.hashed p u) →
        a.hashed p u = b.hashed p u) :
    (∀ a b : Place, stateRef p P (a.serverUrl p u) =
        stateRef p P (b.serverUrl p u)) ↔
      ¬SlashBetweenSpaces p u := by
  constructor
  · intro h hslashes
    apply hashed_ne hslash hslashes
    exact hhash _ _ (congrArg StateRef.key (h _ _))
  · intro h a b
    have heq : a.hashed p u = b.hashed p u := by
      rw [hashed_eq hslash h, hashed_eq hslash h]
    rw [Place.hashed, Place.hashed] at heq
    rw [stateRef, stateRef, heq]

theorem eq_of_sha256_symbolic {s s' : String}
    (h : Primitives.symbolic.sha256 s = Primitives.symbolic.sha256 s') :
    s = s' := by
  simpa [Primitives.symbolic] using h

theorem one_state_file_iff_trailing_slash :
    (∀ a b : Place,
        stateRef Python.isSpace Primitives.symbolic
            (a.serverUrl Python.isSpace " https://auth.example// ") =
          stateRef Python.isSpace Primitives.symbolic
            (b.serverUrl Python.isSpace " https://auth.example// ")) ↔
      ¬SlashBetweenSpaces Python.isSpace " https://auth.example// " :=
  one_state_file_iff .symbolic (by decide) fun _ _ => eq_of_sha256_symbolic

/-- The device id and the cache of one TypeScript client in two files; the Go
client opens one of them, the Python client the other. -/
theorem two_state_files :
    stateRef Python.isSpace Primitives.symbolic
        (Place.typeScriptLoadDeviceId.serverUrl Python.isSpace "http://a / ") =
        ⟨"state_http://a _default.dat", [.text (.str "http://a ")]⟩ ∧
      stateRef Python.isSpace Primitives.symbolic
        (Place.typeScriptCache.serverUrl Python.isSpace "http://a / ") =
        ⟨"state_http://a_default.dat", [.text (.str "http://a")]⟩ ∧
      stateRef Python.isSpace Primitives.symbolic
        (Place.goCache.serverUrl Python.isSpace "http://a / ") =
        ⟨"state_http://a_default.dat", [.text (.str "http://a")]⟩ ∧
      stateRef Python.isSpace Primitives.symbolic
        (Place.pythonCache.serverUrl Python.isSpace "http://a / ") =
        ⟨"state_http://a _default.dat", [.text (.str "http://a ")]⟩ := by
  decide +kernel

end

end PyAuth.Sdk
