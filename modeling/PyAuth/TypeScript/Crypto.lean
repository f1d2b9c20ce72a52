import Mathlib.Logic.Equiv.Basic
import PyAuth.Support.Base64
import PyAuth.Support.Pkcs7

/-!
# The TypeScript SDK: tokens

This file follows `crypto.ts`, which writes and reads the tokens of the Fernet
format by hand.  SHA-256, HMAC, the block cipher and the reading of base64 come
from Node.
-/

namespace PyAuth.TypeScript

open Support

/-! ## What the code relies on -/

/-- What Node computes: `createHash("sha256")`, `createHmac("sha256")`,
`aes-128-cbc` on whole blocks, and `Buffer.from(s, "base64")`. -/
structure NodeCrypto where
  sha256 : List UInt8 → List UInt8
  hmacSha256 : List UInt8 → List UInt8 → List UInt8
  cbcEncrypt : List UInt8 → List UInt8 → List UInt8 → List UInt8
  cbcDecrypt : List UInt8 → List UInt8 → List UInt8 → List UInt8
  fromBase64 : String → List UInt8
  length_sha256 : ∀ data, (sha256 data).length = 32
  length_hmacSha256 : ∀ key data, (hmacSha256 key data).length = 32
  length_cbcEncrypt : ∀ key iv data, key.length = 16 → iv.length = 16 →
    data.length % 16 = 0 → (cbcEncrypt key iv data).length = data.length
  cbcDecrypt_cbcEncrypt : ∀ key iv data, key.length = 16 → iv.length = 16 →
    data.length % 16 = 0 → cbcDecrypt key iv (cbcEncrypt key iv data) = data
  cbcEncrypt_cbcDecrypt : ∀ key iv data, key.length = 16 → iv.length = 16 →
    data.length % 16 = 0 → cbcEncrypt key iv (cbcDecrypt key iv data) = data
  fromBase64_encode : ∀ data, fromBase64 (Base64.encode data) = data

/-- What `Date.now()` returns, in milliseconds. -/
structure Now where
  ms : ℕ
  le_max : ms ≤ 8640000000000000

/-- What `randomBytes(16)` returns. -/
structure RandomIv where
  bytes : List UInt8
  length_eq : bytes.length = 16

/-- The errors which are thrown. -/
inductive CryptoError
  | emptySecret
  | wrongFinalBlockLength
deriving DecidableEq

/-! ## The code -/

section

variable (N : NodeCrypto)

def replaceChars (from₁ to₁ from₂ to₂ : Char) (s : String) : String :=
  .ofList (s.toList.map fun c =>
    if c = from₁ then to₁ else if c = from₂ then to₂ else c)

def b64UrlEncode (buf : List UInt8) : String :=
  replaceChars '+' '-' '/' '_' (Base64.encode buf)

def b64UrlDecode (s : String) : List UInt8 :=
  let normalized := replaceChars '-' '+' '_' '/' s
  let padded := normalized.toList ++
    "===".toList.drop ((utf16Length normalized + 3) % 4)
  N.fromBase64 (.ofList padded)

def timingSafeEqual (a b : List UInt8) : Bool :=
  if a.length ≠ b.length then false
  else (a.zip b).foldl (fun diff e => diff ||| (e.1 ^^^ e.2)) 0 = 0

def deriveFernetKey (clientSecret : String) : List UInt8 :=
  (N.sha256 (Utf8.encode clientSecret)).take 32

def pkcs7Pad (data : List UInt8) (blockSize : ℕ) : List UInt8 :=
  let rem := data.length % blockSize
  let padLen := if rem = 0 then blockSize else blockSize - rem
  data ++ List.replicate padLen (UInt8.ofNat padLen)

def pkcs7Unpad (data : List UInt8) (blockSize : ℕ) : Option (List UInt8) :=
  if data.length = 0 ∨ data.length % blockSize ≠ 0 then none
  else
    let padLen := data.getD (data.length - 1) 0
    if padLen.toNat ≤ 0 ∨ blockSize < padLen.toNat then none
    else if (List.range padLen.toNat).any fun i =>
        data[data.length - 1 - i]? ≠ some padLen then none
    else some (data.take (data.length - padLen.toNat))

/-- `Buffer.concat([cipher.update(data), cipher.final()])` without automatic
padding. -/
def updateFinal (cipher : List UInt8 → List UInt8) (data : List UInt8) :
    Except CryptoError (List UInt8) :=
  if data.length % 16 = 0 then .ok (cipher data)
  else .error .wrongFinalBlockLength

def aesCbcEncrypt (key iv plaintext : List UInt8) :
    Except CryptoError (List UInt8) :=
  updateFinal (N.cbcEncrypt key iv) (pkcs7Pad plaintext 16)

def aesCbcDecrypt (key iv ciphertext : List UInt8) :
    Except CryptoError (Option (List UInt8)) :=
  (updateFinal (N.cbcDecrypt key iv) ciphertext).map fun padded =>
    pkcs7Unpad padded 16

/-- `writeBigUInt64BE`. -/
def bigUInt64BE (n : ℕ) : List UInt8 :=
  (List.range 8).map fun i => UInt8.ofNat (n / 256 ^ (7 - i))

def signingKey (clientSecret : String) : List UInt8 :=
  (deriveFernetKey N clientSecret).take 16

def encryptionKey (clientSecret : String) : List UInt8 :=
  ((deriveFernetKey N clientSecret).drop 16).take 16

def encryptData (now : Now) (iv : RandomIv) (plaintextUtf8Json : String)
    (clientSecret : String) : Except CryptoError String :=
  if clientSecret = "" then .error .emptySecret
  else
    (aesCbcEncrypt N (encryptionKey N clientSecret) iv.bytes
      (Utf8.encode plaintextUtf8Json)).map fun ciphertext =>
        let payload :=
          [0x80] ++ bigUInt64BE (now.ms / 1000) ++ iv.bytes ++ ciphertext
        let hmac := N.hmacSha256 (signingKey N clientSecret) payload
        b64UrlEncode (payload ++ hmac)

def decryptData (token clientSecret : String) :
    Except CryptoError (Option String) :=
  if clientSecret = "" then .error .emptySecret
  else
    let raw := b64UrlDecode N token
    if raw.length < 1 + 8 + 16 + 32 then .ok none
    else
      let payload := raw.take (raw.length - 32)
      let mac := raw.drop (raw.length - 32)
      let expected := N.hmacSha256 (signingKey N clientSecret) payload
      if timingSafeEqual mac expected = false then .ok none
      else if payload[0]? ≠ some 0x80 then .ok none
      else
        let iv := (payload.drop (1 + 8)).take 16
        let ciphertext := payload.drop (1 + 8 + 16)
        (aesCbcDecrypt N (encryptionKey N clientSecret) iv ciphertext).map
          -- An empty buffer is truthy.
          fun plaintext => plaintext.map Utf8.decode

end

/-! ## The parts -/

section

variable {N : NodeCrypto} {data text : List UInt8} {blockSize : ℕ}

theorem pkcs7Pad_eq (data : List UInt8) (blockSize : ℕ) :
    pkcs7Pad data blockSize = Pkcs7.pad blockSize data := rfl

/-- The loop over the last bytes compares them with the padding. -/
theorem drop_eq_replicate_iff {last : UInt8} {n : ℕ} (hn : n ≤ data.length) :
    data.drop (data.length - n) = List.replicate n last ↔
      ∀ i < n, data[data.length - 1 - i]? = some last := by
  rw [List.eq_replicate_iff, List.length_drop]
  constructor
  · rintro ⟨-, hall⟩ i hi
    have hindex : data.length - n + (n - 1 - i) = data.length - 1 - i := by omega
    have hbound : n - 1 - i < (data.drop (data.length - n)).length := by
      rw [List.length_drop]
      omega
    have hlast := hall (data.drop (data.length - n))[n - 1 - i]
      (List.getElem_mem hbound)
    rw [List.getElem_drop] at hlast
    rw [← hindex, List.getElem?_eq_getElem (by omega), hlast]
  · intro h
    refine ⟨by omega, fun b hb => ?_⟩
    obtain ⟨k, hk, rfl⟩ := List.mem_iff_getElem.mp hb
    rw [List.length_drop] at hk
    have hindex : data.length - 1 - (n - 1 - k) = data.length - n + k := by omega
    have hlast := h (n - 1 - k) (by omega)
    rw [hindex, List.getElem?_eq_getElem (by omega)] at hlast
    rw [List.getElem_drop]
    exact Option.some.inj hlast

theorem pkcs7Unpad_eq (data : List UInt8) (blockSize : ℕ) :
    pkcs7Unpad data blockSize = Pkcs7.unpad blockSize data := by
  rcases eq_or_ne data [] with rfl | hne
  · rw [pkcs7Unpad, if_pos (.inl rfl), Pkcs7.unpad]
    split <;> rfl
  · have hpos : 0 < data.length := List.length_pos_iff.mpr hne
    obtain ⟨last, hlast⟩ : ∃ last, data[data.length - 1]? = some last :=
      ⟨_, List.getElem?_eq_getElem (by omega)⟩
    have hgetD : data.getD (data.length - 1) 0 = last := by
      rw [List.getD_eq_getElem?_getD, hlast, Option.getD_some]
    rw [pkcs7Unpad, Pkcs7.unpad, List.getLast?_eq_getElem?, hlast]
    simp only [hgetD]
    by_cases hblocks : data.length % blockSize ≠ 0
    · rw [if_pos (.inr hblocks), if_pos hblocks]
    · rw [if_neg (not_or.mpr ⟨hpos.ne', hblocks⟩), if_neg hblocks]
      by_cases hrange : last.toNat = 0 ∨ blockSize < last.toNat
      · rw [if_pos hrange, if_pos (hrange.imp_left Nat.le_of_eq)]
      · have hlong : blockSize ≤ data.length := Nat.le_of_dvd hpos
          (Nat.dvd_of_mod_eq_zero (not_not.mp hblocks))
        rw [if_neg hrange,
          if_neg fun h => hrange (h.imp_left Nat.eq_zero_of_le_zero)]
        by_cases hfill : data.drop (data.length - last.toNat) =
            List.replicate last.toNat last
        · have hall := (drop_eq_replicate_iff (by omega)).mp hfill
          rw [if_pos hfill, if_neg]
          simpa using hall
        · have hall := mt (drop_eq_replicate_iff (by omega)).mpr hfill
          rw [if_neg hfill, if_pos]
          simpa using hall

/-- The padding of the code is undone by the code, and nothing else. -/
theorem pkcs7Unpad_eq_some_iff :
    pkcs7Unpad data 16 = some text ↔ data = pkcs7Pad text 16 := by
  rw [pkcs7Unpad_eq, pkcs7Pad_eq]
  exact Pkcs7.unpad_eq_some_iff (by decide) (by decide)

theorem foldl_xor_eq_zero_iff {a b : List UInt8} (h : a.length = b.length)
    (diff : UInt8) :
    (a.zip b).foldl (fun diff e => diff ||| (e.1 ^^^ e.2)) diff = 0 ↔
      diff = 0 ∧ a = b := by
  induction a generalizing b diff with
  | nil =>
      obtain rfl := List.length_eq_zero_iff.mp h.symm
      simp
  | cons x a ih =>
      rcases b with _ | ⟨y, b⟩
      · cases h
      · rw [List.zip_cons_cons, List.foldl_cons, ih (by simpa using h),
          UInt8.or_eq_zero_iff, UInt8.xor_eq_zero_iff, List.cons.injEq,
          and_assoc]

theorem timingSafeEqual_iff {a b : List UInt8} :
    timingSafeEqual a b = true ↔ a = b := by
  rw [timingSafeEqual]
  split
  · next hlength =>
      exact iff_of_false Bool.false_ne_true fun h => hlength (h ▸ rfl)
  · next hlength =>
      rw [decide_eq_true_eq, foldl_xor_eq_zero_iff (not_not.mp hlength)]
      simp

theorem b64UrlDecode_b64UrlEncode (data : List UInt8) :
    b64UrlDecode N (b64UrlEncode data) = data := by
  have hchars := Base64.forall_mem_encodeBytes data
  have hback : replaceChars '-' '+' '_' '/' (b64UrlEncode data) =
      Base64.encode data := by
    rw [replaceChars, b64UrlEncode, replaceChars, String.toList_ofList,
      List.map_map, Base64.encode, String.toList_ofList]
    refine congrArg String.ofList
      ((List.map_congr_left fun c hc => ?_).trans (List.map_id _))
    obtain ⟨hdash, hunderscore, -⟩ := hchars c hc
    rw [Function.comp_apply, id]
    by_cases hplus : c = '+'
    · rw [hplus]
      decide
    · by_cases hslash : c = '/'
      · rw [hslash]
        decide
      · rw [if_neg hplus, if_neg hslash, if_neg hdash, if_neg hunderscore]
  have hlength : utf16Length (Base64.encode data) % 4 = 0 := by
    have hunits : (Base64.encodeBytes data).map (fun c =>
        if c.toNat < 0x10000 then 1 else 2) =
          List.replicate (Base64.encodeBytes data).length 1 := by
      rw [List.eq_replicate_iff, List.length_map]
      refine ⟨rfl, fun n hn => ?_⟩
      obtain ⟨c, hc, rfl⟩ := List.mem_map.mp hn
      exact if_pos (hchars c hc).2.2
    rw [utf16Length, Base64.encode, String.toList_ofList, hunits,
      List.sum_replicate_nat, Nat.mul_one]
    exact Base64.length_encodeBytes_mod data
  have hpad : "===".toList.drop
      ((utf16Length (Base64.encode data) + 3) % 4) = [] := by
    rw [show (utf16Length (Base64.encode data) + 3) % 4 = 3 by omega]
    rfl
  rw [b64UrlDecode]
  simp only [hback, hpad]
  rw [List.append_nil, String.ofList_toList, N.fromBase64_encode]

end

/-! ## Tokens -/

/-- The bytes of a token: the version, the time stamp, the initial vector, the
encrypted text and the MAC of all of them. -/
def tokenBytes (N : NodeCrypto) (clientSecret : String)
    (timestamp iv plaintext : List UInt8) : List UInt8 :=
  let payload := [0x80] ++ timestamp ++ iv ++
    N.cbcEncrypt (encryptionKey N clientSecret) iv (pkcs7Pad plaintext 16)
  payload ++ N.hmacSha256 (signingKey N clientSecret) payload

section

variable {N : NodeCrypto} {clientSecret token text : String}
  {timestamp iv plaintext : List UInt8}

theorem length_encryptionKey : (encryptionKey N clientSecret).length = 16 := by
  rw [encryptionKey, deriveFernetKey, List.length_take, List.length_drop,
    List.length_take, N.length_sha256]
  rfl

theorem length_pkcs7Pad_mod (plaintext : List UInt8) :
    (pkcs7Pad plaintext 16).length % 16 = 0 :=
  Pkcs7.length_pad_mod (by decide) plaintext

theorem updateFinal_of_blocks {cipher : List UInt8 → List UInt8}
    {data : List UInt8} (h : data.length % 16 = 0) :
    updateFinal cipher data = .ok (cipher data) := if_pos h

/-- A well-formed token is read. -/
theorem decryptData_of_tokenBytes (hsecret : clientSecret ≠ "")
    (htimestamp : timestamp.length = 8) (hiv : iv.length = 16)
    (hraw : b64UrlDecode N token =
      tokenBytes N clientSecret timestamp iv plaintext) :
    decryptData N token clientSecret = .ok (some (Utf8.decode plaintext)) := by
  have hkey : (encryptionKey N clientSecret).length = 16 := length_encryptionKey
  have hblocks := length_pkcs7Pad_mod plaintext
  have hcipher : (N.cbcEncrypt (encryptionKey N clientSecret) iv
      (pkcs7Pad plaintext 16)).length % 16 = 0 := by
    rw [N.length_cbcEncrypt _ _ _ hkey hiv hblocks, hblocks]
  have hdecrypt := N.cbcDecrypt_cbcEncrypt _ iv _ hkey hiv hblocks
  have hunpad := pkcs7Unpad_eq_some_iff.mpr (Eq.refl (pkcs7Pad plaintext 16))
  rw [tokenBytes] at hraw
  generalize N.cbcEncrypt (encryptionKey N clientSecret) iv
    (pkcs7Pad plaintext 16) = ciphertext at hcipher hdecrypt hraw
  have hmac : ∀ payload, (N.hmacSha256 (signingKey N clientSecret)
      payload).length = 32 := N.length_hmacSha256 _
  have hlength : (b64UrlDecode N token).length =
      1 + 8 + 16 + ciphertext.length + 32 := by
    rw [hraw, List.length_append, hmac]
    simp only [List.length_append, htimestamp, hiv]
    rfl
  have hpayload : (b64UrlDecode N token).length - 32 =
      ([0x80] ++ timestamp ++ iv ++ ciphertext).length := by
    rw [hlength, Nat.add_sub_cancel]
    simp only [List.length_append, htimestamp, hiv]
    rfl
  have htimestamp' : ([0x80] ++ timestamp).length = 1 + 8 := by
    rw [List.length_append, htimestamp]
    rfl
  have hiv' : ([0x80] ++ timestamp ++ iv).length = 1 + 8 + 16 := by
    rw [List.length_append, htimestamp', hiv]
  rw [decryptData, if_neg hsecret]
  dsimp only
  rw [if_neg (by omega), hpayload, hraw, List.take_left, List.drop_left,
    if_neg (Bool.ne_false_iff.mpr (timingSafeEqual_iff.mpr rfl)),
    if_neg (by exact fun h => h rfl), List.drop_left' hiv',
    List.append_assoc ([0x80] ++ timestamp), List.drop_left' htimestamp',
    List.take_left' hiv, aesCbcDecrypt, updateFinal_of_blocks hcipher, hdecrypt]
  simp only [Except.map, hunpad, Option.map_some]

/-- A payload is cut at the offsets of its fields. -/
theorem eq_append_fields {payload : List UInt8} {version : UInt8}
    (h : payload[0]? = some version) :
    payload = [version] ++ (payload.drop 1).take 8 ++
      (payload.drop (1 + 8)).take 16 ++ payload.drop (1 + 8 + 16) := by
  rcases payload with _ | ⟨b, payload⟩
  · cases h
  · obtain rfl := Option.some.inj h
    have hiv : (payload.drop 8).take 16 ++ payload.drop (8 + 16) =
        payload.drop 8 := by
      rw [← List.drop_drop, List.take_append_drop]
    rw [show 1 + 8 = 8 + 1 from rfl, show 8 + 1 + 16 = 8 + 16 + 1 from rfl,
      List.drop_succ_cons, List.drop_succ_cons, List.drop_succ_cons,
      List.drop_zero, List.append_assoc, hiv, List.append_assoc,
      List.take_append_drop]
    rfl

/-- What is decrypted comes from whole blocks, which encrypt the padded text. -/
theorem cbcEncrypt_of_aesCbcDecrypt {ciphertext : List UInt8}
    (hiv : iv.length = 16)
    (h : aesCbcDecrypt N (encryptionKey N clientSecret) iv ciphertext =
      .ok (some plaintext)) :
    N.cbcEncrypt (encryptionKey N clientSecret) iv (pkcs7Pad plaintext 16) =
      ciphertext := by
  rw [aesCbcDecrypt, updateFinal] at h
  split at h
  · next hblocks =>
      have hpad := pkcs7Unpad_eq_some_iff.mp (Except.ok.inj h)
      rw [← hpad, N.cbcEncrypt_cbcDecrypt _ _ _ length_encryptionKey hiv hblocks]
  · cases h

/-- What was checked of a token that is read. -/
theorem checks_of_decryptData {raw payload : List UInt8}
    (hraw : raw = b64UrlDecode N token)
    (hpayload : payload = raw.take (raw.length - 32))
    (h : decryptData N token clientSecret = .ok (some text)) :
    1 + 8 + 16 + 32 ≤ raw.length ∧
      raw.drop (raw.length - 32) =
        N.hmacSha256 (signingKey N clientSecret) payload ∧
      payload[0]? = some 0x80 ∧
      ∃ plaintext, aesCbcDecrypt N (encryptionKey N clientSecret)
          ((payload.drop (1 + 8)).take 16) (payload.drop (1 + 8 + 16)) =
            .ok (some plaintext) ∧
        Utf8.decode plaintext = text := by
  rw [decryptData] at h
  simp only [← hraw, ← hpayload] at h
  split at h
  · cases h
  · split at h
    · cases h
    · next hlength =>
        split at h
        · cases h
        · next hmac =>
            split at h
            · cases h
            · next hversion =>
                refine ⟨not_lt.mp hlength,
                  timingSafeEqual_iff.mp (Bool.ne_false_iff.mp hmac),
                  not_not.mp hversion, ?_⟩
                rcases hplaintext : aesCbcDecrypt N
                    (encryptionKey N clientSecret) _ _ with e | plaintext
                · rw [hplaintext] at h
                  cases h
                · rw [hplaintext] at h
                  obtain ⟨plaintext, rfl, rfl⟩ :=
                    Option.map_eq_some_iff.mp (Except.ok.inj h)
                  exact ⟨plaintext, rfl, rfl⟩

/-- What is read comes from a well-formed token. -/
theorem exists_tokenBytes_of_decryptData
    (h : decryptData N token clientSecret = .ok (some text)) :
    ∃ timestamp iv plaintext : List UInt8,
      timestamp.length = 8 ∧ iv.length = 16 ∧
      b64UrlDecode N token =
        tokenBytes N clientSecret timestamp iv plaintext ∧
      Utf8.decode plaintext = text := by
  generalize hraw : b64UrlDecode N token = raw
  obtain ⟨payload, hpayload⟩ :
      ∃ payload, payload = raw.take (raw.length - 32) := ⟨_, rfl⟩
  obtain ⟨hlength, hmac, hversion, plaintext, hplaintext, rfl⟩ :=
    checks_of_decryptData hraw.symm hpayload h
  have hlong : payload.length = raw.length - 32 := by
    rw [hpayload, List.length_take]
    omega
  have htimestamp : ((payload.drop 1).take 8).length = 8 := by
    rw [List.length_take, List.length_drop]
    omega
  have hiv : ((payload.drop (1 + 8)).take 16).length = 16 := by
    rw [List.length_take, List.length_drop]
    omega
  refine ⟨_, _, plaintext, htimestamp, hiv, ?_, rfl⟩
  rw [tokenBytes, cbcEncrypt_of_aesCbcDecrypt hiv hplaintext,
    ← eq_append_fields hversion, ← hmac, hpayload, List.take_append_drop]

/-- An encrypted text is decrypted. -/
theorem decryptData_encryptData (hsecret : clientSecret ≠ "") (now : Now)
    (iv : RandomIv) (p : String) :
    ∃ token, encryptData N now iv p clientSecret = .ok token ∧
      decryptData N token clientSecret = .ok (some p) := by
  have hblocks := length_pkcs7Pad_mod (Utf8.encode p)
  refine ⟨b64UrlEncode (tokenBytes N clientSecret (bigUInt64BE (now.ms / 1000))
    iv.bytes (Utf8.encode p)), ?_, ?_⟩
  · rw [encryptData, if_neg hsecret, aesCbcEncrypt,
      updateFinal_of_blocks hblocks]
    rfl
  · rw [decryptData_of_tokenBytes hsecret (by rfl) iv.length_eq
      (b64UrlDecode_b64UrlEncode _), Utf8.decode_encode]

end

/-- **The codec is correct.**  A text that is encrypted is decrypted, what is
decrypted is the text of a well-formed token, and the padding can be undone. -/
theorem fernet_codec_correct (N : NodeCrypto) :
    (∀ (now : Now) (iv : RandomIv) (p clientSecret : String),
      clientSecret ≠ "" →
        ∃ token, encryptData N now iv p clientSecret = .ok token ∧
          decryptData N token clientSecret = .ok (some p)) ∧
    (∀ token clientSecret text,
      decryptData N token clientSecret = .ok (some text) →
        ∃ timestamp iv plaintext : List UInt8,
          timestamp.length = 8 ∧ iv.length = 16 ∧
          b64UrlDecode N token =
            tokenBytes N clientSecret timestamp iv plaintext ∧
          Utf8.decode plaintext = text) ∧
    ∀ d y, pkcs7Unpad d 16 = some y ↔ d = pkcs7Pad y 16 :=
  ⟨fun now iv p _ hsecret => decryptData_encryptData hsecret now iv p,
    fun _ _ _ => exists_tokenBytes_of_decryptData,
    fun _ _ => pkcs7Unpad_eq_some_iff⟩

/-! ## A token -/

def secretDigest : List UInt8 :=
  [0x2B, 0xB8, 0x0D, 0x53, 0x7B, 0x1D, 0xA3, 0xE3, 0x8B, 0xD3, 0x03, 0x61, 0xAA,
    0x85, 0x56, 0x86, 0xBD, 0xE0, 0xEA, 0xCD, 0x71, 0x62, 0xFE, 0xF6, 0xA2, 0x5F,
    0xE9, 0x7B, 0xF5, 0x27, 0xA2, 0x5B]

def helloIv : RandomIv where
  bytes := [1, 2, 3, 4, 5, 6, 7, 8, 9, 10, 11, 12, 13, 14, 15, 16]
  length_eq := rfl

def helloNow : Now where
  ms := 1700000000000
  le_max := by decide

def helloBlock : List UInt8 :=
  [0x68, 0x65, 0x6C, 0x6C, 0x6F, 11, 11, 11, 11, 11, 11, 11, 11, 11, 11, 11]

def helloCiphertext : List UInt8 :=
  [0xEF, 0x92, 0xBE, 0x1C, 0x66, 0x7E, 0xC4, 0x08, 0x9B, 0x0F, 0xCA, 0xF5, 0xC6,
    0xC5, 0x69, 0xED]

def helloPayload : List UInt8 :=
  [0x80, 0, 0, 0, 0, 0x65, 0x53, 0xF1, 0] ++ helloIv.bytes ++ helloCiphertext

def helloMac : List UInt8 :=
  [0xFE, 0xA2, 0xD4, 0xA9, 0xC6, 0xD9, 0xBA, 0x25, 0xAE, 0xEB, 0xE2, 0x3B, 0xC8,
    0x2C, 0xD2, 0x6C, 0x54, 0x3B, 0x16, 0x2E, 0xB3, 0x36, 0xC0, 0x10, 0x1E, 0x27,
    0xE4, 0x2C, 0x93, 0xC7, 0x75, 0x4A]

def helloToken : String :=
  "gAAAAABlU_EAAQIDBAUGBwgJCgsMDQ4PEO-SvhxmfsQImw_K9cbFae3-otSpxtm6Ja7r4jvILNJ" ++
    "sVDsWLrM2wBAeJ-Qsk8d1Sg=="

def helloCipher (key iv data : List UInt8) : List UInt8 :=
  if key = secretDigest.drop 16 ∧ iv = helloIv.bytes then
    Equiv.swap helloBlock helloCiphertext data
  else data

theorem length_helloCipher (key iv data : List UInt8) :
    (helloCipher key iv data).length = data.length := by
  rw [helloCipher]
  split
  · rw [Equiv.swap_apply_def]
    split
    · next h => rw [h]; rfl
    · split
      · next h => rw [h]; rfl
      · rfl
  · rfl

theorem helloCipher_helloCipher (key iv data : List UInt8) :
    helloCipher key iv (helloCipher key iv data) = data := by
  rw [helloCipher, helloCipher]
  split
  · exact DFunLike.congr_fun (Equiv.swap_swap helloBlock helloCiphertext) data
  · rfl

/-- The values of Node for this token, and something else elsewhere. -/
def helloCrypto : NodeCrypto where
  sha256 data :=
    if data = Utf8.encode "secret" then secretDigest else List.replicate 32 0
  hmacSha256 key data :=
    if key = secretDigest.take 16 ∧ data = helloPayload then helloMac
    else List.replicate 32 0
  cbcEncrypt := helloCipher
  cbcDecrypt := helloCipher
  fromBase64 := Base64.decode
  length_sha256 data := by
    split <;> rfl
  length_hmacSha256 key data := by
    split <;> rfl
  length_cbcEncrypt key iv data _ _ _ := length_helloCipher key iv data
  cbcDecrypt_cbcEncrypt key iv data _ _ _ := helloCipher_helloCipher key iv data
  cbcEncrypt_cbcDecrypt key iv data _ _ _ := helloCipher_helloCipher key iv data
  fromBase64_encode := Base64.decode_encode

theorem encryptData_hello :
    encryptData helloCrypto helloNow helloIv "hello" "secret" =
      .ok helloToken := by
  decide +kernel

theorem decryptData_hello :
    decryptData helloCrypto helloToken "secret" = .ok (some "hello") := by
  have hsecret : "secret" ≠ "" := by decide
  obtain ⟨token, htoken, hdecrypt⟩ :=
    decryptData_encryptData (N := helloCrypto) hsecret helloNow helloIv "hello"
  obtain rfl := Except.ok.inj (encryptData_hello.symm.trans htoken)
  exact hdecrypt

theorem fernet_codec_correct_hello :
    (∃ token, encryptData helloCrypto helloNow helloIv "hello" "secret" =
        .ok token ∧
      decryptData helloCrypto token "secret" = .ok (some "hello")) ∧
    (∃ timestamp iv plaintext : List UInt8,
      timestamp.length = 8 ∧ iv.length = 16 ∧
      b64UrlDecode helloCrypto helloToken =
        tokenBytes helloCrypto "secret" timestamp iv plaintext ∧
      Utf8.decode plaintext = "hello") ∧
    pkcs7Unpad helloBlock 16 = some (Utf8.encode "hello") :=
  have h := fernet_codec_correct helloCrypto
  ⟨h.1 helloNow helloIv "hello" "secret" (by decide),
    h.2.1 helloToken "secret" "hello" decryptData_hello,
    (h.2.2 helloBlock (Utf8.encode "hello")).mpr (by decide +kernel)⟩

end PyAuth.TypeScript
