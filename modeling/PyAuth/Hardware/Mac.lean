import Mathlib.Data.Nat.Bitwise
import PyAuth.Support.Hex

/-!
# The MAC address of the node

Without a network card the MAC address is read off `uuid.getnode()`.  The
octets are shifted by two bits each, so the address is that of the node only
where the higher octets repeat the lowest one.
-/

namespace PyAuth.Hardware

open Support

/-! ## The code -/

/-- Octets as they are written in a MAC address. -/
def colonHex (octets : List ℕ) : String :=
  ":".intercalate (octets.map fun octet : ℕ => Python.format02x octet)

/-- `_normalize_mac_colon_lower`. -/
def normalizeMacColonLower (addr : String) : Option String :=
  if addr = "" then none
  else
    let s := (Python.strip addr).toLower.toList.map fun c =>
      if c = '-' then ':' else c
    let parts := (s.splitOn ':').filter fun p => p ≠ []
    if parts.length ≠ 6 then none
    else
      match parts.mapM fun p => (Python.intOfHex (.ofList p)).toOption with
      | none => none
      | some values =>
          let out := ":".intercalate (values.map Python.format02x)
          if out = "00:00:00:00:00:00" then none else some out

/-- `_mac_from_uuid_node`. -/
def macFromUuidNode (node : ℕ) : Option String :=
  if (node >>> 40) &&& 1 ≠ 0 then none
  else
    let octets := ((List.range' 0 6 2).map fun elements : ℕ =>
      Python.format02x ((node >>> elements) &&& 0xFF : ℕ)).reverse
    normalizeMacColonLower (":".intercalate octets)

/-- `get_mac_address`, where `mac` is that of the preferred network card. -/
def getMacAddress (mac : Option String) (node : ℕ) : Option String :=
  match mac with
  | some mac => if mac ≠ "" then some mac else macFromUuidNode node
  | none => macFromUuidNode node

/-! ## Octets -/

theorem toList_toLower (s : String) :
    s.toLower.toList = s.toList.map Char.toLower :=
  String.toList_map

section

variable {octets octets' : List ℕ}

theorem toList_colonHex (octets : List ℕ) :
    (colonHex octets).toList =
      [':'].intercalate (octets.map fun octet : ℕ =>
        (Python.format02x octet).toList) := by
  rw [colonHex, String.toList_intercalate, List.map_map]
  rfl

theorem splitOn_colonHex (h : ∀ octet ∈ octets, octet < 256)
    (hne : octets ≠ []) :
    (colonHex octets).toList.splitOn ':' =
      octets.map fun octet : ℕ => (Python.format02x octet).toList := by
  rw [toList_colonHex, List.splitOn_intercalate]
  · intro cs hcs hmem
    obtain ⟨octet, hoctet, rfl⟩ := List.mem_map.mp hcs
    exact (Python.mem_format02x (h octet hoctet) hmem).2.2.2 rfl
  · simpa using hne

theorem mem_colonHex (h : ∀ octet ∈ octets, octet < 256) {c : Char}
    (hc : c ∈ (colonHex octets).toList) :
    Python.isSpace c = false ∧ c.toLower = c ∧ c ≠ '-' := by
  induction octets with
  | nil => simp [colonHex] at hc
  | cons octet octets ih =>
      have hoctet : c ∈ (Python.format02x octet).toList →
          Python.isSpace c = false ∧ c.toLower = c ∧ c ≠ '-' := fun hc =>
        have hmem := Python.mem_format02x (h octet List.mem_cons_self) hc
        ⟨hmem.1, hmem.2.1, hmem.2.2.1⟩
      by_cases hnil : octets = []
      · subst hnil
        rw [colonHex, List.map_singleton, String.intercalate_singleton] at hc
        exact hoctet hc
      · rw [colonHex, List.map_cons, String.intercalate_cons_of_ne_nil
          (by simpa using hnil)] at hc
        rw [String.toList_append, String.toList_append, List.mem_append,
          List.mem_append] at hc
        rcases hc with (hc | hc) | hc
        · exact hoctet hc
        · obtain rfl : c = ':' := by simpa using hc
          decide
        · exact ih (fun octet ho => h octet (List.mem_cons_of_mem _ ho)) hc

/-- The parts of an address are read as its octets. -/
theorem intOfHex_parts (h : ∀ octet ∈ octets, octet < 256) :
    (octets.map fun octet : ℕ => (Python.format02x octet).toList).map (fun p =>
        (Python.intOfHex (.ofList p)).toOption) =
      octets.map fun octet : ℕ => some (octet : ℤ) := by
  rw [List.map_map]
  apply List.map_congr_left
  intro octet hoctet
  rw [Function.comp_apply, String.ofList_toList,
    Python.intOfHex_format02x (h octet hoctet)]
  rfl

theorem colonHex_injective (h : ∀ octet ∈ octets, octet < 256)
    (h' : ∀ octet ∈ octets', octet < 256) (hne : octets ≠ [])
    (hne' : octets' ≠ []) (heq : colonHex octets = colonHex octets') :
    octets = octets' := by
  have hsplit := congrArg (fun s : String => (s.toList.splitOn ':').map fun p =>
    (Python.intOfHex (.ofList p)).toOption) heq
  simp only [splitOn_colonHex h hne, splitOn_colonHex h' hne',
    intOfHex_parts h, intOfHex_parts h'] at hsplit
  refine List.map_injective_iff.mpr (fun m n hmn => ?_) hsplit
  simpa using hmn

theorem mapM_eq_some_of_map_eq {α β : Type} {f : α → Option β} {xs : List α}
    {ys : List β} (h : xs.map f = ys.map some) : xs.mapM f = some ys := by
  induction xs generalizing ys with
  | nil =>
      obtain rfl : ys = [] := by simpa using h.symm
      rfl
  | cons x xs ih =>
      cases ys with
      | nil => simp at h
      | cons y ys =>
          rw [List.map_cons, List.map_cons, List.cons.injEq] at h
          rw [List.mapM_cons, h.1, ih h.2]
          rfl

/-- The normaliser keeps an address of six octets, unless all are zero. -/
theorem normalizeMacColonLower_colonHex (h : ∀ octet ∈ octets, octet < 256)
    (hlength : octets.length = 6) :
    normalizeMacColonLower (colonHex octets) =
      if octets = [0, 0, 0, 0, 0, 0] then none
      else some (colonHex octets) := by
  have hne : octets ≠ [] := by
    rintro rfl
    cases hlength
  have hstrip : Python.strip (colonHex octets) = colonHex octets := by
    have hself := Support.strip_eq_self fun c hc => (mem_colonHex h (c := c) hc).1
    rwa [String.ofList_toList] at hself
  have hchars : ((colonHex octets).toLower.toList.map fun c =>
      if c = '-' then ':' else c) = (colonHex octets).toList := by
    rw [toList_toLower, List.map_map]
    refine (List.map_congr_left fun c hc => ?_).trans (List.map_id _)
    obtain ⟨-, hlower, hdash⟩ := mem_colonHex h hc
    rw [Function.comp_apply, hlower, if_neg hdash, id]
  have hparts : ((octets.map fun octet : ℕ =>
      (Python.format02x octet).toList).filter fun p => p ≠ []) =
        octets.map fun octet : ℕ => (Python.format02x octet).toList := by
    rw [List.filter_eq_self]
    intro p hp
    obtain ⟨octet, hoctet, rfl⟩ := List.mem_map.mp hp
    simpa using Python.format02x_ne_nil (h octet hoctet)
  have hblank : colonHex octets ≠ "" := by
    intro hblank
    have hsplit := splitOn_colonHex h hne
    have hlengths := congrArg List.length hsplit
    rw [hblank, List.length_map, hlength] at hlengths
    cases hlengths
  have hread : (octets.map fun octet : ℕ =>
      (Python.format02x octet).toList).mapM (fun p =>
        (Python.intOfHex (.ofList p)).toOption) =
      some (octets.map fun octet : ℕ => (octet : ℤ)) := by
    apply mapM_eq_some_of_map_eq
    rw [intOfHex_parts h, List.map_map]
    rfl
  rw [normalizeMacColonLower, if_neg hblank]
  simp only [hstrip, hchars, splitOn_colonHex h hne, hparts, List.length_map,
    hlength, hread, ne_eq, not_true, if_false, List.map_map]
  change (if colonHex octets = colonHex [0, 0, 0, 0, 0, 0] then _ else _) = _
  congr 1
  rw [eq_iff_iff]
  refine ⟨fun heq => ?_, fun heq => by rw [heq]⟩
  exact colonHex_injective h (by decide) hne (by decide) heq

end

/-! ## The octets of a node -/

section

variable {node node' : ℕ}

/-- The octets found at some shifts. -/
def octetsAt (shifts : List ℕ) (node : ℕ) : List ℕ :=
  shifts.map fun k => node / 2 ^ k % 256

/-- The six octets of a 48-bit value, most significant first. -/
def nodeOctets (node : ℕ) : List ℕ := octetsAt [40, 32, 24, 16, 8, 0] node

/-- The MAC address of a node. -/
def nodeAddress (node : ℕ) : String := colonHex (nodeOctets node)

/-- The 48-bit value with these octets, most significant first. -/
def nodeOf (a b c d e f : ℕ) : ℕ :=
  a * 2 ^ 40 + b * 2 ^ 32 + c * 2 ^ 24 + d * 2 ^ 16 + e * 2 ^ 8 + f

/-- The value whose higher octets repeat the upper six bits of its lowest
octet `f`. -/
def repeatedNode (f : ℕ) : ℕ :=
  let x := f / 4
  let twice := x + x % 4 * 64
  let turned := x / 4 + x % 16 * 16
  nodeOf turned twice (x / 16 + x * 4) turned twice f

theorem lt_of_mem_octetsAt {shifts : List ℕ} {octet : ℕ}
    (h : octet ∈ octetsAt shifts node) : octet < 256 := by
  obtain ⟨k, -, rfl⟩ := List.mem_map.mp h
  exact Nat.mod_lt _ (by decide)

/-- What the code makes of a value whose multicast bit is clear. -/
theorem macFromUuidNode_eq (hbit : node.testBit 40 = false) :
    macFromUuidNode node =
      if octetsAt [10, 8, 6, 4, 2, 0] node = [0, 0, 0, 0, 0, 0] then none
      else some (colonHex (octetsAt [10, 8, 6, 4, 2, 0] node)) := by
  have hclear : (node >>> 40) &&& 1 = 0 := by
    rw [Nat.testBit, bne_eq_false_iff_eq, Nat.and_comm] at hbit
    exact hbit
  have hoctet (k : ℕ) : (node >>> k) &&& 0xFF = node / 2 ^ k % 256 := by
    rw [Nat.shiftRight_eq_div_pow]
    exact Nat.and_two_pow_sub_one_eq_mod _ 8
  have hoctets : ((List.range' 0 6 2).map fun elements : ℕ =>
      Python.format02x ((node >>> elements) &&& 0xFF : ℕ)).reverse =
        (octetsAt [10, 8, 6, 4, 2, 0] node).map fun octet : ℕ =>
          Python.format02x octet := by
    simp only [hoctet]
    rfl
  rw [macFromUuidNode, if_neg (by simp [hclear])]
  simp only [hoctets]
  rw [← colonHex]
  exact normalizeMacColonLower_colonHex (fun _ h => lt_of_mem_octetsAt h)
    (by simp [octetsAt])

/-- A 48-bit value is made of its octets. -/
theorem exists_octets (hlt : node < 2 ^ 48) :
    ∃ a b c d e f : ℕ, a < 256 ∧ b < 256 ∧ c < 256 ∧ d < 256 ∧ e < 256 ∧
      f < 256 ∧ node = nodeOf a b c d e f := by
  refine ⟨node / 2 ^ 40, node / 2 ^ 32 % 256, node / 2 ^ 24 % 256,
    node / 2 ^ 16 % 256, node / 2 ^ 8 % 256, node % 256, ?_⟩
  rw [nodeOf]
  omega

theorem nodeOctets_nodeOf {a b c d e f : ℕ} (ha : a < 256) (hb : b < 256)
    (hc : c < 256) (hd : d < 256) (he : e < 256) (hf : f < 256) :
    nodeOctets (nodeOf a b c d e f) = [a, b, c, d, e, f] := by
  simp only [nodeOctets, octetsAt, nodeOf, List.map_cons, List.map_nil,
    List.cons.injEq, and_true]
  refine ⟨?_, ?_, ?_, ?_, ?_, ?_⟩ <;> omega

/-- The shifts of the code read two neighbouring octets each. -/
theorem octetsAt_nodeOf {a b c d e f : ℕ} (he : e < 256) (hf : f < 256) :
    octetsAt [10, 8, 6, 4, 2, 0] (nodeOf a b c d e f) =
      [e / 4 + d % 4 * 64, e, f / 64 + e % 64 * 4, f / 16 + e % 16 * 16,
        f / 4 + e % 4 * 64, f] := by
  simp only [octetsAt, nodeOf, List.map_cons, List.map_nil, List.cons.injEq,
    and_true]
  refine ⟨?_, ?_, ?_, ?_, ?_, ?_⟩ <;> omega

theorem nodeOf_mod {a b c d e f : ℕ} (hf : f < 256) :
    nodeOf a b c d e f % 256 = f := by
  rw [nodeOf]
  omega

theorem nodeOf_inj {a b c d e f a' b' c' d' e' f' : ℕ} (ha : a < 256)
    (hb : b < 256) (hc : c < 256) (hd : d < 256) (he : e < 256) (hf : f < 256)
    (ha' : a' < 256) (hb' : b' < 256) (hc' : c' < 256) (hd' : d' < 256)
    (he' : e' < 256) (hf' : f' < 256)
    (h : nodeOf a b c d e f = nodeOf a' b' c' d' e' f') :
    a = a' ∧ b = b' ∧ c = c' ∧ d = d' ∧ e = e' ∧ f = f' := by
  have hoctets := congrArg nodeOctets h
  rw [nodeOctets_nodeOf ha hb hc hd he hf,
    nodeOctets_nodeOf ha' hb' hc' hd' he' hf'] at hoctets
  simpa using hoctets

/-- The octets which repeat the lowest octet `f` are stable under the shifts. -/
theorem repeated_octets {f : ℕ} (hf : f < 256) :
    let twice := f / 4 + f / 4 % 4 * 64
    let turned := f / 4 / 4 + f / 4 % 16 * 16
    f / 4 + twice % 4 * 64 = twice ∧ f / 16 + twice % 16 * 16 = turned ∧
      f / 64 + twice % 64 * 4 = f / 4 / 16 + f / 4 * 4 ∧
      twice / 4 + turned % 4 * 64 = turned ∧ twice < 256 ∧ turned < 256 ∧
      f / 4 / 16 + f / 4 * 4 < 256 := by
  have hall : ∀ f : Fin 256,
      let twice := f.val / 4 + f.val / 4 % 4 * 64
      let turned := f.val / 4 / 4 + f.val / 4 % 16 * 16
      f.val / 4 + twice % 4 * 64 = twice ∧
        f.val / 16 + twice % 16 * 16 = turned ∧
        f.val / 64 + twice % 64 * 4 = f.val / 4 / 16 + f.val / 4 * 4 ∧
        twice / 4 + turned % 4 * 64 = turned ∧ twice < 256 ∧ turned < 256 ∧
        f.val / 4 / 16 + f.val / 4 * 4 < 256 := by
    decide +kernel
  exact hall ⟨f, hf⟩

/-- The octets of the code are those of the node when the higher ones repeat
the lowest one. -/
theorem octetsAt_eq_nodeOctets_iff (hlt : node < 2 ^ 48) :
    octetsAt [10, 8, 6, 4, 2, 0] node = nodeOctets node ↔
      node = repeatedNode (node % 256) := by
  obtain ⟨a, b, c, d, e, f, ha, hb, hc, hd, he, hf, rfl⟩ := exists_octets hlt
  obtain ⟨h₁, h₂, h₃, h₄, htwice, hturned, hthird⟩ := repeated_octets hf
  rw [octetsAt_nodeOf he hf, nodeOctets_nodeOf ha hb hc hd he hf,
    nodeOf_mod hf]
  simp only [repeatedNode, List.cons.injEq, and_true]
  constructor
  · rintro ⟨rfl, rfl, rfl, rfl, hlast⟩
    -- The lowest octet fixes the next one, and these two the others.
    have hnext : e = f / 4 + f / 4 % 4 * 64 := by omega
    subst hnext
    simp only [h₂, h₃, h₄]
  · intro h
    obtain ⟨rfl, rfl, rfl, rfl, rfl, -⟩ := nodeOf_inj ha hb hc hd he hf
      hturned htwice hthird hturned htwice hf h
    exact ⟨h₄, rfl, h₃, h₂, h₁⟩

theorem nodeOctets_injective (hlt : node < 2 ^ 48) (hlt' : node' < 2 ^ 48)
    (h : nodeOctets node = nodeOctets node') : node = node' := by
  obtain ⟨a, b, c, d, e, f, ha, hb, hc, hd, he, hf, rfl⟩ := exists_octets hlt
  obtain ⟨a', b', c', d', e', f', ha', hb', hc', hd', he', hf', rfl⟩ :=
    exists_octets hlt'
  rw [nodeOctets_nodeOf ha hb hc hd he hf,
    nodeOctets_nodeOf ha' hb' hc' hd' he' hf'] at h
  simp only [List.cons.injEq, and_true] at h
  obtain ⟨rfl, rfl, rfl, rfl, rfl, rfl⟩ := h
  rfl

/-- A value which repeats its lowest octet is zero with the octets of the
code. -/
theorem octetsAt_ne_zero (hlt : node < 2 ^ 48) (hne : node ≠ 0)
    (hrepeats : node = repeatedNode (node % 256)) :
    octetsAt [10, 8, 6, 4, 2, 0] node ≠ [0, 0, 0, 0, 0, 0] := by
  rw [(octetsAt_eq_nodeOctets_iff hlt).mpr hrepeats]
  intro hzero
  apply hne
  apply nodeOctets_injective hlt (by norm_num)
  rw [hzero]
  simp [nodeOctets, octetsAt]

end

/-- **When the fallback is the MAC address of the node.**  A value whose
multicast bit is clear gives its own address if and only if its higher octets
repeat the lowest one. -/
theorem mac_of_node_iff (node : ℕ) (hlt : node < 2 ^ 48) (hne : node ≠ 0)
    (hbit : node.testBit 40 = false) :
    macFromUuidNode node = some (nodeAddress node) ↔
      node = repeatedNode (node % 256) := by
  rw [macFromUuidNode_eq hbit]
  constructor
  · intro h
    split at h
    · cases h
    · apply (octetsAt_eq_nodeOctets_iff hlt).mp
      exact colonHex_injective (fun _ h => lt_of_mem_octetsAt h)
        (fun _ h => lt_of_mem_octetsAt h) (by simp [octetsAt])
        (by simp [nodeOctets, octetsAt]) (Option.some.inj h)
  · intro h
    rw [if_neg (octetsAt_ne_zero hlt hne h),
      (octetsAt_eq_nodeOctets_iff hlt).mpr h, nodeAddress]

theorem mac_of_node_iff_repeated :
    macFromUuidNode 0x104104104104 = some (nodeAddress 0x104104104104) ↔
      0x104104104104 = repeatedNode (0x104104104104 % 256) :=
  mac_of_node_iff 0x104104104104 (by norm_num) (by norm_num)
    (by decide +kernel)

/-- Only the lowest 18 bits of a node are read. -/
theorem macFromUuidNode_eq_of_mod_eq {node node' : ℕ}
    (hbit : node.testBit 40 = false) (hbit' : node'.testBit 40 = false)
    (h : node % 2 ^ 18 = node' % 2 ^ 18) :
    macFromUuidNode node = macFromUuidNode node' := by
  have hoctets : octetsAt [10, 8, 6, 4, 2, 0] node =
      octetsAt [10, 8, 6, 4, 2, 0] node' := by
    simp only [octetsAt, List.map_cons, List.map_nil, List.cons.injEq,
      and_true]
    refine ⟨?_, ?_, ?_, ?_, ?_, ?_⟩ <;> omega
  rw [macFromUuidNode_eq hbit, macFromUuidNode_eq hbit', hoctets]

/-- Two nodes with different addresses get one address, which is that of
neither. -/
theorem two_nodes_with_one_mac :
    nodeAddress 0x0242ac110002 = "02:42:ac:11:00:02" ∧
      macFromUuidNode 0x0242ac110002 = some "40:00:00:00:00:02" ∧
      nodeAddress 0x001c42110002 = "00:1c:42:11:00:02" ∧
      macFromUuidNode 0x001c42110002 = some "40:00:00:00:00:02" := by
  decide +kernel

end PyAuth.Hardware
