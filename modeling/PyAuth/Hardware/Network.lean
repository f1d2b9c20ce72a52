import Mathlib.Data.List.Find
import PyAuth.Go.StateBundle
import PyAuth.Hardware.Mac
import PyAuth.Support.StableSort
import PyAuth.Support.Utf8

/-!
# The network card

Every SDK sorts the network cards by a score and takes the first one that has
both addresses, or else the best addresses of different cards.  The scores
differ between the languages for cards without a MAC address only, and no pass
over the list compares such a card with one that has a MAC address.
-/

namespace PyAuth.Hardware

open Support

/-! ## The code -/

def startsWith (s start : String) : Bool := start.toList.isPrefixOf s.toList

/-- The vendor parts of virtual network cards. -/
def virtualMacPrefixes : List String :=
  ["005056", "000c29", "000569", "001c14", "080027", "00155d", "525400"]

/-- The test of the vendor part `m`; the languages measure it in characters,
bytes or UTF-16 units. -/
def hasVirtualPrefix (len : String → ℕ) (m : String) : Bool :=
  if len m < 6 then false
  else virtualMacPrefixes.any fun p => startsWith m p

/-- The part of a score that depends on the IP address. -/
def ipScore (ip : String) : ℤ :=
  if ip = "" then 0
  else 40 - (if startsWith ip "169.254." then 25 else 0) -
    if startsWith ip "192.168.117." then 50 else 0

/-- A network card in Go and TypeScript, where a missing address is blank. -/
structure NetworkCard where
  mac : String
  ip : String
deriving DecidableEq

/-- The passes over the sorted cards. -/
def preferredCard (isVirtual : String → Bool) (clean : String → String)
    (cards : List NetworkCard) : NetworkCard :=
  match cards.find? fun c =>
      c.mac ≠ "" ∧ c.ip ≠ "" ∧ startsWith c.ip "127." = false with
  | some c => ⟨clean c.mac, c.ip⟩
  | none =>
      match cards.find? fun c => c.mac ≠ "" ∧ c.ip ≠ "" with
      | some c => ⟨clean c.mac, c.ip⟩
      | none =>
          let ip := ((cards.find? fun c =>
            c.ip ≠ "" ∧ startsWith c.ip "127." = false ∧
              startsWith c.ip "169.254." = false).map (·.ip)).getD ""
          let mac := ((cards.find? fun c =>
            c.mac ≠ "" ∧ isVirtual c.mac = false).map
              (clean ·.mac)).getD ""
          if mac = "" then
            ⟨((cards.find? fun c => c.mac ≠ "").map (clean ·.mac)).getD "", ip⟩
          else ⟨mac, ip⟩

/-- The cards with the highest scores first; all three sorts are stable. -/
def sortByScore {α : Type} (score : α → ℤ) (cards : List α) : List α :=
  cards.insertionSort fun a b => score b ≤ score a

namespace Python

/-- A network card in Python, where a missing address is `None`. -/
structure Endpoint where
  mac : Option String
  ip : Option String

def truthy (s : Option String) : Bool := s.getD "" ≠ ""

/-- `_is_probably_virtual_mac`. -/
def isProbablyVirtualMac (mac : String) : Bool :=
  hasVirtualPrefix String.length (.ofList
    (mac.toLower.toList.filter fun c => c ≠ ':' ∧ c ≠ '-'))

/-- `_network_endpoint_score`. -/
def networkEndpointScore (e : Endpoint) : ℤ :=
  (if truthy e.ip then ipScore (e.ip.getD "") else 0) +
    (if truthy e.mac then 10 else 0) +
    if truthy e.mac ∧ isProbablyVirtualMac (e.mac.getD "") = false then 100
    else 0

/-- The passes over the sorted cards. -/
def preferredEndpoint (candidates : List Endpoint) : Endpoint :=
  match candidates.find? fun e =>
      truthy e.mac ∧ truthy e.ip ∧
        startsWith (e.ip.getD "") "127." = false with
  | some e => e
  | none =>
      match candidates.find? fun e => truthy e.mac ∧ truthy e.ip with
      | some e => e
      | none =>
          let bestIp := (candidates.find? fun e =>
            truthy e.ip ∧ startsWith (e.ip.getD "") "127." = false ∧
              startsWith (e.ip.getD "") "169.254." = false).bind (·.ip)
          match (candidates.find? fun e => truthy e.mac ∧
              isProbablyVirtualMac (e.mac.getD "") = false).bind (·.mac) with
          | some bestMac => ⟨some bestMac, bestIp⟩
          | none =>
              ⟨(candidates.find? fun e => truthy e.mac).bind (·.mac), bestIp⟩

/-- `_preferred_mac_and_ipv4`, before the hint fills a missing address. -/
def preferredMacAndIpv4 (endpoints : List Endpoint) : Endpoint :=
  preferredEndpoint (sortByScore networkEndpointScore endpoints)

/-- The card as the other languages see it. -/
def Endpoint.card (e : Endpoint) : NetworkCard := ⟨e.mac.getD "", e.ip.getD ""⟩

end Python

namespace Go

def isProbablyVirtualMAC (mac : String) : Bool :=
  hasVirtualPrefix utf8Length
    (String.ofList (mac.toList.filter fun c => c ≠ ':')).toLower

def networkIfaceScore (n : NetworkCard) : ℤ :=
  ipScore n.ip + (if n.mac ≠ "" then 10 else 0) +
    if isProbablyVirtualMAC n.mac = false then 100 else 0

def preferredNetworkEndpoint (list : List NetworkCard) : NetworkCard :=
  preferredCard isProbablyVirtualMAC (fun mac => (Go.trimSpace mac).toLower)
    (sortByScore networkIfaceScore list)

end Go

namespace TypeScript

def isProbablyVirtualMac (mac : String) : Bool :=
  hasVirtualPrefix utf16Length (.ofList
    (mac.toLower.toList.filter fun c => c ≠ ':' ∧ c ≠ '-'))

def networkEndpointScore (c : NetworkCard) : ℤ :=
  ipScore c.ip + (if c.mac ≠ "" then 10 else 0) +
    if c.mac ≠ "" ∧ isProbablyVirtualMac c.mac = false then 100 else 0

/-- `preferredMacAndIpv4`, before the hint fills a missing address. -/
def preferredMacAndIpv4 (cands : List NetworkCard) : NetworkCard :=
  preferredCard isProbablyVirtualMac id (sortByScore networkEndpointScore cands)

end TypeScript

/-! ## Virtual cards -/

/-- An address in lower-case colon form; the blank one has no octets. -/
def ColonForm (mac : String) : Prop :=
  ∃ octets : List ℕ, (∀ octet ∈ octets, octet < 256) ∧ mac = colonHex octets

/-- The test of the length never changes the answer. -/
theorem hasVirtualPrefix_eq {len : String → ℕ} {m : String}
    (hlen : m.length ≤ len m) :
    hasVirtualPrefix len m = virtualMacPrefixes.any fun p => startsWith m p := by
  rw [hasVirtualPrefix]
  split
  · next hshort =>
      symm
      rw [List.any_eq_false]
      intro p hp hstart
      have hsix : ∀ p ∈ virtualMacPrefixes, p.toList.length = 6 := by decide
      have hle := (List.isPrefixOf_iff_prefix.mp hstart).length_le
      rw [hsix p hp, String.length_toList] at hle
      omega
  · rfl

theorem toLower_eq_self {s : String} (h : ∀ c ∈ s.toList, c.toLower = c) :
    s.toLower = s := by
  apply String.toList_injective
  rw [toList_toLower]
  exact (List.map_congr_left h).trans (List.map_id _)

section

variable {mac : String}

theorem ColonForm.char (h : ColonForm mac) {c : Char} (hc : c ∈ mac.toList) :
    Python.isSpace c = false ∧ c.toLower = c ∧ c ≠ '-' := by
  obtain ⟨octets, hoctets, rfl⟩ := h
  exact mem_colonHex hoctets hc

/-- There is nothing to clean in an address. -/
theorem ColonForm.clean (h : ColonForm mac) :
    (PyAuth.Go.trimSpace mac).toLower = mac := by
  have hstrip : PyAuth.Go.trimSpace mac = mac := by
    have hself := strip_eq_self fun c hc =>
      PyAuth.Go.isSpace_of_python (h.char (c := c) hc).1
    rwa [String.ofList_toList] at hself
  rw [hstrip, toLower_eq_self fun c hc => (h.char hc).2.1]

/-- Removing the colons of an address and writing it in lower case commute, and
there is no dash to remove. -/
theorem ColonForm.isProbablyVirtual (h : ColonForm mac) :
    Python.isProbablyVirtualMac mac = Go.isProbablyVirtualMAC mac ∧
      TypeScript.isProbablyVirtualMac mac = Go.isProbablyVirtualMAC mac := by
  have hlower : mac.toLower = mac :=
    toLower_eq_self fun c hc => (h.char hc).2.1
  have hdigits : (String.ofList (mac.toList.filter fun c => c ≠ ':')).toLower =
      String.ofList (mac.toList.filter fun c => c ≠ ':') := by
    apply toLower_eq_self
    intro c hc
    rw [String.toList_ofList] at hc
    exact (h.char (List.mem_of_mem_filter hc)).2.1
  have hfilter : (mac.toList.filter fun c => c ≠ ':' ∧ c ≠ '-') =
      mac.toList.filter fun c => c ≠ ':' := by
    apply List.filter_congr
    intro c hc
    simp [(h.char hc).2.2]
  rw [Python.isProbablyVirtualMac, TypeScript.isProbablyVirtualMac,
    Go.isProbablyVirtualMAC, hlower, hdigits, hfilter,
    hasVirtualPrefix_eq le_rfl,
    hasVirtualPrefix_eq (length_le_utf8Length _),
    hasVirtualPrefix_eq (length_le_utf16Length _)]
  exact ⟨rfl, rfl⟩

end

/-! ## The scores -/

theorem Go.isProbablyVirtualMAC_blank : Go.isProbablyVirtualMAC "" = false := by
  decide +kernel

/-- Go adds 100 points to a card without a MAC address. -/
theorem networkIfaceScore_eq {c : NetworkCard} (h : ColonForm c.mac) :
    Go.networkIfaceScore c = TypeScript.networkEndpointScore c +
      if c.mac = "" then 100 else 0 := by
  rw [Go.networkIfaceScore, TypeScript.networkEndpointScore,
    h.isProbablyVirtual.2]
  by_cases hmac : c.mac = ""
  · simp [hmac, Go.isProbablyVirtualMAC_blank]
  · simp [hmac]

theorem networkEndpointScore_card {e : Python.Endpoint}
    (h : ColonForm e.card.mac) :
    Python.networkEndpointScore e = TypeScript.networkEndpointScore e.card := by
  have hvirtual : Python.isProbablyVirtualMac e.card.mac =
      TypeScript.isProbablyVirtualMac e.card.mac :=
    h.isProbablyVirtual.1.trans h.isProbablyVirtual.2.symm
  have hmac : Python.truthy e.mac = true ↔ e.card.mac ≠ "" := by
    simp [Python.truthy, Python.Endpoint.card]
  have hip : (if Python.truthy e.ip then ipScore e.card.ip else 0) =
      ipScore e.card.ip := by
    split
    · rfl
    · next hblank =>
        have hblank : e.card.ip = "" := by
          simpa [Python.truthy, Python.Endpoint.card] using hblank
        rw [hblank, ipScore, if_pos rfl]
  rw [Python.networkEndpointScore, TypeScript.networkEndpointScore, ← hvirtual,
    ← hip, if_congr hmac rfl rfl, if_congr (and_congr hmac Iff.rfl) rfl rfl]
  rfl

/-- Cards which all have a MAC address, or all have none, come in one order. -/
theorem find?_sortByScore {cards : List NetworkCard} {p : NetworkCard → Bool}
    (h : ∀ c ∈ cards, ColonForm c.mac)
    (hp : ∀ c ∈ cards, ∀ d ∈ cards, p c = true → p d = true →
      (c.mac = "" ↔ d.mac = "")) :
    (sortByScore TypeScript.networkEndpointScore cards).find? p =
      (sortByScore Go.networkIfaceScore cards).find? p := by
  apply find?_insertionSort_eq
  intro c hc d hd hpc hpd
  rw [networkIfaceScore_eq (h c hc), networkIfaceScore_eq (h d hd)]
  simp only [hp c hc d hd hpc hpd]
  omega

/-! ## The passes -/

section

variable {isVirtual isVirtual' : String → Bool} {clean clean' : String → String}
variable {cards : List NetworkCard}

/-- What the passes over a list depend on. -/
theorem preferredCard_congr
    (hvirtual : ∀ c ∈ cards, isVirtual c.mac = isVirtual' c.mac)
    (hclean : ∀ c ∈ cards, clean c.mac = clean' c.mac) :
    preferredCard isVirtual clean cards =
      preferredCard isVirtual' clean' cards := by
  have hreal : (cards.find? fun c => c.mac ≠ "" ∧ isVirtual c.mac = false) =
      cards.find? fun c => c.mac ≠ "" ∧ isVirtual' c.mac = false := by
    apply List.find?_congr
    intro c hc
    rw [hvirtual c hc]
  have hmap (p : NetworkCard → Bool) :
      (cards.find? p).map (clean ·.mac) = (cards.find? p).map (clean' ·.mac) :=
    Option.map_congr fun c hc => hclean c (List.mem_of_find?_eq_some hc)
  rw [preferredCard, preferredCard, hreal]
  simp only [hmap]
  split
  · next c hfind => rw [hclean c (List.mem_of_find?_eq_some hfind)]
  · split
    · next c hfind => rw [hclean c (List.mem_of_find?_eq_some hfind)]
    · rfl

/-- The passes find the same cards in both orders. -/
theorem preferredCard_sortByScore (h : ∀ c ∈ cards, ColonForm c.mac) :
    preferredCard isVirtual clean
        (sortByScore TypeScript.networkEndpointScore cards) =
      preferredCard isVirtual clean
        (sortByScore Go.networkIfaceScore cards) := by
  have hmac (p : NetworkCard → Bool) (hp : ∀ c, p c = true → c.mac ≠ "") :
      (sortByScore TypeScript.networkEndpointScore cards).find? p =
        (sortByScore Go.networkIfaceScore cards).find? p :=
    find?_sortByScore h fun c _ d _ hc hd =>
      iff_of_false (hp c hc) (hp d hd)
  have h₁ := hmac (fun c =>
    c.mac ≠ "" ∧ c.ip ≠ "" ∧ startsWith c.ip "127." = false)
      (by simp +contextual)
  have h₂ := hmac (fun c => c.mac ≠ "" ∧ c.ip ≠ "") (by simp +contextual)
  have h₃ := hmac (fun c => c.mac ≠ "" ∧ isVirtual c.mac = false)
    (by simp +contextual)
  have h₄ := hmac (fun c => c.mac ≠ "") (by simp)
  rw [preferredCard, preferredCard, h₁, h₂, h₃, h₄]
  cases hboth : (sortByScore Go.networkIfaceScore cards).find? fun c =>
      c.mac ≠ "" ∧ c.ip ≠ "" with
  | some c => rfl
  | none =>
      -- From here on a card with an IP address has no MAC address.
      have hblank : ∀ c ∈ cards, c.ip ≠ "" → c.mac = "" := by
        intro c hc hip
        have hnot := List.find?_eq_none.mp hboth c (by
          rw [sortByScore, List.mem_insertionSort]
          exact hc)
        by_contra hmac
        exact hnot (by simp [hmac, hip])
      have h₅ := find?_sortByScore h (fun c hc d hd hpc hpd => by
        simp only [decide_eq_true_eq] at hpc hpd
        exact iff_of_true (hblank c hc hpc.1) (hblank d hd hpd.1) :
          ∀ c ∈ cards, ∀ d ∈ cards,
            (fun c : NetworkCard => decide (c.ip ≠ "" ∧
              startsWith c.ip "127." = false ∧
                startsWith c.ip "169.254." = false)) c = true → _ → _)
      rw [h₅]

/-- The choice of TypeScript is that of Go. -/
theorem preferredMacAndIpv4_eq (h : ∀ c ∈ cards, ColonForm c.mac) :
    TypeScript.preferredMacAndIpv4 cards = Go.preferredNetworkEndpoint cards := by
  rw [TypeScript.preferredMacAndIpv4, Go.preferredNetworkEndpoint,
    preferredCard_sortByScore h]
  apply preferredCard_congr
  · intro c hc
    rw [sortByScore, List.mem_insertionSort] at hc
    exact (h c hc).isProbablyVirtual.2
  · intro c hc
    rw [sortByScore, List.mem_insertionSort] at hc
    exact (h c hc).clean.symm

end

section

variable {endpoints : List Python.Endpoint}

theorem truthy_iff (s : Option String) :
    Python.truthy s = true ↔ s.getD "" ≠ "" := by
  simp [Python.truthy]

theorem find?_map_card (endpoints : List Python.Endpoint)
    (P : NetworkCard → Prop) (Q : Python.Endpoint → Prop) [DecidablePred P]
    [DecidablePred Q]
    (hPQ : ∀ e ∈ endpoints, (P e.card ↔ Q e)) :
    ((endpoints.map (·.card)).find? fun c => P c) =
      (endpoints.find? fun e => Q e).map (·.card) := by
  rw [List.find?_map]
  exact congrArg _ (List.find?_congr fun e he => decide_eq_decide.mpr (hPQ e he))

/-- A part of what was found, if anything was. -/
theorem getD_map_getD (part : Python.Endpoint → Option String)
    (found : Option Python.Endpoint) :
    (found.map fun e => (part e).getD "").getD "" =
      (found.bind part).getD "" := by
  rcases found with _ | e
  · rfl
  · rfl

/-- The passes of Python are those of the other languages. -/
theorem preferredEndpoint_card {isVirtual : String → Bool}
    (h : ∀ e ∈ endpoints,
      Python.isProbablyVirtualMac e.card.mac = isVirtual e.card.mac) :
    (Python.preferredEndpoint endpoints).card =
      preferredCard isVirtual id (endpoints.map (·.card)) := by
  have h₁ := find?_map_card endpoints
    (fun c => c.mac ≠ "" ∧ c.ip ≠ "" ∧ startsWith c.ip "127." = false)
    (fun e => Python.truthy e.mac ∧ Python.truthy e.ip ∧
      startsWith (e.ip.getD "") "127." = false)
    (fun e _ => by simp only [truthy_iff, Python.Endpoint.card])
  have h₂ := find?_map_card endpoints (fun c => c.mac ≠ "" ∧ c.ip ≠ "")
    (fun e => Python.truthy e.mac ∧ Python.truthy e.ip)
    (fun e _ => by simp only [truthy_iff, Python.Endpoint.card])
  have h₃ := find?_map_card endpoints
    (fun c => c.ip ≠ "" ∧ startsWith c.ip "127." = false ∧
      startsWith c.ip "169.254." = false)
    (fun e => Python.truthy e.ip ∧ startsWith (e.ip.getD "") "127." = false ∧
      startsWith (e.ip.getD "") "169.254." = false)
    (fun e _ => by simp only [truthy_iff, Python.Endpoint.card])
  have h₄ := find?_map_card endpoints (fun c => c.mac ≠ "" ∧ isVirtual c.mac = false)
    (fun e => Python.truthy e.mac ∧
      Python.isProbablyVirtualMac (e.mac.getD "") = false)
    (fun e he => by
      rw [truthy_iff, ← h e he]
      rfl)
  have h₅ := find?_map_card endpoints (fun c => c.mac ≠ "")
    (fun e => Python.truthy e.mac)
    (fun e _ => by simp only [truthy_iff, Python.Endpoint.card])
  rw [preferredCard, Python.preferredEndpoint, h₁, h₂, h₃, h₄, h₅]
  cases endpoints.find? _ with
  | some e => rfl
  | none =>
      cases endpoints.find? _ with
      | some e => rfl
      | none =>
          cases hreal : endpoints.find? fun e => Python.truthy e.mac ∧
              Python.isProbablyVirtualMac (e.mac.getD "") = false with
          | none =>
              simp only [Option.map_map, Option.map_none, Option.bind_none,
                Option.getD_none, if_true, Bool.decide_eq_true]
              exact congrArg₂ NetworkCard.mk (getD_map_getD (·.mac) _).symm
                (getD_map_getD (·.ip) _).symm
          | some e =>
              have htaken := List.find?_some hreal
              rw [decide_eq_true_eq, truthy_iff] at htaken
              obtain ⟨mac, hmac⟩ : ∃ mac, e.mac = some mac := by
                cases he : e.mac with
                | none => simp [he] at htaken
                | some mac => exact ⟨mac, rfl⟩
              rw [hmac, Option.getD_some] at htaken
              simp only [Option.map_map, Option.map_none, Option.map_some,
                Option.bind_some, Python.Endpoint.card, hmac, Option.getD_some,
                id]
              rw [if_neg htaken.1]
              exact congrArg (NetworkCard.mk mac) (getD_map_getD (·.ip) _).symm

/-- The choice of Python is that of TypeScript. -/
theorem preferredMacAndIpv4_card
    (h : ∀ e ∈ endpoints, ColonForm e.card.mac) :
    (Python.preferredMacAndIpv4 endpoints).card =
      TypeScript.preferredMacAndIpv4 (endpoints.map (·.card)) := by
  have hsort : sortByScore TypeScript.networkEndpointScore
      (endpoints.map (·.card)) =
        (sortByScore Python.networkEndpointScore endpoints).map (·.card) := by
    symm
    apply List.map_insertionSort
    intro e he f hf
    rw [networkEndpointScore_card (h e he), networkEndpointScore_card (h f hf)]
  rw [TypeScript.preferredMacAndIpv4, hsort, Python.preferredMacAndIpv4]
  apply preferredEndpoint_card
  intro e he
  rw [sortByScore, List.mem_insertionSort] at he
  exact (h e he).isProbablyVirtual.1.trans (h e he).isProbablyVirtual.2.symm

end

/-- **The SDKs pick the same network card.** -/
theorem same_network_card (endpoints : List Python.Endpoint)
    (h : ∀ e ∈ endpoints, ColonForm e.card.mac) :
    (Python.preferredMacAndIpv4 endpoints).card =
        Go.preferredNetworkEndpoint (endpoints.map (·.card)) ∧
      TypeScript.preferredMacAndIpv4 (endpoints.map (·.card)) =
        Go.preferredNetworkEndpoint (endpoints.map (·.card)) := by
  have hcards : ∀ c ∈ endpoints.map (·.card), ColonForm c.mac := by
    intro c hc
    obtain ⟨e, he, rfl⟩ := List.mem_map.mp hc
    exact h e he
  exact ⟨(preferredMacAndIpv4_card h).trans (preferredMacAndIpv4_eq hcards),
    preferredMacAndIpv4_eq hcards⟩

theorem same_network_card_two :
    (Python.preferredMacAndIpv4 [⟨none, some "10.0.0.5"⟩,
        ⟨some "52:54:00:00:00:01", some "192.168.1.2"⟩]).card =
      Go.preferredNetworkEndpoint
        [⟨"", "10.0.0.5"⟩, ⟨"52:54:00:00:00:01", "192.168.1.2"⟩] ∧
    TypeScript.preferredMacAndIpv4
        [⟨"", "10.0.0.5"⟩, ⟨"52:54:00:00:00:01", "192.168.1.2"⟩] =
      Go.preferredNetworkEndpoint
        [⟨"", "10.0.0.5"⟩, ⟨"52:54:00:00:00:01", "192.168.1.2"⟩] := by
  refine same_network_card [⟨none, some "10.0.0.5"⟩,
    ⟨some "52:54:00:00:00:01", some "192.168.1.2"⟩] fun e he => ?_
  simp only [List.mem_cons, List.not_mem_nil, or_false] at he
  rcases he with rfl | rfl
  · exact ⟨[], by decide, by decide +kernel⟩
  · exact ⟨[82, 84, 0, 0, 0, 1], by decide, by decide +kernel⟩

end PyAuth.Hardware
