import Pipa.Lib.Ipv4
import Pipa.Lib.Json
import Pipa.Lib.SwiftText

/- The addresses that the phone connects to (`PipaMobileTCPClient.isAllowedHost`) and those
   that the gateway listens on (`validate_mobile_bind_host`).

   The phone reads the octets itself and lets a number be as long as it likes, as long as it
   has no leading zero; then it is at most 255 only if it has at most three digits. Python's
   IPv6 is a parameter; an IPv6 address has a colon. -/
namespace Pipa.Link
open Pipa.Lib

/-! ## The gateway -/

/-- What is used of `ipaddress.IPv6Address`. -/
structure Ipv6 where
  Address : Type
  parse? : PyStr → Option Address
  colon : ∀ s a, parse? s = some a → CodePoint.ofChar ':' ∈ s
  isUnspecified : Address → Bool
  isMulticast : Address → Bool
  isReserved : Address → Bool
  isLoopback : Address → Bool

/-- `ipaddress.ip_address`. -/
def ipAddress (v6 : Ipv6) (s : PyStr) : Option (Ipv4 ⊕ v6.Address) :=
  match Ipv4.parse? s with
  | some a => some (.inl a)
  | none => (v6.parse? s).map .inr

/-- `is_rfc1918`. -/
def isRfc1918 (a : Ipv4) : Bool :=
  a.first.val = 10 || (a.first.val = 172 && 16 ≤ a.second.val && a.second.val ≤ 31) ||
    (a.first.val = 192 && a.second.val = 168)

/-- `validate_mobile_bind_host`; the error is the text of its `ValueError`. -/
def validateMobileBindHost (v6 : Ipv6) (value : Value) : Except String PyStr :=
  match value with
  | .str text =>
    let host := text.strip
    if host.isEmpty then .error "PIPA_MOBILE_BIND must be an explicit IP address"
    else match ipAddress v6 host with
      | none => .error "PIPA_MOBILE_BIND must be a literal IP address"
      | some (.inl a) =>
        if a.isUnspecified || a.isMulticast || (a.isReserved && !a.isLoopback) then
          .error "PIPA_MOBILE_BIND cannot be a wildcard, multicast or reserved address"
        else if a.isLoopback || a.isLinkLocal || isRfc1918 a then .ok host
        else .error "PIPA_MOBILE_BIND must be a loopback or private address"
      | some (.inr a) =>
        if v6.isUnspecified a || v6.isMulticast a || (v6.isReserved a && !v6.isLoopback a) then
          .error "PIPA_MOBILE_BIND cannot be a wildcard, multicast or reserved address"
        else if !v6.isLoopback a then .error "PIPA_MOBILE_BIND must use IPv4 outside loopback"
        else .ok host
  | _ => .error "PIPA_MOBILE_BIND must be an explicit IP address"

/-! ## The phone -/

namespace PipaMobileTCPClient

/-- `Int(text)` of a text of digits: there is none where it does not fit into 64 bits. -/
def int? (s : PyStr) : Option Nat := if Ipv4.numeral s < 2 ^ 63 then some (Ipv4.numeral s) else none

/-- The check of one part. -/
def isOctet (t : SwiftText) (part : PyStr) : Bool :=
  !part.isEmpty && (t.count part = 1 || t.first part ≠ some [CodePoint.ofChar '0']) && part.all CodePoint.isDigit

/-- `isAllowedHost`. -/
def isAllowedHost (t : SwiftText) (host : PyStr) : Bool :=
  if host ≠ t.trim host then false
  else if host = PyStr.ofString "::1" then true
  else
    let parts := t.split [Ipv4.dot] host
    if parts.length ≠ 4 || !parts.all (isOctet t) then false
    else
      match parts.filterMap int? with
      | [first, second, third, fourth] =>
        if [first, second, third, fourth].all (fun octet => octet ≤ 255) then
          first = 10 || first = 127 || (first = 172 && second ≥ 16 && second ≤ 31) ||
            (first = 192 && second = 168) || (first = 169 && second = 254)
        else false
      | _ => false

end PipaMobileTCPClient

/-! ## Octets -/

open PipaMobileTCPClient Ipv4

variable {t : SwiftText} {s : PyStr}

theorem digit_printable {c : CodePoint} (h : c.isDigit = true) : c.isPrintable = true := by
  simp only [CodePoint.isDigit, CodePoint.isPrintable, Bool.and_eq_true, decide_eq_true_eq] at h ⊢
  omega

theorem digits_printable (h : s.all CodePoint.isDigit = true) : ∀ c ∈ s, c.isPrintable = true :=
  fun c hc => digit_printable (List.all_eq_true.mp h c hc)

/-- The value of a text goes up by a power of ten with each digit. -/
theorem le_foldl_numeral (s : PyStr) (n : Nat) :
    n * 10 ^ s.length ≤ s.foldl (fun n c => 10 * n + (c.val - 0x30)) n := by
  induction s generalizing n with
  | nil => exact Nat.le_of_eq (Nat.mul_one n)
  | cons c s ih =>
    rw [List.length_cons, List.foldl_cons]
    calc n * 10 ^ (s.length + 1) = (10 * n) * 10 ^ s.length := by
          rw [Nat.pow_succ, Nat.mul_comm (10 ^ _) 10, ← Nat.mul_assoc, Nat.mul_comm n 10]
      _ ≤ (10 * n + (c.val - 0x30)) * 10 ^ s.length := Nat.mul_le_mul_right _ (Nat.le_add_right _ _)
      _ ≤ _ := ih _

/-- Without a leading zero, a number up to 255 has at most three digits. -/
theorem short_of_numeral {c : CodePoint} (hdigit : c.isDigit = true) (hzero : c ≠ CodePoint.ofChar '0')
    (hvalue : numeral (c :: s) ≤ 255) : s.length ≤ 2 := by
  simp only [CodePoint.isDigit, Bool.and_eq_true, decide_eq_true_eq] at hdigit
  have hne : c.val ≠ 0x30 := fun h => hzero (CodePoint.ext h)
  by_contra hlong
  have hstart : (c.val - 0x30) * 10 ^ s.length ≤ numeral (c :: s) := by
    have hvalue : numeral (c :: s) = s.foldl (fun n c => 10 * n + (c.val - 0x30)) (c.val - 0x30) := by
      rw [numeral, List.foldl_cons, Nat.mul_zero, Nat.zero_add]
    rw [hvalue]
    exact le_foldl_numeral s _
  have hpow : 10 ^ 3 ≤ 10 ^ s.length := Nat.pow_le_pow_right (by decide) (by omega)
  have hfirst : 10 ^ 3 ≤ (c.val - 0x30) * 10 ^ s.length :=
    Nat.le_trans hpow (Nat.le_mul_of_pos_left _ (by omega))
  omega

/-- A part that has no leading zero. -/
theorem isOctet_eq : isOctet t s =
    (!s.isEmpty && (s.length = 1 || s.head? ≠ some (CodePoint.ofChar '0')) && s.all CodePoint.isDigit) := by
  unfold isOctet
  cases hall : s.all CodePoint.isDigit with
  | false => rw [Bool.and_false, Bool.and_false]
  | true =>
    rw [t.count_printable (digits_printable hall), t.first_printable (digits_printable hall)]
    cases s with
    | nil => rfl
    | cons c s => simp

theorem parseOctet?_some {n : Fin 256} : parseOctet? s = some n ↔
    s ≠ [] ∧ s.all CodePoint.isDigit = true ∧ s.length ≤ 3 ∧
      (s.head? = some (CodePoint.ofChar '0') → s = PyStr.ofString "0") ∧ numeral s = n.val := by
  unfold parseOctet?
  split
  · rename_i hbad
    refine ⟨nofun, fun ⟨hne, hdigits, hlength, hzero, _⟩ => ?_⟩
    simp only [hdigits, Bool.not_true, Bool.or_false, List.isEmpty_eq_false_iff.mpr hne, Bool.false_or,
      Bool.or_eq_true, decide_eq_true_eq, Bool.and_eq_true] at hbad
    obtain hlong | ⟨hother, hhead⟩ := hbad
    · omega
    · exact absurd (hzero hhead) hother
  · rename_i hgood
    simp only [Bool.or_eq_true, not_or, Bool.not_eq_true, Bool.not_eq_false', decide_eq_true_eq, Nat.not_lt,
      List.isEmpty_eq_false_iff, Bool.and_eq_true, not_and, ne_eq] at hgood
    obtain ⟨⟨⟨hne, hdigits⟩, hlength⟩, hzero⟩ := hgood
    have hzero : s.head? = some (CodePoint.ofChar '0') → s = PyStr.ofString "0" :=
      fun hhead => by_contra fun hother => hzero hother hhead
    split
    · rename_i hlt
      rw [Option.some.injEq, Fin.ext_iff]
      exact ⟨fun h => ⟨hne, hdigits, hlength, hzero, h⟩, fun h => h.2.2.2.2⟩
    · rename_i hlarge
      exact ⟨nofun, fun h => absurd n.isLt (h.2.2.2.2 ▸ hlarge)⟩

/-- The phone takes a part for an octet where Python does, and for the same. -/
theorem isOctet_iff {n : Fin 256} :
    (isOctet t s = true ∧ int? s = some n.val) ↔ parseOctet? s = some n := by
  rw [isOctet_eq, parseOctet?_some, int?]
  simp only [Bool.and_eq_true, Bool.or_eq_true, Bool.not_eq_true', decide_eq_true_eq, List.isEmpty_eq_false_iff]
  constructor
  · rintro ⟨⟨⟨hne, hstart⟩, hdigits⟩, hvalue⟩
    split at hvalue
    · have hvalue := Option.some.inj hvalue
      obtain ⟨c, rest, rfl⟩ := List.exists_cons_of_ne_nil hne
      have hc : c.isDigit = true := List.all_eq_true.mp hdigits c List.mem_cons_self
      have hbound : numeral (c :: rest) ≤ 255 := by omega
      rw [List.head?_cons, ne_eq, Option.some.injEq] at hstart
      refine ⟨hne, hdigits, ?_, ?_, hvalue⟩
      · obtain hone | hzero := hstart
        · omega
        · have hshort := short_of_numeral hc hzero hbound
          rw [List.length_cons]
          omega
      · rw [List.head?_cons, Option.some.injEq]
        rintro rfl
        obtain hone | hzero := hstart
        · rw [List.length_eq_zero_iff.mp (Nat.succ.inj hone)]
          rfl
        · exact absurd rfl hzero
    · cases hvalue
  · rintro ⟨hne, hdigits, -, hzero, hvalue⟩
    refine ⟨⟨⟨hne, ?_⟩, hdigits⟩, ?_⟩
    · by_cases hhead : s.head? = some (CodePoint.ofChar '0')
      · rw [hzero hhead]
        exact Or.inl rfl
      · exact Or.inr hhead
    · rw [if_pos (by omega), hvalue]

/-! ## Hosts -/

/-- The networks of both. -/
def IsAllowed (a : Ipv4) : Prop :=
  Within ⟨10, 0, 0, 0⟩ 8 a ∨ Within ⟨127, 0, 0, 0⟩ 8 a ∨ Within ⟨172, 16, 0, 0⟩ 12 a ∨
    Within ⟨192, 168, 0, 0⟩ 16 a ∨ Within ⟨169, 254, 0, 0⟩ 16 a

instance (a : Ipv4) : Decidable (IsAllowed a) := inferInstanceAs (Decidable (_ ∨ _))

/-- The same by the first two octets. -/
theorem isAllowed_iff (a : Ipv4) : IsAllowed a ↔ a.first.val = 10 ∨ a.first.val = 127 ∨
    (a.first.val = 172 ∧ 16 ≤ a.second.val ∧ a.second.val ≤ 31) ∨ (a.first.val = 192 ∧ a.second.val = 168) ∨
    (a.first.val = 169 ∧ a.second.val = 254) := by
  obtain ⟨p, q, r, t⟩ := a
  have hp := p.isLt
  have hq := q.isLt
  have hr := r.isLt
  have ht := t.isLt
  simp only [IsAllowed, Within, Ipv4.toNat, Fin.isValue, Fin.coe_ofNat_eq_mod, Nat.reduceMod, Nat.reducePow,
    Nat.reduceSub, Nat.reduceMul, Nat.reduceAdd, Nat.reduceDiv]
  omega

/-- The exclusions of the gateway leave out no network that it allows. -/
theorem gateway_allows (a : Ipv4) :
    ((a.isUnspecified || a.isMulticast || (a.isReserved && !a.isLoopback)) = false ∧
      (a.isLoopback || a.isLinkLocal || isRfc1918 a) = true) ↔ IsAllowed a := by
  have hunspecified : a.isUnspecified = false ↔ a.toNat ≠ 0 := decide_eq_false_iff_not
  rw [isAllowed_iff]
  simp only [hunspecified, isMulticast, isReserved, isLoopback, isLinkLocal, isRfc1918, Ipv4.toNat,
    Bool.or_eq_false_iff, Bool.and_eq_false_iff, Bool.not_eq_false', Bool.or_eq_true, Bool.and_eq_true,
    decide_eq_true_eq, decide_eq_false_iff_not]
  omega

theorem gateway_iff (v6 : Ipv6) (hpython : s.strip = s) (hcolon : CodePoint.ofChar ':' ∉ s) :
    (∃ host, validateMobileBindHost v6 (.str s) = .ok host) ↔ ∃ a : Ipv4, s = a.dotted ∧ IsAllowed a := by
  have hnone (h : parse? s = none) : ¬ ∃ a : Ipv4, s = a.dotted ∧ IsAllowed a := by
    rintro ⟨a, hdotted, -⟩
    rw [parse?_iff.mpr hdotted] at h
    cases h
  simp only [validateMobileBindHost, hpython]
  split
  · rename_i hempty
    obtain rfl := List.isEmpty_iff.mp hempty
    exact ⟨fun ⟨_, h⟩ => (nomatch h), fun h => absurd h (hnone rfl)⟩
  cases hparse : parse? s with
  | none =>
    have hv6 : v6.parse? s = none := by
      cases h : v6.parse? s with
      | none => rfl
      | some a => exact absurd (v6.colon s a h) hcolon
    simp only [ipAddress, hparse, hv6, Option.map_none]
    exact ⟨fun ⟨_, h⟩ => (nomatch h), fun h => absurd h (hnone hparse)⟩
  | some a =>
    have hone : (∃ b : Ipv4, s = b.dotted ∧ IsAllowed b) ↔ IsAllowed a := by
      constructor
      · rintro ⟨b, hb, hallowed⟩
        obtain rfl := Option.some.inj (hparse.symm.trans (parse?_iff.mpr hb))
        exact hallowed
      · exact fun hallowed => ⟨a, parse?_iff.mp hparse, hallowed⟩
    rw [hone, ← gateway_allows]
    simp only [ipAddress, hparse]
    split
    · rename_i hbad
      exact ⟨fun ⟨_, h⟩ => (nomatch h), fun h => absurd h.1 (by rw [hbad]; exact Bool.noConfusion)⟩
    · rename_i hgood
      split
      · rename_i hallowed
        exact ⟨fun _ => ⟨Bool.eq_false_iff.mpr hgood, hallowed⟩, fun _ => ⟨s, rfl⟩⟩
      · rename_i hother
        exact ⟨fun ⟨_, h⟩ => (nomatch h), fun h => absurd h.2 hother⟩

/-- A host of digits and dots has the same parts for both. -/
theorem split_plain (h : ∀ c ∈ s, c.isDigit = true ∨ c = dot) : t.split [dot] s = s.splitOn dot := by
  refine t.split_printable (fun c hc => ?_) dot
  obtain hdigit | rfl := h c hc
  · exact digit_printable hdigit
  · rfl

/-- The parts of a host whose parts are octets. -/
theorem split_octets (h : ∀ part ∈ t.split [dot] s, isOctet t part = true) : t.split [dot] s = s.splitOn dot := by
  refine split_plain fun c hc => ?_
  have hparts : c ∈ [dot] ∨ ∃ part ∈ t.split [dot] s, c ∈ part := t.mem_split hc
  obtain hdot | ⟨part, hpart, hmem⟩ := hparts
  · exact Or.inr (List.mem_singleton.mp hdot)
  · have hoctet := h part hpart
    rw [isOctet, Bool.and_eq_true, List.all_eq_true] at hoctet
    exact Or.inl (hoctet.2 c hmem)

/-- Four parts with four numbers have one each. -/
theorem filterMap_four {α β : Type} {f : α → Option β} {p q r u : α} {a b c d : β}
    (h : [p, q, r, u].filterMap f = [a, b, c, d]) : f p = some a ∧ f q = some b ∧ f r = some c ∧ f u = some d := by
  have hsome : ∀ x ∈ [p, q, r, u], (f x).isSome = true := by
    rw [← List.filterMap_length_eq_length, h]
    rfl
  obtain ⟨a', ha⟩ := Option.isSome_iff_exists.mp (hsome p (by simp))
  obtain ⟨b', hb⟩ := Option.isSome_iff_exists.mp (hsome q (by simp))
  obtain ⟨c', hc⟩ := Option.isSome_iff_exists.mp (hsome r (by simp))
  obtain ⟨d', hd⟩ := Option.isSome_iff_exists.mp (hsome u (by simp))
  simpa [ha, hb, hc, hd] using h

theorem phone_iff (hswift : t.trim s = s) (hcolon : CodePoint.ofChar ':' ∉ s) :
    isAllowedHost t s = true ↔ ∃ a : Ipv4, s = a.dotted ∧ IsAllowed a := by
  have hloopback : s ≠ PyStr.ofString "::1" := by
    rintro rfl
    exact hcolon (by decide)
  rw [isAllowedHost, hswift, if_neg (not_not.mpr rfl), if_neg hloopback]
  simp only
  constructor
  · intro h
    split at h
    · cases h
    rename_i hparts
    simp only [Bool.or_eq_true, not_or, Bool.not_eq_true', decide_eq_true_eq, ne_eq, not_not, Bool.not_eq_false,
      List.all_eq_true] at hparts
    obtain ⟨hlength, hoctets⟩ := hparts
    have hsplit := split_octets hoctets
    rw [hsplit] at h hlength hoctets
    obtain ⟨p, q, r, u, hpqru⟩ : ∃ p q r u, s.splitOn dot = [p, q, r, u] := by
      match s.splitOn dot, hlength with
      | [p, q, r, u], _ => exact ⟨p, q, r, u, rfl⟩
    rw [hpqru] at h hoctets
    split at h
    · rename_i first second third fourth hints
      split at h
      · rename_i hsmall
        simp only [List.all_cons, List.all_nil, Bool.and_true, Bool.and_eq_true, decide_eq_true_eq] at hsmall
        obtain ⟨hfirst, hsecond, hthird, hfourth⟩ := hsmall
        obtain ⟨hp, hq, hr, hu⟩ := filterMap_four hints
        have hoctet {part : PyStr} {n : Nat} (hpart : part ∈ [p, q, r, u]) (hint : int? part = some n)
            (hn : n ≤ 255) : parseOctet? part = some ⟨n, Nat.lt_succ_of_le hn⟩ :=
          isOctet_iff.mp ⟨hoctets part hpart, hint⟩
        refine ⟨⟨⟨first, by omega⟩, ⟨second, by omega⟩, ⟨third, by omega⟩, ⟨fourth, by omega⟩⟩,
          parse?_iff.mp ?_, ?_⟩
        · rw [parse?, hpqru]
          simp only [hoctet (by simp) hp hfirst, hoctet (by simp) hq hsecond, hoctet (by simp) hr hthird,
            hoctet (by simp) hu hfourth, Option.bind_eq_bind, Option.bind_some]
        · rw [isAllowed_iff]
          simpa [or_assoc, and_assoc] using h
      · cases h
    · cases h
  · rintro ⟨a, rfl, hallowed⟩
    have hsplit : t.split [dot] a.dotted = [octet a.first, octet a.second, octet a.third, octet a.fourth] := by
      rw [split_plain, splitOn_dotted]
      intro c hc
      obtain rfl | ⟨part, hpart, hmem⟩ := mem_splitOn (a := dot) hc
      · exact Or.inr rfl
      · rw [splitOn_dotted] at hpart
        simp only [List.mem_cons, List.not_mem_nil, or_false] at hpart
        obtain rfl | rfl | rfl | rfl := hpart
        all_goals exact Or.inl (octet_digits _ c hmem)
    have hoctet (n : Fin 256) : isOctet t (octet n) = true ∧ int? (octet n) = some n.val :=
      isOctet_iff.mpr (parseOctet?_octet n)
    have hle (n : Fin 256) : n.val ≤ 255 := Nat.le_of_lt_succ n.isLt
    have hints : [octet a.first, octet a.second, octet a.third, octet a.fourth].filterMap int? =
        [a.first.val, a.second.val, a.third.val, a.fourth.val] := by
      simp [hoctet]
    have hsmall : [a.first.val, a.second.val, a.third.val, a.fourth.val].all (fun octet => octet ≤ 255) =
        true := by
      simp [hle]
    rw [hsplit, if_neg (by simp [hoctet]), hints]
    simp only
    rw [if_pos hsmall]
    rw [isAllowed_iff] at hallowed
    simpa [or_assoc, and_assoc] using hallowed

/-! ## Agreement -/

/-- Without white space around it and without a colon, a text is a host for the phone just where the gateway takes
it, and these are the dotted quads of the loopback, link-local and private networks. -/
theorem hosts_agree (t : SwiftText) (v6 : Ipv6) (s : PyStr) (hswift : t.trim s = s) (hpython : s.strip = s)
    (hcolon : CodePoint.ofChar ':' ∉ s) :
    (isAllowedHost t s = true ↔ ∃ host, validateMobileBindHost v6 (.str s) = .ok host) ∧
      (isAllowedHost t s = true ↔ ∃ a : Ipv4, s = a.dotted ∧ IsAllowed a) :=
  ⟨(phone_iff hswift hcolon).trans (gateway_iff v6 hpython hcolon).symm, phone_iff hswift hcolon⟩

/-- The loopback address alone. -/
def loopbackIpv6 : Ipv6 where
  Address := Unit
  parse? s := if s = PyStr.ofString "::1" then some () else none
  colon s _ h := by
    split at h
    · rename_i hs
      rw [hs]
      decide
    · cases h
  isUnspecified _ := false
  isMulticast _ := false
  isReserved _ := true
  isLoopback _ := true

theorem hosts_agree_lan :
    (isAllowedHost scalarText "192.168.1.20" = true ↔
      ∃ host, validateMobileBindHost loopbackIpv6 (.str "192.168.1.20") = .ok host) ∧
    isAllowedHost scalarText "192.168.1.20" = true := by
  obtain ⟨hagree, hquad⟩ := hosts_agree scalarText loopbackIpv6 "192.168.1.20" rfl rfl (by decide)
  exact ⟨hagree, hquad.mpr ⟨⟨192, 168, 1, 20⟩, by decide, by decide⟩⟩

end Pipa.Link
