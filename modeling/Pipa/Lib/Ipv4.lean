import Pipa.Lib.Text

/- IPv4 addresses and their dotted quads. A text is read as `ipaddress` reads it: four
   decimal numbers up to 255, without leading zeros; so an address has one spelling
   (`parse?_iff`). -/
namespace Pipa.Lib

def CodePoint.isDigit (c : CodePoint) : Bool := 0x30 ≤ c.val && c.val ≤ 0x39

structure Ipv4 where
  first : Fin 256
  second : Fin 256
  third : Fin 256
  fourth : Fin 256
  deriving DecidableEq

namespace Ipv4

def dot : CodePoint := CodePoint.ofChar '.'

/-- The address as a number of 32 bits. -/
def toNat (a : Ipv4) : Nat := ((a.first.val * 256 + a.second.val) * 256 + a.third.val) * 256 + a.fourth.val

/-- `a` is in the network of `net` with a prefix of so many bits. -/
def Within (net : Ipv4) (bits : Nat) (a : Ipv4) : Prop := a.toNat / 2 ^ (32 - bits) = net.toNat / 2 ^ (32 - bits)

instance (net : Ipv4) (bits : Nat) (a : Ipv4) : Decidable (Within net bits a) :=
  inferInstanceAs (Decidable (_ = _))

/-! ## Octets -/

/-- An octet in decimal. -/
def octet (n : Fin 256) : PyStr := PyStr.ofString (toString n.val)

/-- The value of a text of digits. -/
def numeral (s : PyStr) : Nat := s.foldl (fun n c => 10 * n + (c.val - 0x30)) 0

/-- `_parse_octet`. -/
def parseOctet? (s : PyStr) : Option (Fin 256) :=
  if s.isEmpty || !s.all CodePoint.isDigit || s.length > 3 ||
      (s ≠ PyStr.ofString "0" && s.head? = some (CodePoint.ofChar '0')) then none
  else if h : numeral s < 256 then some ⟨numeral s, h⟩ else none

/-- A digit. -/
def digit (k : Fin 10) : CodePoint := ⟨0x30 + k.val, by omega⟩

theorem isDigit_iff {c : CodePoint} : c.isDigit = true ↔ ∃ k, digit k = c := by
  simp only [CodePoint.isDigit, Bool.and_eq_true, decide_eq_true_eq]
  constructor
  · intro h
    exact ⟨⟨c.val - 0x30, by omega⟩, CodePoint.ext (by simp only [digit]; omega)⟩
  · rintro ⟨k, rfl⟩
    simp only [digit]
    omega

theorem parseOctet?_octet (n : Fin 256) : parseOctet? (octet n) = some n := by
  revert n
  decide +kernel

theorem octet_digits (n : Fin 256) : ∀ c ∈ octet n, c.isDigit = true := by
  revert n
  decide +kernel

/-- The texts of up to three digits that are octets are spelt as those are. -/
theorem digits_octet :
    (∀ a, (parseOctet? [digit a]).all (fun n => octet n = [digit a]) = true) ∧
    (∀ a b, (parseOctet? [digit a, digit b]).all (fun n => octet n = [digit a, digit b]) = true) ∧
    ∀ a b c,
      (parseOctet? [digit a, digit b, digit c]).all (fun n => octet n = [digit a, digit b, digit c]) = true := by
  refine ⟨?_, ?_, ?_⟩
  · decide +kernel
  · decide +kernel
  · decide +kernel

/-- An octet has one spelling. -/
theorem parseOctet?_iff {s : PyStr} {n : Fin 256} : parseOctet? s = some n ↔ s = octet n := by
  constructor
  · intro h
    have hspelt (hall : (parseOctet? s).all (fun n => octet n = s) = true) : s = octet n := by
      rw [h] at hall
      exact (of_decide_eq_true hall).symm
    have hshape : s ≠ [] ∧ s.all CodePoint.isDigit = true ∧ s.length ≤ 3 := by
      unfold parseOctet? at h
      split at h
      · cases h
      · rename_i hshape
        simp only [Bool.or_eq_true, not_or, Bool.not_eq_true, Bool.not_eq_false', decide_eq_true_eq, Nat.not_lt,
          List.isEmpty_eq_false_iff] at hshape
        exact ⟨hshape.1.1.1, hshape.1.1.2, hshape.1.2⟩
    obtain ⟨hne, hdigits, hlength⟩ := hshape
    have hdigit {c : CodePoint} (hc : c ∈ s) : ∃ k, digit k = c :=
      isDigit_iff.mp (List.all_eq_true.mp hdigits c hc)
    obtain ⟨hone, htwo, hthree⟩ := digits_octet
    match s, hne, hlength with
    | [a], _, _ =>
      obtain ⟨a, rfl⟩ := hdigit (c := a) (by simp)
      exact hspelt (hone a)
    | [a, b], _, _ =>
      obtain ⟨a, rfl⟩ := hdigit (c := a) (by simp)
      obtain ⟨b, rfl⟩ := hdigit (c := b) (by simp)
      exact hspelt (htwo a b)
    | [a, b, c], _, _ =>
      obtain ⟨a, rfl⟩ := hdigit (c := a) (by simp)
      obtain ⟨b, rfl⟩ := hdigit (c := b) (by simp)
      obtain ⟨c, rfl⟩ := hdigit (c := c) (by simp)
      exact hspelt (hthree a b c)
  · rintro rfl
    exact parseOctet?_octet n

/-! ## Addresses -/

/-- The dotted quad. -/
def dotted (a : Ipv4) : PyStr :=
  List.intercalate [dot] [octet a.first, octet a.second, octet a.third, octet a.fourth]

/-- `IPv4Address(s)`; `none` is its `AddressValueError`. -/
def parse? (s : PyStr) : Option Ipv4 :=
  match s.splitOn dot with
  | [a, b, c, d] => do
    let first ← parseOctet? a
    let second ← parseOctet? b
    let third ← parseOctet? c
    let fourth ← parseOctet? d
    some ⟨first, second, third, fourth⟩
  | _ => none

theorem dot_not_digit : dot.isDigit = false := rfl

theorem dot_not_mem_octet (n : Fin 256) : dot ∉ octet n := by
  intro h
  have hdigit := octet_digits n dot h
  rw [dot_not_digit] at hdigit
  cases hdigit

theorem splitOn_dotted (a : Ipv4) :
    a.dotted.splitOn dot = [octet a.first, octet a.second, octet a.third, octet a.fourth] := by
  refine List.splitOn_intercalate dot ?_ (List.cons_ne_nil _ _)
  simp only [List.forall_mem_cons, List.not_mem_nil, false_imp_iff, implies_true, and_true]
  exact ⟨dot_not_mem_octet _, dot_not_mem_octet _, dot_not_mem_octet _, dot_not_mem_octet _⟩

/-- An address has one dotted quad. -/
theorem parse?_iff {s : PyStr} {a : Ipv4} : parse? s = some a ↔ s = a.dotted := by
  constructor
  · intro h
    unfold parse? at h
    split at h
    · rename_i p q r t hsplit
      simp only [Option.bind_eq_bind, Option.bind_eq_some_iff, parseOctet?_iff, Option.some.injEq] at h
      obtain ⟨first, rfl, second, rfl, third, rfl, fourth, rfl, rfl⟩ := h
      have hjoin : [dot].intercalate (s.splitOn dot) = s := List.intercalate_splitOn dot
      rw [← hjoin, hsplit]
      rfl
    · cases h
  · rintro rfl
    rw [parse?, splitOn_dotted]
    simp only [parseOctet?_octet, Option.bind_eq_bind, Option.bind_some]

/-! ## Classes of addresses -/

def isUnspecified (a : Ipv4) : Bool := a.toNat = 0

/-- 224.0.0.0/4. -/
def isMulticast (a : Ipv4) : Bool := 224 ≤ a.first.val && a.first.val ≤ 239

/-- 240.0.0.0/4. -/
def isReserved (a : Ipv4) : Bool := 240 ≤ a.first.val

/-- 127.0.0.0/8. -/
def isLoopback (a : Ipv4) : Bool := a.first.val = 127

/-- 169.254.0.0/16. -/
def isLinkLocal (a : Ipv4) : Bool := a.first.val = 169 && a.second.val = 254

end Ipv4
end Pipa.Lib
