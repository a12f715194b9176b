import Vntc.Lib.Ipv4
import Vntc.Lib.KeyValue

/-!
# The text of an IPv4 address

`Ipv4Addr.toText` writes an address in dotted decimal. `Ipv4Addr.parse` reads it back: four
numbers with one to three digits, at most 255, without leading zeros, separated by dots, and
nothing else. So a text denotes an address only if it is that address' own text
(`parse_eq_some_iff`), and comparing texts compares addresses.
-/

namespace Lib

namespace Ipv4Addr

/-- The decimal digits of an octet. -/
def octetText (n : Nat) : List Char := Nat.toDigits 10 n

/-- The octets of an address, most significant first. -/
def octets (ip : Ipv4Addr) : List Nat :=
  [ip.toNat / 2 ^ 24, ip.toNat / 2 ^ 16 % 256, ip.toNat / 2 ^ 8 % 256, ip.toNat % 256]

/-- An address in dotted decimal. -/
def toText (ip : Ipv4Addr) : String :=
  String.ofList (List.intercalate ['.'] (ip.octets.map octetText))

/-- Read one octet: one to three digits, no leading zero, at most 255. -/
def parseOctet (cs : List Char) : Option Nat :=
  if cs ≠ [] ∧ cs.length ≤ 3 ∧ cs.all Char.isDigit ∧ (cs.head? = some '0' → cs.length = 1) then
    let n := cs.foldl (fun acc c => acc * 10 + (c.toNat - '0'.toNat)) 0
    if n ≤ 255 then some n else none
  else none

/-- Read an address in dotted decimal. -/
def parse (s : String) : Option Ipv4Addr :=
  match (s.toList.splitOn '.').map parseOctet with
  | [some a, some b, some c, some d] => some (Ipv4Addr.new a b c d)
  | _ => none

/-! ## Octets -/

theorem parseOctet_octetText (n : Nat) (h : n < 256) : parseOctet (octetText n) = some n := by
  revert n; decide +kernel

theorem dot_notMem_octetText (n : Nat) (h : n < 256) : '.' ∉ octetText n := by
  revert n; decide +kernel

/-- A digit is the character of its value. -/
theorem exists_digit {c : Char} (h : c.isDigit = true) :
    ∃ d : Fin 10, c = Char.ofNat (48 + d.val) := by
  simp only [Char.isDigit, Bool.and_eq_true, decide_eq_true_eq, UInt32.le_iff_toNat_le] at h
  have h1 : 48 ≤ c.toNat := h.1
  have h2 : c.toNat ≤ 57 := h.2
  refine ⟨⟨c.toNat - 48, by omega⟩, ?_⟩
  rw [show 48 + (c.toNat - 48) = c.toNat by omega, Char.ofNat_toNat]

/-- What `parseOctet` accepts is the text of the number it reads. -/
theorem octetText_of_parseOctet {cs : List Char} {n : Nat} (h : parseOctet cs = some n) :
    n < 256 ∧ octetText n = cs := by
  unfold parseOctet at h
  split at h
  case isFalse => cases h
  case isTrue hc =>
    obtain ⟨hne, hlen, hall, hz⟩ := hc
    simp only at h
    split at h
    case isFalse => cases h
    case isTrue hle =>
      cases h
      refine ⟨by omega, ?_⟩
      -- At most three digits: check all of them.
      match cs, hne, hlen, hall, hz, hle with
      | [a], _, _, hall, hz, hle =>
        simp only [List.all_cons, List.all_nil, Bool.and_true] at hall
        obtain ⟨x, rfl⟩ := exists_digit hall
        revert x; decide
      | [a, b], _, _, hall, hz, hle =>
        simp only [List.all_cons, List.all_nil, Bool.and_true, Bool.and_eq_true] at hall
        obtain ⟨x, rfl⟩ := exists_digit hall.1
        obtain ⟨y, rfl⟩ := exists_digit hall.2
        revert x y; decide
      | [a, b, c], _, _, hall, hz, hle =>
        simp only [List.all_cons, List.all_nil, Bool.and_true, Bool.and_eq_true] at hall
        obtain ⟨x, rfl⟩ := exists_digit hall.1
        obtain ⟨y, rfl⟩ := exists_digit hall.2.1
        obtain ⟨z, rfl⟩ := exists_digit hall.2.2
        revert x y z; decide +kernel
      | _ :: _ :: _ :: _ :: _, _, hlen, _, _, _ =>
        simp only [List.length_cons] at hlen
        omega

/-! ## Addresses -/

theorem octets_lt (ip : Ipv4Addr) : ∀ n ∈ ip.octets, n < 256 := by
  have := ip.isLt
  simp only [octets, List.mem_cons, List.not_mem_nil, or_false, forall_eq_or_imp, forall_eq]
  omega

theorem new_octets (ip : Ipv4Addr) :
    Ipv4Addr.new (ip.toNat / 2 ^ 24) (ip.toNat / 2 ^ 16 % 256) (ip.toNat / 2 ^ 8 % 256)
      (ip.toNat % 256) = ip := by
  have := ip.isLt
  refine BitVec.eq_of_toNat_eq ?_
  rw [Ipv4Addr.new, BitVec.toNat_ofNat]
  omega

theorem octets_new {a b c d : Nat} (ha : a < 256) (hb : b < 256) (hc : c < 256) (hd : d < 256) :
    (Ipv4Addr.new a b c d).octets = [a, b, c, d] := by
  have : (Ipv4Addr.new a b c d).toNat = ((a * 256 + b) * 256 + c) * 256 + d := by
    rw [Ipv4Addr.new, BitVec.toNat_ofNat]; omega
  simp only [octets, this, List.cons.injEq, and_true]
  omega

/-- The dots of an address' text separate the texts of its octets. -/
theorem splitOn_toText (ip : Ipv4Addr) :
    ip.toText.toList.splitOn '.' = ip.octets.map octetText := by
  rw [toText, String.toList_ofList]
  refine List.splitOn_intercalate '.' ?_ (by simp [octets])
  intro l hl
  obtain ⟨n, hn, rfl⟩ := List.mem_map.mp hl
  exact dot_notMem_octetText n (octets_lt ip n hn)

theorem parse_toText (ip : Ipv4Addr) : parse ip.toText = some ip := by
  have hp : (ip.octets.map octetText).map parseOctet = ip.octets.map some := by
    exact List.map_congr_left fun n hn => parseOctet_octetText n (octets_lt ip n hn)
  unfold parse
  rw [splitOn_toText, hp]
  simp only [octets, List.map_cons, List.map_nil]
  rw [new_octets]

/-- A text denotes an address only if it is the address' own text. -/
theorem toText_injective : Function.Injective toText := fun a b h =>
  Option.some_inj.mp (by rw [← parse_toText a, h, parse_toText])

theorem toText_of_parse {s : String} {ip : Ipv4Addr} (h : parse s = some ip) : ip.toText = s := by
  unfold parse at h
  split at h
  case h_2 => cases h
  case h_1 a b c d hs =>
    cases h
    obtain ⟨w, x, y, z, hl, hw, hx, hy, hz⟩ :
        ∃ w x y z, s.toList.splitOn '.' = [w, x, y, z] ∧ parseOctet w = some a ∧
          parseOctet x = some b ∧ parseOctet y = some c ∧ parseOctet z = some d := by
      simp only [List.map_eq_cons_iff, List.map_eq_nil_iff] at hs
      obtain ⟨w, _, hl, hw, x, _, rfl, hx, y, _, rfl, hy, z, _, rfl, hz, rfl⟩ := hs
      exact ⟨w, x, y, z, hl, hw, hx, hy, hz⟩
    obtain ⟨ha, rfl⟩ := octetText_of_parseOctet hw
    obtain ⟨hb, rfl⟩ := octetText_of_parseOctet hx
    obtain ⟨hc, rfl⟩ := octetText_of_parseOctet hy
    obtain ⟨hd, rfl⟩ := octetText_of_parseOctet hz
    have hj : List.intercalate ['.'] (s.toList.splitOn '.') = s.toList :=
      List.intercalate_splitOn '.'
    rw [hl] at hj
    rw [toText, octets_new ha hb hc hd]
    exact (congrArg String.ofList hj).trans String.ofList_toList

theorem parse_eq_some_iff {s : String} {ip : Ipv4Addr} : parse s = some ip ↔ s = ip.toText :=
  ⟨fun h => (toText_of_parse h).symm, fun h => h ▸ parse_toText ip⟩

end Ipv4Addr

/-- A network in CIDR notation. -/
def Ipv4Net.toText (net : Ipv4Net) : String := net.addr.toText ++ "/" ++ toString net.prefixLen

/-- The text of an address has digits and dots only. -/
theorem Ipv4Addr.mem_toText {ip : Ipv4Addr} {c : Char} (h : c ∈ ip.toText.toList) :
    c = '.' ∨ c.isDigit = true := by
  have hoctet : ∀ n, c ∈ octetText n → c.isDigit = true := fun n hn =>
    Nat.isDigit_of_mem_toDigits (by decide) (by decide) hn
  simp only [toText, octets, String.toList_ofList, List.map_cons, List.map_nil,
    List.intercalate_cons_cons, List.intercalate_singleton, List.mem_append, List.mem_singleton] at h
  grind

namespace Ipv4Net

theorem toList_toText (net : Ipv4Net) :
    net.toText.toList = net.addr.toText.toList ++ '/' :: Nat.toDigits 10 net.prefixLen := by
  simp [toText, String.toList_append]

theorem newline_notMem_toText (net : Ipv4Net) : '\n' ∉ net.toText.toList := by
  intro h
  rw [toList_toText, List.mem_append, List.mem_cons] at h
  rcases h with h | h | h
  · rcases Ipv4Addr.mem_toText h with h | h <;> revert h <;> decide
  · revert h; decide
  · have := Nat.isDigit_of_mem_toDigits (by decide) (by decide) h
    revert this; decide

theorem toText_injective : Function.Injective toText := by
  intro m n h
  have hslash : ∀ ip : Ipv4Addr, '/' ∉ ip.toText.toList := by
    intro ip h
    rcases Ipv4Addr.mem_toText h with h | h <;> revert h <;> decide
  have hl := congrArg String.toList h
  rw [toList_toText, toList_toText] at hl
  obtain ⟨haddr, hlen⟩ := KeyValue.cut_inj (hslash _) (hslash _) hl
  have haddr := Ipv4Addr.toText_injective (String.toList_inj.mp haddr)
  have hlen : m.prefixLen = n.prefixLen := by
    simpa using congrArg (fun ds => Nat.ofDigitChars 10 ds 0) hlen
  cases m
  cases n
  simp_all

end Ipv4Net

end Lib
