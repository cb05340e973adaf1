import Pumba.Go.Strings

/-! `net.IP` and its `String` method, as in the current Go standard library (which formats
through `net/netip`): dotted decimal for IPv4, lower-case hexadecimal groups with the first
longest run of zero groups written `::` for IPv6. -/
namespace Pumba.Go

/-- `net.IP`: a byte slice, 4 bytes long for IPv4 and 16 for IPv6. A nil IP is modelled as
`none` where the code compares with nil. -/
structure IP where
  bytes : List UInt8
  deriving DecidableEq, Repr

/-- The twelve-byte prefix of an IPv4 address in 16-byte form. -/
def v4InV6Prefix : List UInt8 := [0,0,0,0,0,0,0,0,0,0,0xff,0xff]

/-- `net.IPv4(a, b, c, d)`, in 16-byte form. -/
def IPv4 (a b c d : UInt8) : IP := ⟨v4InV6Prefix ++ [a,b,c,d]⟩

/-- `(IP).To4`: the four bytes of an IPv4 address, in either form. -/
def IP.to4 (ip : IP) : Option (List UInt8) :=
  if ip.bytes.length = 4 then some ip.bytes
  else if ip.bytes.length = 16 ∧ ip.bytes.take 12 = v4InV6Prefix then some (ip.bytes.drop 12)
  else none

/-- The loop of `uitoa`: peel decimal digits off `val` while it is at least ten. -/
def uitoaLoop : Nat → Nat → List Char → List Char
  | 0, _, buf => buf
  | fuel+1, val, buf => if val < 10 then digit val :: buf else uitoaLoop fuel (val / 10) (digit (val % 10) :: buf)

/-- `uitoa`: decimal digits of an unsigned integer, "0" for zero. -/
def uitoa (val : Nat) : List Char := uitoaLoop (val + 1) val []

/-- `appendHex` for a 16-bit group: hexadecimal without leading zeros, "0" for zero. -/
def appendHex (i : Nat) : List Char :=
  if i = 0 then ['0']
  else (List.range 8).reverse.filterMap fun j =>
    let v := i >>> (4 * j)
    if 0 < v then some (digit (v % 16)) else none

/-- `hexString`: two lower-case hex digits per byte. -/
def hexString (bs : List UInt8) : List Char :=
  bs.flatMap fun b => [digit (b.toNat / 16), digit (b.toNat % 16)]

/-- The eight 16-bit groups of a 16-byte address. -/
def groups : List UInt8 → List Nat
  | hi :: lo :: rest => (hi.toNat * 256 + lo.toNat) :: groups rest
  | _ => []

/-- Start and end of the first longest run of at least two zero groups; `(255, 255)` when
there is none. -/
def zeroRun (gs : List Nat) : Nat × Nat :=
  (List.range 8).foldl (fun best i =>
    let l := ((gs.drop i).takeWhile (· = 0)).length
    if 2 ≤ l ∧ best.2 - best.1 < l then (i, i + l) else best) (255, 255)

/-- The printing loop of `appendTo6`, from group `i` on, with `fuel` iterations left. -/
def appendTo6 (gs : List Nat) (zs ze : Nat) : Nat → Nat → List Char
  | 0, _ => []
  | fuel+1, i =>
    if 8 ≤ i then []
    else if i = zs then
      if 8 ≤ ze then [':', ':']
      else [':', ':'] ++ appendHex (gs.getD ze 0) ++ appendTo6 gs zs ze fuel (ze + 1)
    else (if 0 < i then [':'] else []) ++ appendHex (gs.getD i 0) ++ appendTo6 gs zs ze fuel (i + 1)

/-- `(IP).String`. -/
def IP.string (ip : IP) : String :=
  if ip.bytes = [] then "<nil>"
  else if ip.bytes.length ≠ 4 ∧ ip.bytes.length ≠ 16 then ⟨'?' :: hexString ip.bytes⟩
  else match ip.to4 with
    | some [a, b, c, d] =>
      ⟨uitoa a.toNat ++ '.' :: uitoa b.toNat ++ '.' ::
        uitoa c.toNat ++ '.' :: uitoa d.toNat⟩
    | _ =>
      let gs := groups ip.bytes
      ⟨appendTo6 gs (zeroRun gs).1 (zeroRun gs).2 8 0⟩

lemma uitoaLoop_of_lt {fuel val : Nat} {buf : List Char} (h : val < 10) :
    uitoaLoop (fuel + 1) val buf = digit val :: buf := by
  rw [uitoaLoop, if_pos h]

lemma uitoaLoop_of_ge {fuel val : Nat} {buf : List Char} (h : 10 ≤ val) :
    uitoaLoop (fuel + 1) val buf = uitoaLoop fuel (val / 10) (digit (val % 10) :: buf) := by
  rw [uitoaLoop, if_neg (by omega)]

lemma uitoaLoop_mem {c : Char} : ∀ {fuel val : Nat} {buf : List Char},
    c ∈ uitoaLoop fuel val buf → c ∈ buf ∨ c ∈ hexDigit := by
  intro fuel
  induction fuel with
  | zero => exact .inl
  | succ fuel ih =>
    intro val buf h
    have hd : ∀ {i}, c ∈ digit i :: buf → c ∈ buf ∨ c ∈ hexDigit := fun h =>
      (List.mem_cons.1 h).elim (fun h => .inr (h ▸ digit_mem_hexDigit _)) .inl
    simp only [uitoaLoop] at h
    split at h
    · exact hd h
    · exact (ih h).elim hd .inr

lemma uitoaLoop_ne_nil :
    ∀ {fuel val : Nat} {buf : List Char}, uitoaLoop (fuel + 1) val buf ≠ [] := by
  intro fuel
  induction fuel with
  | zero => intro val buf; rw [uitoaLoop]; split <;> simp [uitoaLoop]
  | succ fuel ih =>
    intro val buf
    rw [uitoaLoop]
    split
    · simp
    · exact ih

lemma uitoa_ne_nil (val : Nat) : uitoa val ≠ [] := uitoaLoop_ne_nil

lemma uitoa_mem_hexDigit {val : Nat} {c : Char} (h : c ∈ uitoa val) : c ∈ hexDigit :=
  (uitoaLoop_mem h).resolve_left (List.not_mem_nil _)

lemma uitoa_space_not_mem (val : Nat) : ' ' ∉ uitoa val := fun h =>
  absurd (uitoa_mem_hexDigit h) (by decide)

lemma uitoa_of_lt_ten {v : Nat} (h : v < 10) : uitoa v = [digit v] := uitoaLoop_of_lt h

lemma uitoa_of_lt_hundred {v : Nat} (h1 : 10 ≤ v) (h2 : v < 100) :
    uitoa v = [digit (v / 10), digit (v % 10)] := by
  obtain ⟨k, rfl⟩ : ∃ k, v = k + 1 := ⟨v - 1, by omega⟩
  rw [uitoa, uitoaLoop_of_ge h1, uitoaLoop_of_lt (by omega)]

lemma uitoa_of_lt_thousand {v : Nat} (h1 : 100 ≤ v) (h2 : v < 1000) :
    uitoa v = [digit (v / 100), digit (v / 10 % 10), digit (v % 10)] := by
  obtain ⟨k, rfl⟩ : ∃ k, v = k + 2 := ⟨v - 2, by omega⟩
  rw [uitoa, uitoaLoop_of_ge (by omega), uitoaLoop_of_ge (by omega), uitoaLoop_of_lt (by omega),
    Nat.div_div_eq_div_mul]

lemma appendHex_space_not_mem (i : Nat) : ' ' ∉ appendHex i := by
  unfold appendHex
  split
  · decide
  · simp only [List.mem_filterMap, not_exists, not_and]
    intro j _ hj
    split at hj
    · exact digit_ne_space _ (Option.some.inj hj)
    · cases hj

lemma appendTo6_space_not_mem (gs : List Nat) (zs ze : Nat) :
    ∀ fuel i, ' ' ∉ appendTo6 gs zs ze fuel i := by
  intro fuel
  induction fuel with
  | zero => intro i; simp [appendTo6]
  | succ fuel ih =>
    intro i
    have := appendHex_space_not_mem
    simp only [appendTo6]
    split_ifs <;> simp [*]

/-- No printed address contains a space, so it is one word of a command line. -/
theorem IP.string_space_not_mem (ip : IP) : ' ' ∉ ip.string.data := by
  have h10 := uitoa_space_not_mem
  unfold IP.string
  split_ifs
  · decide
  · simp [hexString, fun i => (digit_ne_space i).symm]
  · split
    · simp [h10]
    · exact appendTo6_space_not_mem _ _ _ _ _

end Pumba.Go
