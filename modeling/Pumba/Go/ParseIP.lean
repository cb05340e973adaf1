import Pumba.Go.IP

/-! `net.ParseIP`, as in the current Go standard library, which parses through
`netip.ParseAddr` and returns nil for an error or a zone. The parsers read runes; every rune
they accept is ASCII, so they accept the same strings as Go's byte loops. The error messages
are dropped, since `ParseIP` drops them. -/
namespace Pumba.Go

/-- The loop of `parseIPv4Fields` over the rest of the input, with the previous rune, the
fields read so far, the value of the current field and its number of digits. -/
def parseIPv4Loop : List Char → Option Char → List UInt8 → Nat → Nat → Option (List UInt8)
  | [], _, fields, val, _ => if fields.length < 3 then none else some (fields ++ [val.toUInt8])
  | c :: s, prev, fields, val, digLen =>
    if '0' ≤ c ∧ c ≤ '9' then
      if digLen = 1 ∧ val = 0 then none
      else if 255 < val * 10 + (c.toNat - '0'.toNat) then none
      else parseIPv4Loop s (some c) fields (val * 10 + (c.toNat - '0'.toNat)) (digLen + 1)
    else if c = '.' then
      if prev = none ∨ s = [] ∨ prev = some '.' then none
      else if fields.length = 3 then none
      else parseIPv4Loop s (some c) (fields ++ [val.toUInt8]) 0 0
    else none

/-- `parseIPv4Fields`: the four fields of a dotted-decimal address. -/
def parseIPv4Fields (s : List Char) : Option (List UInt8) := parseIPv4Loop s none [] 0 0

/-- The value of one hexadecimal digit, as the inner loop of `parseIPv6` reads it. -/
def hexValue (c : Char) : Option Nat :=
  if '0' ≤ c ∧ c ≤ '9' then some (c.toNat - '0'.toNat)
  else if 'a' ≤ c ∧ c ≤ 'f' then some (c.toNat - 'a'.toNat + 10)
  else if 'A' ≤ c ∧ c ≤ 'F' then some (c.toNat - 'A'.toNat + 10)
  else none

/-- The inner loop of `parseIPv6`: at most four hexadecimal digits, giving the group's value,
the number of digits and the rest of the input. -/
def parseIPv6Group : List Char → Nat → Nat → Option (Nat × Nat × List Char)
  | [], off, acc => some (acc, off, [])
  | c :: s, off, acc =>
    match hexValue c with
    | none => some (acc, off, c :: s)
    | some v =>
      if 3 < off then none
      else if 65535 < acc * 16 + v then none
      else parseIPv6Group s (off + 1) (acc * 16 + v)

/-- The outer loop of `parseIPv6`, run while fewer than 16 bytes are read: the bytes read,
the position of the ellipsis and the rest of the input when it stops. Each pass reads two
bytes or stops, so eight passes are enough. -/
def parseIPv6Loop : Nat → List Char → List UInt8 → Option Nat →
    Option (List UInt8 × Option Nat × List Char)
  | 0, s, ip, ellipsis => some (ip, ellipsis, s)
  | fuel+1, s, ip, ellipsis =>
    if 16 ≤ ip.length then some (ip, ellipsis, s)
    else match parseIPv6Group s 0 0 with
      | none => none
      | some (acc, off, rest) =>
        if off = 0 then none
        else if rest.head? = some '.' then
          if ellipsis = none ∧ ip.length ≠ 12 then none
          else if 16 < ip.length + 4 then none
          else (parseIPv4Fields s).map fun f => (ip ++ f, ellipsis, [])
        else
          let ip := ip ++ [(acc >>> 8).toUInt8, acc.toUInt8]
          if rest = [] then some (ip, ellipsis, [])
          else if rest.head? ≠ some ':' ∨ rest.length = 1 then none
          else if (rest.drop 1).head? = some ':' then
            if ellipsis ≠ none then none
            else if rest.drop 2 = [] then some (ip, some ip.length, [])
            else parseIPv6Loop fuel (rest.drop 2) ip (some ip.length)
          else parseIPv6Loop fuel (rest.drop 1) ip ellipsis

/-- The expansion of the ellipsis at byte `e` into the zero bytes missing from `ip`. -/
def expandEllipsis (ip : List UInt8) (e : Nat) : List UInt8 :=
  ip.take e ++ List.replicate (16 - ip.length) 0 ++ ip.drop e

/-- The checks after the loop of `parseIPv6`: the whole input read, and the ellipsis
expanded, or else exactly 16 bytes read. -/
def finishIPv6 : Option (List UInt8 × Option Nat × List Char) → Option (List UInt8)
  | some (ip, ellipsis, []) =>
    if ip.length < 16 then ellipsis.map (expandEllipsis ip)
    else if ellipsis ≠ none then none
    else some ip
  | _ => none

/-- The body of `parseIPv6` after the zone is split off: a leading ellipsis, alone or
followed by the groups. -/
def parseIPv6Addr (s : List Char) : Option (List UInt8) :=
  if s.take 2 = [':', ':'] then
    if s.drop 2 = [] then some (List.replicate 16 0)
    else finishIPv6 (parseIPv6Loop 8 (s.drop 2) [] (some 0))
  else finishIPv6 (parseIPv6Loop 8 s [] none)

/-- The zone split off by `parseIPv6` at the first `%`, which must not end the input. -/
def splitZone (input : List Char) : Option (List Char × List Char) :=
  if '%' ∈ input then
    let zone := (input.dropWhile (· ≠ '%')).drop 1
    if zone = [] then none else some (input.takeWhile (· ≠ '%'), zone)
  else some (input, [])

/-- `parseIPv6`: the 16 bytes and the zone of a literal IPv6 address. -/
def parseIPv6 (input : List Char) : Option (List UInt8 × List Char) :=
  (splitZone input).bind fun (s, zone) => (parseIPv6Addr s).map (·, zone)

/-- `netip.ParseAddr`: the first `.`, `:` or `%` decides the form. An IPv4 address is returned
in its 16-byte form, as `As16` gives it. -/
def parseAddr (s : List Char) : Option (List UInt8 × List Char) :=
  match s.find? fun c => c = '.' ∨ c = ':' ∨ c = '%' with
  | some '.' => (parseIPv4Fields s).map fun f => (v4InV6Prefix ++ f, [])
  | some ':' => parseIPv6 s
  | _ => none

/-- `net.ParseIP`: nil (`none`) for a malformed address or one with a zone. -/
def parseIP (s : String) : Option IP :=
  match parseAddr s.data with
  | some (bytes, []) => some ⟨bytes⟩
  | _ => none

lemma parseIPv4Loop_length {s : List Char} : ∀ {prev : Option Char} {fields : List UInt8}
    {val digLen : Nat} {f : List UInt8}, fields.length ≤ 3 →
    parseIPv4Loop s prev fields val digLen = some f → f.length = 4 := by
  induction s with
  | nil =>
    intro prev fields val digLen f hl h
    simp only [parseIPv4Loop] at h
    split_ifs at h with h3
    cases h
    simp only [List.length_append, List.length_singleton]
    omega
  | cons c s ih =>
    intro prev fields val digLen f hl h
    simp only [parseIPv4Loop] at h
    split_ifs at h with h1 h2 h3 h4 h5 h6
    · exact ih hl h
    · exact ih (by simp only [List.length_append, List.length_singleton]; omega) h

lemma parseIPv6Loop_length : ∀ {fuel : Nat} {s : List Char} {ip : List UInt8}
    {ellipsis : Option Nat} {r : List UInt8 × Option Nat × List Char},
    ip.length % 2 = 0 → ip.length ≤ 16 → parseIPv6Loop fuel s ip ellipsis = some r →
    r.1.length ≤ 16 := by
  intro fuel
  induction fuel with
  | zero => intro s ip ellipsis r _ hl h; cases h; exact hl
  | succ fuel ih =>
    intro s ip ellipsis r he hl h
    rw [parseIPv6Loop] at h
    by_cases h16 : 16 ≤ ip.length
    · rw [if_pos h16] at h; cases h; exact hl
    rw [if_neg h16] at h
    cases hg : parseIPv6Group s 0 0 with
    | none => rw [hg] at h; cases h
    | some g =>
    obtain ⟨acc, off, rest⟩ := g
    rw [hg] at h
    have h2 : ∀ a b : UInt8, (ip ++ [a, b]).length % 2 = 0 ∧ (ip ++ [a, b]).length ≤ 16 := by
      intro a b; simp only [List.length_append, List.length_cons, List.length_nil]; omega
    simp only [Option.ite_none_left_eq_some] at h
    obtain ⟨-, h⟩ := h
    by_cases hdot : rest.head? = some '.'
    · obtain ⟨-, hroom, f, hf, rfl⟩ := by
        simpa only [if_pos hdot, Option.ite_none_left_eq_some, Option.map_eq_some'] using h
      have := parseIPv4Loop_length (by simp) hf
      simp only [List.length_append]; omega
    rw [if_neg hdot] at h
    by_cases hnil : rest = []
    · rw [if_pos hnil] at h; cases h; exact (h2 _ _).2
    rw [if_neg hnil] at h
    obtain ⟨-, h⟩ := Option.ite_none_left_eq_some.1 h
    by_cases hell : (rest.drop 1).head? = some ':'
    · rw [if_pos hell] at h
      obtain ⟨-, h⟩ := Option.ite_none_left_eq_some.1 h
      by_cases hend : rest.drop 2 = []
      · rw [if_pos hend] at h; cases h; exact (h2 _ _).2
      · rw [if_neg hend] at h; exact ih (h2 _ _).1 (h2 _ _).2 h
    · rw [if_neg hell] at h; exact ih (h2 _ _).1 (h2 _ _).2 h

lemma finishIPv6_length {r : Option (List UInt8 × Option Nat × List Char)} {ip : List UInt8}
    (hr : ∀ x ∈ r, x.1.length ≤ 16) (h : finishIPv6 r = some ip) : ip.length = 16 := by
  match r, h with
  | some (ip', ellipsis, []), h =>
    have hl := hr _ rfl
    simp only [finishIPv6] at h
    split_ifs at h
    · obtain ⟨e, -, rfl⟩ := Option.map_eq_some'.1 h
      simp only [expandEllipsis, List.length_append, List.length_take, List.length_replicate,
        List.length_drop]
      omega
    · cases h; simp only at hl; omega

lemma parseIPv6Addr_length {s : List Char} {ip : List UInt8} (h : parseIPv6Addr s = some ip) :
    ip.length = 16 := by
  have hloop : ∀ {t e}, ∀ x ∈ parseIPv6Loop 8 t [] e, x.1.length ≤ 16 :=
    fun x hx => @parseIPv6Loop_length _ _ [] _ _ rfl (by simp) hx
  simp only [parseIPv6Addr] at h
  split_ifs at h
  · cases h; simp
  · exact finishIPv6_length hloop h
  · exact finishIPv6_length hloop h

/-- Every address `ParseIP` accepts is 16 bytes long. -/
theorem parseIP_bytes_length {s : String} {ip : IP} (h : parseIP s = some ip) :
    ip.bytes.length = 16 := by
  simp only [parseIP] at h
  split at h
  · rename_i bytes hb
    cases h
    simp only [parseAddr] at hb
    split at hb
    · obtain ⟨f, hf, hb⟩ := Option.map_eq_some'.1 hb
      cases hb
      simp [v4InV6Prefix, parseIPv4Loop_length (by simp) hf]
    · obtain ⟨⟨t, zone⟩, -, hb⟩ := Option.bind_eq_some.1 hb
      obtain ⟨b, hb', hb⟩ := Option.map_eq_some'.1 hb
      cases hb
      exact parseIPv6Addr_length hb'
    · cases hb
  · cases h

theorem parseIP_bytes_length_ten :
    parseIP "10.10.0.1" = some (IPv4 10 10 0 1) ∧ (IPv4 10 10 0 1).bytes.length = 16 :=
  ⟨rfl, parseIP_bytes_length (rfl : parseIP "10.10.0.1" = some (IPv4 10 10 0 1))⟩

lemma digit_of_lt_ten {d : Nat} (hd : d < 10) :
    ('0' ≤ digit d ∧ digit d ≤ '9') ∧ (digit d).toNat - '0'.toNat = d := by
  have h : ∀ i : Fin 10, ('0' ≤ digit i ∧ digit i ≤ '9') ∧ (digit i).toNat - '0'.toNat = i := by
    decide
  exact h ⟨d, hd⟩

lemma digit_ne_dot (i : Nat) : digit i ≠ '.' := fun h =>
  absurd (h ▸ digit_mem_hexDigit i) (by decide)

lemma parseIPv4Loop_digit {d : Nat} (hd : d < 10) {s : List Char} {prev : Option Char}
    {fields : List UInt8} {val digLen : Nat} (h0 : ¬(digLen = 1 ∧ val = 0))
    (hv : val * 10 + d ≤ 255) :
    parseIPv4Loop (digit d :: s) prev fields val digLen =
      parseIPv4Loop s (some (digit d)) fields (val * 10 + d) (digLen + 1) := by
  obtain ⟨hle, hsub⟩ := digit_of_lt_ten hd
  rw [parseIPv4Loop, if_pos hle, if_neg h0, hsub, if_neg (by omega)]

lemma parseIPv4Loop_dot {s : List Char} {c : Char} {fields : List UInt8} {val n : Nat}
    (hc : c ≠ '.') (hs : s ≠ []) (hf : fields.length ≠ 3) :
    parseIPv4Loop ('.' :: s) (some c) fields val n =
      parseIPv4Loop s (some '.') (fields ++ [val.toUInt8]) 0 0 := by
  rw [parseIPv4Loop, if_neg (by decide), if_pos rfl, if_neg (by simp [hs, hc]), if_neg hf]

/-- The digits `uitoa` prints for a byte are read back as one field of the same value. -/
lemma parseIPv4Loop_uitoa {v : Nat} (hv : v < 256) (rest : List Char) (prev : Option Char)
    (fields : List UInt8) :
    parseIPv4Loop (uitoa v ++ rest) prev fields 0 0 =
      parseIPv4Loop rest (some (digit (v % 10))) fields v (uitoa v).length := by
  rcases Nat.lt_or_ge v 10 with h1 | h1
  · rw [uitoa_of_lt_ten h1, List.singleton_append, parseIPv4Loop_digit h1 (by omega) (by omega),
      Nat.mod_eq_of_lt h1]
    simp
  rcases Nat.lt_or_ge v 100 with h2 | h2
  · rw [uitoa_of_lt_hundred h1 h2, List.cons_append, List.singleton_append,
      parseIPv4Loop_digit (by omega) (by omega) (by omega),
      parseIPv4Loop_digit (by omega) (by omega) (by omega)]
    simp only [Nat.zero_mul, Nat.zero_add, List.length_cons, List.length_nil]
    rw [Nat.div_add_mod' v 10]
  · rw [uitoa_of_lt_thousand h2 (by omega), List.cons_append, List.cons_append,
      List.singleton_append, parseIPv4Loop_digit (by omega) (by omega) (by omega),
      parseIPv4Loop_digit (by omega) (by omega) (by omega),
      parseIPv4Loop_digit (by omega) (by omega) (by omega)]
    have hv' : (0 * 10 + v / 100) * 10 + v / 10 % 10 = v / 10 := by omega
    simp only [hv', List.length_cons, List.length_nil]
    rw [Nat.div_add_mod' v 10]

lemma toNat_toUInt8 (a : UInt8) : a.toNat.toUInt8 = a :=
  UInt8.eq_of_val_eq (by simp [Nat.toUInt8, UInt8.ofNat, UInt8.toNat])

lemma parseIPv4Fields_uitoa (a b c d : UInt8) :
    parseIPv4Fields (uitoa a.toNat ++ '.' :: (uitoa b.toNat ++ '.' ::
      (uitoa c.toNat ++ '.' :: uitoa d.toNat))) = some [a, b, c, d] := by
  have hne : ∀ (v : Nat) (r : List Char), uitoa v ++ r ≠ [] := fun v r h =>
    uitoa_ne_nil v (List.append_eq_nil.1 h).1
  rw [parseIPv4Fields, parseIPv4Loop_uitoa a.toNat_lt_size, parseIPv4Loop_dot (digit_ne_dot _)
    (hne _ _) ?_, parseIPv4Loop_uitoa b.toNat_lt_size, parseIPv4Loop_dot (digit_ne_dot _)
    (hne _ _) ?_, parseIPv4Loop_uitoa c.toNat_lt_size, parseIPv4Loop_dot (digit_ne_dot _)
    (uitoa_ne_nil _) ?_, ← List.append_nil (uitoa d.toNat), parseIPv4Loop_uitoa d.toNat_lt_size,
    parseIPv4Loop, if_neg (by simp)]
  all_goals simp [toNat_toUInt8]

lemma IPv4_string (a b c d : UInt8) :
    (IPv4 a b c d).string =
      ⟨uitoa a.toNat ++ '.' :: (uitoa b.toNat ++ '.' :: (uitoa c.toNat ++ '.' :: uitoa d.toNat))⟩ := by
  simp [IP.string, IPv4, IP.to4, v4InV6Prefix]

lemma parseAddr_dotted (a b c d : UInt8) :
    parseAddr (uitoa a.toNat ++ '.' :: (uitoa b.toNat ++ '.' ::
      (uitoa c.toNat ++ '.' :: uitoa d.toNat))) = some (v4InV6Prefix ++ [a, b, c, d], []) := by
  have hdig : ∀ x ∈ hexDigit, ¬(x = '.' ∨ x = ':' ∨ x = '%') := by decide
  have hfind : (uitoa a.toNat ++ '.' :: (uitoa b.toNat ++ '.' ::
      (uitoa c.toNat ++ '.' :: uitoa d.toNat))).find? (fun x => x = '.' ∨ x = ':' ∨ x = '%') =
      some '.' := by
    rw [List.find?_append, List.find?_eq_none.2 fun x hx => by
      simpa using hdig x (uitoa_mem_hexDigit hx)]
    simp
  rw [parseAddr, hfind]
  simp [parseIPv4Fields_uitoa]

end Pumba.Go
