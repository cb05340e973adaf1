import Pumba.Go.IP

/-! `time.ParseDuration` of the current Go standard library. A `time.Duration` is a signed
count of nanoseconds, an `Int` here; the parser accumulates in `uint64`, whose sum wraps at
`1<<64`, and bounds every step by `1<<63`. Go scales a fraction in `float64`, and so does the
model: IEEE 754 binary64 on non-negative values, each operation rounding its exact result to
the nearest value, ties to even, with subnormals and overflow to `+Inf`. A whole number is
written with the decimal printer `uitoa` of the `net` model. -/
namespace Pumba.Go

/-- `1<<63`, the bound of the parser's unsigned accumulators. -/
def pow63 : Nat := 9223372036854775808

/-- `1<<64`, where the `uint64` running total wraps. -/
def pow64 : Nat := 18446744073709551616

/-- A non-negative `float64`: `finite mant exp` is `mant * 2^exp`. -/
inductive Float64
  | finite (mant : Nat) (exp : Int)
  | inf
  deriving DecidableEq, Repr

namespace Float64

/-- The number of binary digits of `n` (`Nat.log2 n + 1` for `0 < n`), by recursion on a fuel
that `n` bounds. -/
def bitLen : Nat → Nat → Nat
  | 0, _ => 0
  | fuel + 1, n => if n = 0 then 0 else bitLen fuel (n / 2) + 1

/-- `n / d` rounded to the nearest integer, ties to even. -/
def roundDiv (n d : Nat) : Nat :=
  if d < 2 * (n % d) || (2 * (n % d) == d && n / d % 2 == 1) then n / d + 1 else n / d

/-- Whether `2^j ≤ num / den`. -/
def twoPowLe (j : Int) (num den : Nat) : Bool :=
  if 0 ≤ j then den * Nat.pow 2 j.toNat ≤ num else den ≤ num * Nat.pow 2 (-j).toNat

/-- The `float64` nearest to `num / den`, ties to even: 53 significant bits, exponents down to
the subnormal `2^-1074`, and `+Inf` from `2^1024` on, or for `den = 0`. -/
def round (num den : Nat) : Float64 :=
  if den = 0 then inf else
    -- `2^e ≤ num / den < 2^(e+1)`, and the last bit kept is worth `2^exp`
    let e0 : Int := (bitLen num num : Int) - bitLen den den
    let e := if twoPowLe e0 num den then e0 else e0 - 1
    let exp := if e - 52 < -1074 then -1074 else e - 52
    let mant := if 0 ≤ exp then roundDiv num (den * Nat.pow 2 exp.toNat)
      else roundDiv (num * Nat.pow 2 (-exp).toNat) den
    if 1025 ≤ exp + bitLen mant mant then inf else finite mant exp

/-- `a * 2^k / b`, rounded. -/
def scaled (a b : Nat) (k : Int) : Float64 :=
  if 0 ≤ k then round (a * Nat.pow 2 k.toNat) b else round a (b * Nat.pow 2 (-k).toNat)

/-- `float64(n)` of an unsigned integer. -/
def ofNat (n : Nat) : Float64 := round n 1

/-- `x * y`. `+Inf` times a non-zero value is `+Inf`; the parser multiplies no zero by it. -/
def mul : Float64 → Float64 → Float64
  | finite m₁ e₁, finite m₂ e₂ => scaled (m₁ * m₂) 1 (e₁ + e₂)
  | _, _ => inf

/-- `x / y` for a non-zero `y`: a finite value over `+Inf` is zero. -/
def div : Float64 → Float64 → Float64
  | finite m₁ e₁, finite m₂ e₂ => scaled m₁ m₂ (e₁ - e₂)
  | finite _ _, inf => finite 0 0
  | inf, _ => inf

/-- `uint64(x)`: the value truncated toward zero. Go leaves `+Inf` to the platform, and amd64
gives `1<<63`. -/
def toUInt64 : Float64 → Nat
  | finite m e => if 0 ≤ e then m * Nat.pow 2 e.toNat else m / Nat.pow 2 (-e).toNat
  | inf => 9223372036854775808

end Float64

/-- `unitMap`: nanoseconds per unit. -/
def unitMap : List (String × Nat) :=
  [("ns", 1), ("us", 1000), ("µs", 1000), ("μs", 1000), ("ms", 1000000),
    ("s", 1000000000), ("m", 60000000000), ("h", 3600000000000)]

def isDigitByte (c : Char) : Bool := '0' ≤ c && c ≤ '9'

/-- `leadingInt` from the accumulator `x`: `none` on overflow. -/
def leadingInt : List Char → Nat → Option (Nat × List Char)
  | [], x => some (x, [])
  | c :: cs, x =>
    if !isDigitByte c then some (x, c :: cs)
    else if pow63 / 10 < x then none
    else if pow63 < x * 10 + (c.toNat - 48) then none
    else leadingInt cs (x * 10 + (c.toNat - 48))

/-- `leadingFraction` from the accumulator `x` and its `float64` `scale`: once a digit would
overflow, the remaining digits are skipped. -/
def leadingFraction : List Char → Nat → Float64 → Bool → Nat × Float64 × List Char
  | [], x, scale, _ => (x, scale, [])
  | c :: cs, x, scale, overflow =>
    if !isDigitByte c then (x, scale, c :: cs)
    else if overflow || (pow63 - 1) / 10 < x || pow63 < x * 10 + (c.toNat - 48) then
      leadingFraction cs x scale true
    else leadingFraction cs (x * 10 + (c.toNat - 48)) (scale.mul (.ofNat 10)) false

/-- `quote`: the input between double quotes, with `"` and `\` escaped and every byte of a
rune outside printable ASCII written `\xNN`. -/
def quote (s : String) : String :=
  ⟨'"' :: s.data.flatMap (fun c =>
    if 0x80 ≤ c.toNat ∨ c.toNat < 0x20 then
      (String.utf8EncodeChar c).flatMap fun b => ['\\', 'x', digit (b.toNat / 16), digit (b.toNat % 16)]
    else if c = '"' ∨ c = '\\' then ['\\', c] else [c]) ++ ['"']⟩

def errInvalid (orig : String) : String := "time: invalid duration " ++ quote orig

/-- The optional `(\.[0-9]*)?` of a component: the fraction, its scale, the rest, and whether
a digit followed the dot (`post`). -/
def consumeFraction : List Char → Nat × Float64 × List Char × Bool
  | '.' :: s =>
    let (f, scale, s2) := leadingFraction s 0 (.ofNat 1) false
    (f, scale, s2, s2.length ≠ s.length)
  | s => (0, .ofNat 1, s, false)

/-- `uint64(float64(f) * (float64(unit) / scale))`: the nanoseconds of the fraction
`f / scale` of a unit. -/
def fractionNanos (f unit : Nat) (scale : Float64) : Nat :=
  ((Float64.ofNat f).mul ((Float64.ofNat unit).div scale)).toUInt64

/-- One pass of the loop body: `[0-9]*(\.[0-9]*)?` and a unit, added to `d`. -/
def parseComponent (orig : String) (s : List Char) (d : Nat) : Except String (Nat × List Char) :=
  match s with
  | [] => .error (errInvalid orig)
  | c :: _ =>
    if !(c = '.' || isDigitByte c) then .error (errInvalid orig)
    else match leadingInt s 0 with
    | none => .error (errInvalid orig)
    | some (v, s1) =>
      let pre := s1.length ≠ s.length
      let (f, scale, s2, post) := consumeFraction s1
      if !pre && !post then .error (errInvalid orig)
      else
        let u := s2.takeWhile fun c => !(c = '.' || isDigitByte c)
        let rest := s2.drop u.length
        if u = [] then .error ("time: missing unit in duration " ++ quote orig)
        else match unitMap.lookup ⟨u⟩ with
        | none => .error ("time: unknown unit " ++ quote ⟨u⟩ ++ " in duration " ++ quote orig)
        | some unit =>
          if pow63 / unit < v then .error (errInvalid orig)
          else
            -- `v *= unit`, then `v += ` the fraction, in `uint64`
            let v := if 0 < f then (v * unit + fractionNanos f unit scale) % pow64 else v * unit
            if pow63 < v then .error (errInvalid orig)
            else
              -- `d += v` in `uint64`
              let d := (d + v) % pow64
              if pow63 < d then .error (errInvalid orig) else .ok (d, rest)

/-- The component loop `for s != ""`; every pass consumes input, so the length of the input
is enough fuel. -/
def parseLoop (orig : String) : Nat → List Char → Nat → Except String Nat
  | _, [], d => .ok d
  | 0, _ :: _, _ => .error (errInvalid orig)
  | fuel+1, c :: cs, d =>
    match parseComponent orig (c :: cs) d with
    | .error e => .error e
    | .ok (d', rest) => parseLoop orig fuel rest d'

/-- The optional sign `[-+]?`: whether it was a minus, and the rest. -/
def consumeSign : List Char → Bool × List Char
  | '-' :: s => (true, s)
  | '+' :: s => (false, s)
  | s => (false, s)

/-- `time.ParseDuration`. -/
def parseDuration (orig : String) : Except String Int :=
  let (neg, s) := consumeSign orig.data
  if s = ['0'] then .ok 0
  else if s = [] then .error (errInvalid orig)
  else match parseLoop orig s.length s 0 with
    | .error e => .error e
    | .ok d =>
      if neg then .ok (-(d : Int))
      else if pow63 - 1 < d then .error (errInvalid orig) else .ok d

-- Two components of `1<<63` nanoseconds add up to `1<<64`, which the `uint64` total wraps to zero.
example : parseDuration "9223372036854775808ns9223372036854775808ns5s" = .ok 5000000000 := rfl

-- In `float64` a third of an hour is twenty minutes, one nanosecond more than the exact quotient.
set_option maxRecDepth 1000 in
example : parseDuration "0.3333333333333333333h" = .ok 1200000000000 := rfl

section Except

variable {ε α β : Type}

@[simp] lemma except_bind_eq_ok {x : Except ε α} {f : α → Except ε β} {b : β} :
    x >>= f = .ok b ↔ ∃ a, x = .ok a ∧ f a = .ok b := by
  cases x <;> simp [bind, Except.bind]

@[simp] lemma except_ite_error_eq_ok {c : Prop} [Decidable c] {e : ε} {y : Except ε α} {a : α} :
    (if c then .error e else y) = .ok a ↔ ¬c ∧ y = .ok a := by
  split <;> simp [*]

@[simp] lemma except_ite_eq_ok_error {c : Prop} [Decidable c] {e : ε} {y : Except ε α} {a : α} :
    (if c then y else .error e) = .ok a ↔ c ∧ y = .ok a := by
  split <;> simp [*]

@[simp] lemma except_map_throw (f : α → β) (e : ε) : f <$> (throw e : Except ε α) = .error e := rfl

@[simp] lemma except_throw_bind (e : ε) (f : α → Except ε β) : (throw e >>= f) = .error e := rfl

@[simp] lemma except_map_eq_ok {f : α → β} {x : Except ε α} {b : β} :
    f <$> x = .ok b ↔ ∃ a, x = .ok a ∧ f a = b := by
  cases x <;> simp [Functor.map, Except.map]

@[simp] lemma except_pure_eq_ok {a b : α} : (pure a : Except ε α) = .ok b ↔ a = b := by
  simp [pure, Except.pure]

end Except

/-- A component that parses leaves the total within the unsigned bound `1<<63`. -/
lemma parseComponent_le {orig : String} {s rest : List Char} {d d' : Nat}
    (h : parseComponent orig s d = .ok (d', rest)) : d' ≤ pow63 := by
  rcases s with _ | ⟨c, cs⟩
  · cases h
  rw [parseComponent] at h
  rcases hv : leadingInt (c :: cs) 0 with _ | ⟨v, s1⟩ <;>
    simp only [hv, except_ite_error_eq_ok] at h
  · exact absurd h.2 nofun
  generalize consumeFraction s1 = q at h
  obtain ⟨-, -, -, h⟩ := h
  split at h
  · exact absurd h nofun
  simp only [except_ite_error_eq_ok] at h
  generalize v * _ + _ = w at h
  obtain ⟨-, -, hd, h⟩ := h
  cases h
  exact Nat.not_lt.1 hd

lemma parseLoop_le {orig : String} : ∀ {fuel : Nat} {s : List Char} {d d' : Nat},
    d ≤ pow63 → parseLoop orig fuel s d = .ok d' → d' ≤ pow63
  | _, [], _, _, hd, h => by rw [parseLoop] at h; cases h; exact hd
  | 0, _ :: _, _, _, _, h => by cases h
  | _ + 1, _ :: _, _, _, _, h => by
    rw [parseLoop] at h
    split at h
    · cases h
    · exact parseLoop_le (parseComponent_le (by assumption)) h

/-- The input text enters a component only through its error messages. -/
lemma parseComponent_ok_orig {o : String} (o' : String) {s : List Char} {d : Nat}
    {r : Nat × List Char} (h : parseComponent o s d = .ok r) : parseComponent o' s d = .ok r := by
  rcases s with _ | ⟨c, cs⟩
  · cases h
  rw [parseComponent] at h ⊢
  rcases hv : leadingInt (c :: cs) 0 with _ | ⟨v, s1⟩ <;>
    simp only [hv, except_ite_error_eq_ok] at h ⊢
  · exact absurd h.2 nofun
  generalize consumeFraction s1 = q at h ⊢
  obtain ⟨f, scale, s2, post⟩ := q
  obtain ⟨h1, h2, h3, h⟩ := h
  refine ⟨h1, h2, h3, ?_⟩
  split at h
  · cases h
  rename_i unit hu
  simp only [hu, except_ite_error_eq_ok] at h ⊢
  exact h

lemma parseLoop_ok_orig {o : String} (o' : String) :
    ∀ {fuel : Nat} {s : List Char} {d d' : Nat},
      parseLoop o fuel s d = .ok d' → parseLoop o' fuel s d = .ok d'
  | _, [], _, _, h => by rw [parseLoop] at h ⊢; exact h
  | 0, _ :: _, _, _, h => by cases h
  | _ + 1, _ :: _, _, _, h => by
    rw [parseLoop] at h ⊢
    split at h
    · cases h
    · rw [parseComponent_ok_orig o' ‹_›]
      exact parseLoop_ok_orig o' h

lemma consumeSign_of_head {s : List Char} (hs : ∀ c ∈ s.head?, c ≠ '-' ∧ c ≠ '+') :
    consumeSign s = (false, s) := by
  rw [consumeSign.eq_3 _ (fun s' he => (hs '-' (by simp [he])).1 rfl)
    (fun s' he => (hs '+' (by simp [he])).2 rfl)]

/-- A minus sign is read apart from the number after it: for every unsigned text that
`ParseDuration` accepts, the text with a `-` in front parses to the negation; a `-` text parses
only to the negation of what its unsigned text parses to, or to `-1<<63`, which has no positive
counterpart in an `int64`. -/
theorem parseDuration_neg {s : String} (hs : ∀ c ∈ s.data.head?, c ≠ '-' ∧ c ≠ '+') :
    (∀ v, parseDuration s = .ok v → parseDuration ("-" ++ s) = .ok (-v)) ∧
    (∀ v, parseDuration ("-" ++ s) = .ok v → v = -(pow63 : Int) ∨ parseDuration s = .ok (-v)) := by
  have hneg : consumeSign ("-" ++ s).data = (true, s.data) := rfl
  unfold parseDuration
  rw [hneg, consumeSign_of_head hs]
  dsimp only
  by_cases h0 : s.data = ['0']
  · simp only [if_pos h0]
    exact ⟨fun v h => by cases h; rfl, fun v h => by cases h; exact .inr rfl⟩
  by_cases hn : s.data = []
  · simp [h0, hn]
  simp only [if_neg h0, if_neg hn, Bool.false_eq_true, if_false, if_true]
  -- the two loops read the same characters, so they fail or succeed together
  rcases hl : parseLoop s s.data.length s.data 0 with e | d
  · rcases hl' : parseLoop ("-" ++ s) s.data.length s.data 0 with e' | d'
    · simp
    · rw [parseLoop_ok_orig s hl'] at hl
      cases hl
  rw [parseLoop_ok_orig ("-" ++ s) hl]
  have hd := parseLoop_le (Nat.zero_le _) hl
  dsimp only
  by_cases hp : pow63 - 1 < d
  · refine ⟨fun v h => absurd h (by rw [if_pos hp]; exact nofun), fun v h => .inl ?_⟩
    cases h
    rw [show d = pow63 by omega]
  · rw [if_neg hp]
    exact ⟨fun v h => by cases h; rfl, fun v h => .inr (by cases h; rw [Int.neg_neg])⟩

theorem parseDuration_neg_min_int64 :
    (∀ c ∈ "9223372036854775808ns".data.head?, c ≠ '-' ∧ c ≠ '+') ∧
      parseDuration ("-" ++ "9223372036854775808ns") = .ok (-9223372036854775808) ∧
      parseDuration "9223372036854775808ns" = .error (errInvalid "9223372036854775808ns") ∧
      ((-9223372036854775808 : Int) = -(pow63 : Int) ∨
        parseDuration "9223372036854775808ns" = .ok (-(-9223372036854775808))) :=
  ⟨by decide, rfl, rfl, (parseDuration_neg (s := "9223372036854775808ns") (by decide)).2 _ rfl⟩

section Decimal
lemma isDigitByte_digit {d : Nat} (hd : d < 10) :
    isDigitByte (digit d) = true ∧ (digit d).toNat - 48 = d := by
  have h : ∀ i : Fin 10, isDigitByte (digit i) = true ∧ (digit i).toNat - 48 = i := by decide
  exact h ⟨d, hd⟩

lemma uitoaLoop_append : ∀ (fuel val : Nat) (buf : List Char),
    uitoaLoop fuel val buf = uitoaLoop fuel val [] ++ buf
  | 0, _, _ => rfl
  | fuel + 1, val, buf => by
    rcases Nat.lt_or_ge val 10 with h | h
    · rw [uitoaLoop_of_lt h, uitoaLoop_of_lt h]; rfl
    · rw [uitoaLoop_of_ge h, uitoaLoop_of_ge h, uitoaLoop_append fuel _ (digit _ :: buf),
        uitoaLoop_append fuel _ [digit _]]
      simp

lemma uitoaLoop_isDigit {c : Char} : ∀ {fuel val : Nat} {buf : List Char},
    c ∈ uitoaLoop fuel val buf → c ∈ buf ∨ isDigitByte c = true
  | 0, _, _, h => .inl h
  | fuel + 1, val, buf, h => by
    have hd : ∀ {i}, i < 10 → c ∈ digit i :: buf → c ∈ buf ∨ isDigitByte c = true := fun hi h =>
      (List.mem_cons.1 h).elim (fun h => .inr (h ▸ (isDigitByte_digit hi).1)) .inl
    rcases Nat.lt_or_ge val 10 with hv | hv
    · rw [uitoaLoop_of_lt hv] at h; exact hd hv h
    · rw [uitoaLoop_of_ge hv] at h
      exact (uitoaLoop_isDigit h).elim (hd (Nat.mod_lt _ (by omega))) .inr

lemma leadingInt_digit {d x : Nat} (hd : d < 10) (hb : x * 10 + d ≤ pow63) (s : List Char) :
    leadingInt (digit d :: s) x = leadingInt s (x * 10 + d) := by
  obtain ⟨h1, h2⟩ := isDigitByte_digit hd
  rw [leadingInt, h1, h2, if_neg (by decide), if_neg (by omega), if_neg (by omega)]

/-- `leadingInt` reads back the digits `uitoa` prints, one decimal digit at a time. -/
lemma leadingInt_uitoaLoop : ∀ (fuel val : Nat) (buf : List Char), val < fuel → val ≤ pow63 →
    leadingInt (uitoaLoop fuel val buf) 0 = leadingInt buf val
  | fuel + 1, val, buf, hf, hb => by
    rcases Nat.lt_or_ge val 10 with hv | hv
    · rw [uitoaLoop_of_lt hv, leadingInt_digit hv (by omega), Nat.zero_mul, Nat.zero_add]
    · rw [uitoaLoop_of_ge hv, leadingInt_uitoaLoop fuel (val / 10) _ (by omega) (by omega),
        leadingInt_digit (Nat.mod_lt _ (by omega)) (by omega), Nat.div_add_mod']

lemma unitMap_units : ∀ p ∈ unitMap, p.1.data ≠ [] ∧
    (∀ c ∈ p.1.data, (!(c = '.' || isDigitByte c)) = true) ∧ unitMap.lookup p.1 = some p.2 ∧
    0 < p.2 := by
  decide

lemma leadingInt_uitoa_append {n : Nat} (hn : n ≤ pow63) {u : List Char}
    (hu : ∀ c ∈ u.head?, (!(c = '.' || isDigitByte c)) = true) :
    leadingInt (uitoa n ++ u) 0 = some (n, u) := by
  rw [uitoa, ← uitoaLoop_append, leadingInt_uitoaLoop (n + 1) n u (by omega) hn]
  cases u with
  | nil => rfl
  | cons c u =>
    have hc := hu c rfl
    simp only [Bool.not_or, Bool.and_eq_true, Bool.not_eq_true'] at hc
    rw [leadingInt, if_pos (by simp [hc.2])]

lemma consumeFraction_of_head {s : List Char} (h : ∀ c ∈ s.head?, c ≠ '.') :
    consumeFraction s = (0, .ofNat 1, s, false) := by
  match s, h with
  | [], _ => rfl
  | c :: s, h => rw [consumeFraction.eq_2 _ (fun s' he => h c rfl (by cases he; rfl))]


lemma uitoa_cons_digit (n : Nat) : ∃ c cs, uitoa n = c :: cs ∧ isDigitByte c = true := by
  obtain ⟨c, cs, hc⟩ := List.exists_cons_of_ne_nil (uitoa_ne_nil n)
  exact ⟨c, cs, hc,
    (uitoaLoop_isDigit (hc ▸ List.mem_cons_self c cs)).resolve_left (List.not_mem_nil _)⟩

/-- A whole number followed by a unit is one component worth that many units, and the loop
goes on with the digits after it. -/
lemma parseComponent_uitoa {n k : Nat} {u : String} (hu : (u, k) ∈ unitMap) (orig : String)
    {rest : List Char} (hr : ∀ c ∈ rest.head?, isDigitByte c = true) {d : Nat}
    (hd : d + n * k ≤ pow63) :
    parseComponent orig (uitoa n ++ u.data ++ rest) d = .ok (d + n * k, rest) := by
  obtain ⟨hne, hchars, hlook, hk⟩ := unitMap_units _ hu
  simp only at hne hchars hlook hk
  have hn : n ≤ pow63 := by
    have := Nat.le_mul_of_pos_right n hk
    omega
  obtain ⟨c, cs, hc, hdig⟩ := uitoa_cons_digit n
  obtain ⟨a, as, ha⟩ := List.exists_cons_of_ne_nil hne
  have hhead : ∀ x ∈ (u.data ++ rest).head?, (!(x = '.' || isDigitByte x)) = true := by
    rw [ha]; exact fun x hx => hchars x (by cases hx; rw [ha]; exact List.mem_cons_self _ _)
  have hli := leadingInt_uitoa_append hn hhead
  have hfr := consumeFraction_of_head (s := u.data ++ rest) fun x hx h => by
    have := hhead x hx
    simp [h] at this
  have htw : (u.data ++ rest).takeWhile (fun c => !(c = '.' || isDigitByte c)) = u.data := by
    rw [List.takeWhile_append_of_pos hchars]
    cases rest with
    | nil => simp
    | cons r rs => simp [List.takeWhile_cons, hr r rfl]
  rw [hc, List.cons_append] at hli
  rw [List.append_assoc, hc, List.cons_append, parseComponent, if_neg (by simp [hdig]), hli]
  simp only [hfr, htw]
  rw [if_neg (by simp; omega), if_neg hne, show (⟨u.data⟩ : String) = u from rfl, hlook]
  have hnk : ¬pow63 / k < n := Nat.not_lt.2 ((Nat.le_div_iff_mul_le hk).2 (by omega))
  have hmod : (d + n * k) % pow64 = d + n * k := Nat.mod_eq_of_lt <| by
    have : pow64 = 2 * pow63 := rfl
    have : 0 < pow63 := by decide
    omega
  simp only [hnk, Nat.lt_irrefl, if_false, Nat.add_zero, List.drop_left, hmod]
  rw [if_neg (by omega), if_neg (by omega)]

lemma consumeSign_of_digit {c : Char} (hc : isDigitByte c = true) (s : List Char) :
    consumeSign (c :: s) = (false, c :: s) :=
  consumeSign_of_head fun _ h => by
    cases h
    exact ⟨fun h => absurd (h ▸ hc) (by decide), fun h => absurd (h ▸ hc) (by decide)⟩

lemma parseLoop_nil (orig : String) (fuel d : Nat) : parseLoop orig fuel [] d = .ok d := by
  cases fuel <;> rfl

lemma parseLoop_succ {orig : String} {fuel d d' : Nat} {s rest : List Char} (hs : s ≠ [])
    (h : parseComponent orig s d = .ok (d', rest)) :
    parseLoop orig (fuel + 1) s d = parseLoop orig fuel rest d' := by
  obtain ⟨c, cs, rfl⟩ := List.exists_cons_of_ne_nil hs
  rw [parseLoop, h]

/-- The text of whole-number components: each number as `uitoa` prints it, then its unit. -/
def componentsText (cs : List (Nat × String × Nat)) : List Char :=
  cs.flatMap fun c => uitoa c.1 ++ c.2.1.data

/-- The nanoseconds the components are worth. -/
def componentsValue : List (Nat × String × Nat) → Nat
  | [] => 0
  | (n, _, k) :: cs => n * k + componentsValue cs

lemma componentsText_cons (n : Nat) (u : String) (k : Nat) (cs : List (Nat × String × Nat)) :
    componentsText ((n, u, k) :: cs) = uitoa n ++ u.data ++ componentsText cs := by
  simp [componentsText]

lemma componentsText_head (cs : List (Nat × String × Nat)) :
    ∀ x ∈ (componentsText cs).head?, isDigitByte x = true := by
  match cs with
  | [] => exact nofun
  | (n, u, k) :: cs =>
    obtain ⟨c, s, hc, hdig⟩ := uitoa_cons_digit n
    rw [componentsText_cons, hc]
    intro x hx
    cases hx
    exact hdig

/-- The loop reads printed components one per pass and adds their values to its total. -/
lemma parseLoop_components (orig : String) : ∀ (cs : List (Nat × String × Nat)) (fuel d : Nat),
    (∀ c ∈ cs, c.2 ∈ unitMap) → (componentsText cs).length ≤ fuel →
    d + componentsValue cs ≤ pow63 →
    parseLoop orig fuel (componentsText cs) d = .ok (d + componentsValue cs)
  | [], fuel, d, _, _, _ => parseLoop_nil orig fuel d
  | (n, u, k) :: cs, fuel, d, hu, hl, hs => by
    have hv : componentsValue ((n, u, k) :: cs) = n * k + componentsValue cs := rfl
    have hne : uitoa n ++ u.data ++ componentsText cs ≠ [] := by simp [uitoa_ne_nil]
    have hlen := List.length_pos.2 (uitoa_ne_nil n)
    rw [componentsText_cons] at hl ⊢
    simp only [List.length_append] at hl
    obtain ⟨fuel, rfl⟩ : ∃ f, fuel = f + 1 := ⟨fuel - 1, by omega⟩
    have huk : (u, k) ∈ unitMap := hu _ (List.mem_cons_self _ _)
    rw [hv] at hs ⊢
    rw [parseLoop_succ hne (parseComponent_uitoa huk orig (componentsText_head cs) (by omega)),
      parseLoop_components orig cs fuel _ (fun c hc => hu c (List.mem_cons_of_mem _ hc))
        (by omega) (by omega), Nat.add_assoc]

/-- An unsigned text of two characters or more parses to the total of its loop, when that
fits in an `int64`. -/
lemma parseDuration_of_parseLoop {orig : String} {c : Char} {s : List Char} {d : Nat}
    (hc : isDigitByte c = true) (hdata : orig.data = c :: s) (hs : s ≠ [])
    (hl : parseLoop orig orig.data.length orig.data 0 = .ok d) (hd : d < pow63) :
    parseDuration orig = .ok d := by
  unfold parseDuration
  rw [hdata, consumeSign_of_digit hc]
  dsimp only
  rw [if_neg (by simp [hs]), if_neg (List.cons_ne_nil _ _), ← hdata, hl]
  simp only [Bool.false_eq_true, if_false]
  rw [if_neg (by omega)]

/-- Whole-number components parse to their value. -/
lemma parseDuration_componentsText {cs : List (Nat × String × Nat)} (hne : cs ≠ [])
    (hu : ∀ c ∈ cs, c.2 ∈ unitMap) (hs : componentsValue cs < pow63) :
    parseDuration ⟨componentsText cs⟩ = .ok (componentsValue cs : Nat) := by
  obtain ⟨⟨n, u, k⟩, cs', rfl⟩ := List.exists_cons_of_ne_nil hne
  obtain ⟨c, s, hc, hdig⟩ := uitoa_cons_digit n
  have hu0 := (unitMap_units _ (hu _ (List.mem_cons_self _ _))).1
  have hl := parseLoop_components ⟨componentsText ((n, u, k) :: cs')⟩ _ _ 0 hu le_rfl (by omega)
  rw [Nat.zero_add] at hl
  exact parseDuration_of_parseLoop hdig (s := s ++ u.data ++ componentsText cs')
    (by rw [componentsText_cons, hc]; rfl) (by simp [hu0]) hl hs

/-- A whole number of a unit, as `uitoa` prints the number, parses to that many units of
nanoseconds whenever the product fits in an `int64`. -/
theorem parseDuration_uitoa_unit {n k : Nat} {u : String} (hu : (u, k) ∈ unitMap)
    (hn : n * k < pow63) : parseDuration (⟨uitoa n⟩ ++ u) = .ok ((n * k : Nat) : Int) := by
  have h := @parseDuration_componentsText [(n, u, k)] (List.cons_ne_nil _ _) (by simpa using hu)
    (by simpa [componentsValue] using hn)
  simpa [componentsText, componentsValue] using h

theorem parseDuration_uitoa_unit_ten_ms :
    ("ms", 1000000) ∈ unitMap ∧ 10 * 1000000 < pow63 ∧
      parseDuration (⟨uitoa 10⟩ ++ "ms") = .ok ((10 * 1000000 : Nat) : Int) :=
  ⟨by decide, by decide, parseDuration_uitoa_unit (by decide) (by decide)⟩

/-- Whole-number components add up: a non-empty sequence of numbers as `uitoa` prints them,
each followed by a unit, parses to the sum of the numbers times their units whenever the sum
fits in an `int64`. -/
theorem parseDuration_components {cs : List (Nat × String × Nat)} (hne : cs ≠ [])
    (hu : ∀ c ∈ cs, c.2 ∈ unitMap) (hs : componentsValue cs < pow63) :
    parseDuration ⟨componentsText cs⟩ = .ok (componentsValue cs : Nat) :=
  parseDuration_componentsText hne hu hs

theorem parseDuration_components_one_hour_thirty :
    ((⟨componentsText [(1, "h", 3600000000000), (30, "m", 60000000000)]⟩ : String) = "1h30m" ∧
      [(1, "h", 3600000000000), (30, "m", 60000000000)] ≠ []) ∧
      (∀ c ∈ [(1, "h", 3600000000000), (30, "m", 60000000000)], c.2 ∈ unitMap) ∧
      componentsValue [(1, "h", 3600000000000), (30, "m", 60000000000)] < pow63 ∧
      parseDuration ⟨componentsText [(1, "h", 3600000000000), (30, "m", 60000000000)]⟩ =
        .ok (componentsValue [(1, "h", 3600000000000), (30, "m", 60000000000)] : Nat) :=
  ⟨⟨by decide, by decide⟩, by decide, by decide,
    parseDuration_components (by decide) (by decide) (by decide)⟩

end Decimal

end Pumba.Go
