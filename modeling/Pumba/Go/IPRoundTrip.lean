import Pumba.Go.ParseIP

/-! `net.ParseIP` reads back the text `(IP).String` prints, for every 16-byte address. The
IPv6 text is cut into its hex groups: one pass of the group loop of `parseIPv6` reads a group
and the colon after it (`parseIPv6Loop_group`), and the first longest run of zero groups, which
`String` writes as `::`, comes back from the expansion of the ellipsis. -/
namespace Pumba.Go

lemma hexValue_digit {d : Nat} (hd : d < 16) : hexValue (digit d) = some d := by
  have h : ∀ i : Fin 16, hexValue (digit i) = some i := by decide
  exact h ⟨d, hd⟩

lemma range_eight_reverse : (List.range 8).reverse = [7, 6, 5, 4, 3, 2, 1, 0] := rfl

/-- The value of hexadecimal digits read after `acc`. -/
def hexFold (ds : List Nat) (acc : Nat) : Nat := ds.foldl (fun a d => a * 16 + d) acc

lemma le_hexFold : ∀ (ds : List Nat) (acc : Nat), acc ≤ hexFold ds acc
  | [], _ => Nat.le_refl _
  | d :: ds, acc => Nat.le_trans (by omega) (le_hexFold ds (acc * 16 + d))

lemma parseIPv6Group_digits {rest : List Char} (hr : ∀ c ∈ rest.head?, hexValue c = none) :
    ∀ (ds : List Nat) (off acc : Nat), (∀ d ∈ ds, d < 16) → off + ds.length ≤ 4 →
      hexFold ds acc ≤ 65535 →
      parseIPv6Group (ds.map digit ++ rest) off acc = some (hexFold ds acc, off + ds.length, rest)
  | [], off, acc, _, _, _ => by
    cases rest with
    | nil => rfl
    | cons c s => simp [parseIPv6Group, hr c rfl, hexFold]
  | d :: ds, off, acc, hd, hl, hv => by
    have hle := le_hexFold ds (acc * 16 + d)
    simp only [hexFold, List.foldl_cons] at hv hle
    rw [List.map_cons, List.cons_append, parseIPv6Group,
      hexValue_digit (hd d (List.mem_cons_self _ _))]
    dsimp only
    rw [if_neg (by simp at hl; omega), if_neg (by omega),
      parseIPv6Group_digits hr ds (off + 1) _ (fun x hx => hd x (List.mem_cons_of_mem _ hx))
        (by simp at hl; omega) hv]
    simp [hexFold, Nat.add_assoc, Nat.add_comm 1]

lemma appendHex_digits {g : Nat} (hg : g < 65536) : ∃ ds : List Nat, appendHex g = ds.map digit ∧
    (∀ d ∈ ds, d < 16) ∧ ds ≠ [] ∧ ds.length ≤ 4 ∧ hexFold ds 0 = g := by
  by_cases h0 : g = 0
  · exact ⟨[0], by simp [appendHex, h0, digit, hexDigit], by simp, by simp, by simp,
      by simp [hexFold, h0]⟩
  rw [appendHex, if_neg h0, range_eight_reverse]
  simp only [List.filterMap_cons, List.filterMap_nil, Nat.shiftRight_eq_div_pow]
  rcases Nat.lt_or_ge g 16 with h1 | h1
  · refine ⟨[g % 16], ?_, by simp; omega, by simp, by simp, by simp [hexFold]; omega⟩
    simp (disch := omega) only [if_pos, if_neg]
    simp
  rcases Nat.lt_or_ge g 256 with h2 | h2
  · refine ⟨[g / 16 % 16, g % 16], ?_, by simp; omega, by simp, by simp, by simp [hexFold]; omega⟩
    simp (disch := omega) only [if_pos, if_neg]
    simp
  rcases Nat.lt_or_ge g 4096 with h3 | h3
  · refine ⟨[g / 256 % 16, g / 16 % 16, g % 16], ?_, by simp; omega, by simp, by simp,
      by simp [hexFold]; omega⟩
    simp (disch := omega) only [if_pos, if_neg]
    simp
  · refine ⟨[g / 4096 % 16, g / 256 % 16, g / 16 % 16, g % 16], ?_, by simp; omega, by simp,
      by simp, by simp [hexFold]; omega⟩
    simp (disch := omega) only [if_pos, if_neg]
    simp

/-- The two bytes the group loop of `parseIPv6` appends for a group. -/
def groupBytes (g : Nat) : List UInt8 := [(g >>> 8).toUInt8, g.toUInt8]

lemma parseIPv6Group_appendHex {g : Nat} (hg : g < 65536) {rest : List Char}
    (hr : ∀ c ∈ rest.head?, hexValue c = none) :
    ∃ off, off ≠ 0 ∧ parseIPv6Group (appendHex g ++ rest) 0 0 = some (g, off, rest) := by
  obtain ⟨ds, he, hd, hne, hl, hv⟩ := appendHex_digits hg
  refine ⟨ds.length, by simpa using hne, ?_⟩
  rw [he, parseIPv6Group_digits hr ds 0 0 hd (by omega) (by omega), hv, Nat.zero_add]

lemma hexValue_colon : hexValue ':' = none := by decide

/-- A group followed by `:` and more text: two bytes, and the loop goes on after the colon. -/
lemma parseIPv6Loop_group {g : Nat} (hg : g < 65536) {c : Char} (hc : c ≠ ':') {s : List Char}
    {ip : List UInt8} (hip : ip.length < 16) (e : Option Nat) (fuel : Nat) :
    parseIPv6Loop (fuel + 1) (appendHex g ++ ':' :: c :: s) ip e =
      parseIPv6Loop fuel (c :: s) (ip ++ groupBytes g) e := by
  obtain ⟨off, hoff, h⟩ := @parseIPv6Group_appendHex _ hg (':' :: c :: s)
    (by simp [hexValue_colon])
  rw [parseIPv6Loop, if_neg (by omega), h]
  simp [hoff, hc, groupBytes]

/-- The last group. -/
lemma parseIPv6Loop_last {g : Nat} (hg : g < 65536) {ip : List UInt8} (hip : ip.length < 16)
    (e : Option Nat) (fuel : Nat) :
    parseIPv6Loop (fuel + 1) (appendHex g) ip e = some (ip ++ groupBytes g, e, []) := by
  obtain ⟨off, hoff, h⟩ := @parseIPv6Group_appendHex _ hg [] (by simp)
  rw [List.append_nil] at h
  rw [parseIPv6Loop, if_neg (by omega), h]
  simp [hoff, groupBytes]

/-- A group followed by the ellipsis `::`. -/
lemma parseIPv6Loop_ellipsis {g : Nat} (hg : g < 65536) {s : List Char} {ip : List UInt8}
    (hip : ip.length < 16) (fuel : Nat) :
    parseIPv6Loop (fuel + 1) (appendHex g ++ ':' :: ':' :: s) ip none =
      if s = [] then some (ip ++ groupBytes g, some (ip.length + 2), [])
      else parseIPv6Loop fuel s (ip ++ groupBytes g) (some (ip.length + 2)) := by
  obtain ⟨off, hoff, h⟩ := @parseIPv6Group_appendHex _ hg (':' :: ':' :: s)
    (by simp [hexValue_colon])
  rw [parseIPv6Loop, if_neg (by omega), h]
  simp [hoff, groupBytes]

lemma appendHex_cons {g : Nat} (hg : g < 65536) : ∃ c cs, appendHex g = c :: cs ∧ c ≠ ':' := by
  obtain ⟨ds, he, -, hne, -⟩ := appendHex_digits hg
  obtain ⟨d, ds, rfl⟩ := List.exists_cons_of_ne_nil hne
  exact ⟨digit d, ds.map digit, he, fun h => absurd (h ▸ digit_mem_hexDigit d) (by decide)⟩

/-- The groups, in hexadecimal, separated by colons. -/
def joinHex : List Nat → List Char
  | [] => []
  | g :: gs => appendHex g ++ gs.flatMap fun g => ':' :: appendHex g

/-- The bytes of groups, two per group. -/
def groupsBytes (gs : List Nat) : List UInt8 := gs.flatMap groupBytes

/-- The loop reads every group of `joinHex` but the last, each as two bytes. -/
lemma parseIPv6Loop_joinHex (tail : List Char) (e : Option Nat) :
    ∀ (gs : List Nat) (g : Nat) (ip : List UInt8) (fuel : Nat), (∀ x ∈ g :: gs, x < 65536) →
      ip.length + 2 * gs.length < 16 →
      parseIPv6Loop (fuel + gs.length) (joinHex (g :: gs) ++ tail) ip e =
        parseIPv6Loop fuel (appendHex ((g :: gs).getLast (List.cons_ne_nil g gs)) ++ tail)
          (ip ++ groupsBytes (g :: gs).dropLast) e
  | [], g, ip, fuel, _, _ => by simp [joinHex, groupsBytes]
  | g' :: gs, g, ip, fuel, hb, hl => by
    obtain ⟨c, cs, hc, hc'⟩ := appendHex_cons (hb g' (by simp))
    have hj : joinHex (g :: g' :: gs) ++ tail = appendHex g ++ ':' :: c :: (cs ++
        (gs.flatMap fun g => ':' :: appendHex g) ++ tail) := by
      simp [joinHex, hc]
    have hj' : joinHex (g' :: gs) ++ tail =
        c :: (cs ++ (gs.flatMap fun g => ':' :: appendHex g) ++ tail) := by
      simp [joinHex, hc]
    simp only [List.length_cons] at hl
    rw [hj, List.length_cons, ← Nat.add_assoc, parseIPv6Loop_group (hb g (by simp)) hc' (by omega),
      ← hj', parseIPv6Loop_joinHex tail e gs g' _ fuel
        (fun x hx => hb x (List.mem_cons_of_mem _ hx))
        (by simp [groupBytes]; omega)]
    simp [groupsBytes, List.dropLast_cons₂]

lemma getD_of_lt_takeWhile {l : List Nat} {j : Nat} (hj : j < (l.takeWhile (· = 0)).length) :
    l.getD j 0 = 0 := by
  have hm := List.mem_takeWhile_imp (List.getElem_mem hj)
  rw [List.getD_eq_getElem?_getD, ← List.takeWhile_append_dropWhile (· = 0) l,
    List.getElem?_append_left hj, List.getElem?_eq_getElem hj]
  simpa using hm

/-- What `zeroRun` finds: no run (`255`), or a run of at least two zero groups inside the
address. -/
def RunOk (gs : List Nat) (r : Nat × Nat) : Prop :=
  r = (255, 255) ∨ (r.1 + 2 ≤ r.2 ∧ r.2 ≤ gs.length ∧ ∀ k, r.1 ≤ k → k < r.2 → gs.getD k 0 = 0)

lemma zeroRun_ok (gs : List Nat) : RunOk gs (zeroRun gs) := by
  suffices h : ∀ (is : List Nat) (r : Nat × Nat), RunOk gs r → RunOk gs (is.foldl (fun best i =>
      let l := ((gs.drop i).takeWhile (· = 0)).length
      if 2 ≤ l ∧ best.2 - best.1 < l then (i, i + l) else best) r) from h _ _ (Or.inl rfl)
  intro is
  induction is with
  | nil => exact fun _ h => h
  | cons i is ih =>
    intro r hr
    refine ih _ ?_
    dsimp only
    split_ifs with h
    · have hl : ((gs.drop i).takeWhile (· = 0)).length ≤ gs.length - i :=
        (List.takeWhile_prefix _).length_le.trans (List.length_drop i gs).le
      refine Or.inr ⟨by omega, by omega, fun k hk1 hk2 => ?_⟩
      have := getD_of_lt_takeWhile (l := gs.drop i) (j := k - i) (by simp only at hk2 ⊢; omega)
      rwa [List.getD_eq_getElem?_getD, List.getElem?_drop, Nat.add_sub_cancel' hk1,
        ← List.getD_eq_getElem?_getD] at this
    · exact hr

lemma getD_of_lt {l : List Nat} {i : Nat} (h : i < l.length) : l.getD i 0 = l[i] := by
  rw [List.getD_eq_getElem?_getD, List.getElem?_eq_getElem h, Option.getD_some]

section AppendTo6

variable {gs : List Nat} {zs ze : Nat}

lemma appendTo6_eight (fuel : Nat) : appendTo6 gs zs ze fuel 8 = [] := by
  cases fuel <;> rfl

lemma appendTo6_colons (h8 : gs.length = 8) :
    ∀ (n i fuel : Nat), 0 < i → i + n ≤ 8 → (∀ k, i ≤ k → k < i + n → k ≠ zs) →
      appendTo6 gs zs ze (fuel + n) i =
        ((gs.drop i).take n).flatMap (fun g => ':' :: appendHex g) ++
          appendTo6 gs zs ze fuel (i + n)
  | 0, i, fuel, _, _, _ => by simp
  | n + 1, i, fuel, h0, hn, hz => by
    rw [← Nat.add_assoc, appendTo6, if_neg (by omega), if_neg (hz i (Nat.le_refl i) (by omega)),
      if_pos h0, appendTo6_colons h8 n (i + 1) fuel (by omega) (by omega)
        (fun k hk1 hk2 => hz k (by omega) (by omega)),
      @List.drop_eq_getElem_cons _ i gs (by omega), getD_of_lt (by omega)]
    simp only [List.take_succ_cons, List.flatMap_cons, List.cons_append, List.singleton_append,
      List.append_assoc, List.nil_append, Nat.add_right_comm i 1 n]
    rfl

/-- From the ellipsis on: `::` and the groups after the run. -/
lemma appendTo6_zeroStart (h8 : gs.length = 8) (hr : zs + 2 ≤ ze) (he : ze ≤ 8) :
    appendTo6 gs zs ze (8 - zs) zs = ':' :: ':' :: joinHex (gs.drop ze) := by
  rw [show 8 - zs = (7 - zs) + 1 by omega, appendTo6, if_neg (by omega), if_pos rfl]
  rcases Nat.lt_or_ge ze 8 with h | h
  · rw [if_neg (by omega), show 7 - zs = (ze - zs) + (7 - ze) by omega,
      appendTo6_colons h8 (7 - ze) (ze + 1) _ (by omega) (by omega) (fun k hk _ => by omega),
      show ze + 1 + (7 - ze) = 8 by omega, appendTo6_eight,
      @List.drop_eq_getElem_cons _ ze gs (by omega),
      getD_of_lt (by omega), List.take_of_length_le (by simp; omega)]
    simp [joinHex]
  · rw [if_pos h, List.drop_of_length_le (by omega)]
    rfl

lemma appendTo6_noRun (h8 : gs.length = 8) (hz : 8 ≤ zs) : appendTo6 gs zs ze 8 0 = joinHex gs := by
  obtain ⟨g, gs', rfl⟩ := List.exists_cons_of_length_eq_add_one h8
  rw [appendTo6, if_neg (by omega), if_neg (by omega), if_neg (by omega),
    appendTo6_colons h8 7 1 0 (by omega) (by omega) (fun k _ _ => by omega), appendTo6_eight,
    List.take_of_length_le (by simp at h8 ⊢; omega)]
  simp [joinHex]

lemma appendTo6_run (h8 : gs.length = 8) (hr : zs + 2 ≤ ze) (he : ze ≤ 8) :
    appendTo6 gs zs ze 8 0 = joinHex (gs.take zs) ++ ':' :: ':' :: joinHex (gs.drop ze) := by
  rcases Nat.eq_zero_or_pos zs with rfl | hz
  · exact appendTo6_zeroStart h8 hr he
  obtain ⟨g, gs', rfl⟩ := List.exists_cons_of_length_eq_add_one h8
  obtain ⟨z, rfl⟩ : ∃ z, zs = z + 1 := ⟨zs - 1, by omega⟩
  rw [appendTo6, if_neg (by omega), if_neg (by omega), if_neg (by omega),
    show 7 = (7 - z) + z by omega, appendTo6_colons h8 z 1 _ (by omega) (by omega)
      (fun k _ _ => by omega), show 7 - z = 8 - (z + 1) by omega, show 1 + z = z + 1 by omega,
    appendTo6_zeroStart h8 hr he]
  simp [joinHex]
end AppendTo6

lemma length_groupsBytes (gs : List Nat) : (groupsBytes gs).length = 2 * gs.length := by
  induction gs with
  | nil => rfl
  | cons g gs ih =>
    simp only [groupsBytes, List.flatMap_cons, List.length_append] at ih ⊢
    simp [groupBytes, ih]
    omega

lemma groupsBytes_dropLast {gs : List Nat} (h : gs ≠ []) :
    groupsBytes gs.dropLast ++ groupBytes (gs.getLast h) = groupsBytes gs := by
  conv_rhs => rw [← List.dropLast_append_getLast h]
  simp [groupsBytes]

lemma length_dropLast_bytes {gs : List Nat} {ip : List UInt8} (hne : gs ≠ [])
    (hl : ip.length + 2 * gs.length ≤ 16) : (ip ++ groupsBytes gs.dropLast).length < 16 := by
  obtain ⟨g, gs, rfl⟩ := List.exists_cons_of_ne_nil hne
  simp only [List.length_append, length_groupsBytes, List.length_dropLast, List.length_cons] at hl ⊢
  omega

/-- The loop reads all of `joinHex`, when nothing follows. -/
lemma parseIPv6Loop_joinHex_end {gs : List Nat} (hne : gs ≠ []) (hb : ∀ x ∈ gs, x < 65536)
    {ip : List UInt8} (hl : ip.length + 2 * gs.length ≤ 16) (e : Option Nat) (fuel : Nat) :
    parseIPv6Loop (fuel + gs.length) (joinHex gs) ip e = some (ip ++ groupsBytes gs, e, []) := by
  have hlast := length_dropLast_bytes hne hl
  obtain ⟨g, gs, rfl⟩ := List.exists_cons_of_ne_nil hne
  have h := parseIPv6Loop_joinHex [] e gs g ip (fuel + 1) hb
    (by simp only [List.length_cons] at hl; omega)
  rw [List.append_nil, List.append_nil, parseIPv6Loop_last (hb _ (List.getLast_mem _)) hlast] at h
  rw [List.length_cons, ← Nat.add_assoc, Nat.add_right_comm, h, List.append_assoc,
    groupsBytes_dropLast]

/-- The loop reads `joinHex` up to the ellipsis and records where the ellipsis stands. -/
lemma parseIPv6Loop_joinHex_ellipsis {gs : List Nat} (hne : gs ≠ []) (hb : ∀ x ∈ gs, x < 65536)
    {ip : List UInt8} (hl : ip.length + 2 * gs.length ≤ 16) (s : List Char) (fuel : Nat) :
    parseIPv6Loop (fuel + gs.length) (joinHex gs ++ ':' :: ':' :: s) ip none =
      if s = [] then some (ip ++ groupsBytes gs, some (ip.length + 2 * gs.length), [])
      else parseIPv6Loop fuel s (ip ++ groupsBytes gs) (some (ip.length + 2 * gs.length)) := by
  have hlast := length_dropLast_bytes hne hl
  obtain ⟨g, gs, rfl⟩ := List.exists_cons_of_ne_nil hne
  have h := parseIPv6Loop_joinHex (':' :: ':' :: s) none gs g ip (fuel + 1) hb
    (by simp only [List.length_cons] at hl; omega)
  rw [parseIPv6Loop_ellipsis (hb _ (List.getLast_mem _)) hlast] at h
  rw [List.length_cons, ← Nat.add_assoc, Nat.add_right_comm, h, List.append_assoc,
    groupsBytes_dropLast]
  simp only [List.length_append, length_groupsBytes, List.length_dropLast, List.length_cons]
  have : ip.length + 2 * gs.length + 2 = ip.length + 2 * (gs.length + 1) := by omega
  rw [Nat.add_sub_cancel, this]

lemma joinHex_cons {gs : List Nat} (hne : gs ≠ []) (hb : ∀ x ∈ gs, x < 65536) :
    ∃ c cs, joinHex gs = c :: cs ∧ c ≠ ':' := by
  obtain ⟨g, gs, rfl⟩ := List.exists_cons_of_ne_nil hne
  obtain ⟨c, cs, hc, hc'⟩ := appendHex_cons (hb g (List.mem_cons_self _ _))
  exact ⟨c, cs ++ gs.flatMap fun g => ':' :: appendHex g, by simp [joinHex, hc], hc'⟩

lemma expandEllipsis_append (a b : List UInt8) :
    expandEllipsis (a ++ b) a.length = a ++ List.replicate (16 - (a.length + b.length)) 0 ++ b := by
  simp [expandEllipsis]

lemma expandEllipsis_self (a : List UInt8) :
    expandEllipsis a a.length = a ++ List.replicate (16 - a.length) 0 := by
  simp [expandEllipsis]

section ParseGroups

variable {gs : List Nat} (h8 : gs.length = 8) (hb : ∀ x ∈ gs, x < 65536)
include h8 hb

lemma parseIPv6Addr_joinHex : parseIPv6Addr (joinHex gs) = some (groupsBytes gs) := by
  have hne : gs ≠ [] := List.ne_nil_of_length_eq_add_one h8
  obtain ⟨c, cs, hj, hc⟩ := joinHex_cons hne hb
  have h := @parseIPv6Loop_joinHex_end gs hne hb [] (by simp [h8]) none 0
  rw [h8, Nat.zero_add] at h
  rw [parseIPv6Addr, if_neg (by simp [hj, hc]), h]
  simp [finishIPv6, length_groupsBytes, h8]

lemma joinHex_drop_eq_nil {n : Nat} : joinHex (gs.drop n) = [] ↔ 8 ≤ n := by
  constructor
  · intro h
    by_contra hn
    obtain ⟨c, cs, hj, -⟩ := @joinHex_cons (gs.drop n) (by simp [h8]; omega)
      (fun x hx => hb x (List.mem_of_mem_drop hx))
    simp [hj] at h
  · intro h
    rw [List.drop_of_length_le (by omega)]
    rfl

lemma parseIPv6Addr_run {zs ze : Nat} (hr : zs + 2 ≤ ze) (he : ze ≤ 8) :
    parseIPv6Addr (joinHex (gs.take zs) ++ ':' :: ':' :: joinHex (gs.drop ze)) =
      some (groupsBytes (gs.take zs) ++ List.replicate (2 * (ze - zs)) 0 ++
        groupsBytes (gs.drop ze)) := by
  have hbd : ∀ x ∈ gs.drop ze, x < 65536 := fun x hx => hb x (List.mem_of_mem_drop hx)
  have hld : (gs.drop ze).length = 8 - ze := by simp [h8]
  rcases Nat.eq_zero_or_pos zs with rfl | hz
  · rw [List.take_zero, joinHex, List.nil_append, parseIPv6Addr, if_pos (by simp)]
    simp only [List.drop_succ_cons, List.drop_zero]
    by_cases h8e : 8 ≤ ze
    · rw [if_pos ((joinHex_drop_eq_nil h8 hb).2 h8e), List.drop_of_length_le (by omega)]
      simp [groupsBytes, show ze = 8 by omega]
    rw [if_neg (mt (joinHex_drop_eq_nil h8 hb).1 h8e)]
    have h := @parseIPv6Loop_joinHex_end _ (by simp [h8]; omega) hbd [] (by simp [hld]; omega)
      (some 0) ze
    rw [hld, show ze + (8 - ze) = 8 by omega] at h
    rw [h]
    simp only [finishIPv6, List.nil_append, length_groupsBytes, hld]
    rw [if_pos (by omega)]
    simp only [Option.map_some', expandEllipsis, List.take_zero, List.drop_zero, List.length_append,
      length_groupsBytes, hld, show 16 - 2 * (8 - ze) = 2 * (ze - 0) by omega]
    rfl
  · have hlt : (gs.take zs).length = zs := by simp [h8]; omega
    have hbt : ∀ x ∈ gs.take zs, x < 65536 := fun x hx => hb x (List.mem_of_mem_take hx)
    have hnt : gs.take zs ≠ [] := List.ne_nil_of_length_pos (by omega)
    obtain ⟨c, cs, hj, hc⟩ := joinHex_cons hnt hbt
    have h := @parseIPv6Loop_joinHex_ellipsis _ hnt hbt []
      (by simp only [List.length_nil, hlt]; omega)
      (joinHex (gs.drop ze)) (8 - zs)
    rw [hlt, show 8 - zs + zs = 8 by omega] at h
    rw [parseIPv6Addr, if_neg (by simp [hj, hc]), h]
    simp only [List.nil_append, List.length_nil, Nat.zero_add]
    by_cases h8e : 8 ≤ ze
    · rw [if_pos ((joinHex_drop_eq_nil h8 hb).2 h8e), List.drop_of_length_le (by omega)]
      have hA : (groupsBytes (gs.take zs)).length = 2 * zs := by rw [length_groupsBytes, hlt]
      simp only [finishIPv6, List.nil_append, List.length_nil, Nat.zero_add, hA,
        if_pos (show 2 * zs < 16 by omega), Option.map_some']
      rw [← hA, expandEllipsis_self, hA, show 16 - 2 * zs = 2 * (ze - zs) by omega]
      exact congrArg some (List.append_nil _).symm
    rw [if_neg (mt (joinHex_drop_eq_nil h8 hb).1 h8e)]
    have h' := @parseIPv6Loop_joinHex_end _ (by simp [h8]; omega) hbd (groupsBytes (gs.take zs))
      (by simp only [hld, length_groupsBytes, hlt]; omega) (some (2 * zs)) (ze - zs)
    rw [hld, show ze - zs + (8 - ze) = 8 - zs by omega] at h'
    rw [h']
    have hA : (groupsBytes (gs.take zs)).length = 2 * zs := by rw [length_groupsBytes, hlt]
    have hB : (groupsBytes (gs.drop ze)).length = 2 * (8 - ze) := by rw [length_groupsBytes, hld]
    simp only [finishIPv6, List.length_append, hA, hB,
      if_pos (show 2 * zs + 2 * (8 - ze) < 16 by omega), Option.map_some']
    rw [← hA, expandEllipsis_append, hA, hB,
      show 16 - (2 * zs + 2 * (8 - ze)) = 2 * (ze - zs) by omega]
end ParseGroups

lemma toUInt8_eq_of_mod {n : Nat} {a : UInt8} (h : n % 256 = a.toNat) : n.toUInt8 = a :=
  UInt8.eq_of_val_eq (Fin.ext (by simpa [Nat.toUInt8, UInt8.ofNat, Fin.ofNat] using h))

lemma groupBytes_pair (hi lo : UInt8) : groupBytes (hi.toNat * 256 + lo.toNat) = [hi, lo] := by
  have hh : hi.toNat < 256 := hi.toNat_lt_size
  have hl : lo.toNat < 256 := lo.toNat_lt_size
  rw [groupBytes, Nat.shiftRight_eq_div_pow, toUInt8_eq_of_mod (a := hi) (by simp; omega),
    toUInt8_eq_of_mod (a := lo) (by omega)]

lemma groupsBytes_groups : ∀ bs : List UInt8, bs.length % 2 = 0 → groupsBytes (groups bs) = bs
  | [], _ => rfl
  | [_], h => absurd h (by simp)
  | hi :: lo :: rest, h => by
    rw [groups, groupsBytes, List.flatMap_cons, groupBytes_pair, ← groupsBytes,
      groupsBytes_groups rest (by simp at h; omega)]
    rfl

lemma length_groups : ∀ bs : List UInt8, (groups bs).length = bs.length / 2
  | [] => rfl
  | [_] => by simp [groups]
  | _ :: _ :: rest => by simp [groups, length_groups rest]; omega

lemma groups_lt : ∀ (bs : List UInt8), ∀ g ∈ groups bs, g < 65536
  | [] => by simp [groups]
  | [_] => by simp [groups]
  | hi :: lo :: rest => by
    have hh : hi.toNat < 256 := hi.toNat_lt_size
    have hl : lo.toNat < 256 := lo.toNat_lt_size
    simp only [groups, List.mem_cons]
    rintro g (rfl | hg)
    · omega
    · exact groups_lt rest g hg

lemma groupsBytes_append (a b : List Nat) : groupsBytes (a ++ b) = groupsBytes a ++ groupsBytes b :=
  List.flatMap_append _ _ _

lemma groupsBytes_replicate_zero (n : Nat) :
    groupsBytes (List.replicate n 0) = List.replicate (2 * n) 0 := by
  induction n with
  | zero => rfl
  | succ n ih =>
    rw [List.replicate_succ, groupsBytes, List.flatMap_cons, ← groupsBytes, ih,
      show 2 * (n + 1) = 2 * n + 1 + 1 by omega, List.replicate_succ, List.replicate_succ]
    rfl

/-- The bytes of a run of zero groups are zero bytes. -/
lemma groupsBytes_zeroRun {gs : List Nat} {zs ze : Nat} (hr : zs ≤ ze) (he : ze ≤ gs.length)
    (hz : ∀ k, zs ≤ k → k < ze → gs.getD k 0 = 0) :
    groupsBytes gs =
      groupsBytes (gs.take zs) ++ List.replicate (2 * (ze - zs)) 0 ++ groupsBytes (gs.drop ze) := by
  have hmid : (gs.drop zs).take (ze - zs) = List.replicate (ze - zs) 0 := by
    rw [List.eq_replicate_iff]
    refine ⟨by simp; omega, fun b hb => ?_⟩
    obtain ⟨j, hj, rfl⟩ := List.getElem_of_mem hb
    simp only [List.length_take, List.length_drop] at hj
    rw [List.getElem_take, List.getElem_drop, ← getD_of_lt (by omega)]
    exact hz _ (by omega) (by omega)
  conv_lhs => rw [← List.take_append_drop zs gs, ← List.take_append_drop (ze - zs) (gs.drop zs),
    hmid, List.drop_drop, Nat.add_sub_cancel' hr]
  simp only [groupsBytes_append, groupsBytes_replicate_zero, List.append_assoc]

lemma mem_appendHex {g : Nat} {c : Char} (hc : c ∈ appendHex g) : c ∈ hexDigit := by
  unfold appendHex at hc
  split at hc
  · simp only [List.mem_singleton] at hc
    subst hc
    decide
  · obtain ⟨j, -, hj⟩ := List.mem_filterMap.1 hc
    dsimp only at hj
    split at hj
    · cases hj
      exact digit_mem_hexDigit _
    · cases hj

lemma mem_joinHex {gs : List Nat} {c : Char} (hc : c ∈ joinHex gs) : c ∈ hexDigit ∨ c = ':' := by
  cases gs with
  | nil => cases hc
  | cons g gs =>
    simp only [joinHex, List.mem_append, List.mem_flatMap, List.mem_cons] at hc
    rcases hc with hc | ⟨_, -, rfl | hc⟩
    · exact Or.inl (mem_appendHex hc)
    · exact Or.inr rfl
    · exact Or.inl (mem_appendHex hc)

lemma hexDigit_not_sep : ∀ x ∈ hexDigit, ¬(x = '.' ∨ x = ':' ∨ x = '%') := by decide

/-- In text of hex digits and colons, the first separator `parseAddr` looks for is a colon. -/
lemma find?_sep_colon {s : List Char} (hs : ∀ c ∈ s, c ∈ hexDigit ∨ c = ':') (hc : ':' ∈ s) :
    s.find? (fun x => x = '.' ∨ x = ':' ∨ x = '%') = some ':' := by
  induction s with
  | nil => cases hc
  | cons c s ih =>
    rcases hs c (List.mem_cons_self _ _) with hx | rfl
    · rw [List.find?_cons_of_neg _ (by simpa using hexDigit_not_sep c hx)]
      exact ih (fun x hx => hs x (List.mem_cons_of_mem _ hx))
        ((List.mem_cons.1 hc).resolve_left fun h => hexDigit_not_sep c hx (by simp [← h]))
    · exact List.find?_cons_of_pos _ (by simp)

/-- Text of hex digits and colons, with a colon, is read as an IPv6 address without a zone. -/
lemma parseIP_of_parseIPv6Addr {s : List Char} {b : List UInt8}
    (hs : ∀ c ∈ s, c ∈ hexDigit ∨ c = ':') (hc : ':' ∈ s) (h : parseIPv6Addr s = some b) :
    parseIP ⟨s⟩ = some ⟨b⟩ := by
  have hz : '%' ∉ s := fun h => by
    rcases hs _ h with h | h
    · exact hexDigit_not_sep _ h (by simp)
    · cases h
  rw [parseIP, parseAddr, find?_sep_colon hs hc]
  simp [parseIPv6, splitZone, hz, h]

/-- The 16 bytes of an address in the text `IP.String` prints for it in IPv6 form are read back. -/
lemma parseIP_appendTo6 {bytes : List UInt8} (h : bytes.length = 16) :
    parseIP ⟨appendTo6 (groups bytes) (zeroRun (groups bytes)).1 (zeroRun (groups bytes)).2 8 0⟩ =
      some ⟨bytes⟩ := by
  have h8 : (groups bytes).length = 8 := by rw [length_groups, h]
  have hb := groups_lt bytes
  have hbytes : groupsBytes (groups bytes) = bytes := groupsBytes_groups bytes (by rw [h])
  rcases zeroRun_ok (groups bytes) with hr | ⟨hr, he, hz⟩
  · rw [hr, appendTo6_noRun h8 (by omega)]
    refine parseIP_of_parseIPv6Addr (fun c hc => mem_joinHex hc) ?_
      ((parseIPv6Addr_joinHex h8 hb).trans (by rw [hbytes]))
    obtain ⟨g, gs, hg⟩ := List.exists_cons_of_length_eq_add_one h8
    obtain ⟨g', gs', rfl⟩ := List.exists_cons_of_length_eq_add_one (by simpa [hg] using h8)
    simp [hg, joinHex]
  · replace he := he.trans h8.le
    rw [appendTo6_run h8 hr he]
    refine parseIP_of_parseIPv6Addr (fun c hc => ?_) (by simp)
      ((parseIPv6Addr_run h8 hb hr he).trans ?_)
    · simp only [List.mem_append, List.mem_cons] at hc
      rcases hc with hc | hc | hc | hc
      · exact mem_joinHex hc
      · exact Or.inr hc
      · exact Or.inr hc
      · exact mem_joinHex hc
    · rw [← groupsBytes_zeroRun (by omega) (by omega) hz, hbytes]

lemma IP.string_of_length_sixteen {ip : IP} (h : ip.bytes.length = 16)
    (hv : ip.bytes.take 12 ≠ v4InV6Prefix) :
    ip.string = ⟨appendTo6 (groups ip.bytes) (zeroRun (groups ip.bytes)).1
      (zeroRun (groups ip.bytes)).2 8 0⟩ := by
  have hne : ip.bytes ≠ [] := List.ne_nil_of_length_pos (by omega)
  simp [IP.string, IP.to4, h, hv, hne]

lemma appendTo6_chars {gs : List Nat} {zs ze : Nat} :
    ∀ (fuel i : Nat), ∀ c ∈ appendTo6 gs zs ze fuel i, c ∈ hexDigit ∨ c = ':'
  | 0, _ => nofun
  | fuel + 1, i => by
    have hx : ∀ g, ∀ c ∈ appendHex g, c ∈ hexDigit ∨ c = ':' := fun _ _ h => .inl (mem_appendHex h)
    have hsep : ∀ c ∈ [':', ':'], c ∈ hexDigit ∨ c = ':' := by decide
    rw [appendTo6]
    split_ifs with h8 hz hze h0
    · exact nofun
    · exact hsep
    · exact List.forall_mem_append.2 ⟨List.forall_mem_append.2 ⟨hsep, hx _⟩,
        appendTo6_chars fuel _⟩
    · exact List.forall_mem_append.2 ⟨List.forall_mem_append.2 ⟨by decide, hx _⟩,
        appendTo6_chars fuel _⟩
    · exact List.forall_mem_append.2 ⟨List.forall_mem_append.2 ⟨nofun, hx _⟩,
        appendTo6_chars fuel _⟩

lemma eq_IPv4_of_take {ip : IP} (h : ip.bytes.length = 16) (hv : ip.bytes.take 12 = v4InV6Prefix) :
    ∃ a b c d, ip = IPv4 a b c d := by
  obtain ⟨bytes⟩ := ip
  have hlen : (bytes.drop 12).length = 4 := by simp only at h; simp [h]
  rcases hd : bytes.drop 12 with _ | ⟨a, _ | ⟨b, _ | ⟨c, _ | ⟨d, _ | ⟨e, l⟩⟩⟩⟩⟩ <;>
    rw [hd] at hlen <;> simp at hlen
  exact ⟨a, b, c, d, by rw [IPv4, ← hv, ← hd, List.take_append_drop]⟩

/-- Text of digits, lower-case hex letters, dots and colons is its own lower case. -/
lemma toLower_eq_self {s : String} (h : ∀ c ∈ s.data, c ∈ hexDigit ∨ c = '.' ∨ c = ':') :
    toLower s = s := by
  have hc : ∀ c ∈ hexDigit, c.toLower = c := by decide
  refine String.ext ((List.map_congr_left fun c hcs => ?_).trans (List.map_id _))
  rcases h c hcs with hd | rfl | rfl
  · exact hc c hd
  · rfl
  · rfl

/-- The text `String` prints for a 16-byte address: decimal digits and dots, or hex digits
and colons. -/
lemma IP.string_chars {ip : IP} (h : ip.bytes.length = 16) :
    ∀ c ∈ ip.string.data, c ∈ hexDigit ∨ c = '.' ∨ c = ':' := by
  by_cases hv : ip.bytes.take 12 = v4InV6Prefix
  · obtain ⟨a, b, c, d, rfl⟩ := eq_IPv4_of_take h hv
    rw [IPv4_string]
    intro x hx
    simp only [List.mem_append, List.mem_cons] at hx
    rcases hx with hx | rfl | hx | rfl | hx | rfl | hx
    all_goals first | exact .inl (uitoa_mem_hexDigit hx) | exact .inr (.inl rfl)
  · rw [IP.string_of_length_sixteen h hv]
    exact fun c hc => (appendTo6_chars 8 0 c hc).imp_right .inr

/-- For every 16-byte address, the text `String` prints is already lower case, so the word the
IP filter of netem puts after `dport` is that text, and `ParseIP` reads it back: dotted decimal
for an IPv4 address, hex groups with the ellipsis for the others. -/
theorem parseIP_string {ip : IP} (h : ip.bytes.length = 16) :
    toLower ip.string = ip.string ∧ parseIP ip.string = some ip := by
  refine ⟨toLower_eq_self (IP.string_chars h), ?_⟩
  by_cases hv : ip.bytes.take 12 = v4InV6Prefix
  · obtain ⟨a, b, c, d, rfl⟩ := eq_IPv4_of_take h hv
    rw [IPv4_string, parseIP, parseAddr_dotted]
    rfl
  · rw [IP.string_of_length_sixteen h hv]
    exact parseIP_appendTo6 h

theorem parseIP_string_db8 :
    (⟨[0x20, 0x01, 0x0d, 0xb8, 0, 0, 0, 0, 0, 0, 0, 0, 0, 0, 0, 1]⟩ : IP).string = "2001:db8::1" ∧
      (⟨[0x20, 0x01, 0x0d, 0xb8, 0, 0, 0, 0, 0, 0, 0, 0, 0, 0, 0, 1]⟩ : IP).bytes.length = 16 ∧
      (toLower (⟨[0x20, 0x01, 0x0d, 0xb8, 0, 0, 0, 0, 0, 0, 0, 0, 0, 0, 0, 1]⟩ : IP).string =
          (⟨[0x20, 0x01, 0x0d, 0xb8, 0, 0, 0, 0, 0, 0, 0, 0, 0, 0, 0, 1]⟩ : IP).string ∧
        parseIP (⟨[0x20, 0x01, 0x0d, 0xb8, 0, 0, 0, 0, 0, 0, 0, 0, 0, 0, 0, 1]⟩ : IP).string =
          some ⟨[0x20, 0x01, 0x0d, 0xb8, 0, 0, 0, 0, 0, 0, 0, 0, 0, 0, 0, 1]⟩) :=
  ⟨by decide, rfl, parseIP_string rfl⟩

end Pumba.Go
