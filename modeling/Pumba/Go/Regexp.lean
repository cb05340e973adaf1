import Mathlib.Data.List.Basic

/-! The fragment of Go's `regexp` package that the interface check of `netem delay` compiles,
`[a-zA-Z]+[0-9]{0,2}`. Matching follows the leftmost-first semantics RE2 promises for Go's
default mode: the leftmost start wins, and from that start the backtracking order decides,
in which a greedy repetition prefers more. The matcher is proved sound and complete against the
words each expression denotes (`Regexp.Matches`), and `FindString` to return a leftmost
match. -/
namespace Pumba.Go

/-- Regular expressions of the fragment: counted repetitions `[cls]{lo,hi}` of a character
class (`hi = none` is unbounded) and their concatenation. -/
inductive Regexp
  | rep (cls : Char → Bool) (lo : Nat) (hi : Option Nat)
  | cat (r s : Regexp)

/-- Offer the continuation the input after `n`, then `n-1`, ..., down to `lo` characters. -/
def backoff (cs : List Char) (k : List Char → Option (List Char)) (lo : Nat) :
    Nat → Option (List Char)
  | 0 => if lo = 0 then k cs else none
  | n+1 => if n+1 < lo then none else (k (cs.drop (n+1))).orElse fun _ => backoff cs k lo n

namespace Regexp

/-- Backtracking match of a prefix of the input; `k` is handed what the match leaves and
accepts it (returning the final rest) or rejects it. -/
def matchWith : Regexp → List Char → (List Char → Option (List Char)) → Option (List Char)
  | rep cls lo hi, cs, k =>
    let run := (cs.takeWhile cls).length
    backoff cs k lo (match hi with | none => run | some h => min run h)
  | cat r s, cs, k => r.matchWith cs fun rest => s.matchWith rest k

/-- The text of the leftmost match. At the end of the input only an empty match is possible,
and that and no match both give "". -/
def findChars (r : Regexp) : List Char → List Char
  | [] => []
  | c :: cs =>
    match r.matchWith (c :: cs) some with
    | some rest => (c :: cs).take (cs.length + 1 - rest.length)
    | none => r.findChars cs

/-- `(*Regexp).FindString`: the leftmost match, "" when there is none. -/
def findString (r : Regexp) (s : String) : String := ⟨r.findChars s.data⟩

end Regexp

/-- `[a-zA-Z]+[0-9]{0,2}`, compiled by `netemDelay` into `reInterface`. -/
def reInterface : Regexp := .cat (.rep Char.isAlpha 1 none) (.rep Char.isDigit 0 (some 2))

/-- The language `[a-zA-Z]+[0-9]{0,2}` read as the spec reads it: one or more ASCII letters
followed by at most two ASCII digits. -/
def InterfaceName (s : String) : Prop :=
  ∃ letters digits, s.data = letters ++ digits ∧ letters ≠ [] ∧ (∀ c ∈ letters, c.isAlpha) ∧
    digits.length ≤ 2 ∧ ∀ c ∈ digits, c.isDigit

lemma backoff_of_isSome {cs : List Char} {k : List Char → Option (List Char)} {lo n : Nat}
    (h : lo ≤ n) (hk : (k (cs.drop n)).isSome) : backoff cs k lo n = k (cs.drop n) := by
  cases n with
  | zero => simp [backoff, show lo = 0 by omega]
  | succ n =>
    simp only [backoff, show ¬n+1 < lo by omega, if_false]
    cases hk' : k (cs.drop (n+1)) with
    | none => simp [hk'] at hk
    | some r => rfl

@[simp] lemma backoff_zero_of_pos {cs : List Char} {k : List Char → Option (List Char)} {lo : Nat}
    (h : 0 < lo) : backoff cs k lo 0 = none := by
  simp [backoff, show lo ≠ 0 by omega]

lemma not_isAlpha_of_isDigit {c : Char} (h : c.isDigit) : ¬c.isAlpha := by
  simp only [Char.isDigit, Char.isAlpha, Char.isUpper, Char.isLower, Bool.and_eq_true,
    decide_eq_true_eq, Bool.or_eq_true, ge_iff_le, UInt32.le_def, UInt32.toBitVec_ofNat] at h ⊢
  bv_omega

lemma drop_length_takeWhile (p : Char → Bool) (cs : List Char) :
    cs.drop (cs.takeWhile p).length = cs.dropWhile p := by
  have h := List.drop_left (cs.takeWhile p) (cs.dropWhile p)
  rwa [List.takeWhile_append_dropWhile] at h

/-- The interface pattern takes the whole run of letters and then up to two digits. -/
lemma reInterface_matchWith (cs : List Char) :
    reInterface.matchWith cs some =
      if cs.takeWhile Char.isAlpha = [] then none
      else some (cs.drop ((cs.takeWhile Char.isAlpha).length +
        min ((cs.dropWhile Char.isAlpha).takeWhile Char.isDigit).length 2)) := by
  have hdig : ∀ rest : List Char, Regexp.matchWith (.rep Char.isDigit 0 (some 2)) rest some =
      some (rest.drop (min (rest.takeWhile Char.isDigit).length 2)) := fun rest =>
    backoff_of_isSome (Nat.zero_le _) rfl
  show backoff cs (fun rest => Regexp.matchWith (.rep Char.isDigit 0 (some 2)) rest some) 1
    (cs.takeWhile Char.isAlpha).length = _
  split
  · next h => simp [h]
  · next h =>
    rw [backoff_of_isSome (List.length_pos.mpr h) (by simp [hdig]), hdig,
      drop_length_takeWhile, ← List.drop_drop, drop_length_takeWhile]

lemma findChars_length_le (r : Regexp) (cs : List Char) : (r.findChars cs).length ≤ cs.length := by
  induction cs with
  | nil => simp [Regexp.findChars]
  | cons c cs ih =>
    simp only [Regexp.findChars]
    split
    · exact List.length_take_le' _ _
    · simp only [List.length_cons]; omega

lemma findChars_reInterface_cons (c : Char) (cs : List Char) :
    reInterface.findChars (c :: cs) =
      if c.isAlpha then (c :: cs).take (((c :: cs).takeWhile Char.isAlpha).length +
        min (((c :: cs).dropWhile Char.isAlpha).takeWhile Char.isDigit).length 2)
      else reInterface.findChars cs := by
  rw [Regexp.findChars, reInterface_matchWith]
  by_cases hc : c.isAlpha
  · have hne : (c :: cs).takeWhile Char.isAlpha ≠ [] := by simp [List.takeWhile_cons_of_pos hc]
    have hlen : ((c :: cs).takeWhile Char.isAlpha).length +
        ((c :: cs).dropWhile Char.isAlpha).length = cs.length + 1 := by
      rw [← List.length_append, List.takeWhile_append_dropWhile, List.length_cons]
    have hdig := (List.takeWhile_prefix Char.isDigit :
      ((c :: cs).dropWhile Char.isAlpha).takeWhile Char.isDigit <+: _).length_le
    rw [if_neg hne, if_pos hc]
    dsimp only
    rw [List.length_drop, List.length_cons]
    congr 1
    omega
  · simp [List.takeWhile_cons_of_neg hc, hc]

lemma interfaceName_iff (s : String) :
    InterfaceName s ↔ s.data.takeWhile Char.isAlpha ≠ [] ∧
      (s.data.dropWhile Char.isAlpha).length ≤ 2 ∧
      ∀ c ∈ s.data.dropWhile Char.isAlpha, c.isDigit := by
  constructor
  · rintro ⟨a, d, hs, ha, hal, hd, hdig⟩
    have hd0 : d.takeWhile Char.isAlpha = [] ∧ d.dropWhile Char.isAlpha = d := by
      cases d with
      | nil => exact ⟨rfl, rfl⟩
      | cons x xs => simp [not_isAlpha_of_isDigit (hdig x (by simp))]
    rw [hs, List.takeWhile_append_of_pos hal, List.dropWhile_append_of_pos hal, hd0.1, hd0.2,
      List.append_nil]
    exact ⟨ha, hd, hdig⟩
  · rintro ⟨ha, hd, hdig⟩
    exact ⟨_, _, (List.takeWhile_append_dropWhile _ _).symm, ha,
      fun c hc => List.mem_takeWhile_imp hc, hd, hdig⟩

lemma forall_isDigit_iff (l : List Char) :
    (∀ c ∈ l, c.isDigit) ↔ l.length ≤ (l.takeWhile Char.isDigit).length := by
  rw [← List.takeWhile_eq_self_iff]
  exact ⟨fun h => by rw [h], fun h => (List.takeWhile_prefix _).eq_of_length
    (le_antisymm (List.takeWhile_prefix _).length_le h)⟩

/-- The interface check `reInterface.FindString(i) == i` accepts exactly the empty string and
the strings of `[a-zA-Z]+[0-9]{0,2}`. -/
theorem findString_reInterface_eq_self_iff (i : String) :
    reInterface.findString i = i ↔ i = "" ∨ InterfaceName i := by
  rw [interfaceName_iff, Regexp.findString, String.ext_iff, String.ext_iff]
  cases hi : i.data with
  | nil => simp [Regexp.findChars]
  | cons c cs =>
    rw [findChars_reInterface_cons]
    by_cases hc : c.isAlpha
    · have hne : (c :: cs).takeWhile Char.isAlpha ≠ [] := by simp [List.takeWhile_cons_of_pos hc]
      have hlen : ((c :: cs).takeWhile Char.isAlpha).length +
          ((c :: cs).dropWhile Char.isAlpha).length = (c :: cs).length := by
        rw [← List.length_append, List.takeWhile_append_dropWhile]
      have hdig := (List.takeWhile_prefix Char.isDigit :
        ((c :: cs).dropWhile Char.isAlpha).takeWhile Char.isDigit <+: _).length_le
      rw [if_pos hc, forall_isDigit_iff]
      simp only [hne, ne_eq, not_false_eq_true, true_and, reduceCtorEq, false_or]
      constructor
      · intro h
        have := congrArg List.length h
        rw [List.length_take] at this
        omega
      · intro h
        exact List.take_of_length_le (by omega)
    · have := findChars_length_le reInterface cs
      rw [if_neg hc]
      simp only [List.takeWhile_cons_of_neg hc, ne_eq, not_true_eq_false, false_and, or_false,
        reduceCtorEq, iff_false]
      intro h
      have := congrArg List.length h
      simp only [List.length_cons] at this
      omega

/-- A name the interface check accepts has no space, so it stays one word of a command line. -/
theorem space_not_mem_of_findString_eq {i : String} (h : reInterface.findString i = i) :
    ' ' ∉ i.data := by
  rcases (findString_reInterface_eq_self_iff i).mp h with rfl | ⟨a, d, hs, -, ha, -, hd⟩
  · decide
  · rw [hs, List.mem_append, not_or]
    exact ⟨fun h' => absurd (ha _ h') (by decide), fun h' => absurd (hd _ h') (by decide)⟩

namespace Regexp

/-- The words an expression of the fragment denotes: a counted repetition is a word of the
class within its bounds, a concatenation a word of the first followed by one of the second. -/
def Matches : Regexp → List Char → Prop
  | rep cls lo hi, w => (∀ c ∈ w, cls c) ∧ lo ≤ w.length ∧ ∀ h ∈ hi, w.length ≤ h
  | cat r s, w => ∃ u v, w = u ++ v ∧ r.Matches u ∧ s.Matches v

end Regexp

section Backoff

variable {cs : List Char} {k : List Char → Option (List Char)} {lo : Nat}

/-- What `backoff` returns is the continuation's answer at one of the offered lengths. -/
lemma backoff_eq_some {out : List Char} : ∀ {n : Nat}, backoff cs k lo n = some out →
    ∃ m, lo ≤ m ∧ m ≤ n ∧ k (cs.drop m) = some out
  | 0, h => by
    by_cases h0 : lo = 0
    · rw [backoff, if_pos h0] at h
      exact ⟨0, by omega, le_rfl, h⟩
    · rw [backoff, if_neg h0] at h
      cases h
  | n + 1, h => by
    have hl : ¬n + 1 < lo := fun hl => by rw [backoff, if_pos hl] at h; cases h
    rw [backoff, if_neg hl] at h
    cases hk : k (cs.drop (n + 1)) with
    | some r =>
      rw [hk] at h
      exact ⟨n + 1, by omega, le_rfl, hk.trans h⟩
    | none =>
      rw [hk] at h
      obtain ⟨m, h1, h2, h3⟩ := backoff_eq_some h
      exact ⟨m, h1, by omega, h3⟩

/-- `backoff` finds an answer whenever the continuation accepts one of the offered lengths. -/
lemma backoff_isSome : ∀ {n m : Nat}, lo ≤ m → m ≤ n → (k (cs.drop m)).isSome →
    (backoff cs k lo n).isSome
  | 0, m, h1, h2, hk => by
    obtain rfl : m = 0 := by omega
    rwa [backoff, if_pos (by omega)]
  | n + 1, m, h1, h2, hk => by
    rw [backoff, if_neg (by omega)]
    cases hk' : k (cs.drop (n + 1)) with
    | some r => rfl
    | none =>
      have hm : m ≠ n + 1 := fun h => by rw [h, hk'] at hk; cases hk
      exact backoff_isSome h1 (by omega) hk

end Backoff

namespace Regexp

/-- The matcher is sound: an answer comes from a prefix the expression denotes, followed by a
rest the continuation accepts. -/
lemma matchWith_sound : ∀ (r : Regexp) {cs : List Char} {k : List Char → Option (List Char)}
    {out : List Char}, r.matchWith cs k = some out →
      ∃ u rest, cs = u ++ rest ∧ r.Matches u ∧ k rest = some out
  | rep cls lo hi, cs, k, out, h => by
    obtain ⟨m, hlo, hm, hk⟩ := backoff_eq_some h
    have hrun : m ≤ (cs.takeWhile cls).length ∧ ∀ h ∈ hi, m ≤ h := by
      cases hi with
      | none => exact ⟨hm, nofun⟩
      | some b => exact ⟨le_trans hm (Nat.min_le_left _ _),
          fun h' hh => by cases hh; exact le_trans hm (Nat.min_le_right _ _)⟩
    have hp : cs.takeWhile cls = cs.take (cs.takeWhile cls).length :=
      List.prefix_iff_eq_take.1 (List.takeWhile_prefix cls)
    have ht : cs.take m = (cs.takeWhile cls).take m := by
      rw [hp, List.take_take, Nat.min_eq_left hrun.1]
    have hlen : (cs.take m).length = m := by
      have := (List.takeWhile_prefix cls : cs.takeWhile cls <+: cs).length_le
      rw [List.length_take]
      omega
    refine ⟨cs.take m, cs.drop m, (List.take_append_drop m cs).symm,
      ⟨fun c hc => ?_, by rw [hlen]; exact hlo, fun h' hh => by rw [hlen]; exact hrun.2 h' hh⟩, hk⟩
    rw [ht] at hc
    exact List.mem_takeWhile_imp (List.mem_of_mem_take hc)
  | cat r s, cs, k, out, h => by
    obtain ⟨u, rest, rfl, hu, h⟩ := matchWith_sound r h
    obtain ⟨v, rest', rfl, hv, hk⟩ := matchWith_sound s h
    exact ⟨u ++ v, rest', (List.append_assoc _ _ _).symm, ⟨u, v, rfl, hu, hv⟩, hk⟩

/-- The matcher is complete: when a prefix the expression denotes leaves a rest that the
continuation accepts, the matcher answers. -/
lemma matchWith_complete : ∀ (r : Regexp) {u rest : List Char}
    {k : List Char → Option (List Char)}, r.Matches u → (k rest).isSome →
      (r.matchWith (u ++ rest) k).isSome
  | rep cls lo hi, u, rest, k, ⟨hcls, hlo, hhi⟩, hk => by
    have hrun : u.length ≤ ((u ++ rest).takeWhile cls).length := by
      rw [List.takeWhile_append_of_pos hcls, List.length_append]
      omega
    refine backoff_isSome hlo ?_ (by rwa [List.drop_left])
    cases hi with
    | none => exact hrun
    | some b => exact Nat.le_min.2 ⟨hrun, hhi b rfl⟩
  | cat r s, _, rest, k, ⟨u, v, rfl, hu, hv⟩, hk => by
    rw [List.append_assoc]
    exact matchWith_complete r hu (matchWith_complete s hv hk)

/-- The model of `FindString` returns a leftmost match: a non-empty result is a substring of
the input that the expression denotes, and no prefix of the input from an earlier position is
denoted by the expression. -/
theorem findChars_leftmost (r : Regexp) (cs : List Char) (h : r.findChars cs ≠ []) :
    ∃ pre rest, cs = pre ++ r.findChars cs ++ rest ∧ r.Matches (r.findChars cs) ∧
      ∀ i < pre.length, ∀ u v, cs.drop i = u ++ v → ¬r.Matches u := by
  induction cs with
  | nil => exact absurd rfl h
  | cons c cs ih =>
    cases hm : r.matchWith (c :: cs) some with
    | some rest =>
      obtain ⟨u, rest', hcs, hu, ⟨⟩⟩ := matchWith_sound r hm
      have hf : r.findChars (c :: cs) = u := by
        rw [findChars, hm]
        dsimp only
        rw [show cs.length + 1 = (c :: cs).length from rfl, hcs, List.length_append,
          Nat.add_sub_cancel, List.take_left]
      rw [hf]
      exact ⟨[], rest, hcs, hu, nofun⟩
    | none =>
      have hf : r.findChars (c :: cs) = r.findChars cs := by rw [findChars, hm]
      rw [hf] at h ⊢
      obtain ⟨pre, rest, hcs, hmat, hleft⟩ := ih h
      refine ⟨c :: pre, rest, by rw [List.cons_append, List.cons_append, ← hcs], hmat, ?_⟩
      rintro (_ | i) hi u v huv hu
      · have := @matchWith_complete r u v some hu rfl
        rw [← huv, List.drop_zero, hm] at this
        cases this
      · exact hleft i (by simpa using hi) u v huv hu

end Regexp

theorem findChars_leftmost_eth0 :
    reInterface.findChars "1eth0 up".data = "eth0".data ∧
      ∃ pre rest, "1eth0 up".data = pre ++ reInterface.findChars "1eth0 up".data ++ rest ∧
        reInterface.Matches (reInterface.findChars "1eth0 up".data) ∧
        ∀ i < pre.length, ∀ u v, "1eth0 up".data.drop i = u ++ v → ¬reInterface.Matches u :=
  ⟨by decide, Regexp.findChars_leftmost reInterface _ (by decide)⟩

end Pumba.Go
