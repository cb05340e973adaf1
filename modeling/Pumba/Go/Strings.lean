import Mathlib.Data.List.DropRight

/-! Models of the functions of Go's `strings` package that the client and the command line
call. A Go string is read as its sequence of runes, so it is a Lean `String` here and every
function works on the rune list. -/
namespace Pumba.Go

/-- `strings.HasPrefix`. -/
def hasPrefix (s pre : String) : Bool := pre.data.isPrefixOf s.data

/-- `strings.Trim`: strip every leading and then every trailing rune that occurs in `cutset`. -/
def trim (s cutset : String) : String :=
  ⟨(s.data.dropWhile (· ∈ cutset.data)).rdropWhile (· ∈ cutset.data)⟩

/-- `strings.Split` with a one-rune separator: every occurrence of `sep` cuts, and the pieces
between adjacent separators are kept, empty ones included. -/
def split (s : String) (sep : Char) : List String := (s.data.splitOn sep).map String.mk

/-- `strings.ToLower`, rune by rune. The case mapping is that of ASCII; Unicode's tables for
the other letters are not modelled. -/
def toLower (s : String) : String := ⟨s.data.map Char.toLower⟩

/-- `hexDigit`, the lower-case digit table the `net` and `time` packages index. -/
def hexDigit : List Char := "0123456789abcdef".data

/-- The `i`-th entry of `hexDigit`. -/
def digit (i : Nat) : Char := hexDigit.getD i '0'

/-- Words each followed by one space, the shape of the fixed part of a `tc` command line. -/
def unwords : List String → String
  | [] => ""
  | w :: ws => w ++ " " ++ unwords ws

@[simp] theorem hasPrefix_append (pre s : String) : hasPrefix (pre ++ s) pre = true := by
  simp [hasPrefix, List.isPrefixOf_iff_prefix]

/-- Trimming skips a prefix made only of cut runes. -/
theorem trim_append_of_forall_mem {pre : String} (s cutset : String)
    (h : ∀ c ∈ pre.data, c ∈ cutset.data) : trim (pre ++ s) cutset = trim s cutset := by
  simp only [trim, String.data_append]
  rw [List.dropWhile_append_of_pos (by simpa using h)]

lemma dropWhile_eq_self_iff_head {α : Type} {p : α → Bool} {l : List α} :
    l.dropWhile p = l ↔ ∀ a ∈ l.head?, p a = false := by
  cases l with
  | nil => simp
  | cons x xs =>
    by_cases hx : p x
    · have hle := (List.dropWhile_suffix p : xs.dropWhile p <:+ xs).length_le
      simp only [List.dropWhile_cons_of_pos hx, List.head?_cons, Option.mem_def,
        Option.some.injEq, forall_eq', hx, Bool.true_eq_false, iff_false]
      intro h
      have := congrArg List.length h
      simp at this
      omega
    · simp [hx]

lemma rdropWhile_eq_self_iff_last {α : Type} {p : α → Bool} {l : List α} :
    l.rdropWhile p = l ↔ ∀ a ∈ l.getLast?, p a = false := by
  rw [List.rdropWhile, ← List.head?_reverse, ← dropWhile_eq_self_iff_head, List.reverse_eq_iff]

lemma rdropWhile_dropWhile_eq_self_iff {α : Type} (p : α → Bool) (l : List α) :
    (l.dropWhile p).rdropWhile p = l ↔ l.dropWhile p = l ∧ l.rdropWhile p = l := by
  constructor
  · intro h
    have hd : l.dropWhile p = l :=
      (List.dropWhile_suffix p).eq_of_length (le_antisymm (List.dropWhile_suffix p).length_le
        (by have := (List.rdropWhile_prefix p (l.dropWhile p)).length_le; rwa [h] at this))
    exact ⟨hd, by rwa [hd] at h⟩
  · rintro ⟨hd, hr⟩
    rw [hd, hr]

/-- `Trim` leaves a string alone exactly when neither its first nor its last rune is cut. -/
theorem trim_eq_self_iff (s cutset : String) :
    trim s cutset = s ↔
      (∀ c ∈ s.data.head?, c ∉ cutset.data) ∧ (∀ c ∈ s.data.getLast?, c ∉ cutset.data) := by
  simp only [trim, String.ext_iff, rdropWhile_dropWhile_eq_self_iff, dropWhile_eq_self_iff_head,
    rdropWhile_eq_self_iff_last, decide_eq_false_iff_not]

theorem split_of_space_not_mem {w : String} (hw : ' ' ∉ w.data) : split w ' ' = [w] := by
  have h : ∀ c ∈ w.data, ¬(c == ' ') = true := fun c hc he => hw (by rwa [← eq_of_beq he])
  simp [split, List.splitOn, List.splitOnP_eq_single _ _ h]

theorem split_space_append {w : String} (rest : String) (hw : ' ' ∉ w.data) :
    split (w ++ " " ++ rest) ' ' = w :: split rest ' ' := by
  have h : ∀ c ∈ w.data, ¬(c == ' ') = true := fun c hc he => hw (by rwa [← eq_of_beq he])
  have hd : (w ++ " " ++ rest).data = w.data ++ ' ' :: rest.data := by simp
  simp only [split, hd, List.splitOn, List.splitOnP_first _ _ h ' ' (beq_self_eq_true ' ')]
  rfl

/-- A command line built from space-free words splits back into exactly those words. -/
theorem split_unwords_append {ws : List String} (x : String) (hws : ∀ w ∈ ws, ' ' ∉ w.data) :
    split (unwords ws ++ x) ' ' = ws ++ split x ' ' := by
  induction ws with
  | nil => simp [unwords]
  | cons w ws ih =>
    rw [unwords, String.append_assoc, split_space_append _ (hws w (by simp)),
      ih (fun v hv => hws v (by simp [hv]))]
    rfl

lemma toNat_ofNat_of_lt {m : Nat} (h : m < 0xd800) : (Char.ofNat m).toNat = m := by
  have hv : m.isValidChar := Or.inl h
  simp only [Char.ofNat, hv, dite_true, Char.ofNatAux, Char.toNat]
  simp [UInt32.toNat]

lemma toLower_eq_space {c : Char} (h : c.toLower = ' ') : c = ' ' := by
  simp only [Char.toLower] at h
  split at h
  · have := congrArg Char.toNat h
    rw [toNat_ofNat_of_lt (by omega)] at this
    simp at this
    omega
  · exact h

theorem toLower_space_not_mem {s : String} (hs : ' ' ∉ s.data) : ' ' ∉ (toLower s).data := by
  simp only [toLower, List.mem_map, not_exists, not_and]
  intro c hc he
  exact hs (toLower_eq_space he ▸ hc)

lemma digit_mem_hexDigit (i : Nat) : digit i ∈ hexDigit := by
  unfold digit
  rw [List.getD_eq_getElem?_getD]
  cases hi : hexDigit[i]? with
  | none => decide
  | some c => exact List.getElem?_mem hi

lemma digit_ne_space (i : Nat) : digit i ≠ ' ' := fun h =>
  absurd (h ▸ digit_mem_hexDigit i) (by decide)

end Pumba.Go
