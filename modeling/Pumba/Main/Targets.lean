import Pumba.Go.Strings

/-! Target selection on the command line: the positional arguments of a chaos command become a
list of container names or an RE2 pattern, and neither means every running container. -/
namespace Pumba.Main

open Pumba.Go

/-- `Re2Prefix`. -/
def re2Prefix : String := "re2:"

/-- `getNamesOrPattern`, over the positional arguments (`c.Args()`). -/
def getNamesOrPattern (args : List String) : List String × String :=
  if args ≠ [] then
    if 1 < args.length then (args, "")
    else
      let first := args.headD ""
      if hasPrefix first re2Prefix then ([], trim first re2Prefix) else ([], "")
  else ([], "")

/-- A single `re2:` argument gives the pattern `Trim` leaves of the text after the prefix. -/
lemma getNamesOrPattern_re2 (p : String) :
    getNamesOrPattern [re2Prefix ++ p] = ([], trim p re2Prefix) := by
  simp [getNamesOrPattern, trim_append_of_forall_mem p re2Prefix fun _ h => h]

/-- The pattern is the text after `re2:` exactly when that text neither starts nor ends with
one of the runes `r`, `e`, `2` and `:`. -/
theorem getNamesOrPattern_re2_eq_iff (p : String) :
    getNamesOrPattern [re2Prefix ++ p] = ([], p) ↔
      (∀ c ∈ p.data.head?, c ∉ re2Prefix.data) ∧ (∀ c ∈ p.data.getLast?, c ∉ re2Prefix.data) := by
  rw [getNamesOrPattern_re2, Prod.mk.injEq, ← trim_eq_self_iff]
  simp

theorem getNamesOrPattern_web_error :
    getNamesOrPattern ["web"] = ([], "") ∧ getNamesOrPattern ["re2:error"] = ([], "o") := by
  decide

end Pumba.Main
