import Pumba.Main.Targets
import Pumba.Go.Duration
import Pumba.Go.Regexp
import Pumba.Go.ParseIP
import Pumba.Main.Scheduler

/-! The chaos commands of `main.go`. `beforeCommand` reads the global interval, each action
checks its own flags, and what passes is handed to `runChaosCommand`. Logging is left out. -/
namespace Pumba.Main

open Pumba.Go

/-- `LinuxSignals`. -/
def linuxSignals : List (String × Nat) :=
  [("SIGHUP", 1), ("SIGINT", 2), ("SIGQUIT", 3), ("SIGILL", 4), ("SIGTRAP", 5), ("SIGIOT", 6),
    ("SIGBUS", 7), ("SIGFPE", 8), ("SIGKILL", 9), ("SIGUSR1", 10), ("SIGSEGV", 11),
    ("SIGUSR2", 12), ("SIGPIPE", 13), ("SIGALRM", 14), ("SIGTERM", 15), ("SIGSTKFLT", 16),
    ("SIGCHLD", 17), ("SIGCONT", 18), ("SIGSTOP", 19), ("SIGTSTP", 20), ("SIGTTIN", 21),
    ("SIGTTOU", 22), ("SIGURG", 23), ("SIGXCPU", 24), ("SIGXFSZ", 25), ("SIGVTALRM", 26),
    ("SIGPROF", 27), ("SIGWINCH", 28), ("SIGIO", 29), ("SIGPWR", 30)]

/-- `DefaultSignal`, the default of `kill --signal`. -/
def defaultSignal : String := "SIGKILL"

/-- The default of `stop --time`, in seconds. -/
def defaultStopTime : Int := 10

/-- The text of `reInterface`, which its error message quotes. -/
def reInterfaceExpr : String := "[a-zA-Z]+[0-9]\x7b0,2\x7d"

/-- The command values of the `action` package, with the fields `main.go` sets. -/
inductive Command
  | kill (signal : String)
  | netemDelay (netInterface : String) (ip : Option IP) (duration amount variation correlation : Int)
  | pause (duration : Int)
  | remove (force links volumes : Bool)
  | stop (waitTime : Int)
  deriving DecidableEq, Repr

/-- A call of `runChaosCommand`: the command, the selector, and `gInterval` as
`beforeCommand` set it. -/
structure Dispatch where
  cmd : Command
  names : List String
  pattern : String
  interval : Int
  deriving DecidableEq, Repr

/-- The flags of `netem`, which `netem delay` reads through `c.Parent()`. -/
structure NetemFlags where
  duration : String := ""
  netInterface : String := "eth0"
  target : String := ""
  deriving DecidableEq, Repr

/-- The flags of `netem delay`. -/
structure DelayFlags where
  amount : Int := 100
  variation : Int := 10
  correlation : Int := 20
  deriving DecidableEq, Repr

/-- A chaos command as the command line gives it, with its flags at the defaults `main` gives
them; `parent` is the context of `netem` that `netem delay` reads. -/
inductive Invocation
  | kill (signal : String := defaultSignal)
  | netemDelay (parent : Option NetemFlags) (flags : DelayFlags := {})
  | pause (duration : String := "")
  | stop (time : Int := defaultStopTime)
  | rm (force : Bool := true) (links : Bool := true) (volumes : Bool := true)
  deriving DecidableEq, Repr

/-- `beforeCommand`: the global `--interval` must be given and parse; its value becomes
`gInterval`. -/
def beforeCommand (interval : String) : Except String Int :=
  if interval = "" then .error "Undefined interval value." else parseDuration interval

/-- `kill`. -/
def kill (args : List String) (signal : String) (interval : Int) : Except String Dispatch :=
  let (names, pattern) := getNamesOrPattern args
  if (linuxSignals.lookup signal).isNone then .error ("Unexpected signal: " ++ signal)
  else .ok ⟨.kill signal, names, pattern, interval⟩

/-- `netemDelay`. -/
def netemDelay (args : List String) (parent : Option NetemFlags) (flags : DelayFlags)
    (interval : Int) : Except String Dispatch := do
  let (names, pattern) := getNamesOrPattern args
  let durationString := match parent with
    | some p => p.duration
    | none => ""
  if durationString = "" then throw "Undefined duration interval"
  let duration ← parseDuration durationString
  let (netInterface, ip) ← match parent with
    | none => pure ("eth0", none)
    | some p =>
      if p.netInterface ≠ reInterface.findString p.netInterface then
        throw ("Bad network interface name. Must match '" ++ reInterfaceExpr ++ "'")
      else pure (p.netInterface, parseIP p.target)
  if flags.amount ≤ 0 then throw "Invalid delay amount"
  if flags.variation < 0 ∨ flags.variation > flags.amount then throw "Invalid delay variation"
  if flags.correlation < 0 ∨ flags.correlation > 100 then
    throw "Invalid delay correlation: must be between 0 and 100"
  pure ⟨.netemDelay netInterface ip duration flags.amount flags.variation flags.correlation,
    names, pattern, interval⟩

/-- `pause`. -/
def pause (args : List String) (durationString : String) (interval : Int) :
    Except String Dispatch := do
  let (names, pattern) := getNamesOrPattern args
  if durationString = "" then throw "Undefined duration interval"
  let duration ← parseDuration durationString
  pure ⟨.pause duration, names, pattern, interval⟩

/-- `remove`. -/
def remove (args : List String) (force links volumes : Bool) (interval : Int) : Dispatch :=
  let (names, pattern) := getNamesOrPattern args
  ⟨.remove force links volumes, names, pattern, interval⟩

/-- `stop`. -/
def stop (args : List String) (time : Int) (interval : Int) : Dispatch :=
  let (names, pattern) := getNamesOrPattern args
  ⟨.stop time, names, pattern, interval⟩

/-- The action of a command, given `gInterval`. -/
def action (args : List String) : Invocation → Int → Except String Dispatch
  | .kill signal => kill args signal
  | .netemDelay parent flags => netemDelay args parent flags
  | .pause duration => pause args duration
  | .stop time => fun interval => .ok (stop args time interval)
  | .rm force links volumes => fun interval => .ok (remove args force links volumes interval)

/-- A chaos command run from the command line: `beforeCommand`, then the action, which ends in
`runChaosCommand` when it returns a dispatch. -/
def runCommand (interval : String) (args : List String) (inv : Invocation) :
    Except String Dispatch := do
  action args inv (← beforeCommand interval)

lemma kill_eq_ok {args : List String} {signal : String} {interval : Int} {d : Dispatch} :
    kill args signal interval = .ok d ↔ (linuxSignals.lookup signal).isSome ∧
      ⟨.kill signal, (getNamesOrPattern args).1, (getNamesOrPattern args).2, interval⟩ = d := by
  cases h : linuxSignals.lookup signal <;> simp [kill, h]

lemma pause_eq_ok {args : List String} {durationString : String} {interval : Int} {d : Dispatch} :
    pause args durationString interval = .ok d ↔ durationString ≠ "" ∧
      ∃ duration, parseDuration durationString = .ok duration ∧
        ⟨.pause duration, (getNamesOrPattern args).1, (getNamesOrPattern args).2, interval⟩ =
          d := by
  by_cases h0 : durationString = "" <;> simp [pause, h0]

/-- What `netemDelay` checks, in its order: the duration is given and parses, the interface
passes the regular expression, and the amount, variation and correlation are in range. -/
lemma netemDelay_eq_ok {args : List String} {p : NetemFlags} {flags : DelayFlags}
    {interval : Int} {d : Dispatch} :
    netemDelay args (some p) flags interval = .ok d ↔ p.duration ≠ "" ∧
      ∃ duration, parseDuration p.duration = .ok duration ∧
        reInterface.findString p.netInterface = p.netInterface ∧ 0 < flags.amount ∧
        (0 ≤ flags.variation ∧ flags.variation ≤ flags.amount) ∧
        (0 ≤ flags.correlation ∧ flags.correlation ≤ 100) ∧
        ⟨.netemDelay p.netInterface (parseIP p.target) duration flags.amount flags.variation
          flags.correlation, (getNamesOrPattern args).1, (getNamesOrPattern args).2,
          interval⟩ = d := by
  by_cases h0 : p.duration = ""
  · simp [netemDelay, h0]
  · simp [netemDelay, h0, @eq_comm _ p.netInterface, not_or, Int.not_le, Int.not_lt]

lemma netemDelay_none_ne_ok (args : List String) (flags : DelayFlags) (interval : Int)
    (d : Dispatch) : netemDelay args none flags interval ≠ .ok d := by
  simp [netemDelay]

lemma runCommand_eq_ok {interval : String} {args : List String} {inv : Invocation} {d : Dispatch} :
    runCommand interval args inv = .ok d ↔
      interval ≠ "" ∧ ∃ iv, parseDuration interval = .ok iv ∧ action args inv iv = .ok d := by
  by_cases h : interval = "" <;> simp [runCommand, beforeCommand, h]

lemma action_interval {args : List String} {inv : Invocation} {iv : Int} {d : Dispatch}
    (h : action args inv iv = .ok d) : d.interval = iv := by
  cases inv with
  | kill signal => obtain ⟨-, rfl⟩ := kill_eq_ok.1 h; rfl
  | netemDelay parent flags =>
    cases parent with
    | none => exact absurd h (netemDelay_none_ne_ok _ _ _ _)
    | some p => obtain ⟨-, _, -, -, -, -, -, rfl⟩ := netemDelay_eq_ok.1 h; rfl
  | pause duration => obtain ⟨-, _, -, rfl⟩ := pause_eq_ok.1 h; rfl
  | stop time => cases h; rfl
  | rm force links volumes => cases h; rfl

/-- Every flag default passes its command's check: with its defaults `kill` dispatches
`SIGKILL`, `stop` and `rm` dispatch whatever their flags, and `netem delay` with every other
flag at its default dispatches on `eth0` without a filter as soon as its duration parses. -/
lemma defaults_pass_checks (args : List String) (iv : Int) :
    action args .kill iv =
        .ok ⟨.kill defaultSignal, (getNamesOrPattern args).1, (getNamesOrPattern args).2, iv⟩ ∧
      action args .stop iv = .ok (stop args defaultStopTime iv) ∧
      action args .rm iv = .ok (remove args true true true iv) ∧
      ∀ {dur x}, dur ≠ "" → parseDuration dur = .ok x →
        action args (.netemDelay (some { duration := dur })) iv =
          .ok ⟨.netemDelay "eth0" none x 100 10 20, (getNamesOrPattern args).1,
            (getNamesOrPattern args).2, iv⟩ :=
  ⟨show kill args defaultSignal iv = _ from kill_eq_ok.2 ⟨rfl, rfl⟩, rfl, rfl,
    fun hd hx => netemDelay_eq_ok.2 ⟨hd, _, hx,
      (by decide : reInterface.findString "eth0" = "eth0"), by decide, by decide, by decide, rfl⟩⟩

/-- `netemDelay` dispatches only an interface its check accepts, which for a non-empty
interface means a whole match of `[a-zA-Z]+[0-9]{0,2}`, and it accepts every such match;
the command carries the interface as given and the filter `ParseIP` makes of the target,
which is absent for a target that does not parse. -/
theorem netemDelay_interface_filter (args : List String) (p : NetemFlags) (flags : DelayFlags)
    (iv : Int) :
    (∀ d, netemDelay args (some p) flags iv = .ok d →
      (p.netInterface ≠ "" → InterfaceName p.netInterface) ∧
      ∃ duration, d.cmd = .netemDelay p.netInterface (parseIP p.target) duration flags.amount
        flags.variation flags.correlation) ∧
    (InterfaceName p.netInterface → p.duration ≠ "" → (∃ x, parseDuration p.duration = .ok x) →
      0 < flags.amount → 0 ≤ flags.variation → flags.variation ≤ flags.amount →
      0 ≤ flags.correlation → flags.correlation ≤ 100 →
      ∃ d, netemDelay args (some p) flags iv = .ok d) := by
  refine ⟨fun d h => ?_, fun hI hd ⟨x, hx⟩ ha hv hv' hc hc' => ?_⟩
  · obtain ⟨-, x, -, hi, -, -, -, rfl⟩ := netemDelay_eq_ok.1 h
    exact ⟨fun hne => ((findString_reInterface_eq_self_iff _).1 hi).resolve_left hne, x, rfl⟩
  · have hi := (findString_reInterface_eq_self_iff p.netInterface).2 (.inr hI)
    exact ⟨_, netemDelay_eq_ok.2 ⟨hd, x, hx, hi, ha, ⟨hv, hv'⟩, ⟨hc, hc'⟩, rfl⟩⟩

/-- The checks of `netem delay` let through two inputs `main` documents as invalid: the empty
interface passes the regular expression check, `FindString` giving "" when nothing matches, and
the target `foo`, which `ParseIP` rejects, becomes a netem on all traffic. -/
theorem netemDelay_empty_interface_bad_target :
    reInterface.findString "" = "" ∧ parseIP "foo" = none ∧
      runCommand "1s" [] (.netemDelay (some ⟨"1ms", "", "foo"⟩)) =
        .ok ⟨.netemDelay "" none 1000000 100 10 20, [], "", 1000000000⟩ :=
  ⟨rfl, rfl, rfl⟩

/-- A chaos command from the command line up to the goroutines of `runChaosCommand`: the error
of `beforeCommand` or of the action, `none` when `time.NewTicker` panics, or the state the
goroutines start from. -/
def runChaos (testRun : Bool) (interval : String) (args : List String) (inv : Invocation) :
    Except String (Option World) :=
  (runCommand interval args inv).map fun d => startChaos testRun d.interval

/-- A command whose own checks pass under a non-positive interval that parses reaches
`runChaosCommand`, where `time.NewTicker` panics. -/
lemma runChaos_panics {interval : String} {args : List String} {inv : Invocation} {iv : Int}
    {d : Dispatch} (hne : interval ≠ "") (hp : parseDuration interval = .ok iv) (hiv : iv ≤ 0)
    (ha : action args inv iv = .ok d) : runChaos false interval args inv = .ok none := by
  have hd : d.interval ≤ 0 := action_interval ha ▸ hiv
  rw [runChaos, runCommand_eq_ok.2 ⟨hne, iv, hp, ha⟩]
  simp only [Except.map, startChaos, Bool.false_or, decide_eq_true_eq, if_neg (Int.not_lt.2 hd)]

/-- Nothing bounds the interval, the durations or the stop time: with `--interval 0` the
default `kill` reaches `runChaosCommand`, whose `time.NewTicker` panics, and a pause longer
than the interval and a negative stop time are dispatched as given. -/
theorem runChaos_unchecked_bounds :
    runChaos false "0" [] .kill = .ok none ∧
      runCommand "1s" [] (.pause "2s") = .ok ⟨.pause 2000000000, [], "", 1000000000⟩ ∧
      runCommand "1s" [] (.stop (-1)) = .ok ⟨.stop (-1), [], "", 1000000000⟩ :=
  ⟨runChaos_panics (by decide) rfl (Int.le_refl 0) (defaults_pass_checks [] 0).1, rfl, rfl⟩

end Pumba.Main
