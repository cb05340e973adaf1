import Pumba.Client.Api

/-! `(dockerClient).StopContainer`: send the container's stop signal, wait, send `SIGKILL`,
and wait again, where the second wait succeeds only if an inspection fails (the container
is gone). The clock of `waitForStop` is abstracted: a poll takes no time and is followed by a
one-second sleep when the container still runs, so `time.After` fires after as many polls as
whole seconds start before the timeout, the timeout being `time.Duration(waitTime) *
time.Second` computed in `int64`, which wraps. -/
namespace Pumba.Client

open DockerM

/-- The polls of `waitForStop` with `n` polls left before the timeout. -/
def waitLoop (c : Container) : Nat → DockerM (Option String)
  | 0 => pure none
  | n+1 => do
    match ← Api.inspectContainer c.id with
    | .error err => pure (some err)
    | .ok ci =>
      if ci.running then do
        timeSleep 1000000000
        waitLoop c n
      else pure none

/-- `time.Duration(waitTime) * time.Second`: the product in `int64`, which wraps. -/
def waitDuration (waitTime : Int) : Int :=
  (waitTime * 1000000000 + 9223372036854775808) % 18446744073709551616 - 9223372036854775808

/-- The polls of `waitForStop` before `time.After` fires: one at each whole second from the
start while less time than the timeout has passed, none for a non-positive timeout. -/
def timeoutPolls (waitTime : Int) : Nat :=
  ((waitDuration waitTime + 999999999) / 1000000000).toNat

/-- `(dockerClient).waitForStop`. -/
def waitForStop (c : Container) (waitTime : Int) : DockerM (Option String) :=
  waitLoop c (timeoutPolls waitTime)

example : timeoutPolls 9999999999 = 0 := by decide
example : timeoutPolls (-9223372037) = 9223372037 := by decide

/-- The error `StopContainer` returns when the container survives `SIGKILL`. -/
def couldNotBeStopped (c : Container) : String :=
  "Container " ++ c.name ++ " (" ++ c.id ++ ") could not be stopped"

/-- `(dockerClient).StopContainer`. -/
def stopContainer (c : Container) (timeout : Int) (dryrun : Bool) : DockerM (Option String) :=
  let signal := if c.stopSignal = "" then defaultStopSignal else c.stopSignal
  if dryrun then pure none
  else seqErr (Api.killContainer c.id signal) do
    let _ ← waitForStop c timeout
    seqErr (Api.killContainer c.id defaultKillSignal) do
      match ← waitForStop c timeout with
      | none => pure (some (couldNotBeStopped c))
      | some _ => pure none

/-- An answer to one `InspectContainer` poll. -/
inductive Poll
  | failed (err : String)
  | running
  | stopped
  deriving DecidableEq, Repr

def Call.isInspect : Call → Bool
  | .inspectContainer _ => true
  | _ => false

/-- A daemon that answers the `k`-th inspection with `a k` and every other call with success. -/
def DockerApi.polling (a : Nat → Poll) : DockerApi :=
  { DockerApi.healthy [] with
    inspectContainer := fun log id =>
      match a (log.countP Call.isInspect) with
      | .failed err => .error err
      | .running => .ok ⟨id, "", "", true, []⟩
      | .stopped => .ok ⟨id, "", "", false, []⟩ }

@[simp] lemma DockerApi.polling_inspectContainer (a : Nat → Poll) (log : List Call) (id : String) :
    (DockerApi.polling a).inspectContainer log id =
      match a (log.countP Call.isInspect) with
      | .failed err => .error err
      | .running => .ok ⟨id, "", "", true, []⟩
      | .stopped => .ok ⟨id, "", "", false, []⟩ := rfl

/-- The container of the client's tests: `foo` (`abc123`), without a stop-signal label. -/
def fooContainer : Container := ⟨⟨"abc123", "foo", "img", true, []⟩, ⟨"img"⟩⟩

section AnyDaemon

variable (c : Container) (api : DockerApi)

/-- Against every daemon, a wait that reports an error ends on an inspection of the container
that the daemon answered with that error. -/
lemma waitLoop_some : ∀ (n : Nat) (log : List Call) {err : String},
    (waitLoop c n api log).1 = some err →
      ∃ L, (waitLoop c n api log).2 = L ++ [.inspectContainer c.id] ∧
        api.inspectContainer L c.id = .error err
  | 0, log, err, h => by simp [waitLoop] at h
  | n+1, log, err, h => by
    cases hi : api.inspectContainer log c.id with
    | error e =>
      simp only [waitLoop, Api.inspectContainer, bind_apply, call_apply, hi, pure_apply,
        Option.some.injEq] at h ⊢
      exact h ▸ ⟨log, rfl, hi⟩
    | ok ci =>
      by_cases hr : ci.running = true
      · simp only [waitLoop, Api.inspectContainer, bind_apply, call_apply, hi, hr, if_true,
          timeSleep, List.append_assoc, List.singleton_append] at h ⊢
        exact waitLoop_some n _ h
      · simp [waitLoop, Api.inspectContainer, hi, hr] at h

/-- Non-dry StopContainer against any daemon: the first failed kill ends it; after both kills
it reports success exactly when the second wait ends on an error. -/
lemma stopContainer_eq (t : Int) (log : List Call) :
    stopContainer c t false api log =
      let sig := if c.stopSignal = "" then defaultStopSignal else c.stopSignal
      match api.killContainer log c.id sig with
      | some err => (some err, log ++ [.killContainer c.id sig])
      | none =>
        let w₁ := (waitLoop c (timeoutPolls t) api (log ++ [.killContainer c.id sig])).2
        match api.killContainer w₁ c.id defaultKillSignal with
        | some err => (some err, w₁ ++ [.killContainer c.id defaultKillSignal])
        | none =>
          let w₂ :=
            waitLoop c (timeoutPolls t) api (w₁ ++ [.killContainer c.id defaultKillSignal])
          ((match w₂.1 with
            | none => some (couldNotBeStopped c)
            | some _ => none), w₂.2) := by
  simp only [stopContainer, seqErr_apply, Api.killContainer, call_apply, bind_apply, waitForStop,
    Bool.false_eq_true, if_false]
  generalize (if c.stopSignal = "" then defaultStopSignal else c.stopSignal) = sig
  cases api.killContainer log c.id sig with
  | some err => rfl
  | none =>
    cases api.killContainer
      (waitLoop c (timeoutPolls t) api (log ++ [.killContainer c.id sig])).2 c.id
      defaultKillSignal with
    | some err => rfl
    | none =>
      generalize
        waitLoop c (timeoutPolls t) api (_ ++ [.killContainer c.id defaultKillSignal]) = w₂
      rcases w₂ with ⟨_ | _, _⟩ <;> rfl

/-- Against every daemon, non-dry StopContainer reports success only when its last call was an
inspection of the container that the daemon answered with an error. -/
theorem stopContainer_ok_after_failed_inspection (t : Int) (log : List Call)
    (h : (stopContainer c t false api log).1 = none) :
    ∃ L err, (stopContainer c t false api log).2 = L ++ [.inspectContainer c.id] ∧
      api.inspectContainer L c.id = .error err := by
  rw [stopContainer_eq] at h ⊢
  dsimp only at h ⊢
  generalize (if c.stopSignal = "" then defaultStopSignal else c.stopSignal) = sig at h ⊢
  rcases hk₁ : api.killContainer log c.id sig with _ | err <;>
    simp only [hk₁, reduceCtorEq] at h ⊢
  generalize (waitLoop c (timeoutPolls t) api (log ++ [.killContainer c.id sig])).2 = L₁ at h ⊢
  rcases hk₂ : api.killContainer L₁ c.id defaultKillSignal with _ | err <;>
    simp only [hk₂, reduceCtorEq] at h ⊢
  rcases hw : (waitLoop c (timeoutPolls t) api (L₁ ++ [.killContainer c.id defaultKillSignal])).1
    with _ | err
  · simp [hw] at h
  · obtain ⟨L, hL, he⟩ := waitLoop_some c api _ _ hw
    exact ⟨L, err, hL, he⟩

end AnyDaemon

theorem stopContainer_ok_after_failed_inspection_gone :
    ∃ L err, (stopContainer fooContainer 1 false
        (DockerApi.polling fun k => if k = 0 then .stopped else .failed "No such container") []).2 =
        L ++ [.inspectContainer fooContainer.id] ∧
      (DockerApi.polling fun k => if k = 0 then .stopped else .failed "No such container").inspectContainer
        L fooContainer.id = .error err :=
  stopContainer_ok_after_failed_inspection fooContainer _ 1 [] (by decide)

end Pumba.Client
