import Mathlib.Tactic.Lemma
import Mathlib.Tactic.SplitIfs

/-! The goroutines of `runChaosCommand` and `handleSignals` as one labelled transition system.
The timer goroutine receives ticks and sends the command on the unbuffered channel `dc`
(closing it after the one tick of a test run), the dispatch loop receives from `dc`, calls
`gWG.Add(1)` and starts a chaos goroutine, each chaos goroutine ends with `gWG.Done()`, and the
signal goroutine waits for a signal, then for `gWG.Wait()`, then calls `os.Exit`. Receiving
the signal and calling `gWG.Wait()` are one step, the receive touching only the goroutine's own
channel. `Wait` returns at once on a zero counter; otherwise the goroutine blocks until the
`Done` that brings the counter to zero wakes it, and an `Add` between that wake-up and the
return of `Wait` makes `Wait` panic (the `WaitGroup` is reused before `Wait` returned). When
`os.Exit` runs, a goroutine panics, or the dispatch loop returns (and with it `main`), the
process is over. -/
namespace Pumba.Main

/-- Where the timer goroutine is: blocked on the time channel, holding a tick to send on `dc`,
or about to close `dc` (test run). -/
inductive TimerPc
  | waiting | sending | closing
  deriving DecidableEq, Repr

/-- Where the dispatch loop `for cmd := range dc` is. -/
inductive LoopPc
  | receiving | adding | spawning | returned
  deriving DecidableEq, Repr

/-- Where the goroutine of `handleSignals` is: before the signal, blocked in `gWG.Wait()`,
woken by the last `gWG.Done()` but not yet returned from `Wait`, before `os.Exit`, after it,
or dead by the panic of `Wait`. -/
inductive HandlerPc
  | waitingSignal | blocked | woken | exiting | exited | panicked
  deriving DecidableEq, Repr

/-- The goroutines' program counters, the ticks the time channel gave, whether `dc` is closed,
the `WaitGroup` counter, and the chaos goroutines started and returned so far. -/
structure World where
  timer : TimerPc
  fired : Nat
  closed : Bool
  loop : LoopPc
  counter : Nat
  spawned : Nat
  returned : Nat
  handler : HandlerPc
  deriving DecidableEq, Repr

/-- One step of one goroutine, or a signal from outside. -/
inductive Event
  | tick | send | close | add | spawn | done | endLoop | signal | waitReturn | waitPanic | exit
  deriving DecidableEq, Repr

/-- The state when `runChaosCommand` has started its timer goroutine. -/
def init : World := ⟨.waiting, 0, false, .receiving, 0, 0, 0, .waitingSignal⟩

/-- `runChaosCommand` up to the start of its goroutines, with `gTestRun` and `gInterval`:
`time.NewTicker` panics on a non-positive interval before any goroutine starts (`none`), where
`time.NewTimer` takes any interval. -/
def startChaos (testRun : Bool) (interval : Int) : Option World :=
  if testRun || decide (0 < interval) then some init else none

/-- `os.Exit` has run, `Wait` has panicked, or `main` has returned. -/
def World.halted (w : World) : Bool :=
  w.handler = .exited ∨ w.handler = .panicked ∨ w.loop = .returned

/-- When an event can happen: the goroutine it belongs to is at the right statement, the
channel or the `WaitGroup` lets it through. A ticker gives ticks for ever, the timer of a test
run gives one. -/
def enabled (testRun : Bool) (w : World) : Event → Bool
  | .tick => w.timer == .waiting && (!testRun || w.fired == 0)
  | .send => w.timer == .sending && w.loop == .receiving
  | .close => w.timer == .closing
  | .add => w.loop == .adding
  | .spawn => w.loop == .spawning
  | .done => w.returned < w.spawned
  | .endLoop => w.loop == .receiving && w.closed
  | .signal => w.handler == .waitingSignal
  | .waitReturn => w.handler == .woken && w.counter == 0
  | .waitPanic => w.handler == .woken && w.counter != 0
  | .exit => w.handler == .exiting

/-- What an event does. The `Done` that brings the counter to zero wakes a blocked `Wait`. -/
def effect (testRun : Bool) (w : World) : Event → World
  | .tick => { w with timer := .sending, fired := w.fired + 1 }
  | .send => { w with timer := if testRun then .closing else .waiting, loop := .adding }
  | .close => { w with timer := .waiting, closed := true }
  | .add => { w with loop := .spawning, counter := w.counter + 1 }
  | .spawn => { w with loop := .receiving, spawned := w.spawned + 1 }
  | .done =>
    { w with
      returned := w.returned + 1
      counter := w.counter - 1
      handler := if w.handler = .blocked ∧ w.counter = 1 then .woken else w.handler }
  | .endLoop => { w with loop := .returned }
  | .signal => { w with handler := if w.counter = 0 then .exiting else .blocked }
  | .waitReturn => { w with handler := .exiting }
  | .waitPanic => { w with handler := .panicked }
  | .exit => { w with handler := .exited }

/-- The transition relation, as a partial function: `none` when the event cannot happen. -/
def step (testRun : Bool) (w : World) (e : Event) : Option World :=
  if !w.halted && enabled testRun w e then some (effect testRun w e) else none

@[simp] lemma step_eq_some {testRun : Bool} {w w' : World} {e : Event} :
    step testRun w e = some w' ↔
      w.halted = false ∧ enabled testRun w e = true ∧ effect testRun w e = w' := by
  simp [step, and_assoc]

/-- The events of a trace, one after another. -/
def run (testRun : Bool) : World → List Event → Option World
  | w, [] => some w
  | w, e :: es => (step testRun w e).bind fun w' => run testRun w' es

/-- The states some interleaving reaches. -/
def Reachable (testRun : Bool) (w : World) : Prop := ∃ trace, run testRun init trace = some w

section Induction

variable {testRun : Bool} (P : World → Prop)

lemma run_preserves (hstep : ∀ w w' e, P w → step testRun w e = some w' → P w') :
    ∀ {w w' : World} {es : List Event}, P w → run testRun w es = some w' → P w' := by
  intro w w' es
  induction es generalizing w with
  | nil => intro hw h; cases h; exact hw
  | cons e es ih =>
    intro hw h
    obtain ⟨w1, h1, h⟩ := Option.bind_eq_some.1 h
    exact ih (hstep _ _ _ hw h1) h

/-- An invariant: it holds initially and every step keeps it. -/
lemma reachable_induction (h0 : P init)
    (hstep : ∀ w w' e, P w → step testRun w e = some w' → P w') {w : World}
    (hw : Reachable testRun w) : P w :=
  let ⟨_, h⟩ := hw
  run_preserves P hstep h0 h

end Induction

/-- One while the dispatch loop is between `gWG.Add(1)` and the `go` statement. -/
def LoopPc.afterAdd : LoopPc → Nat
  | .spawning => 1
  | _ => 0

/-- The `WaitGroup` counter counts the chaos goroutines still running, plus one while the
dispatch loop is between `gWG.Add(1)` and the `go` statement. -/
def CounterInv (w : World) : Prop :=
  w.returned ≤ w.spawned ∧ w.counter + w.returned = w.spawned + w.loop.afterAdd

lemma counterInv_step {testRun : Bool} {w w' : World} {e : Event} (hi : CounterInv w)
    (h : step testRun w e = some w') : CounterInv w' := by
  obtain ⟨-, hg, rfl⟩ := step_eq_some.1 h
  obtain ⟨hle, hc⟩ := hi
  cases e <;> simp only [enabled, Bool.and_eq_true, beq_iff_eq, decide_eq_true_eq] at hg <;>
    simp only [CounterInv, effect, LoopPc.afterAdd, hg] at hc ⊢ <;> omega

lemma counterInv_of_reachable {testRun : Bool} {w : World} (hw : Reachable testRun w) :
    CounterInv w :=
  reachable_induction CounterInv ⟨Nat.le_refl 0, rfl⟩ (fun _ _ _ => counterInv_step) hw

/-- Only two steps lead the signal goroutine to `os.Exit`: the signal on a zero counter, and
the return of a woken `Wait` on a zero counter; neither moves another goroutine. -/
lemma step_to_exiting {testRun : Bool} {w w' : World} {e : Event}
    (h : step testRun w e = some w') (hx : w'.handler = .exiting) (hn : w.handler ≠ .exiting) :
    w.counter = 0 ∧ w'.loop = w.loop ∧ w'.spawned = w.spawned ∧ w'.returned = w.returned := by
  obtain ⟨-, hg, rfl⟩ := step_eq_some.1 h
  cases e <;> simp only [enabled, Bool.and_eq_true, beq_iff_eq] at hg <;>
    simp only [effect] at hx ⊢
  case done => split_ifs at hx; exact absurd hx hn
  case signal => split_ifs at hx with h0; simp [h0]
  case waitReturn => exact ⟨hg.2, by simp⟩
  all_goals simp_all

/-- `gWG.Wait()` returns only when every chaos goroutine started so far has returned and the
dispatch loop is not between `gWG.Add(1)` and the `go` statement: in every interleaving of
either mode, whether `Wait` returns at once or after blocking, the step after which the signal
goroutine is about to call `os.Exit` finds all chaos goroutines returned. -/
theorem wait_returns_all_returned {testRun : Bool} {w w' : World} {e : Event}
    (hw : Reachable testRun w) (h : step testRun w e = some w') (hx : w'.handler = .exiting)
    (hn : w.handler ≠ .exiting) : w'.returned = w'.spawned ∧ w'.loop ≠ .spawning := by
  obtain ⟨hle, hc⟩ := counterInv_of_reachable hw
  obtain ⟨h0, hl, hs, hr⟩ := step_to_exiting h hx hn
  have ha : w.loop.afterAdd = 0 := by omega
  refine ⟨by omega, fun hsp => ?_⟩
  simp [← hl, hsp, LoopPc.afterAdd] at ha

theorem wait_returns_all_returned_after_wake :
    Reachable false ⟨.waiting, 1, false, .receiving, 0, 1, 1, .woken⟩ ∧
      step false ⟨.waiting, 1, false, .receiving, 0, 1, 1, .woken⟩ .waitReturn =
        some ⟨.waiting, 1, false, .receiving, 0, 1, 1, .exiting⟩ ∧
      HandlerPc.exiting = .exiting ∧ HandlerPc.woken ≠ .exiting ∧
      (1 = 1 ∧ LoopPc.receiving ≠ .spawning) :=
  ⟨⟨[.tick, .send, .add, .spawn, .signal, .done], by decide⟩, by decide, rfl, by decide,
    @wait_returns_all_returned false ⟨.waiting, 1, false, .receiving, 0, 1, 1, .woken⟩
      ⟨.waiting, 1, false, .receiving, 0, 1, 1, .exiting⟩ .waitReturn
      ⟨[.tick, .send, .add, .spawn, .signal, .done], by decide⟩ (by decide) rfl (by decide)⟩

/-- The deferred `gWG.Done()` never drives the `WaitGroup` counter below zero, which would
panic: in every interleaving a chaos goroutine that returns finds the counter positive and
lowers it by exactly one. -/
theorem done_counter_pos {testRun : Bool} {w w' : World} (hw : Reachable testRun w)
    (h : step testRun w .done = some w') : 0 < w.counter ∧ w'.counter + 1 = w.counter := by
  obtain ⟨-, hc⟩ := counterInv_of_reachable hw
  obtain ⟨-, hg, rfl⟩ := step_eq_some.1 h
  simp only [enabled, decide_eq_true_eq] at hg
  simp only [effect]
  omega

theorem done_counter_pos_after_spawn :
    Reachable false ⟨.waiting, 1, false, .receiving, 1, 1, 0, .waitingSignal⟩ ∧
      step false ⟨.waiting, 1, false, .receiving, 1, 1, 0, .waitingSignal⟩ .done =
        some ⟨.waiting, 1, false, .receiving, 0, 1, 1, .waitingSignal⟩ ∧
      (0 < 1 ∧ 0 + 1 = 1) :=
  ⟨⟨[.tick, .send, .add, .spawn], by decide⟩, by decide,
    @done_counter_pos false ⟨.waiting, 1, false, .receiving, 1, 1, 0, .waitingSignal⟩
      ⟨.waiting, 1, false, .receiving, 0, 1, 1, .waitingSignal⟩
      ⟨[.tick, .send, .add, .spawn], by decide⟩ (by decide)⟩

/-- The signal stops neither the ticker nor the dispatch loop. A signal on a zero counter
lets `Wait` return at once, a tick is then dispatched, and `os.Exit` ends the chaos goroutine
it started while it runs. A signal while a chaos goroutine runs blocks `Wait` until its `Done`;
a tick dispatched before `Wait` returns makes `Wait` panic, and the process dies by the panic
instead of exiting. -/
theorem signal_leaves_ticker_running :
    run false init [.signal, .tick, .send, .add, .spawn, .exit] =
        some ⟨.waiting, 1, false, .receiving, 1, 1, 0, .exited⟩ ∧
      run false init [.tick, .send, .add, .spawn, .signal, .done, .tick, .send, .add, .waitPanic] =
        some ⟨.waiting, 2, false, .spawning, 1, 1, 1, .panicked⟩ := by
  decide

/-- With a ticker the timer never reaches its close: `dc` stays open and the loop is not over. -/
def RecurringInv (w : World) : Prop :=
  w.closed = false ∧ w.timer ≠ .closing ∧ w.loop ≠ .returned

lemma recurringInv_step {w w' : World} {e : Event} (hi : RecurringInv w)
    (h : step false w e = some w') : RecurringInv w' := by
  obtain ⟨-, hg, rfl⟩ := step_eq_some.1 h
  obtain ⟨hcl, ht, hl⟩ := hi
  cases e <;> simp_all [RecurringInv, enabled, effect]

lemma recurringInv_of_reachable {w : World} (hw : Reachable false w) : RecurringInv w :=
  reachable_induction RecurringInv ⟨rfl, nofun, nofun⟩ (fun _ _ _ => recurringInv_step) hw

/-- One while the dispatch loop holds a command it has received and not yet started. -/
def LoopPc.holding : LoopPc → Nat
  | .adding => 1
  | .spawning => 1
  | _ => 0

lemma LoopPc.afterAdd_le_holding (l : LoopPc) : l.afterAdd ≤ l.holding := by
  cases l <;> decide

/-- One while the timer goroutine holds a tick it has not yet sent. -/
def TimerPc.holding : TimerPc → Nat
  | .sending => 1
  | _ => 0

/-- Every tick the timer has received is held by the timer, held by the dispatch loop, or has
become a chaos goroutine. -/
def DispatchInv (w : World) : Prop :=
  w.fired = w.spawned + w.loop.holding + w.timer.holding

lemma dispatchInv_step {testRun : Bool} {w w' : World} {e : Event} (hi : DispatchInv w)
    (h : step testRun w e = some w') : DispatchInv w' := by
  obtain ⟨-, hg, rfl⟩ := step_eq_some.1 h
  cases testRun <;> cases e <;>
    simp only [enabled, Bool.and_eq_true, beq_iff_eq, decide_eq_true_eq] at hg <;>
    simp only [DispatchInv, effect, LoopPc.holding, TimerPc.holding, hg, if_true,
      Bool.false_eq_true, if_false] at hi ⊢ <;> omega

lemma dispatchInv_of_reachable {testRun : Bool} {w : World} (hw : Reachable testRun w) :
    DispatchInv w :=
  reachable_induction DispatchInv rfl (fun _ _ _ => dispatchInv_step) hw

/-- No tick is lost or dispatched twice: in every interleaving, the ticks the timer received
are the chaos goroutines started plus the one tick the timer holds and the one command the
dispatch loop holds, if any. -/
theorem fired_eq_spawned_add_holding {testRun : Bool} {w : World} (hw : Reachable testRun w) :
    w.fired = w.spawned + w.loop.holding + w.timer.holding :=
  dispatchInv_of_reachable hw

theorem fired_eq_spawned_add_holding_two_ticks :
    Reachable false ⟨.sending, 2, false, .spawning, 1, 0, 0, .waitingSignal⟩ ∧
      2 = 0 + LoopPc.spawning.holding + TimerPc.sending.holding :=
  ⟨⟨[.tick, .send, .tick, .add], by decide⟩,
    @fired_eq_spawned_add_holding false ⟨.sending, 2, false, .spawning, 1, 0, 0, .waitingSignal⟩
      ⟨[.tick, .send, .tick, .add], by decide⟩⟩

lemma fired_le_one_step {w w' : World} {e : Event} (hi : w.fired ≤ 1)
    (h : step true w e = some w') : w'.fired ≤ 1 := by
  obtain ⟨-, hg, rfl⟩ := step_eq_some.1 h
  cases e <;>
    simp only [enabled, Bool.and_eq_true, beq_iff_eq, Bool.not_true, Bool.false_or] at hg <;>
    simp only [effect] <;> omega

lemma fired_le_one_of_reachable {w : World} (hw : Reachable true w) : w.fired ≤ 1 :=
  reachable_induction (fun w => w.fired ≤ 1) (Nat.zero_le 1) (fun _ _ _ => fired_le_one_step) hw

/-- With the timer of a test run, at most one chaos goroutine is ever started. -/
theorem testRun_spawns_at_most_once {w : World} (hw : Reachable true w) : w.spawned ≤ 1 := by
  have hf := fired_le_one_of_reachable hw
  have hd := dispatchInv_of_reachable hw
  simp only [DispatchInv] at hd
  omega

theorem testRun_spawns_at_most_once_closed :
    Reachable true ⟨.waiting, 1, true, .receiving, 1, 1, 0, .waitingSignal⟩ ∧ 1 ≤ 1 :=
  ⟨⟨[.tick, .send, .close, .add, .spawn], by decide⟩,
    @testRun_spawns_at_most_once ⟨.waiting, 1, true, .receiving, 1, 1, 0, .waitingSignal⟩
      ⟨[.tick, .send, .close, .add, .spawn], by decide⟩⟩

section TestRun

/-- In a test run `dc` is closed exactly when the timer waits again after its tick, and the
timer leaves waiting only with a tick. -/
def TimerInv (w : World) : Prop :=
  (w.closed = true ↔ w.timer = .waiting ∧ 0 < w.fired) ∧ (w.timer ≠ .waiting → 0 < w.fired)

lemma timerInv_step {w w' : World} {e : Event} (hi : TimerInv w) (h : step true w e = some w') :
    TimerInv w' := by
  obtain ⟨-, hg, rfl⟩ := step_eq_some.1 h
  obtain ⟨hc, hf⟩ := hi
  cases e <;> simp only [enabled, Bool.and_eq_true, beq_iff_eq, Bool.not_true, Bool.false_or,
    decide_eq_true_eq] at hg <;> simp only [TimerInv, effect, if_true] <;> simp_all

lemma timerInv_of_reachable {w : World} (hw : Reachable true w) : TimerInv w :=
  reachable_induction TimerInv ⟨by decide, by decide⟩ (fun _ _ _ => timerInv_step) hw

lemma TimerInv.open_of_closing {w : World} (hi : TimerInv w) (ht : w.timer = .closing) :
    w.closed = false := by
  cases hc : w.closed
  · rfl
  · rw [(hi.1.1 hc).1] at ht
    cases ht

/-- A woken `Wait` was woken by the return of a chaos goroutine. -/
lemma woken_returned_step {testRun : Bool} {w w' : World} {e : Event}
    (hi : w.handler = .woken → 0 < w.returned) (h : step testRun w e = some w') :
    w'.handler = .woken → 0 < w'.returned := by
  obtain ⟨-, -, rfl⟩ := step_eq_some.1 h
  cases e <;> simp only [effect]
  case done => exact fun _ => Nat.succ_pos _
  case signal => split_ifs <;> nofun
  all_goals first | exact hi | nofun

/-- Only the panic step leaves the signal goroutine dead: a woken `Wait` on a counter an `Add`
has raised again. -/
lemma step_to_panicked {testRun : Bool} {w w' : World} {e : Event}
    (h : step testRun w e = some w') (hp : w'.handler = .panicked) (hn : w.handler ≠ .panicked) :
    w.handler = .woken ∧ w.counter ≠ 0 := by
  obtain ⟨-, hg, rfl⟩ := step_eq_some.1 h
  cases e <;> simp only [enabled, Bool.and_eq_true, beq_iff_eq, bne_iff_ne, ne_eq] at hg <;>
    simp only [effect] at hp
  case waitPanic => exact hg
  case done => split_ifs at hp; exact absurd hp hn
  case signal => split_ifs at hp
  all_goals simp_all

/-- The one tick of a test run: a woken `Wait` finds the counter at zero. -/
lemma counter_zero_of_woken {w : World} (hc : CounterInv w) (hd : DispatchInv w)
    (hf : w.fired ≤ 1) (hr : w.handler = .woken → 0 < w.returned) (hw : w.handler = .woken) :
    w.counter = 0 := by
  have := hr hw
  have := w.loop.afterAdd_le_holding
  simp only [CounterInv, DispatchInv] at hc hd
  omega

/-- In a test run `Wait` never panics: the one chaos goroutine is started before the `Done`
that wakes `Wait`, so the counter stays at zero until `Wait` returns. -/
theorem testRun_wait_never_panics {w : World} (hw : Reachable true w) :
    w.handler ≠ .panicked ∧ (w.handler = .woken → w.counter = 0) := by
  have h := reachable_induction (fun w => CounterInv w ∧ DispatchInv w ∧ w.fired ≤ 1 ∧
      (w.handler = .woken → 0 < w.returned) ∧ w.handler ≠ .panicked)
    ⟨⟨Nat.le_refl 0, rfl⟩, rfl, Nat.zero_le 1, nofun, nofun⟩
    (fun w _ _ ⟨hc, hd, hf, hr, hp⟩ h => ⟨counterInv_step hc h, dispatchInv_step hd h,
      fired_le_one_step hf h, woken_returned_step hr h, fun hp' =>
        (step_to_panicked h hp' hp).2 (counter_zero_of_woken hc hd hf hr
          (step_to_panicked h hp' hp).1)⟩) hw
  obtain ⟨hc, hd, hf, hr, hp⟩ := h
  exact ⟨hp, counter_zero_of_woken hc hd hf hr⟩

theorem testRun_wait_never_panics_woken :
    Reachable true ⟨.waiting, 1, true, .receiving, 0, 1, 1, .woken⟩ ∧
      (HandlerPc.woken ≠ .panicked ∧ (HandlerPc.woken = .woken → 0 = 0)) :=
  ⟨⟨[.tick, .send, .close, .add, .spawn, .signal, .done], by decide⟩,
    @testRun_wait_never_panics ⟨.waiting, 1, true, .receiving, 0, 1, 1, .woken⟩
      ⟨[.tick, .send, .close, .add, .spawn, .signal, .done], by decide⟩⟩

end TestRun

/-- `dc` is never used once closed: in every interleaving of either mode the timer sends on
`dc` and closes it only while it is open, so neither a send on the closed channel nor a second
`close(dc)`, each of which panics, can happen. -/
theorem dc_open_at_send_and_close {testRun : Bool} {w w' : World} {e : Event}
    (hw : Reachable testRun w) (he : e = .send ∨ e = .close) (h : step testRun w e = some w') :
    w.closed = false := by
  cases testRun
  · exact (recurringInv_of_reachable hw).1
  · have hc := (timerInv_of_reachable hw).1
    obtain ⟨-, hg, -⟩ := step_eq_some.1 h
    rcases he with rfl | rfl <;> simp only [enabled, Bool.and_eq_true, beq_iff_eq] at hg <;>
      cases hcl : w.closed <;> simp_all

theorem dc_open_at_send_and_close_first_send :
    Reachable true ⟨.sending, 1, false, .receiving, 0, 0, 0, .waitingSignal⟩ ∧
      step true ⟨.sending, 1, false, .receiving, 0, 0, 0, .waitingSignal⟩ .send =
        some ⟨.closing, 1, false, .adding, 0, 0, 0, .waitingSignal⟩ ∧ false = false :=
  ⟨⟨[.tick], by decide⟩, by decide,
    @dc_open_at_send_and_close true ⟨.sending, 1, false, .receiving, 0, 0, 0, .waitingSignal⟩
      ⟨.closing, 1, false, .adding, 0, 0, 0, .waitingSignal⟩ .send ⟨[.tick], by decide⟩
      (.inl rfl) (by decide)⟩

section Progress

/-- One once the dispatch loop has returned. -/
def LoopPc.ended : LoopPc → Nat
  | .returned => 1
  | _ => 0

/-- The steps the signal goroutine has taken; the wake-up by the last `Done` is a step of the
chaos goroutine. -/
def HandlerPc.rank : HandlerPc → Nat
  | .waitingSignal => 0
  | .blocked => 1
  | .woken => 1
  | .exiting => 2
  | .exited => 3
  | .panicked => 3

lemma HandlerPc.rank_le_two {p : HandlerPc} (hp : p ≠ .exited) (hp' : p ≠ .panicked) :
    p.rank ≤ 2 := by
  cases p <;> simp_all [HandlerPc.rank]

/-- Waking a blocked `Wait` is no step of the signal goroutine. -/
@[simp] lemma HandlerPc.rank_wake (w : World) :
    (if w.handler = .blocked ∧ w.counter = 1 then HandlerPc.woken else w.handler).rank =
      w.handler.rank := by
  split_ifs with h
  · rw [h.1]; rfl
  · rfl

/-- The steps taken so far, read off the state: the ticks, the commands sent on `dc` (the
goroutines started and the command the loop holds), the close of `dc`, the `gWG.Add(1)` calls,
the chaos goroutines started and returned, the return of the loop, and the steps of the signal
goroutine. -/
def World.progress (w : World) : Nat :=
  w.fired + (w.spawned + w.loop.holding) + w.closed.toNat + (w.spawned + w.loop.afterAdd) +
    w.spawned + w.returned + w.loop.ended + w.handler.rank

/-- Every step adds at least one to the progress, unless it closes `dc` a second time. -/
lemma progress_step {testRun : Bool} {w w' : World} {e : Event}
    (hc : w.timer = .closing → w.closed = false) (h : step testRun w e = some w') :
    w.progress + 1 ≤ w'.progress := by
  obtain ⟨-, hg, rfl⟩ := step_eq_some.1 h
  cases e
  case close =>
    simp only [enabled, beq_iff_eq] at hg
    simp only [World.progress, effect, hc hg, Bool.toNat_true, Bool.toNat_false]
    omega
  case signal =>
    simp only [enabled, beq_iff_eq] at hg
    simp only [World.progress, effect, hg]
    split_ifs <;> simp only [HandlerPc.rank] <;> omega
  case done =>
    simp only [World.progress, effect, HandlerPc.rank_wake]
    omega
  all_goals
    simp only [enabled, Bool.and_eq_true, beq_iff_eq, decide_eq_true_eq] at hg
    simp only [World.progress, effect, hg, LoopPc.holding, LoopPc.afterAdd, LoopPc.ended,
      HandlerPc.rank]
    omega

/-- Along a test run the progress grows at least by the length of the trace. -/
lemma progress_run : ∀ {w w' : World} {es : List Event}, TimerInv w →
    run true w es = some w' → w.progress + es.length ≤ w'.progress
  | _, _, [], _, h => by cases h; exact Nat.le_refl _
  | _, _, _ :: _, hi, h => by
    obtain ⟨w1, h1, h⟩ := Option.bind_eq_some.1 h
    have := progress_run (timerInv_step hi h1) h
    have := progress_step hi.open_of_closing h1
    rw [List.length_cons]
    omega

lemma HandlerPc.rank_le_three (p : HandlerPc) : p.rank ≤ 3 := by
  cases p <;> decide

/-- The return of the loop, `os.Exit` and the panic of `Wait` exclude each other: the first of
them halts the process. -/
lemma ended_add_rank_step {testRun : Bool} {w w' : World} {e : Event}
    (h : step testRun w e = some w') : w'.loop.ended + w'.handler.rank ≤ 3 := by
  obtain ⟨hh, hg, rfl⟩ := step_eq_some.1 h
  simp only [World.halted, decide_eq_false_iff_not, not_or] at hh
  have hr := HandlerPc.rank_le_two hh.1 hh.2.1
  have he : w.loop.ended = 0 := by cases hl : w.loop <;> simp_all [LoopPc.ended]
  have h3 := (effect testRun w e).handler.rank_le_three
  cases e <;> simp only [effect, LoopPc.ended] at h3 he ⊢ <;> omega

/-- Until a test run has halted, some goroutine other than the signal goroutine can move. -/
lemma testRun_can_step {w : World} (hi : TimerInv w) (hh : w.halted = false) :
    ∃ e, e ≠ .signal ∧ ∃ w', step true w e = some w' := by
  have go : ∀ e, e ≠ .signal → enabled true w e = true →
      ∃ e, e ≠ .signal ∧ ∃ w', step true w e = some w' :=
    fun e he hg => ⟨e, he, _, step_eq_some.2 ⟨hh, hg, rfl⟩⟩
  cases hl : w.loop
  case receiving =>
    cases ht : w.timer
    case waiting =>
      by_cases hf : w.fired = 0
      · exact go .tick nofun (by simp [enabled, ht, hf])
      · exact go .endLoop nofun (by simp [enabled, hl, hi.1.2 ⟨ht, Nat.pos_of_ne_zero hf⟩])
    case sending => exact go .send nofun (by simp [enabled, ht, hl])
    case closing => exact go .close nofun (by simp [enabled, ht])
  case adding => exact go .add nofun (by simp [enabled, hl])
  case spawning => exact go .spawn nofun (by simp [enabled, hl])
  case returned => simp [World.halted, hl] at hh

end Progress

/-- A test run ends on its own: every interleaving takes at most nine steps, and until the
process has halted some goroutine other than the signal goroutine can move, so no interleaving
blocks before `main` returns or `os.Exit` runs. -/
theorem testRun_halts_within_nine_steps {trace : List Event} {w : World}
    (h : run true init trace = some w) :
    trace.length ≤ 9 ∧ (w.halted = false → ∃ e, e ≠ .signal ∧ ∃ w', step true w e = some w') := by
  have hw : Reachable true w := ⟨trace, h⟩
  refine ⟨?_, testRun_can_step (timerInv_of_reachable hw)⟩
  have hp := progress_run ⟨by decide, by decide⟩ h
  rw [show init.progress = 0 from rfl, Nat.zero_add] at hp
  have hf := fired_le_one_of_reachable hw
  have hd := dispatchInv_of_reachable hw
  have hr := (counterInv_of_reachable hw).1
  have hx := reachable_induction (fun w => w.loop.ended + w.handler.rank ≤ 3) (Nat.zero_le 3)
    (fun _ _ _ _ => ended_add_rank_step) hw
  have := w.loop.afterAdd_le_holding
  have := w.closed.toNat_le
  simp only [World.progress, DispatchInv] at hp hd
  omega

theorem testRun_halts_within_nine_steps_after_exit :
    run true init [.tick, .send, .close, .add, .spawn, .signal, .done, .waitReturn, .exit] =
        some ⟨.waiting, 1, true, .receiving, 0, 1, 1, .exited⟩ ∧
      ([.tick, .send, .close, .add, .spawn, .signal, .done, .waitReturn, .exit] :
        List Event).length ≤ 9 ∧
      ((⟨.waiting, 1, true, .receiving, 0, 1, 1, .exited⟩ : World).halted = false →
        ∃ e, e ≠ .signal ∧
          ∃ w', step true ⟨.waiting, 1, true, .receiving, 0, 1, 1, .exited⟩ e = some w') :=
  ⟨by decide, testRun_halts_within_nine_steps (by decide)⟩

end Pumba.Main
