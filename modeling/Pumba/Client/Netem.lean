import Pumba.Client.StopContainer
import Pumba.Go.Regexp

/-! Network emulation inside a container: `tc` command lines run through an exec session,
split into an argument vector on single spaces. -/
namespace Pumba.Client

open Pumba.Go DockerM

/-- `(dockerClient).execOnContainer`: create an exec session for the space-split command line
and start it. -/
def execOnContainer (c : Container) (execCmd : String) (privileged : Bool) :
    DockerM (Option String) := do
  match ← ApiClient.containerExecCreate c.id ⟨privileged, split execCmd ' '⟩ with
  | .error err => pure (some err)
  | .ok exec => ApiClient.containerExecStart exec

/-- `(dockerClient).startNetemContainer`. -/
def startNetemContainer (c : Container) (netInterface netemCmd : String) (dryrun : Bool) :
    DockerM (Option String) :=
  if dryrun then pure none
  else execOnContainer c ("tc qdisc add dev " ++ netInterface ++ " root netem " ++ toLower netemCmd) true

/-- `(dockerClient).stopNetemContainer`. -/
def stopNetemContainer (c : Container) (netInterface : String) (dryrun : Bool) :
    DockerM (Option String) :=
  if dryrun then pure none
  else execOnContainer c ("tc qdisc del dev " ++ netInterface ++ " root netem") true

/-- `(dockerClient).startNetemContainerIPFilter`: a priority queue, netem on its third band,
and a filter sending the target's traffic there. -/
def startNetemContainerIPFilter (c : Container) (netInterface netemCmd targetIP : String)
    (dryrun : Bool) : DockerM (Option String) :=
  if dryrun then pure none
  else
    seqErr (execOnContainer c ("tc qdisc add dev " ++ netInterface ++ " root handle 1: prio") true) <|
    seqErr (execOnContainer c
      ("tc qdisc add dev " ++ netInterface ++ " parent 1:3 netem " ++ toLower netemCmd) true) <|
    execOnContainer c ("tc filter add dev " ++ netInterface ++ " protocol ip parent 1:0 prio 3 " ++
      "u32 match ip dport " ++ toLower targetIP ++ " flowid 1:3") true

/-- The setup of `(dockerClient).NetemContainer`: unfiltered for a nil `targetIP`, else
filtered by it. -/
def startNetem (c : Container) (netInterface netemCmd : String) (targetIP : Option IP)
    (dryrun : Bool) : DockerM (Option String) :=
  match targetIP with
  | none => startNetemContainer c netInterface netemCmd dryrun
  | some ip => startNetemContainerIPFilter c netInterface netemCmd ip.string dryrun

/-- `(dockerClient).NetemContainer`: set up, sleep for `duration`, tear down. -/
def netemContainer (c : Container) (netInterface netemCmd : String) (targetIP : Option IP)
    (duration : Int) (dryrun : Bool) : DockerM (Option String) :=
  seqErr (startNetem c netInterface netemCmd targetIP dryrun) do
    timeSleep duration
    stopNetemContainer c netInterface dryrun

/-- The argument vectors handed to `ContainerExecCreate`, in order. -/
def execArgvs (log : List Call) : List (List String) :=
  log.filterMap fun
    | .containerExecCreate _ config => some config.cmd
    | _ => none

/-- The `tc` argument vectors of one netem disruption on interface `i` with netem spec `s`:
the setup, unfiltered or filtered by `ip`, then the teardown. -/
def netemArgvs (i s : String) : Option IP → List (List String)
  | none =>
    [["tc", "qdisc", "add", "dev", i, "root", "netem"] ++ split (toLower s) ' ',
      ["tc", "qdisc", "del", "dev", i, "root", "netem"]]
  | some ip =>
    [["tc", "qdisc", "add", "dev", i, "root", "handle", "1:", "prio"],
      ["tc", "qdisc", "add", "dev", i, "parent", "1:3", "netem"] ++ split (toLower s) ' ',
      ["tc", "filter", "add", "dev", i, "protocol", "ip", "parent", "1:0", "prio", "3", "u32",
        "match", "ip", "dport", toLower ip.string, "flowid", "1:3"],
      ["tc", "qdisc", "del", "dev", i, "root", "netem"]]

/-- From any log, `x` hands `ContainerExecCreate` a prefix of `T`, and all of `T` when it
returns `nil`. -/
def ExecsPrefix (api : DockerApi) (x : DockerM (Option String)) (T : List (List String)) : Prop :=
  ∀ log, ∃ n ≤ T.length, execArgvs (x api log).2 = execArgvs log ++ T.take n ∧
    ((x api log).1 = none → n = T.length)

section ExecsPrefix

variable {api : DockerApi}

lemma execsPrefix_pure_none : ExecsPrefix api (pure none) [] :=
  fun log => ⟨0, le_rfl, by simp, fun _ => rfl⟩

lemma execArgvs_execOnContainer (c : Container) (cmd : String) (p : Bool) (log : List Call) :
    execArgvs (execOnContainer c cmd p api log).2 = execArgvs log ++ [split cmd ' '] := by
  simp only [execOnContainer, bind_apply, ApiClient.containerExecCreate, call_apply]
  cases api.containerExecCreate log c.id ⟨p, split cmd ' '⟩ <;>
    simp [ApiClient.containerExecStart, execArgvs]

lemma execsPrefix_execOnContainer (c : Container) (cmd : String) (p : Bool) :
    ExecsPrefix api (execOnContainer c cmd p) [split cmd ' '] :=
  fun log => ⟨1, le_rfl, execArgvs_execOnContainer c cmd p log, fun _ => rfl⟩

lemma execsPrefix_seqErr {x k : DockerM (Option String)} {T U : List (List String)}
    (hx : ExecsPrefix api x T) (hk : ExecsPrefix api k U) :
    ExecsPrefix api (seqErr x k) (T ++ U) := by
  intro log
  obtain ⟨n, hn, hxa, hxs⟩ := hx log
  rw [seqErr_apply]
  cases hr : (x api log).1 with
  | some err =>
    refine ⟨n, by simp; omega, ?_, fun h => nomatch h⟩
    rw [hxa, List.take_append_of_le_length hn]
  | none =>
    obtain ⟨m, hm, hka, hks⟩ := hk (x api log).2
    have hnT := hxs hr
    refine ⟨T.length + m, by simp; omega, ?_, fun h => by simp [hks h]⟩
    rw [hka, hxa, hnT, List.take_length, List.take_append, List.append_assoc]

lemma execsPrefix_sleep_then {k : DockerM (Option String)} {U : List (List String)} (d : Int)
    (hk : ExecsPrefix api k U) : ExecsPrefix api (do timeSleep d; k) U := by
  intro log
  obtain ⟨m, hm, hka, hks⟩ := hk (log ++ [.sleep d])
  exact ⟨m, hm, by simpa [timeSleep, execArgvs] using hka, by simpa [timeSleep] using hks⟩

end ExecsPrefix

lemma split_tc {cmd x : String} {ws : List String} (h : cmd = unwords ws ++ x)
    (hws : ∀ w ∈ ws, ' ' ∉ w.data) : split cmd ' ' = ws ++ split x ' ' := by
  rw [h, split_unwords_append x hws]

section Templates

variable {api : DockerApi} {i : String} (c : Container) (hi : ' ' ∉ i.data)
include hi

lemma execsPrefix_startNetemContainer (s : String) :
    ExecsPrefix api (startNetemContainer c i s false)
      [["tc", "qdisc", "add", "dev", i, "root", "netem"] ++ split (toLower s) ' '] := by
  have h : split ("tc qdisc add dev " ++ i ++ " root netem " ++ toLower s) ' ' =
      ["tc", "qdisc", "add", "dev", i, "root", "netem"] ++ split (toLower s) ' ' :=
    split_tc (by simp only [unwords, String.ext_iff, String.data_append, List.append_assoc]; rfl)
      (by simp [hi])
  rw [← h]
  exact execsPrefix_execOnContainer c _ true

lemma execsPrefix_stopNetemContainer (d : Int) :
    ExecsPrefix api (do timeSleep d; stopNetemContainer c i false)
      [["tc", "qdisc", "del", "dev", i, "root", "netem"]] := by
  have h : split ("tc qdisc del dev " ++ i ++ " root netem") ' ' =
      ["tc", "qdisc", "del", "dev", i, "root", "netem"] :=
    @split_tc _ "netem" ["tc", "qdisc", "del", "dev", i, "root"]
      (by simp only [unwords, String.ext_iff, String.data_append, List.append_assoc]; rfl)
      (by simp [hi])
  rw [← h]
  exact execsPrefix_sleep_then d (execsPrefix_execOnContainer c _ true)

lemma execsPrefix_startNetemContainerIPFilter (s : String) (ip : IP) :
    ExecsPrefix api (startNetemContainerIPFilter c i s ip.string false)
      [["tc", "qdisc", "add", "dev", i, "root", "handle", "1:", "prio"],
        ["tc", "qdisc", "add", "dev", i, "parent", "1:3", "netem"] ++ split (toLower s) ' ',
        ["tc", "filter", "add", "dev", i, "protocol", "ip", "parent", "1:0", "prio", "3", "u32",
          "match", "ip", "dport", toLower ip.string, "flowid", "1:3"]] := by
  have hx := toLower_space_not_mem (IP.string_space_not_mem ip)
  have hprio : split ("tc qdisc add dev " ++ i ++ " root handle 1: prio") ' ' =
      ["tc", "qdisc", "add", "dev", i, "root", "handle", "1:", "prio"] :=
    @split_tc _ "prio" ["tc", "qdisc", "add", "dev", i, "root", "handle", "1:"]
      (by simp only [unwords, String.ext_iff, String.data_append, List.append_assoc]; rfl)
      (by simp [hi])
  have hnetem : split ("tc qdisc add dev " ++ i ++ " parent 1:3 netem " ++ toLower s) ' ' =
      ["tc", "qdisc", "add", "dev", i, "parent", "1:3", "netem"] ++ split (toLower s) ' ' :=
    split_tc (by simp only [unwords, String.ext_iff, String.data_append, List.append_assoc]; rfl)
      (by simp [hi])
  have hfilter : split ("tc filter add dev " ++ i ++ " protocol ip parent 1:0 prio 3 " ++
      "u32 match ip dport " ++ toLower ip.string ++ " flowid 1:3") ' ' =
      ["tc", "filter", "add", "dev", i, "protocol", "ip", "parent", "1:0", "prio", "3", "u32",
        "match", "ip", "dport", toLower ip.string, "flowid", "1:3"] :=
    @split_tc _ "1:3" ["tc", "filter", "add", "dev", i, "protocol", "ip", "parent", "1:0", "prio",
        "3", "u32", "match", "ip", "dport", toLower ip.string, "flowid"]
      (by simp only [unwords, String.ext_iff, String.data_append, List.append_assoc]; rfl)
      (by simp [hi, hx])
  rw [← hprio, ← hnetem, ← hfilter]
  exact execsPrefix_seqErr (execsPrefix_execOnContainer c _ true)
    (execsPrefix_seqErr (execsPrefix_execOnContainer c _ true)
      (execsPrefix_execOnContainer c _ true))

end Templates

/-- For every interface name the check accepts, every netem spec and every target address,
the argument vectors `NetemContainer` hands to `ContainerExecCreate` are, in order, a prefix of
the fixed `tc` templates, in which the interface is the one word after `dev`; all of them when
it returns `nil`. -/
theorem netemContainer_execArgvs {i : String} (hi : reInterface.findString i = i) (s : String)
    (ip : Option IP) (c : Container) (d : Int) (api : DockerApi) (log : List Call) :
    ∃ n, execArgvs (netemContainer c i s ip d false api log).2 =
        execArgvs log ++ (netemArgvs i s ip).take n ∧
      ((netemContainer c i s ip d false api log).1 = none → n = (netemArgvs i s ip).length) := by
  have hsp := space_not_mem_of_findString_eq hi
  have h : ExecsPrefix api (netemContainer c i s ip d false) (netemArgvs i s ip) := by
    cases ip with
    | none =>
      exact execsPrefix_seqErr (execsPrefix_startNetemContainer c hsp s)
        (execsPrefix_stopNetemContainer c hsp d)
    | some ip =>
      exact execsPrefix_seqErr (execsPrefix_startNetemContainerIPFilter c hsp s ip)
        (execsPrefix_stopNetemContainer c hsp d)
  obtain ⟨n, -, h⟩ := h log
  exact ⟨n, h⟩

theorem netemContainer_execArgvs_eth0 :
    reInterface.findString "eth0" = "eth0" ∧
      ∃ n, execArgvs (netemContainer ⟨⟨"abc123", "/foo", "img", true, []⟩, ⟨"img"⟩⟩ "eth0"
          "delay 100ms" none 1000 false (DockerApi.healthy []) []).2 =
        execArgvs [] ++ (netemArgvs "eth0" "delay 100ms" none).take n ∧
      ((netemContainer ⟨⟨"abc123", "/foo", "img", true, []⟩, ⟨"img"⟩⟩ "eth0" "delay 100ms" none
          1000 false (DockerApi.healthy []) []).1 = none →
        n = (netemArgvs "eth0" "delay 100ms" none).length) :=
  ⟨by decide, netemContainer_execArgvs (by decide) _ _ _ _ _ _⟩

/-- The calls that a run of privileged exec sessions on the container `id` appends to `log`:
each session creates an exec on `id` and, when the daemon answers with an exec identifier,
starts exactly that exec; sleeps may come between sessions. -/
inductive Sessions (api : DockerApi) (id : String) : List Call → List Call → Prop
  | nil (log : List Call) : Sessions api id log []
  | failed {log q cmd err} : api.containerExecCreate log id ⟨true, cmd⟩ = .error err →
      Sessions api id (log ++ [.containerExecCreate id ⟨true, cmd⟩]) q →
      Sessions api id log (.containerExecCreate id ⟨true, cmd⟩ :: q)
  | started {log q cmd exec} : api.containerExecCreate log id ⟨true, cmd⟩ = .ok exec →
      Sessions api id (log ++ [.containerExecCreate id ⟨true, cmd⟩, .containerExecStart exec]) q →
      Sessions api id log (.containerExecCreate id ⟨true, cmd⟩ :: .containerExecStart exec :: q)
  | sleep {log q} (d : Int) : Sessions api id (log ++ [.sleep d]) q →
      Sessions api id log (.sleep d :: q)

namespace Sessions

variable {api : DockerApi} {id : String}

lemma append {log q₁ q₂ : List Call} (h₁ : Sessions api id log q₁)
    (h₂ : Sessions api id (log ++ q₁) q₂) : Sessions api id log (q₁ ++ q₂) := by
  induction h₁ with
  | nil => simpa using h₂
  | failed he _ ih => exact .failed he (ih (by simpa using h₂))
  | started he _ ih => exact .started he (ih (by simpa using h₂))
  | sleep d _ ih => exact .sleep d (ih (by simpa using h₂))

end Sessions

/-- From any log, `x` appends only exec sessions on the container `id` and sleeps. -/
def RunsSessions (api : DockerApi) (id : String) (x : DockerM (Option String)) : Prop :=
  ∀ log, ∃ q, (x api log).2 = log ++ q ∧ Sessions api id log q

section RunsSessions

variable {api : DockerApi} {id : String}

lemma runsSessions_execOnContainer (c : Container) (cmd : String) :
    RunsSessions api c.id (execOnContainer c cmd true) := by
  intro log
  cases he : api.containerExecCreate log c.id ⟨true, split cmd ' '⟩ with
  | error err =>
    exact ⟨_, by simp [execOnContainer, ApiClient.containerExecCreate, he], .failed he (.nil _)⟩
  | ok exec =>
    refine ⟨_, ?_, .started he (.nil _)⟩
    simp [execOnContainer, ApiClient.containerExecCreate, ApiClient.containerExecStart, he]

lemma runsSessions_seqErr {x k : DockerM (Option String)} (hx : RunsSessions api id x)
    (hk : RunsSessions api id k) : RunsSessions api id (seqErr x k) := by
  intro log
  obtain ⟨q₁, h₁, s₁⟩ := hx log
  rw [seqErr_apply]
  cases (x api log).1 with
  | some err => exact ⟨q₁, h₁, s₁⟩
  | none =>
    obtain ⟨q₂, h₂, s₂⟩ := hk (x api log).2
    rw [h₁] at h₂ s₂
    refine ⟨q₁ ++ q₂, ?_, s₁.append s₂⟩
    show (k api (x api log).2).2 = _
    rw [h₁, h₂, List.append_assoc]

lemma runsSessions_sleep_then {k : DockerM (Option String)} (d : Int)
    (hk : RunsSessions api id k) : RunsSessions api id (do timeSleep d; k) := by
  intro log
  obtain ⟨q, h, s⟩ := hk (log ++ [.sleep d])
  exact ⟨.sleep d :: q, by simpa [timeSleep] using h, .sleep d s⟩

end RunsSessions

/-- Against every daemon, a non-dry NetemContainer, filtered or not, issues nothing but
privileged exec sessions on its own container and sleeps, and starts
no exec but the one the daemon created for it in the call right before. -/
theorem netemContainer_sessions (c : Container) (i s : String) (ip : Option IP) (d : Int)
    (api : DockerApi) : RunsSessions api c.id (netemContainer c i s ip d false) := by
  have hstop : RunsSessions api c.id (do timeSleep d; stopNetemContainer c i false) :=
    runsSessions_sleep_then d (runsSessions_execOnContainer c _)
  refine runsSessions_seqErr ?_ hstop
  cases ip with
  | none => exact runsSessions_execOnContainer c _
  | some ip =>
    exact runsSessions_seqErr (runsSessions_execOnContainer c _)
      (runsSessions_seqErr (runsSessions_execOnContainer c _) (runsSessions_execOnContainer c _))

end Pumba.Client
