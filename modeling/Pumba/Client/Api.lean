import Pumba.Go.IP

/-! The client of the Docker daemon (`container.Client`, implemented by `dockerClient`). The
daemon is an arbitrary party: each of its endpoints answers as a function of the calls the
client made before, so any scripted or stateful behaviour is one `DockerApi`. A client method
is a `DockerM` computation that reads those answers and appends its own calls to the log. -/
namespace Pumba.Client

/-- The fields of `dockerclient.ContainerInfo` the client reads: `Id`, `Name`, `Image`,
`State.Running` and `Config.Labels`. -/
structure ContainerInfo where
  id : String
  name : String
  image : String
  running : Bool
  labels : List (String × String)
  deriving DecidableEq, Repr

/-- The field of `dockerclient.ImageInfo` the client reads: `Id`. -/
structure ImageInfo where
  id : String
  deriving DecidableEq, Repr

/-- `container.Container`: the inspection of a running container and of its image. -/
structure Container where
  containerInfo : ContainerInfo
  imageInfo : ImageInfo
  deriving DecidableEq, Repr

namespace Container

/-- Modelled from the spec: `(Container).ID` is in `container.go`, absent from the sources;
it is the inspected container's identifier. -/
def id (c : Container) : String := c.containerInfo.id

/-- Modelled from the spec: `(Container).Name` is in `container.go`, absent from the sources;
it is the inspected container's display name. -/
def name (c : Container) : String := c.containerInfo.name

/-- Modelled from the spec: `(Container).ImageID` is in `container.go`, absent from the
sources; it is the inspected image's identifier. -/
def imageID (c : Container) : String := c.imageInfo.id

/-- Modelled from the spec: `(Container).StopSignal` is in `container.go`, absent from the
sources. The spec's recognized `stop-signal` label, under the key the client's tests set,
names the signal; "" when the label is absent. -/
def stopSignal (c : Container) : String :=
  (c.containerInfo.labels.lookup "com.gaiaadm.pumba.stop-signal").getD ""

end Container

/-- `types.ContainerRemoveOptions`. -/
structure RemoveOptions where
  removeVolumes : Bool
  removeLinks : Bool
  force : Bool
  deriving DecidableEq, Repr

/-- `types.ExecConfig`, the fields the client sets. -/
structure ExecConfig where
  privileged : Bool
  cmd : List String
  deriving DecidableEq, Repr

/-- A call of the client on the daemon, with the arguments it passes, or a `time.Sleep` of
the calling goroutine. -/
inductive Call
  | listContainers (all size : Bool) (filters : String)
  | inspectContainer (id : String)
  | inspectImage (id : String)
  | killContainer (id signal : String)
  | renameContainer (id newName : String)
  | removeImage (id : String) (force : Bool)
  | containerRemove (id : String) (options : RemoveOptions)
  | pauseContainer (id : String)
  | unpauseContainer (id : String)
  | containerExecCreate (id : String) (config : ExecConfig)
  | containerExecStart (execID : String)
  | sleep (duration : Int)
  deriving DecidableEq, Repr

/-- The daemon's answers, each a function of the log of earlier calls and of the arguments.
An error is its message. -/
structure DockerApi where
  listContainers : List Call → Except String (List String)
  inspectContainer : List Call → String → Except String ContainerInfo
  inspectImage : List Call → String → Except String ImageInfo
  killContainer : List Call → String → String → Option String
  renameContainer : List Call → String → String → Option String
  removeImage : List Call → String → Bool → Option String
  containerRemove : List Call → String → RemoveOptions → Option String
  pauseContainer : List Call → String → Option String
  unpauseContainer : List Call → String → Option String
  containerExecCreate : List Call → String → ExecConfig → Except String String
  containerExecStart : List Call → String → Option String

/-- A daemon whose every call succeeds: it runs the containers `ids`, each named after its
identifier and built from one image, and hands out one exec session. -/
def DockerApi.healthy (ids : List String) : DockerApi where
  listContainers _ := .ok ids
  inspectContainer _ id := .ok ⟨id, "/" ++ id, "sha256:0", true, []⟩
  inspectImage _ id := .ok ⟨id⟩
  killContainer _ _ _ := none
  renameContainer _ _ _ := none
  removeImage _ _ _ := none
  containerRemove _ _ _ := none
  pauseContainer _ _ := none
  unpauseContainer _ _ := none
  containerExecCreate _ _ _ := .ok "exec0"
  containerExecStart _ _ := none

/-- A client computation over the log of calls made so far. -/
def DockerM (α : Type) : Type := DockerApi → List Call → α × List Call

instance : Monad DockerM where
  pure a := fun _ log => (a, log)
  bind x f := fun api log => f (x api log).1 api (x api log).2

namespace DockerM

@[simp] lemma pure_apply {α : Type} (a : α) (api : DockerApi) (log : List Call) :
    (pure a : DockerM α) api log = (a, log) := rfl

@[simp] lemma bind_apply {α β : Type} (x : DockerM α) (f : α → DockerM β) (api : DockerApi)
    (log : List Call) : (x >>= f) api log = f (x api log).1 api (x api log).2 := rfl

/-- Issue `c` and read the daemon's answer to it. -/
def call {α : Type} (c : Call) (answer : DockerApi → List Call → α) : DockerM α :=
  fun api log => (answer api log, log ++ [c])

@[simp] lemma call_apply {α : Type} (c : Call) (answer : DockerApi → List Call → α)
    (api : DockerApi) (log : List Call) : call c answer api log = (answer api log, log ++ [c]) :=
  rfl

end DockerM

open DockerM

/-- `time.Sleep`. -/
def timeSleep (d : Int) : DockerM Unit := call (.sleep d) fun _ _ => ()

/-- Go's `if err := x; err != nil { return err }`, then `k`. -/
def seqErr (x : DockerM (Option String)) (k : DockerM (Option String)) : DockerM (Option String) :=
  fun api log =>
    match (x api log).1 with
    | some err => (some err, (x api log).2)
    | none => k api (x api log).2

@[simp] lemma seqErr_apply (x k : DockerM (Option String)) (api : DockerApi) (log : List Call) :
    seqErr x k api log =
      match (x api log).1 with
      | some err => (some err, (x api log).2)
      | none => k api (x api log).2 := rfl

lemma seqErr_assoc (x y k : DockerM (Option String)) :
    seqErr (seqErr x y) k = seqErr x (seqErr y k) := by
  funext api log
  simp only [seqErr_apply]
  cases (x api log).1 <;> rfl

-- The `samalba/dockerclient` endpoints, `client.api` in the source.
namespace Api

def listContainers : DockerM (Except String (List String)) :=
  call (.listContainers false false "") fun api log => api.listContainers log

def inspectContainer (id : String) : DockerM (Except String ContainerInfo) :=
  call (.inspectContainer id) fun api log => api.inspectContainer log id

def inspectImage (id : String) : DockerM (Except String ImageInfo) :=
  call (.inspectImage id) fun api log => api.inspectImage log id

def killContainer (id signal : String) : DockerM (Option String) :=
  call (.killContainer id signal) fun api log => api.killContainer log id signal

def renameContainer (id newName : String) : DockerM (Option String) :=
  call (.renameContainer id newName) fun api log => api.renameContainer log id newName

def removeImage (id : String) (force : Bool) : DockerM (Option String) :=
  call (.removeImage id force) fun api log => api.removeImage log id force

def pauseContainer (id : String) : DockerM (Option String) :=
  call (.pauseContainer id) fun api log => api.pauseContainer log id

def unpauseContainer (id : String) : DockerM (Option String) :=
  call (.unpauseContainer id) fun api log => api.unpauseContainer log id

end Api

-- The `docker/engine-api` endpoints, `client.apiClient` in the source.
namespace ApiClient

def containerRemove (id : String) (options : RemoveOptions) : DockerM (Option String) :=
  call (.containerRemove id options) fun api log => api.containerRemove log id options

def containerExecCreate (id : String) (config : ExecConfig) : DockerM (Except String String) :=
  call (.containerExecCreate id config) fun api log => api.containerExecCreate log id config

def containerExecStart (execID : String) : DockerM (Option String) :=
  call (.containerExecStart execID) fun api log => api.containerExecStart log execID

end ApiClient

def defaultStopSignal : String := "SIGTERM"
def defaultKillSignal : String := "SIGKILL"

/-- `(dockerClient).KillContainer`. -/
def killContainer (c : Container) (signal : String) (dryrun : Bool) : DockerM (Option String) :=
  if dryrun then pure none else seqErr (Api.killContainer c.id signal) (pure none)

/-- `(dockerClient).RenameContainer`. -/
def renameContainer (c : Container) (newName : String) : DockerM (Option String) :=
  Api.renameContainer c.id newName

/-- `(dockerClient).RemoveImage`. -/
def removeImage (c : Container) (force dryrun : Bool) : DockerM (Option String) :=
  if dryrun then pure none else Api.removeImage c.imageID force

/-- `(dockerClient).RemoveContainer`. The source passes `links` as `RemoveVolumes` and
`volumes` as `RemoveLinks`. -/
def removeContainer (c : Container) (force links volumes dryrun : Bool) : DockerM (Option String) :=
  if dryrun then pure none
  else ApiClient.containerRemove c.id { removeVolumes := links, removeLinks := volumes, force := force }

/-- `(dockerClient).PauseContainer`: pause, sleep for `duration`, unpause. -/
def pauseContainer (c : Container) (duration : Int) (dryrun : Bool) : DockerM (Option String) :=
  if dryrun then pure none
  else seqErr (Api.pauseContainer c.id) do
    timeSleep duration
    seqErr (Api.unpauseContainer c.id) (pure none)

end Pumba.Client
