import Pumba.Client.Api

/-! `(dockerClient).ListContainers`: list the running containers, inspect each one and its
image, and keep the containers the filter accepts; the first failed inspection ends the
listing with its error. -/
namespace Pumba.Client

open DockerM

/-- The loop over the running containers' identifiers; `cs` holds the accepted ones so far. -/
def listLoop (fn : Container → Bool) : List String → List Container →
    DockerM (Except String (List Container))
  | [], cs => pure (.ok cs)
  | id :: ids, cs => do
    match ← Api.inspectContainer id with
    | .error err => pure (.error err)
    | .ok ci =>
      match ← Api.inspectImage ci.image with
      | .error err => pure (.error err)
      | .ok ii =>
        let c : Container := ⟨ci, ii⟩
        listLoop fn ids (if fn c then cs ++ [c] else cs)

/-- `(dockerClient).ListContainers`, with the filter `fn`. -/
def listContainers (fn : Container → Bool) : DockerM (Except String (List Container)) := do
  match ← Api.listContainers with
  | .error err => pure (.error err)
  | .ok ids => listLoop fn ids []

section Inspections

-- Fixed answers of the two inspection endpoints.
variable (ins : String → Except String ContainerInfo) (img : String → Except String ImageInfo)

/-- What inspecting one running container yields: the container, or the first error,
the container's inspection before its image's. -/
def inspected (id : String) : Except String Container :=
  match ins id with
  | .error err => .error err
  | .ok ci =>
    match img ci.image with
    | .error err => .error err
    | .ok ii => .ok ⟨ci, ii⟩

/-- The calls inspecting one running container makes. -/
def inspectCalls (id : String) : List Call :=
  .inspectContainer id :: match ins id with
    | .ok ci => [.inspectImage ci.image]
    | .error _ => []

variable {ins img} {api : DockerApi}
  (hi : ∀ log id, api.inspectContainer log id = ins id)
  (hm : ∀ log id, api.inspectImage log id = img id)
include hi hm

lemma listLoop_cons_ok {fn : Container → Bool} {id : String} {c : Container}
    (h : inspected ins img id = .ok c) (ids : List String) (cs : List Container) (log : List Call) :
    listLoop fn (id :: ids) cs api log =
      listLoop fn ids (if fn c then cs ++ [c] else cs) api (log ++ inspectCalls ins id) := by
  cases hc : ins id with
  | error e => simp [inspected, hc] at h
  | ok ci =>
    cases hg : img ci.image with
    | error e => simp [inspected, hc, hg] at h
    | ok ii =>
      simp only [inspected, hc, hg] at h
      cases h
      simp [listLoop, Api.inspectContainer, Api.inspectImage, inspectCalls, hi, hm, hc, hg]

lemma listLoop_cons_error {fn : Container → Bool} {id : String} {e : String}
    (h : inspected ins img id = .error e) (ids : List String) (cs : List Container)
    (log : List Call) : listLoop fn (id :: ids) cs api log = (.error e, log ++ inspectCalls ins id) := by
  cases hc : ins id with
  | error e' =>
    simp only [inspected, hc] at h
    cases h
    simp [listLoop, Api.inspectContainer, inspectCalls, hi, hc]
  | ok ci =>
    cases hg : img ci.image with
    | error e' =>
      simp only [inspected, hc, hg] at h
      cases h
      simp [listLoop, Api.inspectContainer, Api.inspectImage, inspectCalls, hi, hm, hc, hg]
    | ok ii => simp [inspected, hc, hg] at h

lemma listLoop_of_mapM_ok (fn : Container → Bool) :
    ∀ (ids : List String) (ds cs : List Container) (log : List Call),
      ids.mapM (inspected ins img) = .ok ds →
      listLoop fn ids cs api log = (.ok (cs ++ ds.filter fn), log ++ ids.flatMap (inspectCalls ins))
  | [], ds, cs, log, h => by
    simp only [List.mapM_nil] at h
    cases h
    simp [listLoop]
  | id :: ids, ds, cs, log, h => by
    rw [List.mapM_cons] at h
    cases hc : inspected ins img id with
    | error e => rw [hc] at h; cases h
    | ok c =>
      cases hr : ids.mapM (inspected ins img) with
      | error e => rw [hc, hr] at h; cases h
      | ok ds' =>
        rw [hc, hr] at h
        cases h
        rw [listLoop_cons_ok hi hm hc, listLoop_of_mapM_ok fn ids ds' _ _ hr]
        split <;> simp [List.filter_cons, *]

lemma listLoop_of_first_error (fn : Container → Bool) {id e : String}
    (hid : inspected ins img id = .error e) (post : List String) :
    ∀ (pre : List String) (ds cs : List Container) (log : List Call),
      pre.mapM (inspected ins img) = .ok ds →
      listLoop fn (pre ++ id :: post) cs api log =
        (.error e, log ++ (pre ++ [id]).flatMap (inspectCalls ins))
  | [], _, cs, log, _ => by simp [listLoop_cons_error hi hm hid]
  | p :: pre, ds, cs, log, h => by
    rw [List.mapM_cons] at h
    cases hc : inspected ins img p with
    | error e' => rw [hc] at h; cases h
    | ok c =>
      cases hr : pre.mapM (inspected ins img) with
      | error e' => rw [hc, hr] at h; cases h
      | ok ds' =>
        rw [List.cons_append, listLoop_cons_ok hi hm hc,
          listLoop_of_first_error fn hid post pre ds' _ _ hr]
        simp

/-- Over every list of running containers and every answer of the two inspections, the
listing returns the accepted containers in the runtime's order when every inspection
succeeds, and otherwise the first failed inspection's error, having inspected no later
container. -/
theorem listContainers_filters_inspected (fn : Container → Bool) (ids : List String)
    (hl : ∀ log, api.listContainers log = .ok ids) (log : List Call) :
    (∀ ds, ids.mapM (inspected ins img) = .ok ds →
      listContainers fn api log =
        (.ok (ds.filter fn), log ++ .listContainers false false "" :: ids.flatMap (inspectCalls ins))) ∧
    (∀ pre id post e, ids = pre ++ id :: post → (∃ ds, pre.mapM (inspected ins img) = .ok ds) →
      inspected ins img id = .error e →
      listContainers fn api log =
        (.error e, log ++ .listContainers false false "" :: (pre ++ [id]).flatMap (inspectCalls ins))) := by
  have hrun : listContainers fn api log =
      listLoop fn ids [] api (log ++ [.listContainers false false ""]) := by
    simp [listContainers, Api.listContainers, hl]
  refine ⟨fun ds h => ?_, fun pre id post e hids ⟨ds, h⟩ hid => ?_⟩
  · rw [hrun, listLoop_of_mapM_ok hi hm fn ids ds [] _ h]
    simp
  · rw [hrun, hids, listLoop_of_first_error hi hm fn hid post pre ds [] _ h]
    simp

end Inspections

theorem listContainers_healthy_web :
    listContainers (fun c => c.name = "/web") (DockerApi.healthy ["web", "db"]) [] =
      (.ok [⟨⟨"web", "/web", "sha256:0", true, []⟩, ⟨"sha256:0"⟩⟩],
        [.listContainers false false "", .inspectContainer "web", .inspectImage "sha256:0",
          .inspectContainer "db", .inspectImage "sha256:0"]) :=
  (@listContainers_filters_inspected (fun id => .ok ⟨id, "/" ++ id, "sha256:0", true, []⟩)
    (fun id => .ok ⟨id⟩) _ (fun _ _ => rfl) (fun _ _ => rfl) _ ["web", "db"] (fun _ => rfl) []).1
    [⟨⟨"web", "/web", "sha256:0", true, []⟩, ⟨"sha256:0"⟩⟩, ⟨⟨"db", "/db", "sha256:0", true, []⟩, ⟨"sha256:0"⟩⟩]
    rfl

section AnyDaemon

end AnyDaemon

end Pumba.Client
