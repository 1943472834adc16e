/-
Amending deployments. Containers and volumes are matched by name, and live ones that are not desired
are kept. Replicas are owned only when they are desired, so that an autoscaler can set them.
-/
import HubSearch.Amend.Basic
import HubSearch.Object.Deployment

namespace HubSearch

/-! ## Containers -/

namespace Container

/-- Whether a live container agrees with the desired one of its name on what is owned. -/
def agrees (live want : Container) : Bool :=
  live.image = want.image &&
    want.imagePullPolicy.all (fun p => live.imagePullPolicy = some p) &&
    live.command.getD [] = want.command.getD [] &&
    live.args.getD [] = want.args.getD [] &&
    live.env.getD [] = want.env.getD [] &&
    live.resources = want.resources &&
    sameSet live.volumeMounts want.volumeMounts

/-- A live container with the owned fields as desired. -/
def amended (live want : Container) : Container :=
  { live with
    image := want.image
    imagePullPolicy := want.imagePullPolicy.or live.imagePullPolicy
    command := want.command
    args := want.args
    env := want.env
    resources := want.resources
    volumeMounts := want.volumeMounts }

/-- Amend the first container of the desired one's name, or add it at the end. -/
def place (want : Container) : List Container → List Container
  | [] => [want]
  | c :: rest => if c.name = want.name then c.amended want :: rest else c :: place want rest

end Container

/-! ## Volumes -/

namespace Volume

/-- Put a volume in the place of the first one of its name, or at the end. -/
def place (want : Volume) : List Volume → List Volume
  | [] => [want]
  | v :: rest => if v.name = want.name then want :: rest else v :: place want rest

end Volume

/-! ## Pods -/

namespace PodSpec

/-- Whether a live pod agrees with a desired one on what is owned. -/
def agrees (live want : PodSpec) : Bool :=
  want.containers.all (fun w => (live.containers.find? (·.name = w.name)).any (·.agrees w)) &&
    want.serviceAccountName.all (fun n => live.serviceAccountName = some n) &&
    nonEmpty live.nodeSelector = nonEmpty want.nodeSelector &&
    sameSet live.tolerations want.tolerations &&
    sameSet live.imagePullSecrets want.imagePullSecrets &&
    (want.volumes.getD []).all (fun w => (live.volumes.getD []).find? (·.name = w.name) = some w)

/-- A live pod with the owned fields as desired. -/
def amended (live want : PodSpec) : PodSpec :=
  { live with
    containers := want.containers.foldl (fun cs w => w.place cs) live.containers
    serviceAccountName := want.serviceAccountName.or live.serviceAccountName
    nodeSelector := want.nodeSelector
    tolerations := want.tolerations
    imagePullSecrets := want.imagePullSecrets
    volumes := match want.volumes.getD [] with
      | [] => live.volumes
      | ws => some (ws.foldl (fun vs w => w.place vs) (live.volumes.getD [])) }

end PodSpec

/-! ## Deployments -/

/-- The desired replicas that a live deployment does not have. -/
def DeploymentSpec.changedReplicas (live : Option DeploymentSpec) (want : DeploymentSpec) : Option Int32 :=
  want.replicas.filter fun r => live.bind (·.replicas) ≠ some r

/-- The desired pod when the live one does not agree with it. -/
def DeploymentSpec.changedPod (live : Option DeploymentSpec) (want : DeploymentSpec) : Option PodSpec :=
  want.template.spec.filter fun w => !(live.bind (·.template.spec)).any (·.agrees w)

/-- The live deployment with the desired replicas and pod. -/
def Deployment.amend (live desired : Deployment) : Option Deployment :=
  match desired.spec with
  | none => none
  | some want =>
    let replicas := want.changedReplicas live.spec
    let pod := want.changedPod live.spec
    if replicas = none ∧ pod = none then none
    else
      let spec := live.spec.getD {}
      some { live with
        spec := some { spec with
          replicas := replicas.or spec.replicas
          template := match pod with
            | none => spec.template
            | some w => { spec.template with spec := some ((spec.template.spec.getD {}).amended w) } } }

end HubSearch
