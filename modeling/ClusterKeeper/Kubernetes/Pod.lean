import ClusterKeeper.Kubernetes.Meta

/-!
Pods and the templates they are made from, in the members that matter here, and the state of a pod.
-/

namespace ClusterKeeper

/-- An environment variable. -/
structure EnvVar where
  name : String
  value : Option String
  deriving DecidableEq

instance : Wire EnvVar where
  read j := do
    let ms ← j.members?
    return { name := ← ms.lenient "name" "", value := ← ms.optional "value" }
  write e := .present [.always "name" e.name, .ifSome "value" e.value]

/-- A port of a container. -/
structure ContainerPort where
  name : Option String
  containerPort : Int32
  protocol : Option String
  deriving DecidableEq

instance : Wire ContainerPort where
  read j := do
    let ms ← j.members?
    return {
      name := ← ms.optional "name"
      containerPort := ← ms.lenient "containerPort" 0
      protocol := ← ms.optional "protocol" }
  write p := .present [
    .ifSome "name" p.name,
    .always "containerPort" p.containerPort,
    .ifSome "protocol" p.protocol]

/-- Quantities of resources, by resource. -/
structure ResourceRequirements where
  limits : Option (SortedMap String)
  requests : Option (SortedMap String)
  deriving DecidableEq

instance : Wire ResourceRequirements where
  read j := do
    let ms ← j.members?
    return { limits := ← ms.optional "limits", requests := ← ms.optional "requests" }
  write r := .present [.ifSome "limits" r.limits, .ifSome "requests" r.requests]

/-- A container of a pod. -/
structure Container where
  name : String
  image : Option String
  command : Option (List String)
  args : Option (List String)
  env : Option (List EnvVar)
  ports : Option (List ContainerPort)
  workingDir : Option String
  tty : Option Bool
  stdin : Option Bool
  resources : Option ResourceRequirements
  deriving DecidableEq

instance : Wire Container where
  read j := do
    let ms ← j.members?
    return {
      name := ← ms.lenient "name" ""
      image := ← ms.optional "image"
      command := ← ms.optional "command"
      args := ← ms.optional "args"
      env := ← ms.optional "env"
      ports := ← ms.optional "ports"
      workingDir := ← ms.optional "workingDir"
      tty := ← ms.optional "tty"
      stdin := ← ms.optional "stdin"
      resources := ← ms.optional "resources" }
  write c := .present [
    .always "name" c.name,
    .ifSome "image" c.image,
    .ifSome "command" c.command,
    .ifSome "args" c.args,
    .ifSome "env" c.env,
    .ifSome "ports" c.ports,
    .ifSome "workingDir" c.workingDir,
    .ifSome "tty" c.tty,
    .ifSome "stdin" c.stdin,
    .ifSome "resources" c.resources]

/-- What a pod runs. -/
structure PodSpec where
  containers : List Container
  initContainers : Option (List Container)
  terminationGracePeriodSeconds : Option Int64
  serviceAccountName : Option String
  restartPolicy : Option String
  hostNetwork : Option Bool
  hostname : Option String
  nodeSelector : Option (SortedMap String)
  deriving DecidableEq

instance : Wire PodSpec where
  read j := do
    let ms ← j.members?
    return {
      containers := ← ms.lenient "containers" []
      initContainers := ← ms.optional "initContainers"
      terminationGracePeriodSeconds := ← ms.optional "terminationGracePeriodSeconds"
      serviceAccountName := ← ms.optional "serviceAccountName"
      restartPolicy := ← ms.optional "restartPolicy"
      hostNetwork := ← ms.optional "hostNetwork"
      hostname := ← ms.optional "hostname"
      nodeSelector := ← ms.optional "nodeSelector" }
  write s := .present [
    .always "containers" s.containers,
    .ifSome "initContainers" s.initContainers,
    .ifSome "terminationGracePeriodSeconds" s.terminationGracePeriodSeconds,
    .ifSome "serviceAccountName" s.serviceAccountName,
    .ifSome "restartPolicy" s.restartPolicy,
    .ifSome "hostNetwork" s.hostNetwork,
    .ifSome "hostname" s.hostname,
    .ifSome "nodeSelector" s.nodeSelector]

/-- What pods are made from. -/
structure PodTemplate where
  metadata : Option ObjectMeta
  spec : Option PodSpec
  deriving DecidableEq

namespace PodTemplate

/-- A template that says nothing. -/
def blank : PodTemplate := ⟨none, none⟩

instance : Wire PodTemplate where
  read j := do
    let ms ← j.members?
    return { metadata := ← ms.optional "metadata", spec := ← ms.optional "spec" }
  write t := .present [.ifSome "metadata" t.metadata, .ifSome "spec" t.spec]

/-- The labels of the pods that are made. -/
def podLabels (t : PodTemplate) : Option Labels := t.metadata.bind (·.labels)

/-- The template with other labels for its pods. -/
def withLabels (t : PodTemplate) (labels : Labels) : PodTemplate :=
  { t with metadata := some { t.metadata.getD .blank with labels := some labels } }

end PodTemplate

/-- The state of a container. -/
structure ContainerStatus where
  name : String
  image : String
  imageID : String
  ready : Bool
  restartCount : Int32
  deriving DecidableEq

instance : Wire ContainerStatus where
  read j := do
    let ms ← j.members?
    return {
      name := ← ms.lenient "name" ""
      image := ← ms.lenient "image" ""
      imageID := ← ms.lenient "imageID" ""
      ready := ← ms.lenient "ready" false
      restartCount := ← ms.lenient "restartCount" 0 }
  write s := .present [
    .always "name" s.name,
    .always "image" s.image,
    .always "imageID" s.imageID,
    .always "ready" s.ready,
    .always "restartCount" s.restartCount]

/-- The state of a pod. -/
structure PodStatus where
  phase : Option String
  containerStatuses : Option (List ContainerStatus)
  deriving DecidableEq

instance : Wire PodStatus where
  read j := do
    let ms ← j.members?
    return { phase := ← ms.optional "phase", containerStatuses := ← ms.optional "containerStatuses" }
  write s := .present [.ifSome "phase" s.phase, .ifSome "containerStatuses" s.containerStatuses]

/-- A pod. -/
structure Pod where
  metadata : ObjectMeta
  spec : Option PodSpec
  status : Option PodStatus
  deriving DecidableEq

namespace Pod

instance : KubeObject Pod := ⟨.pod, Pod.metadata, fun m p => { p with metadata := m }⟩

instance : Wire Pod where
  read j := do
    let ms ← Members.ofKind? .pod j
    return {
      metadata := ← ms.lenient "metadata" .blank
      spec := ← ms.optional "spec"
      status := ← ms.optional "status" }
  write p := .present [
    .always "apiVersion" Kind.pod.apiVersion,
    .always "kind" Kind.pod.name,
    .always "metadata" p.metadata,
    .ifSome "spec" p.spec,
    .ifSome "status" p.status]

/-- The name of a pod. -/
def name (p : Pod) : String := p.metadata.nameText

/-- Whether a pod is being deleted. -/
def isDeleting (p : Pod) : Bool := p.metadata.isDeleting

/-- Whether a pod is in the running phase. -/
def isRunning (p : Pod) : Bool := p.status.bind (·.phase) == some "Running"

/-- Whether a pod is running and its first container is ready. -/
def isReady (p : Pod) : Bool :=
  p.isRunning && match p.status.bind (·.containerStatuses) with
    | some (first :: _) => first.ready
    | _ => false

end Pod

end ClusterKeeper
