import ClusterKeeper.Event
import ClusterKeeper.Http.Exchange
import ClusterKeeper.Kubernetes.Meta

/-!
The publishing of events. An event that has been published is not published a second time: when it occurs
again, whatever its note says then, the published one is told how often it has occurred. An event that
could not be published is forgotten.
-/

namespace ClusterKeeper

/-- Who events are reported by. -/
structure Reporter where
  controller : String
  /-- The reporting process, when it has a name of its own. -/
  process : Option String

/-- An event that was published, with its note at the time, and how often it has occurred. -/
structure Occurrences where
  about : ObjectReference
  event : Event
  count : Nat
  deriving DecidableEq

namespace Occurrences

/-- What is done about the object of an event. -/
def action : String := "Reconcile"

/-- The namespace of an event about an object that names none. -/
def defaultNamespace : String := "default"

/-- The collection that an event belongs to. -/
def collection (o : Occurrences) : String :=
  "/apis/events.k8s.io/v1/namespaces/" ++ o.about.ns.getD defaultNamespace ++ "/events"

/-- Whether an event about an object is a further occurrence. -/
def Covers (o : Occurrences) (about : ObjectReference) (e : Event) : Prop :=
  o.event.severity = e.severity ∧ o.event.reason = e.reason ∧ o.about = about

instance (o : Occurrences) (about : ObjectReference) (e : Event) : Decidable (o.Covers about e) :=
  inferInstanceAs (Decidable (_ ∧ _))

/-- An event as it is sent. The name and the times, which hang on the clock, are left out. -/
def body (r : Reporter) (o : Occurrences) : Json :=
  .present [
    .always "apiVersion" "events.k8s.io/v1",
    .always "kind" "Event",
    .always "type" o.event.severity.name,
    .always "action" action,
    .always "reason" o.event.reason,
    .always "note" o.event.note,
    .always "regarding" o.about,
    .always "reportingController" r.controller,
    .always "reportingInstance" (r.process.getD r.controller),
    .ifSome "series" (if o.count = 1 then none else some (Json.object [("count", .int o.count)]))]

/-- Whether the server's answer is an event. -/
def isEvent (answer : Json) : Option Unit := do
  let ms ← answer.members?
  ms.fixed "apiVersion" "events.k8s.io/v1"
  ms.fixed "kind" "Event"
  let _ : Option ObjectMeta ← ms.optional "metadata"
  let _ : Option ObjectReference ← ms.optional "regarding"
  let texts := ["action", "eventTime", "note", "reason", "reportingController", "reportingInstance",
    "type"]
  for k in texts do
    let _ : Option String ← ms.optional k

/-- Publishes an event: the first time as a new one, then as a change of the one that there is. The name
of that one hangs on the clock; an asterisk stands for it. -/
def publish (r : Reporter) (o : Occurrences) : Exchange Unit := do
  let answer ←
    if o.count = 1 then Exchange.call .post (Http.Target.text o.collection []) (some (o.body r))
    else Exchange.call .patch (Http.Target.text (o.collection ++ "/*") []) (some (o.body r))
  Exchange.typed isEvent answer

end Occurrences

/-- The events that were published, the latest first. -/
abbrev Published := List Occurrences

namespace Published

/-- An event with how often it has occurred once it occurs now. -/
def next (p : Published) (about : ObjectReference) (e : Event) : Occurrences :=
  match p.find? fun o => decide (o.Covers about e) with
  | some o => { o with count := o.count + 1 }
  | none => ⟨about, e, 1⟩

/-- The published events after one more, which replaces its earlier occurrences. -/
def add (p : Published) (o : Occurrences) : Published :=
  o :: p.filter fun earlier => !decide (earlier.Covers o.about o.event)

/-- Records an event about an object. A failure changes nothing. -/
def record (r : Reporter) (about : ObjectReference) (e : Event) (p : Published) :
    Program ApiServer Published := do
  let o := p.next about e
  match ← (o.publish r).run with
  | .ok () => return p.add o
  | .error _ => return p

end Published

end ClusterKeeper
