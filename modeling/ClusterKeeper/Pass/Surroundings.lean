import ClusterKeeper.Cartridge.Admin
import ClusterKeeper.Event
import ClusterKeeper.Program
import ClusterKeeper.Store

/-!
The surroundings of a pass: the store of objects, the instances of the topology, the record of events
and the log. A pass touches nothing else, and touches these only through the requests listed here.
-/

namespace ClusterKeeper

/-- What a pass asks of its surroundings. -/
inductive Request where
  | store (q : StoreRequest)
  | admin (q : AdminRequest)
  | record (about : ObjectReference) (event : Event)
  | log (level : LogLevel) (message : String)

/-- What a request is answered with. -/
@[reducible] def Request.Answer : Request → Type
  | store q => Except OperatorError q.Result
  | admin q => Except AdminError q.Result
  | record .. | log .. => Unit

/-- The surroundings of a pass. -/
@[reducible] def Surroundings : Interface := ⟨Request, Request.Answer⟩

/-- A part of a pass that cannot fail. -/
abbrev Act := Program Surroundings

/-- A part of a pass that may fail. -/
abbrev Attempt := ExceptT OperatorError Act

namespace Act

/-- Writes a line to the log. -/
def log (level : LogLevel) (message : String) : Act Unit :=
  Program.question (I := Surroundings) (.log level message)

/-- Records an event about an object. -/
def record (about : ObjectReference) (event : Event) : Act Unit :=
  Program.question (I := Surroundings) (.record about event)

/-- Asks something of an instance. -/
def admin (q : AdminRequest) : ExceptT AdminError Act q.Result :=
  ExceptT.mk (Program.question (I := Surroundings) (.admin q))

end Act

namespace Attempt

/-- Asks something of the store. -/
def store (q : StoreRequest) : Attempt q.Result :=
  ExceptT.mk (Program.question (I := Surroundings) (.store q))

/-- The object of a name in a namespace, if there is one. -/
def get (kind : Kind) (ns name : String) : Attempt (Option kind.Object) := store (.get kind ns name)

/-- The objects in a namespace whose labels match a selector. -/
def list (kind : Kind) (ns : String) (selector : Labels) : Attempt (List kind.Object) :=
  store (.list kind ns selector)

/-- Creates an object. -/
def create (kind : Kind) (o : kind.Object) : Attempt kind.Object := store (.create kind o)

/-- Replaces an object. -/
def replace (kind : Kind) (o : kind.Object) : Attempt kind.Object := store (.replace kind o)

/-- Replaces the status of an object. -/
def replaceStatus (kind : Kind) (o : kind.Object) : Attempt kind.Object :=
  store (.replaceStatus kind o)

/-- Asks something of an instance, whose failure is the failure of the attempt. -/
def admin (q : AdminRequest) : Attempt q.Result :=
  ExceptT.mk do return (← (Act.admin q).run).mapError OperatorError.admin

/-- Writes a line to the log. -/
def log (level : LogLevel) (message : String) : Attempt Unit := ExceptT.lift (Act.log level message)

/-- Records an event about an object. -/
def record (about : ObjectReference) (event : Event) : Attempt Unit :=
  ExceptT.lift (Act.record about event)

end Attempt

end ClusterKeeper
