import ClusterKeeper.Proofs.Program.Play
import ClusterKeeper.Proofs.Simulation.Stage
import ClusterKeeper.Simulation.World

/-!
Surroundings in memory that have no rules. They answer as a stage does, a store and a topology where
nobody else acts: a run there ends as the program's play on the stage ends, and its record tells what was
asked (`World.run_mirrors`).
-/

namespace ClusterKeeper.Simulation

/-- What the record of a step keeps of a request. -/
def traced? : Request → Option Traced
  | .store q => if q.isWrite then some (.store (storeCall q) (storeSubject q)) else none
  | .admin q => some (.admin q)
  | .record .. | .log .. => none

/-- The event that a request publishes. -/
def event? : Request → Option (ObjectReference × Event)
  | .record about event => some (about, event)
  | .store _ | .admin _ | .log .. => none

/-- The line that a request writes to the log. -/
def line? : Request → Option (LogLevel × String)
  | .log level message => some (level, message)
  | .store _ | .admin _ | .record .. => none

namespace World

/-- A world without rules holds what a stage holds, and its record is that of some turns. -/
structure Mirrors (w : World) (t : Talk Surroundings) (s : Stage Topology) : Prop where
  unruled : w.rules = []
  objects : w.objects = s.objects
  topology : w.topology = s.topology
  trace : w.trace = t.filterMap (traced? ·.ask)
  events : w.events = t.filterMap (event? ·.ask)
  lines : w.lines = t.filterMap (line? ·.ask)

variable {w : World} {t : Talk Surroundings} {s : Stage Topology}

/-- A stage mirrors a world without rules, before anything is asked. -/
theorem mirrors_forget (hrules : w.rules = []) (hkept : w.objects.Kept) :
    w.forget.Mirrors [] ⟨w.objects, hkept, w.topology⟩ :=
  ⟨hrules, rfl, rfl, rfl, rfl, rfl⟩

/-- Without rules nothing happens before a request. -/
theorem ruled_of_unruled (h : w.rules = []) (call subject : String) : w.ruled call subject = (none, w) := by
  obtain ⟨objects, topology, rules, trace, events, lines⟩ := w
  subst h
  rfl

theorem answerStore_of_unruled (h : w.rules = []) (q : StoreRequest) :
    w.answerStore q = ((w.objects.answer q).1,
      { w with
        objects := (w.objects.answer q).2
        trace := (traced? (.store q)).toList ++ w.trace }) := by
  cases hwrite : q.isWrite <;> simp [answerStore, traced?, hwrite, ruled_of_unruled, h]

theorem answerAdmin_of_unruled (h : w.rules = []) (q : AdminRequest) :
    w.answerAdmin q = ((w.topology.answer q).1,
      { w with topology := (w.topology.answer q).2, trace := .admin q :: w.trace }) := by
  simp [answerAdmin, ruled_of_unruled, h]

/-- A world answers as the stage that it mirrors, and mirrors it again. -/
theorem answer_mirrors (h : w.Mirrors t s) (q : Request) :
    (World.answer q w).1 = (s.respond Topology.answer q).1 ∧
      (World.answer q w).2.Mirrors (⟨q, (s.respond Topology.answer q).1⟩ :: t)
        (s.respond Topology.answer q).2 := by
  cases q with
  | store q =>
    show (w.answerStore q).1 = _ ∧ (w.answerStore q).2.Mirrors _ _
    rw [answerStore_of_unruled h.unruled, h.objects]
    refine ⟨rfl, h.unruled, rfl, h.topology, ?_, h.events, h.lines⟩
    show (traced? (.store q)).toList ++ w.trace = (_ :: t).filterMap _
    rw [h.trace]
    cases htraced : traced? (.store q) <;> simp [htraced]
  | admin q =>
    show (w.answerAdmin q).1 = _ ∧ (w.answerAdmin q).2.Mirrors _ _
    rw [answerAdmin_of_unruled h.unruled, h.topology]
    exact ⟨rfl, h.unruled, h.objects, rfl, congrArg (List.cons _) h.trace, h.events, h.lines⟩
  | record about event =>
    exact ⟨rfl, h.unruled, h.objects, h.topology, h.trace, congrArg (List.cons _) h.events, h.lines⟩
  | log level message =>
    exact ⟨rfl, h.unruled, h.objects, h.topology, h.trace, h.events, congrArg (List.cons _) h.lines⟩

/-- A program comes to the same end in a world and on the stage that it mirrors. -/
theorem run_mirrors {α : Type} (h : w.Mirrors t s) (p : Act α) :
    (w.run p).1 = (p.play (Stage.respond Topology.answer) t s).result ∧
      (w.run p).2.Mirrors (p.play (Stage.respond Topology.answer) t s).talk
        (p.play (Stage.respond Topology.answer) t s).state := by
  induction p generalizing w t s with
  | done a => exact ⟨rfl, h⟩
  | ask q next ih =>
    obtain ⟨hanswer, hmirrors⟩ := answer_mirrors h q
    have hrun : w.run (.ask q next) = (World.answer q w).2.run (next (World.answer q w).1) := rfl
    rw [hrun, hanswer]
    exact ih _ hmirrors

end World

end ClusterKeeper.Simulation
