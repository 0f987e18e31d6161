import ClusterKeeper.Proofs.Pass.Engine
import ClusterKeeper.Proofs.Pass.Turns

/-!
How a pass concludes once its status is written. The talk of a pass tells what was said when its steps had
ended and what they left (`Pass.Concludes`): a program takes one course for the answers that it is given.
After that the status is written, and the log is told how the pass ended (`Turn.Closes`).
-/

namespace ClusterKeeper

open Program

/-- The turn writes the status of an object of a kind, or is a line of the log. -/
def Turn.Closes (k : Kind) (e : Turn Surroundings) : Prop :=
  e.Logs ∨ ∃ o : k.Object, e.ask = .store (.replaceStatus k o)

theorem Turn.Closes.skips {k k' : Kind} {e : Turn Surroundings} (h : e.Closes k) : e.Skips k' := by
  intro ns name hget
  rcases h with ⟨level, message, hask⟩ | ⟨o, hask⟩
  · exact Request.noConfusion (hask.symm.trans hget)
  · exact StoreRequest.noConfusion (Request.store.inj (hask.symm.trans hget))

namespace Pass

variable {C α : Type}

/-- A pass runs, its status is written if it is due, and before that its steps ended in a talk and left a
state. -/
structure Concludes [PassState C α] [CustomResource α] (steps : List (Step C)) (c : C)
    (t₁ : Talk Surroundings) (c₁ : C) (t : Talk Surroundings) (r : PassResult) : Prop where
  ran : ∃ c', (run steps c).Goes [] t (r, c')
  walked : ∃ last outcome, (walk steps "" c).Goes [] t₁ (last, outcome, c₁)
  wrote : ∃ t₂ c₂, (persist c₁).run.Goes t₁ t₂ (.ok c₂) ∧ t₂ <:+ t

variable {k : Kind} [PassState C k.Object] [CustomResource k.Object] {steps : List (Step C)} {c c₁ : C}
  {t t₁ t₂ : Talk Surroundings} {r : PassResult} {written : Except OperatorError C}

theorem closes_of_writesStatus (h : WritesStatus k t c t₂ written) : t.Extends (Turn.Closes k) t₂ := by
  cases h with
  | absent _ => exact Talk.extends_refl
  | vanished _ _ => exact Talk.extends_refl
  | @written o stored _ _ => exact Talk.extends_refl.cons (Or.inr ⟨o, rfl⟩)
  | @refused o e _ _ => exact Talk.extends_refl.cons (Or.inr ⟨o, rfl⟩)

/-- What follows is what the steps said, and nothing is done after them but that the status is written. -/
theorem Concludes.verdict (hwrite : ∀ o : k.Object, CustomResource.replaceStatus o = Attempt.replaceStatus k o)
    (h : Concludes steps c t₁ c₁ t r) :
    ∃ last outcome, (walk steps "" c).Goes [] t₁ (last, outcome, c₁) ∧
      (r.action, r.error) = Pass.verdict outcome ∧ t₁.Extends (Turn.Closes k) t := by
  obtain ⟨⟨c', hrun⟩, ⟨last, outcome, hwalk⟩, t₂, c₂, hpersist, hbefore⟩ := h
  obtain ⟨t₃, outcome', c₃, t₄, written, level, message, hwalk', hpersist', rfl, hends⟩ := exists_of_goes_run hrun
  have hlogged : t₄ <:+ ⟨Request.log level message, ()⟩ :: t₄ := List.suffix_cons _ t₄
  -- what was said tells that the steps and the write took the same courses
  obtain ⟨rfl, hsame⟩ := hwalk.eq_of_suffix hwalk' (hpersist.suffix.trans hbefore)
    (hpersist'.suffix.trans hlogged)
  obtain ⟨rfl, rfl, rfl⟩ : last = r.lastStep ∧ outcome = outcome' ∧ c₁ = c₃ := by simpa using hsame
  obtain ⟨rfl, rfl⟩ := hpersist.eq_of_suffix hpersist' hbefore hlogged
  refine ⟨_, outcome, hwalk, hends.trans (conclusion_ok _ _), ?_⟩
  exact (closes_of_writesStatus (writesStatus_of_goes hwrite hpersist)).cons (Or.inl ⟨level, message, rfl⟩)

/-- A function that answers all requests, and takes the status, lets a pass conclude. -/
theorem concludes_hear (answer : (q : Request) → q.Answer) {r : PassResult} {c₁ c₂ c' : C} {last : String}
    {outcome : Outcome} (hwalk : Program.run (m := Id) answer (walk steps "" c) = (last, outcome, c₁))
    (hwrite : Program.run (m := Id) answer (persist c₁).run = .ok c₂)
    (hrun : Program.run (m := Id) answer (run steps c) = (r, c')) :
    Concludes steps c ((walk steps "" c).hear answer []) c₁ ((run steps c).hear answer []) r where
  ran := ⟨c', hrun ▸ goes_hear answer (run steps c) []⟩
  walked := ⟨last, outcome, hwalk ▸ goes_hear answer (walk steps "" c) []⟩
  wrote := by
    have hgoes := goes_hear answer (persist c₁).run ((walk steps "" c).hear answer [])
    rw [hwrite] at hgoes
    refine ⟨_, c₂, hgoes, ?_⟩
    rw [run, hear_bind, hwalk]
    dsimp only
    rw [hear_bind]
    exact suffix_hear (I := Surroundings) answer _ _

end Pass

/-! ### An example: answers to passes over a role of a shop -/

namespace Shop

/-- The metadata of an object of the shop. -/
def metadataOf (name : String) : ObjectMeta :=
  { ObjectMeta.blank with name := some name, ns := some "db" }

/-- The shop, whose storages are bootstrapped. -/
def shop : Cluster := ⟨metadataOf "shop", .default, some ⟨.ready, true, some "router-0-0"⟩⟩

/-- A role of the shop, with one instance. -/
def storage : Role :=
  ⟨{ metadataOf "storage" with labels := some (Labels.clusterSelector "shop") }, .default, none⟩

/-- A pod that runs and is ready. -/
def podOf (name : String) : Pod :=
  ⟨metadataOf name, none, some ⟨some "Running", some [⟨name, "", "", true, 0⟩]⟩⟩

/-- The StatefulSet of the role, deleted or not. -/
def stateful (deleted : Option Timestamp) : StatefulSet :=
  ⟨{ metadataOf "storage-0" with deletionTimestamp := deleted }, none⟩

/-- The instance of the leader is part of the topology; what the other one says is given, and so is what
comes of a join. -/
def answer (s : StatefulSet) (uuid : Except AdminError String) (join : Except AdminError JoinOutcome) :
    (q : Request) → q.Answer
  | .store (.get .role _ _) => .ok (some storage)
  | .store (.get .cluster _ _) => .ok (some shop)
  | .store (.get .pod _ name) => .ok (some (podOf name))
  | .store (.list .pod _ _) => .ok [podOf "storage-0-0"]
  | .store (.list .statefulSet _ _) => .ok [s]
  | .store (.replaceStatus _ o) => .ok o
  | .store _ => .error .serialization
  | .admin (.isCartridgeConfigured _) => .ok true
  | .admin (.instanceUuid pod) =>
    if pod.name = "router-0-0" then .ok "a22a12b7-eee9-4d46-bf7e-5eea8ff38b5b" else uuid
  | .admin (.join ..) => join
  | .admin (.rolesHierarchy _) => .ok .empty
  | .admin (.replicasetRoles ..) => .ok []
  | .admin (.setWeight ..) => .ok ()
  | .admin _ => .error .decode
  | .record .. => ()
  | .log .. => ()

theorem takesStatus_hear {α : Type} (s : StatefulSet) (uuid : Except AdminError String)
    (join : Except AdminError JoinOutcome) (p : Act α) :
    Talk.TakesStatus (p.hear (answer s uuid join) []) := by
  refine forall_mem_hear (fun q => ?_) _ (List.forall_mem_nil _)
  unfold Turn.TakesStatus
  split
  next h => cases h; rfl
  next => trivial

end Shop

end ClusterKeeper
