import ClusterKeeper.Cartridge.Admin
import ClusterKeeper.Proofs.Program.Course

/-!
Failures of the channel to the instances. A request runs one script on its instance and makes something of what
came back: a refusal by Cartridge may turn into a success, a text into an error of its own kind, nothing at all
into a default. None of this touches the errors that say that the script did not run to its end
(`AdminError.OfChannel`), and none of it makes such an error.

What is read off the payload of a script is judged first (`Admin.Judged`): it never is a failure of the channel.
A request then fails as the channel does and in no other way like it, whatever follows.

Main statement: `AdminRequest.fails_as_channel`.
-/

namespace ClusterKeeper

open Program

/-- The script did not run to its end: it could not be run, or it raised an error. -/
def AdminError.OfChannel : AdminError → Prop
  | transport _ | timeout _ | transcript _ | remote _ => True
  | decode | lua .. | topologyIsDown | notInConfig | lastStorageWeight | unknownRole _ | configRejected => False

theorem AdminError.ofChannel_of_isTransport {e : AdminError} (h : e.isTransport = true) : e.OfChannel := by
  cases e with
  | transport _ | timeout _ | transcript _ | remote _ => trivial
  | _ => cases h

namespace Admin

variable {α β : Type} {e : AdminError} {x : Except AdminError α}

/-! ### What is made of a payload -/

/-- No failure of the channel. -/
def Judged (x : Except AdminError α) : Prop := ∀ e, x = .error e → ¬e.OfChannel

@[simp] theorem judged_ok (a : α) : Judged (.ok a : Except AdminError α) := fun _ h => nomatch h

@[simp] theorem judged_error : Judged (.error e : Except AdminError α) ↔ ¬e.OfChannel :=
  ⟨fun h => h e rfl, fun h _ heq => Except.error.inj heq ▸ h⟩

theorem judged_typed (read : Json → Option α) (payload : Json) : Judged (typed read payload) := by
  rw [typed]
  split
  next => exact judged_ok _
  next => exact judged_error.2 id

theorem judged_ite {c : Prop} [Decidable c] {y : Except AdminError α} (hx : Judged x) (hy : Judged y) :
    Judged (if c then x else y) := by
  split
  next => exact hx
  next => exact hy

theorem judged_bind {judge : α → Except AdminError β} (hx : Judged x) (hjudge : ∀ a, Judged (judge a)) :
    Judged (x >>= judge) := by
  cases x with
  | ok a => exact hjudge a
  | error e => exact judged_error.2 (judged_error.1 hx)

theorem judged_flag (doing : String) (payload : Json) : Judged (flag doing payload) := by
  refine judged_bind (judged_typed _ _) fun envelope => ?_
  split
  next => exact judged_error.2 id
  next => exact judged_ok _

theorem judged_editOutcome (edited : Bool) : Judged (editOutcome edited) :=
  judged_ite (judged_ok _) (judged_error.2 id)

theorem judged_weightOutcome (envelope : Envelope Bool) : Judged (weightOutcome envelope) := by
  rw [weightOutcome]
  split
  next => exact judged_ok _
  next => exact judged_ite (judged_error.2 id) (judged_ite (judged_error.2 id) (judged_error.2 id))

theorem judged_bootstrapOutcome (envelope : Envelope Json) : Judged (bootstrapOutcome envelope) := by
  rw [bootstrapOutcome]
  split
  next => exact judged_ok _
  next => exact judged_ite (judged_ok _) (judged_error.2 id)

theorem judged_failoverOutcome (envelope : Envelope Json) : Judged (failoverOutcome envelope) := by
  rw [failoverOutcome]
  split
  next => exact judged_ok _
  next => exact judged_error.2 id

theorem judged_patchOutcome (applied : Option Bool) : Judged (patchOutcome applied) :=
  judged_ite (judged_ok _) (judged_error.2 id)

/-! ### What is made of an answer -/

theorem map_eq_error_iff (f : α → β) : x.map f = .error e ↔ x = .error e := by
  cases x <;> simp [Except.map]

section

variable (he : e.OfChannel)
include he

/-- What is judged afterwards adds no failure of the channel and takes none away. -/
theorem bind_eq_error_iff {judge : α → Except AdminError β} (hjudge : ∀ a, Judged (judge a)) :
    x.bind judge = .error e ↔ x = .error e := by
  cases x with
  | ok a => exact iff_of_false (fun h => hjudge a e h he) nofun
  | error e' => simp [Except.bind]

theorem error_ne_of_not_ofChannel {e' : AdminError} (h : ¬e'.OfChannel) : (.error e' : Except AdminError α) ≠ .error e :=
  fun heq => h (Except.error.inj heq ▸ he)

/-- To join makes a success of one refusal and an error of its own of another one, by their texts. -/
theorem joinOutcome_eq_error_iff {x : Except AdminError Bool} : joinOutcome x = .error e ↔ x = .error e := by
  rw [joinOutcome.eq_def]
  split
  next => exact iff_of_false nofun nofun
  next => exact iff_of_false (error_ne_of_not_ofChannel he id) nofun
  next =>
    refine iff_of_false ?_ (error_ne_of_not_ofChannel he id)
    split
    next => exact nofun
    next => split <;> exact error_ne_of_not_ofChannel he id
  next => simp

/-- What is no config is an empty one, but only if it came back. -/
theorem configOutcome_eq_error_iff {x : Except AdminError Sections} :
    configOutcome x = .error e ↔ x = .error e := by
  rw [configOutcome.eq_def]
  split
  next => exact iff_of_false nofun (error_ne_of_not_ofChannel he id)
  next => exact Iff.rfl

end

end Admin

namespace AdminRequest

open Admin

/-- A request fails with an error of the channel just when the channel did. -/
theorem outcome_eq_error_iff (q : AdminRequest) {e : AdminError} (he : e.OfChannel)
    (answer : Except AdminError Json) : q.outcome answer = .error e ↔ answer = .error e := by
  cases q with
  | join => exact (joinOutcome_eq_error_iff he).trans (bind_eq_error_iff he (judged_flag _))
  | setWeight =>
    exact (bind_eq_error_iff he judged_weightOutcome).trans (bind_eq_error_iff he (judged_typed _))
  | replicasetRoles => exact (map_eq_error_iff _).trans (bind_eq_error_iff he (judged_typed _))
  | setReplicasetRoles =>
    exact (bind_eq_error_iff he judged_editOutcome).trans (bind_eq_error_iff he (judged_flag _))
  | bootstrapVshard =>
    exact (bind_eq_error_iff he judged_bootstrapOutcome).trans (bind_eq_error_iff he (judged_typed _))
  | setFailoverParams =>
    exact (bind_eq_error_iff he judged_failoverOutcome).trans (bind_eq_error_iff he (judged_typed _))
  | cartridgeConfig => exact (configOutcome_eq_error_iff he).trans (bind_eq_error_iff he (judged_typed _))
  | applyCartridgeConfig =>
    exact (bind_eq_error_iff he judged_patchOutcome).trans (bind_eq_error_iff he (judged_typed _))
  | instanceUuid | rolesHierarchy | failoverParams => exact bind_eq_error_iff he (judged_typed _)
  | isCartridgeStarted | isCartridgeConfigured => exact bind_eq_error_iff he (judged_flag _)

/-- The request was given a pod: the one of the leader, or the one of the instance it asks about. -/
inductive GivenTo (pod : Pod) : AdminRequest → Prop
  | join (request : JoinRequest) (uris : List String) : GivenTo pod (join pod request uris)
  | instanceUuid : GivenTo pod (instanceUuid pod)
  | setWeight (uuid : String) (weight : Int32) : GivenTo pod (setWeight pod uuid weight)
  | replicasetRoles (uuid : String) : GivenTo pod (replicasetRoles pod uuid)
  | setReplicasetRoles (uuid : String) (roles : List String) : GivenTo pod (setReplicasetRoles pod uuid roles)
  | bootstrapVshard : GivenTo pod (bootstrapVshard pod)
  | rolesHierarchy : GivenTo pod (rolesHierarchy pod)
  | setFailoverParams (params : FailoverParams) : GivenTo pod (setFailoverParams pod params)
  | failoverParams : GivenTo pod (failoverParams pod)
  | cartridgeConfig : GivenTo pod (cartridgeConfig pod)
  | applyCartridgeConfig (config : Sections) : GivenTo pod (applyCartridgeConfig pod config)
  | isCartridgeStarted : GivenTo pod (isCartridgeStarted pod)
  | isCartridgeConfigured : GivenTo pod (isCartridgeConfigured pod)

theorem givenTo_pod (q : AdminRequest) : GivenTo q.pod q := by
  cases q <;> constructor

/-- However a request is answered, it ran its one script on the pod that it was given and nothing else. It fails
with an error that says that the script did not run to its end just when the channel failed with that very error; so
its failure says that the script could not be run just when that of the channel does. -/
theorem fails_as_channel (q : AdminRequest) (w : Talk Channel) :
    ∃ pod, GivenTo pod q ∧ (∀ answer, ∃ r, q.perform.Goes w (⟨⟨pod, q.script, q.args⟩, answer⟩ :: w) r) ∧
      ∀ w' r, q.perform.Goes w w' r → ∃ answer, w' = ⟨⟨pod, q.script, q.args⟩, answer⟩ :: w ∧
        (∀ e : AdminError, e.OfChannel → (r = .error e ↔ answer = .error e)) ∧
        ((∃ e : AdminError, r = .error e ∧ e.isTransport = true) ↔
          ∃ e : AdminError, answer = .error e ∧ e.isTransport = true) := by
  refine ⟨q.pod, givenTo_pod q, fun answer => ⟨q.outcome answer, answer, rfl, rfl⟩, ?_⟩
  rintro w' r ⟨answer, rfl, rfl⟩
  refine ⟨answer, rfl, fun e he => q.outcome_eq_error_iff he answer, exists_congr fun e => and_congr_left fun he => ?_⟩
  exact q.outcome_eq_error_iff (AdminError.ofChannel_of_isTransport he) answer

/-- The pod of a router. -/
def router : Pod := ⟨{ ObjectMeta.blank with name := some "router-0-0", ns := some "db" }, none, none⟩

/-- An instance that is to join through the router. -/
def joining : AdminRequest :=
  join router ⟨"storage-0", "7", ["vshard-storage"], 100, "default", false⟩
    ["storage-0-0.shop.db.svc.cluster.local:3301"]

/-- A script that raised an error did not run to its end, also if the error says what Cartridge says of an instance
that is joined already: the request, which ran it on the router, fails with that error, and nothing counts as
joined. -/
theorem joining_raised : ∃ script args r,
    joining.perform.Goes [] [⟨⟨router, script, args⟩, .error (.remote "server is already joined")⟩] r ∧
      r = .error (.remote "server is already joined") := by
  obtain ⟨pod, hgiven, hany, hevery⟩ := fails_as_channel joining []
  obtain ⟨r, hgoes⟩ := hany (.error (.remote "server is already joined"))
  obtain ⟨answer, hw, hsame, _⟩ := hevery _ r hgoes
  cases hw
  cases hgiven
  exact ⟨_, _, r, hgoes, (hsame (.remote "server is already joined") trivial).2 rfl⟩

end AdminRequest

end ClusterKeeper
