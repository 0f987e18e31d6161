import ClusterKeeper.Proofs.Cartridge.ConfigUpdate
import ClusterKeeper.Proofs.Http.Wiring
import ClusterKeeper.Proofs.Pass.Conclusion
import ClusterKeeper.Proofs.Pass.ConfigWalk

/-!
What a pass over a clusterwide config makes of what the console shows. The config is read once at most, and a reply
is taken for a config as `Sections.Taken` says; of all the steps only the upload has to do with the config
(`ConfigPass.told_of_goes_run`), so whether it is patched is told by that reply alone.

Main statement: a config is uploaded only over one that was taken from a reply, and a call that failed is taken for
a config only when it brought a payload that is no JSON (`ConfigPass.uploads_over_taken`).
-/

namespace ClusterKeeper

open Program

/-! ### What a reply is taken for -/

namespace Transcript

variable {transcript : String}

/-- The transcript has a record with a payload, which is no JSON. -/
def Garbled (transcript : String) : Prop :=
  ∃ record bytes, Record.ofText? (body transcript) = some (some record) ∧
    record.payload transcript = .ok bytes ∧ Json.parseBytes? bytes.toByteArray = none

theorem result_ne_decode (ok : Bool) (payload : Json) : result ok payload ≠ .error .decode := by
  cases ok <;> nofun

theorem decode_eq_error_decode_iff : decode transcript = .error .decode ↔ Garbled transcript := by
  rw [decode, Garbled]
  split
  next hnone => simp [hnone]
  next hempty => simp [hempty]
  next record hrecord =>
    split
    next fault hfault => simp [hrecord, hfault]
    next bytes hbytes =>
      split
      next hjson => simp [hrecord, hbytes, hjson]
      next payload hjson => simp [hrecord, hbytes, hjson, result_ne_decode]

end Transcript

/-- What is taken for the config when a reply comes: a mapping for itself, and for an empty config another value,
but also a payload that is no JSON. -/
inductive Sections.Taken : Option Http.Reply → Sections → Prop
  | mapping {transcript : String} {payload : Json} {sections : Sections} :
      Transcript.decode transcript = .ok payload → payload.toMap? = some sections →
      Taken (some (.session transcript)) sections
  | other {transcript : String} {payload : Json} : Transcript.decode transcript = .ok payload →
      payload.toMap? = none → Taken (some (.session transcript)) .empty
  | garbled {transcript : String} : Transcript.Garbled transcript → Taken (some (.session transcript)) .empty

namespace ConsoleAccess

variable {access : ConsoleAccess} {reply : Option Http.Reply} {actual : Sections}

/-- A config is read exactly if something is taken for it. -/
theorem read_iff_taken (leader : Pod) :
    (AdminRequest.cartridgeConfig leader).outcome (access.outcome reply) = .ok actual ↔
      Sections.Taken reply actual := by
  show Admin.configOutcome ((access.outcome reply).bind (Admin.typed Json.toMap?)) = .ok actual ↔ _
  constructor
  · intro h
    unfold outcome at h
    split at h
    next transcript =>
      cases hdecode : Transcript.decode transcript with
      | error e =>
        rw [hdecode] at h
        cases e with
        | decode =>
          cases h
          exact .garbled (Transcript.decode_eq_error_decode_iff.1 hdecode)
        | _ => cases h
      | ok payload =>
        rw [hdecode] at h
        replace h : Admin.configOutcome (Admin.typed Json.toMap? payload) = .ok actual := h
        rw [Admin.typed] at h
        split at h
        next sections hmap =>
          cases h
          exact .mapping hdecode hmap
        next hmap =>
          cases h
          exact .other hdecode hmap
    next => cases h
    next => cases h
    next => cases h
  · intro h
    cases h with
    | mapping hdecode hmap =>
      simp [outcome, hdecode, Except.bind, Admin.typed, hmap, Admin.configOutcome]
    | other hdecode hmap =>
      simp [outcome, hdecode, Except.bind, Admin.typed, hmap, Admin.configOutcome]
    | garbled hgarbled =>
      rw [outcome, Transcript.decode_eq_error_decode_iff.2 hgarbled]
      rfl

/-- A call that failed is taken for a config only if its payload is no JSON. -/
theorem garbled_of_taken {e : AdminError} (h : Sections.Taken reply actual)
    (hfailed : access.outcome reply = .error e) :
    e = .decode ∧ ∃ transcript, reply = some (.session transcript) ∧ Transcript.Garbled transcript := by
  cases h with
  | mapping hdecode _ => cases hdecode.symm.trans hfailed
  | other hdecode _ => cases hdecode.symm.trans hfailed
  | garbled hgarbled =>
    have hdecode := Transcript.decode_eq_error_decode_iff.2 hgarbled
    exact ⟨Except.error.inj (hfailed.symm.trans hdecode), _, rfl, hgarbled⟩

end ConsoleAccess

/-! ### Requests that leave the config alone -/

/-- The request neither reads the config nor patches it. -/
def Request.SparesConfig (q : Request) : Prop := ¬q.ReadsConfig ∧ ¬q.PatchesConfig

namespace Request

@[simp] theorem sparesConfig_store {q : StoreRequest} : (store q).SparesConfig := by
  simp [SparesConfig, ReadsConfig, PatchesConfig]

@[simp] theorem sparesConfig_record {about : ObjectReference} {event : Event} : (record about event).SparesConfig := by
  simp [SparesConfig, ReadsConfig, PatchesConfig]

@[simp] theorem sparesConfig_log {level : LogLevel} {message : String} : (log level message).SparesConfig := by
  simp [SparesConfig, ReadsConfig, PatchesConfig]

end Request

/-- The turn has nothing to do with the config. -/
def Turn.SparesConfig (e : Turn Surroundings) : Prop := e.ask.SparesConfig

/-- No turn of the talk has to do with the config. -/
def Talk.SparesConfig (t : Talk Surroundings) : Prop := ∀ e ∈ t, e.SparesConfig

theorem Turn.sparesConfig_log {level : LogLevel} {message : String} :
    Turn.SparesConfig ⟨Request.log level message, ()⟩ := Request.sparesConfig_log

theorem Turn.Closes.sparesConfig {k : Kind} {e : Turn Surroundings} (h : e.Closes k) : e.SparesConfig := by
  rw [SparesConfig]
  obtain ⟨level, message, hask⟩ | ⟨o, hask⟩ := h
  · rw [hask]
    exact Request.sparesConfig_log
  · rw [hask]
    exact Request.sparesConfig_store

theorem Election.Searches.sparesConfig {q : Request} (h : Searches q) : q.SparesConfig := by
  constructor
  · rintro ⟨leader, rfl⟩
    exact h
  · rintro ⟨leader, sections, rfl⟩
    exact h

theorem Election.Asks.sparesConfig {q : Request} (h : Asks q) : q.SparesConfig := by
  rcases h with hsearches | ⟨ns, selector, rfl⟩ | ⟨given, rfl⟩ | ⟨about, leader, rfl⟩
  · exact hsearches.sparesConfig
  · exact Request.sparesConfig_store
  · exact Request.sparesConfig_store
  · exact Request.sparesConfig_record

namespace ConfigPass

/-! ### Steps that leave the config alone -/

/-- The steps before the upload. -/
def opening : List (Step ConfigPass) := [
  Pass.info,
  Pass.getRequestedObject,
  Pass.resetStatus,
  Pass.setPhase CartridgeConfigPhase.waitingForCluster,
  Pass.getClusterByLabels,
  Pass.waitForClusterBootstrapped,
  Pass.setPhase CartridgeConfigPhase.waitingForLeader,
  Pass.getLeader,
  Pass.setPhase CartridgeConfigPhase.applying]

theorem steps_eq : steps = opening ++ [configure, Pass.setPhase CartridgeConfigPhase.ready] := rfl

theorem only_ofAttempt {kind : Request → Prop} {name : String} {f : ConfigPass → Attempt (Outcome × ConfigPass)}
    {c : ConfigPass} (h : (f c).run.Only kind) : ((Step.ofAttempt name f).run c).Only kind := by
  intro t
  rw [Step.ofAttempt, keeps_bind]
  refine (h t).mono fun _ result _ => ?_
  cases result <;> trivial

theorem info_spares (c : ConfigPass) : (Pass.info.run c).Only Request.SparesConfig := by
  intro t
  simp [Pass.info]

theorem getRequestedObject_spares (c : ConfigPass) : (Pass.getRequestedObject.run c).Only Request.SparesConfig := by
  refine only_ofAttempt fun t => ?_
  dsimp only [CustomResource.fetch]
  rw [keeps_run, keepsOr_bind, Attempt.get, keepsOr_store]
  exact ⟨Request.sparesConfig_store, Option.forall.2 ⟨by simp, fun _ => trivial⟩, fun _ => trivial⟩

theorem setPhase_spares (phase : CartridgeConfigPhase) (c : ConfigPass) :
    ((Pass.setPhase (C := ConfigPass) phase).run c).Only Request.SparesConfig := by
  intro t
  rw [Pass.setPhase]
  dsimp only
  split <;> simp

theorem resetStatus_spares (c : ConfigPass) : (Pass.resetStatus.run c).Only Request.SparesConfig :=
  fun _ => trivial

theorem getClusterByLabels_spares (c : ConfigPass) : (Pass.getClusterByLabels.run c).Only Request.SparesConfig := by
  refine only_ofAttempt fun t => ?_
  rw [keeps_run, keepsOr_ite]
  refine ⟨fun _ => trivial, fun _ => ?_⟩
  split
  next => trivial
  next config _ =>
    split
    next => trivial
    next name _ =>
      rw [keepsOr_bind, Attempt.get, keepsOr_store]
      exact ⟨Request.sparesConfig_store, Option.forall.2 ⟨by simp, fun _ => trivial⟩, fun _ => trivial⟩

theorem waitForClusterBootstrapped_spares (c : ConfigPass) :
    (Pass.waitForClusterBootstrapped.run c).Only Request.SparesConfig := fun _ => trivial

theorem getLeader_spares (c : ConfigPass) : (Pass.getLeader.run c).Only Request.SparesConfig := by
  refine only_ofAttempt fun t => ?_
  dsimp only
  split
  next => trivial
  next cluster _ =>
    have helects : (Election.leaderFor cluster).run.Only Request.SparesConfig :=
      (Election.leaderFor_asks cluster).imp fun _ => Election.Asks.sparesConfig
    simp only [keeps_run, keepsOr_bind, keepsOr_lift]
    refine ((keeps_run _).1 (helects t)).mono (fun _ _ _ => trivial) fun t e _ => ?_
    split
    next h => cases h
    next => trivial
    next =>
      rw [keepsOr_ite]
      exact ⟨fun _ => trivial, fun _ => by simp⟩
    next => trivial

theorem opening_spares : ∀ step ∈ opening, ∀ c, (step.run c).Only Request.SparesConfig := by
  simp only [opening, List.forall_mem_cons]
  exact ⟨info_spares, getRequestedObject_spares, resetStatus_spares, setPhase_spares _, getClusterByLabels_spares,
    waitForClusterBootstrapped_spares, setPhase_spares _, getLeader_spares, setPhase_spares _, nofun⟩

/-! ### The upload in its pass -/

variable {key : ObjectKey} {t t' : Talk Surroundings} {leader : Pod}

/-- An upload without a config says nothing. -/
theorem eq_of_goes_configure {c : ConfigPass} {o : Outcome × ConfigPass} (hnone : c.object = none)
    (h : (configure.run c).Goes t t' o) : t' = t := by
  rw [configure, Step.reading, Step.ofAttempt, goes_bind] at h
  simp only [hnone] at h
  obtain ⟨_, _, ⟨rfl, rfl⟩, rfl, _⟩ := h
  rfl

/-- The config that a walk ends with was loaded, but for its status. -/
theorem Ends.loads {outcome : Outcome} {c : ConfigPass} {o : CartridgeConfig} (h : Ends key t outcome c)
    (ho : c.object = some o) : ∃ config, t.Loads .cartridgeConfig key config ∧ o.spec = config.spec := by
  cases h with
  | gone _ => cases ho
  | unread _ => cases ho
  | again config phase hknows =>
    cases ho
    exact ⟨config, hknows.loads, rfl⟩
  | ready hknows =>
    cases ho
    exact ⟨_, hknows.loads, rfl⟩

/-- To set the phase leaves the document as it is. -/
theorem exists_object_of_runs_setPhase {phase : CartridgeConfigPhase} {outcome : Outcome} {c c' : ConfigPass}
    {config : CartridgeConfig} (hconfig : c.object = some config)
    (h : (Pass.setPhase (C := ConfigPass) phase).Runs t c t' outcome c') :
    ∃ o, c'.object = some o ∧ o.spec = config.spec := by
  rw [Step.Runs, Pass.setPhase] at h
  dsimp only at h
  split at h
  next o ho =>
    obtain rfl : config = o := Option.some.inj (hconfig.symm.trans ho)
    rw [goes_bind] at h
    obtain ⟨_, _, _, _, hresult⟩ := h
    obtain ⟨_, rfl⟩ := Prod.mk.inj hresult
    exact ⟨_, rfl, rfl⟩
  next hnone => cases hnone.symm.trans hconfig

/-- The upload and what follows it: the turns of the upload, and others that leave the config alone. -/
theorem exists_course_of_goes_walk {last : String} {c : ConfigPass} {r : String × Outcome × ConfigPass}
    (h : (Pass.walk [configure, Pass.setPhase CartridgeConfigPhase.ready] last c).Goes t t' r) :
    ∃ said later, t' = later ++ (said ++ ⟨Request.log .debug "Running step", ()⟩ :: t) ∧
      Talk.SparesConfig later ∧
      (said = [] ∨ ∃ config o : CartridgeConfig,
        Course config.spec.data said ∧ r.2.2.object = some o ∧ o.spec = config.spec) := by
  obtain ⟨t₁, outcome, c₁, hstep, hnext⟩ := Pass.runs_of_goes_walk h
  obtain rfl : c₁ = c := Pass.eq_of_goes_reading hstep
  -- after the upload the phase may be set, which leaves the config alone and the document as it is
  have hends : t₁.Extends Turn.SparesConfig t' ∧ ∀ config, c₁.object = some config →
      ∃ o, r.2.2.object = some o ∧ o.spec = config.spec := by
    obtain ⟨_, hlast⟩ | ⟨_, rfl, rfl⟩ := hnext
    · obtain ⟨t₂, outcome', c₂, hset, hdone⟩ := Pass.runs_of_goes_walk hlast
      have hsaid : t₁.Extends Turn.SparesConfig t₂ := (Talk.extends_refl.cons Turn.sparesConfig_log).trans
        ((setPhase_spares _ c₁).extends_of_goes hset)
      have hobject : ∀ config, c₁.object = some config → ∃ o, c₂.object = some o ∧ o.spec = config.spec :=
        fun config hconfig => exists_object_of_runs_setPhase hconfig hset
      obtain ⟨_, rfl, rfl⟩ | ⟨_, rfl, rfl⟩ := hdone <;> exact ⟨hsaid, hobject⟩
    · exact ⟨Talk.extends_refl, fun config hconfig => ⟨config, hconfig, rfl⟩⟩
  obtain ⟨⟨later, rfl, hlater⟩, hobject⟩ := hends
  obtain ⟨said, rfl⟩ := hstep.suffix
  refine ⟨said, later, rfl, hlater, ?_⟩
  cases hconfig : c₁.object with
  | none => exact Or.inl (List.append_cancel_right (eq_of_goes_configure hconfig hstep))
  | some config =>
    obtain ⟨o, ho, hspec⟩ := hobject config hconfig
    exact Or.inr ⟨config, o, course_of_goes hconfig hstep, ho, hspec⟩

/-- The turns of a talk that have to do with the config are those of one upload, of the config that was loaded. -/
inductive Told (key : ObjectKey) : Talk Surroundings → Prop
  | spared {t : Talk Surroundings} : t.SparesConfig → Told key t
  | uploaded {earlier said later : Talk Surroundings} {config : CartridgeConfig} :
      earlier.SparesConfig → Course config.spec.data said → later.SparesConfig →
      Talk.Loads .cartridgeConfig (later ++ (said ++ earlier)) key config → Told key (later ++ (said ++ earlier))

theorem told_of_goes_walk {r : String × Outcome × ConfigPass}
    (h : (Pass.walk steps "" (MemberPass.start key)).Goes [] t r) : Told key t := by
  have hends : Ends key t r.2.1 r.2.2 := ((walk_keeps key).of_goes h).1
  rw [steps_eq] at h
  obtain ⟨t₁, ⟨earlier, rfl, hearlier⟩, hrest⟩ :=
    Pass.exists_of_goes_walk_append (fun _ _ => Request.sparesConfig_log) opening_spares h
  rw [List.append_nil] at hrest
  obtain rfl | ⟨last, c₁, hrest⟩ := hrest
  · exact .spared hearlier
  obtain ⟨said, later, rfl, hlater, hsaid⟩ := exists_course_of_goes_walk hrest
  have hopened : Talk.SparesConfig (⟨Request.log .debug "Running step", ()⟩ :: earlier) :=
    List.forall_mem_cons.2 ⟨Turn.sparesConfig_log, hearlier⟩
  obtain rfl | ⟨config, o, hcourse, ho, hspec⟩ := hsaid
  · exact .spared (List.forall_mem_append.2 ⟨hlater, hopened⟩)
  · obtain ⟨loaded, hloads, hloaded⟩ := hends.loads ho
    rw [← hspec, hloaded] at hcourse
    exact .uploaded hopened hcourse hlater hloads

theorem Told.extends (h : Told key t) (ht : t.Extends (Turn.Closes .cartridgeConfig) t') : Told key t' := by
  obtain ⟨more, rfl, hmore⟩ := ht
  have hspared : Talk.SparesConfig more := fun e he => (hmore e he).sparesConfig
  cases h with
  | spared hspares => exact .spared (List.forall_mem_append.2 ⟨hspared, hspares⟩)
  | @uploaded earlier said later config hearlier hcourse hlater hloads =>
    have hloads' : Talk.Loads .cartridgeConfig (more ++ (later ++ (said ++ earlier))) key config :=
      hloads.extends ⟨more, rfl, fun e he => (hmore e he).skips⟩
    rw [← List.append_assoc] at hloads' ⊢
    exact .uploaded hearlier hcourse (List.forall_mem_append.2 ⟨hspared, hlater⟩) hloads'

/-- Whatever it is answered, a pass uploads the config that it has loaded, once at most. -/
theorem told_of_goes_run {r : PassResult} {c : ConfigPass}
    (h : (Pass.run steps (MemberPass.start key)).Goes [] t (r, c)) : Told key t := by
  obtain ⟨t₁, outcome, c₁, t₂, written, level, message, hwalk, hpersist, rfl, _⟩ :=
    Pass.exists_of_goes_run (k := .cartridgeConfig) h
  have hwritten := Pass.closes_of_writesStatus
    (Pass.writesStatus_of_goes (k := .cartridgeConfig) (fun _ => rfl) hpersist)
  exact (told_of_goes_walk hwalk).extends (hwritten.cons (Or.inl ⟨level, message, rfl⟩))

namespace Told

/-- A turn that has to do with the config is one of the upload. -/
theorem exists_course (h : Told key t) {e : Turn Surroundings} (he : e ∈ t) (hconcerns : ¬e.SparesConfig) :
    ∃ config said, t.Loads .cartridgeConfig key config ∧ Course config.spec.data said ∧ e ∈ said ∧
      (∀ e' ∈ said, e' ∈ t) ∧ ∀ e' ∈ t, ¬e'.SparesConfig → e' ∈ said := by
  cases h with
  | spared hspares => exact absurd (hspares e he) hconcerns
  | @uploaded earlier said later config hearlier hcourse hlater hloads =>
    have hsaid : ∀ e' ∈ later ++ (said ++ earlier), ¬e'.SparesConfig → e' ∈ said := by
      intro e' he' hconcerns'
      obtain hin | hin := List.mem_append.1 he'
      · exact absurd (hlater e' hin) hconcerns'
      obtain hin | hin := List.mem_append.1 hin
      · exact hin
      · exact absurd (hearlier e' hin) hconcerns'
    exact ⟨config, said, hloads, hcourse, hsaid e he hconcerns, by simp +contextual, hsaid⟩

/-- When the config was asked for, it is patched exactly if it was read and lacks a section of what was loaded. -/
theorem patches_iff (h : Told key t) {a : Except AdminError Sections}
    (hread : (⟨Request.admin (.cartridgeConfig leader), a⟩ : Turn Surroundings) ∈ t) :
    (∃ e ∈ t, e.ask.PatchesConfig) ↔ ∃ config wanted actual,
      (⟨Request.store (.get .cartridgeConfig key.ns key.name), Except.ok (some config)⟩ : Turn Surroundings) ∈ t ∧
      Sections.ofYaml config.spec.data = .ok wanted ∧ a = .ok actual ∧ wanted.subset actual = false := by
  obtain ⟨config, said, hloads, hcourse, hin, hsub, hall⟩ :=
    h.exists_course hread fun hspares => hspares.1 ⟨leader, rfl⟩
  have hpatch : (∃ e ∈ t, e.ask.PatchesConfig) ↔ ∃ e ∈ said, e.ask.PatchesConfig := by
    constructor
    · rintro ⟨e, he, hpatches⟩
      exact ⟨e, hall e he fun hspares => hspares.2 hpatches, hpatches⟩
    · rintro ⟨e, he, hpatches⟩
      exact ⟨e, hsub e he, hpatches⟩
  rw [hpatch]
  cases a with
  | error e =>
    constructor
    · rintro ⟨e', he', hpatches⟩
      exact absurd hpatches (hcourse.left_of_unread hin e' he')
    · rintro ⟨_, _, _, _, _, hok, _⟩
      cases hok
  | ok actual =>
    rw [hcourse.patches_iff hin]
    constructor
    · rintro ⟨wanted, hwanted, hlacks⟩
      exact ⟨config, wanted, actual, (hloads _).2 rfl, hwanted, rfl, hlacks⟩
    · rintro ⟨config', wanted, _, hgiven, hwanted, ⟨⟩, hlacks⟩
      obtain rfl : config' = config := Option.some.inj (Except.ok.inj ((hloads _).1 hgiven))
      exact ⟨wanted, hwanted, hlacks⟩

/-- A patch has the sections of what was loaded, and the instance was asked for the config before. -/
theorem of_patch (h : Told key t) {sections : Sections} {accepted : Except AdminError Unit}
    (hpatch : (⟨Request.admin (.applyCartridgeConfig leader sections), accepted⟩ : Turn Surroundings) ∈ t) :
    ∃ config actual,
      (⟨Request.store (.get .cartridgeConfig key.ns key.name), Except.ok (some config)⟩ : Turn Surroundings) ∈ t ∧
      Sections.ofYaml config.spec.data = .ok sections ∧ sections.subset actual = false ∧
      (⟨Request.admin (.cartridgeConfig leader), Except.ok actual⟩ : Turn Surroundings) ∈ t := by
  obtain ⟨config, said, hloads, hcourse, hin, hsub, _⟩ :=
    h.exists_course hpatch fun hspares => hspares.2 ⟨leader, sections, rfl⟩
  obtain ⟨hwanted, actual, hlacks, hread⟩ := hcourse.of_patch hin
  exact ⟨config, actual, (hloads _).2 rfl, hwanted, hlacks, hsub _ hread⟩

end Told

/-! ### The console of a pass -/

theorem eq_cartridgeConfig_of_script {q : AdminRequest} (h : q.script = Script.clusterwideConfig) :
    ∃ leader, q = .cartridgeConfig leader := by
  cases q with
  | cartridgeConfig leader => exact ⟨leader, rfl⟩
  | _ =>
    simp only [AdminRequest.script] at h
    exact absurd h (by decide +kernel)

theorem eq_applyCartridgeConfig_of_script {q : AdminRequest} (h : q.script = Script.patchConfig) :
    ∃ leader sections, q = .applyCartridgeConfig leader sections := by
  cases q with
  | applyCartridgeConfig leader sections => exact ⟨leader, sections, rfl⟩
  | _ =>
    simp only [AdminRequest.script] at h
    exact absurd h (by decide +kernel)

/-- What is taken for the config when a reply comes lacks a section of the config that was loaded. -/
def Lacks (key : ObjectKey) (w : Talk Wiring) (reply : Option Http.Reply) (wanted : Sections) : Prop :=
  ∃ config actual, (⟨Wiring.Ask.store (.get .cartridgeConfig key.ns key.name), Except.ok (some config)⟩ :
      Turn Wiring) ∈ w ∧
    Sections.ofYaml config.spec.data = .ok wanted ∧ Sections.Taken reply actual ∧ wanted.subset actual = false

section

variable {access : ConsoleAccess} {w : Talk Wiring} (hcarried : List.Forall₂ access.Carries t w)
include hcarried

/-- The config is patched exactly if the script for it is run. -/
theorem exists_patch_iff : (∃ e ∈ t, e.ask.PatchesConfig) ↔ ∃ e ∈ w, e.ask.Runs Script.patchConfig := by
  constructor
  · rintro ⟨⟨_, a⟩, hturn, leader, sections, rfl⟩
    obtain ⟨reply, _, he⟩ := ConsoleAccess.exists_exec hcarried hturn
    exact ⟨_, he, _, rfl, rfl⟩
  · rintro ⟨⟨_, reply⟩, he, e, rfl, hscript⟩
    obtain ⟨q, rfl, hturn⟩ := ConsoleAccess.exists_admin hcarried he
    obtain ⟨leader, sections, rfl⟩ := eq_applyCartridgeConfig_of_script hscript
    exact ⟨_, hturn, leader, sections, rfl⟩

/-- When the config was asked for, it is patched exactly if the reply is taken for a config that lacks a section. -/
theorem Told.runs_patch_iff {reply : Option Http.Reply} (h : Told key t)
    (hread : (⟨Request.admin (.cartridgeConfig leader),
      (AdminRequest.cartridgeConfig leader).outcome (access.outcome reply)⟩ : Turn Surroundings) ∈ t) :
    (∃ e ∈ w, e.ask.Runs Script.patchConfig) ↔ ∃ wanted, Lacks key w reply wanted := by
  rw [← exists_patch_iff hcarried, h.patches_iff hread]
  constructor
  · rintro ⟨config, wanted, actual, hloaded, hwanted, hok, hlacks⟩
    exact ⟨wanted, config, actual, (ConsoleAccess.store_mem_iff hcarried).1 hloaded, hwanted,
      (ConsoleAccess.read_iff_taken leader).1 hok, hlacks⟩
  · rintro ⟨wanted, config, actual, hloaded, hwanted, htaken, hlacks⟩
    exact ⟨config, wanted, actual, (ConsoleAccess.store_mem_iff hcarried).2 hloaded, hwanted,
      (ConsoleAccess.read_iff_taken leader).2 htaken, hlacks⟩

/-- A patch follows a reply that was taken for a config without one of its sections. -/
theorem Told.exists_lacks_of_patch {sections : Sections} {accepted : Except AdminError Unit} (h : Told key t)
    (hpatch : (⟨Request.admin (.applyCartridgeConfig leader sections), accepted⟩ : Turn Surroundings) ∈ t) :
    ∃ reply, (⟨Wiring.Ask.exec (AdminRequest.cartridgeConfig leader).exec, reply⟩ : Turn Wiring) ∈ w ∧
      Lacks key w reply sections := by
  obtain ⟨config, actual, hloaded, hwanted, hlacks, hread⟩ := h.of_patch hpatch
  obtain ⟨reply, hreply, hasked⟩ := ConsoleAccess.exists_exec hcarried hread
  have htaken : Sections.Taken reply actual := (ConsoleAccess.read_iff_taken leader).1 hreply.symm
  exact ⟨reply, hasked, config, actual, (ConsoleAccess.store_mem_iff hcarried).1 hloaded, hwanted, htaken, hlacks⟩

end

/-- For every way in which the surroundings answer and every console. A patch follows a reply that was taken for a
config, and has the sections of the document that was loaded, of which that config lacks one. When the config was
asked for, it is patched exactly if the reply is taken for a config that lacks a section. A call that failed is
never followed by a patch, unless it brought a payload that is no JSON. -/
theorem uploads_over_taken (access : ConsoleAccess) (key : ObjectKey) (w : Talk Wiring) (r : PassResult)
    (c : ConfigPass) (h : (access.wired (Pass.run steps (MemberPass.start key))).Goes [] w (r, c)) :
    (∀ e reply, (⟨Wiring.Ask.exec e, reply⟩ : Turn Wiring) ∈ w → e.script = Script.patchConfig →
      ∃ answer wanted, (⟨Wiring.Ask.exec (AdminRequest.cartridgeConfig e.pod).exec, answer⟩ : Turn Wiring) ∈ w ∧
        Lacks key w answer wanted ∧ e = (AdminRequest.applyCartridgeConfig e.pod wanted).exec) ∧
    ∀ e reply, (⟨Wiring.Ask.exec e, reply⟩ : Turn Wiring) ∈ w → e.script = Script.clusterwideConfig →
      ((∃ e' ∈ w, e'.ask.Runs Script.patchConfig) ↔ ∃ wanted, Lacks key w reply wanted) ∧
      ∀ fault, access.outcome reply = .error fault →
        (¬∃ transcript, reply = some (.session transcript) ∧ Transcript.Garbled transcript) →
        ∀ e' ∈ w, ¬e'.ask.Runs Script.patchConfig := by
  obtain ⟨t, hcarried, hgoes⟩ := ConsoleAccess.goes_of_wired h
  have htold : Told key t := told_of_goes_run hgoes
  constructor
  · intro e reply he hscript
    obtain ⟨q, rfl, hturn⟩ := ConsoleAccess.exists_admin hcarried he
    obtain ⟨leader, wanted, rfl⟩ := eq_applyCartridgeConfig_of_script hscript
    obtain ⟨answer, hasked, hlacks⟩ := htold.exists_lacks_of_patch hcarried hturn
    exact ⟨answer, wanted, hasked, hlacks, rfl⟩
  · intro e reply he hscript
    obtain ⟨q, rfl, hturn⟩ := ConsoleAccess.exists_admin hcarried he
    obtain ⟨leader, rfl⟩ := eq_cartridgeConfig_of_script hscript
    have hiff := htold.runs_patch_iff hcarried hturn
    refine ⟨hiff, fun fault hfailed hclear e' he' hruns => ?_⟩
    obtain ⟨wanted, config, actual, _, _, htaken, _⟩ := hiff.1 ⟨e', he', hruns⟩
    exact hclear (ConsoleAccess.garbled_of_taken htaken hfailed).2

/-! ### An example: what a console says of the config of a shop -/

/-- How the consoles of the shop are reached. -/
def shopAccess : ConsoleAccess := ⟨none, ConsoleAccess.defaultLimit⟩

/-- The document is stored, the leader has applied its roles, and the config is told by a reply. -/
def answerWith (reply : Option Http.Reply) : (q : Wiring.Ask) → Wiring.Answer q
  | .store (.get .cartridgeConfig _ _) => .ok (some document)
  | .store (.get .cluster _ _) => .ok (some Shop.shop)
  | .store (.get .pod _ name) => .ok (some (Shop.podOf name))
  | .store _ => .error (.conflict "CartridgeConfig" "settings")
  | .exec e =>
    if e.script = Script.clusterwideConfig then reply
    else some (.session (Transcript.render true (.object [("res", .bool true)])))
  | .record .. => ()
  | .log .. => ()

/-- A pass over the document; irreducible, as `loaded` is. -/
@[irreducible] def shopPass : Program Wiring (PassResult × ConfigPass) :=
  shopAccess.wired (Pass.run steps (MemberPass.start ⟨"db", "settings"⟩))

/-- What the pass says when the config is told by a reply. -/
def shopTalk (reply : Option Http.Reply) : Talk Wiring := shopPass.hear (answerWith reply) []

theorem exists_goes_shopTalk (reply : Option Http.Reply) : ∃ r c, shopPass.Goes [] (shopTalk reply) (r, c) := by
  have hgoes := goes_hear (answerWith reply) shopPass []
  exact ⟨_, _, hgoes⟩

/-- Whether a script is run. -/
def runs (script : String) (e : Turn Wiring) : Bool :=
  match e.ask with
  | .exec x => decide (x.script = script)
  | _ => false

theorem exists_exec_of_runs {script : String} {e : Turn Wiring} (h : runs script e = true) :
    ∃ x, e.ask = .exec x ∧ x.script = script := by
  rw [runs] at h
  split at h
  next x hask => exact ⟨x, hask, of_decide_eq_true h⟩
  next => cases h

/-- The config is told by the reply. -/
theorem exists_read (reply : Option Http.Reply)
    (h : (shopTalk reply).any (runs Script.clusterwideConfig) = true) :
    ∃ x, x.script = Script.clusterwideConfig ∧ (⟨Wiring.Ask.exec x, reply⟩ : Turn Wiring) ∈ shopTalk reply := by
  obtain ⟨⟨_, answer⟩, he, hruns⟩ := List.any_eq_true.1 h
  obtain ⟨x, rfl, hscript⟩ := exists_exec_of_runs hruns
  have hanswer : answer = answerWith reply (.exec x) := answer_of_mem_hear he
  rw [answerWith, if_pos hscript] at hanswer
  exact ⟨x, hscript, hanswer ▸ he⟩

/-- When the console says nothing the config is left as it is. -/
theorem silent_config_left :
    ∃ w r c x, shopPass.Goes [] w (r, c) ∧ x.script = Script.clusterwideConfig ∧
      (⟨Wiring.Ask.exec x, some .silence⟩ : Turn Wiring) ∈ w ∧ ∀ e ∈ w, ¬e.ask.Runs Script.patchConfig := by
  obtain ⟨r, c, hgoes⟩ := exists_goes_shopTalk (some .silence)
  obtain ⟨x, hscript, hread⟩ := exists_read (some .silence) (by decide +kernel)
  refine ⟨_, r, c, x, hgoes, hscript, hread, ?_⟩
  rw [shopPass] at hgoes
  obtain ⟨_, hreads⟩ := uploads_over_taken shopAccess ⟨"db", "settings"⟩ _ r c hgoes
  exact (hreads x _ hread hscript).2 (.timeout shopAccess.limit) rfl nofun

/-- A transcript with a payload that is no JSON. -/
def garbledTranscript : String := "---\n- ok: true\n  res: bm90IEpTT04=\n...\n"

/-- A call that failed, since its payload is no JSON, is followed by a patch. -/
theorem garbled_config_patched :
    ∃ w r c x, shopPass.Goes [] w (r, c) ∧ x.script = Script.clusterwideConfig ∧
      (⟨Wiring.Ask.exec x, some (.session garbledTranscript)⟩ : Turn Wiring) ∈ w ∧
      shopAccess.outcome (some (.session garbledTranscript)) = .error .decode ∧
      ∃ e ∈ w, e.ask.Runs Script.patchConfig := by
  obtain ⟨r, c, hgoes⟩ := exists_goes_shopTalk (some (.session garbledTranscript))
  obtain ⟨x, hscript, hread⟩ := exists_read (some (.session garbledTranscript)) (by decide +kernel)
  have hgarbled : Transcript.Garbled garbledTranscript :=
    ⟨⟨true, some "bm90IEpTT04=", none⟩, "not JSON".toByteArray.toList, by decide +kernel, by decide +kernel,
      by decide +kernel⟩
  have hpatched : (shopTalk (some (.session garbledTranscript))).any (runs Script.patchConfig) = true := by
    decide +kernel
  obtain ⟨e, he, hruns⟩ := List.any_eq_true.1 hpatched
  exact ⟨_, r, c, x, hgoes, hscript, hread,
    Transcript.decode_eq_error_decode_iff.2 hgarbled, e, he, exists_exec_of_runs hruns⟩

end ConfigPass

end ClusterKeeper
