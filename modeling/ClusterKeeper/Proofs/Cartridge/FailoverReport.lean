import ClusterKeeper.Proofs.Cartridge.FailoverUpdate
import ClusterKeeper.Proofs.Cartridge.Settings

/-!
Failover parameters that are written, reported and compared. A report tells a member of the parameters
if it has what is written of it, that is nothing if nothing is written; settings of a provider may have
further members in the report, and so may the report itself (`FailoverParams.Tells`). What is told is read
as it was, so a report that tells all members is read as the parameters.

Compared is the part of the parameters that their mode makes use of (`FailoverParams.compared`), and this part
is told by few members (`FailoverParams.relevant`).

Main statement: writing, reading and comparing agree (`FailoverParams.written_read_compared`).
-/

namespace ClusterKeeper

namespace Json

/-- A value, or an object in place of an object that agrees with it on the members with the names. -/
inductive Widened (names : List String) : Json → Json → Prop
  | same {j : Json} : Widened names j j
  | object {ms ms' : Members} : (∀ k ∈ names, Entries.get? ms' k = Entries.get? ms k) →
      Widened names (.obj ms) (.obj ms')

end Json

/-- Further members of an object do not change what is read: the names are all that the type knows. -/
def Wire.IgnoresUnknown (α : Type) [Wire α] (names : List String) : Prop :=
  ∀ (a : α) (j : Json), Json.Widened names (Wire.write a) j → Wire.read j = some a ∧ j ≠ .null

namespace Wire.IgnoresUnknown

/-- A type whose values are not written as objects. -/
theorem of_ne_obj {α : Type} [Wire α] [LawfulWire α] (h : ∀ (a : α) ms, Wire.write a ≠ Json.obj ms)
    (names : List String) : IgnoresUnknown α names := by
  intro a j hj
  generalize hwrite : Wire.write a = written at hj
  cases hj with
  | same =>
    subst hwrite
    exact ⟨LawfulWire.read_write a, LawfulWire.write_ne_null a⟩
  | object => exact absurd hwrite (h a _)

/-- A type whose values are written as objects, and are read from any that agrees on the members. -/
theorem of_obj {α : Type} [Wire α] [LawfulWire α] {names : List String} {ms : α → Members}
    (hwrite : ∀ a, Wire.write a = Json.obj (ms a))
    (hread : ∀ a ms', (∀ k ∈ names, Entries.get? ms' k = Entries.get? (ms a) k) →
      Wire.read (Json.obj ms') = some a) : IgnoresUnknown α names := by
  intro a j hj
  rw [hwrite] at hj
  cases hj with
  | same => exact ⟨hread a _ fun _ _ => rfl, nofun⟩
  | object hagree => exact ⟨hread a _ hagree, nofun⟩

end Wire.IgnoresUnknown

namespace Etcd2Params

/-- The members of the settings. -/
def memberNames : List String := ["endpoints", "username", "password", "lock_delay", "prefix"]

theorem ignoresUnknown : Wire.IgnoresUnknown Etcd2Params memberNames := by
  refine Wire.IgnoresUnknown.of_obj (fun _ => rfl) fun p ms' hagree => ?_
  have hget : ∀ k ∈ memberNames, Entries.get? ms' k = _ :=
    fun k hk => (hagree k hk).trans (Member.get?_written _ (by simp [Member.always]) k)
  simp only [Wire.read, Json.record?, Option.bind_eq_bind, Option.bind_some]
  rw [Members.defaulted_write [] (hget "endpoints" (by decide)),
    Members.defaulted_write "" (hget "username" (by decide)),
    Members.defaulted_write "" (hget "password" (by decide)),
    Members.defaulted_write 0 (hget "lock_delay" (by decide)),
    Members.defaulted_write "" (hget "prefix" (by decide))]
  rfl

end Etcd2Params

namespace StateboardParams

/-- The members of the settings. -/
def memberNames : List String := ["uri", "password"]

theorem ignoresUnknown : Wire.IgnoresUnknown StateboardParams memberNames := by
  refine Wire.IgnoresUnknown.of_obj (fun _ => rfl) fun p ms' hagree => ?_
  have hget : ∀ k ∈ memberNames, Entries.get? ms' k = _ :=
    fun k hk => (hagree k hk).trans (Member.get?_written _ (by simp [Member.always]) k)
  simp only [Wire.read, Json.record?, Option.bind_eq_bind, Option.bind_some]
  rw [Members.defaulted_write "" (hget "uri" (by decide)),
    Members.defaulted_write "" (hget "password" (by decide))]
  rfl

end StateboardParams

namespace Members

variable {α : Type} [Wire α] {names : List String} {ms : Members} {k : String}

theorem required_told {a : α} (ht : Wire.IgnoresUnknown α names)
    (h : Option.Rel (Json.Widened names) (Member.always k a).value (Entries.get? ms k)) :
    ms.required k = some a := by
  rw [required]
  generalize Entries.get? ms k = found at h
  cases h with
  | some hj => exact (ht a _ hj).1

theorem defaulted_told [DecidableEq α] {a default : α} (ht : Wire.IgnoresUnknown α names)
    (h : Option.Rel (Json.Widened names) (Member.unlessDefault default k a).value (Entries.get? ms k)) :
    ms.defaulted k default = some a := by
  rw [defaulted]
  generalize Entries.get? ms k = found at h
  rw [Member.unlessDefault] at h
  split at h
  next heq =>
    cases h
    rw [heq]
  next =>
    cases h with
    | some hj => exact (ht a _ hj).1

theorem optional_told {a : Option α} (ht : Wire.IgnoresUnknown α names)
    (h : Option.Rel (Json.Widened names) (Member.ifSome k a).value (Entries.get? ms k)) :
    ms.optional k = some a := by
  rw [optional]
  generalize Entries.get? ms k = found at h
  cases a with
  | none => cases h; rfl
  | some a =>
    cases h with
    | some hj =>
      obtain ⟨hread, hnull⟩ := ht a _ hj
      split
      next h' => cases h'
      next h' => exact absurd (Option.some.inj h') hnull
      next h' => rw [← Option.some.inj h', hread]; rfl

end Members

namespace FailoverParams

variable {p q : FailoverParams} {names : List String} {report : Members}

/-- The members that are known of the value of a member. -/
def innerNames : String → List String
  | "etcd2_params" => Etcd2Params.memberNames
  | "stateboard_params" => StateboardParams.memberNames
  | _ => []

/-- The report has what is written of the parameters under the names. -/
def Tells (p : FailoverParams) (names : List String) (report : Members) : Prop :=
  ∀ k ∈ names, Option.Rel (Json.Widened (innerNames k)) (Entries.get? (Member.written p.members) k)
    (Entries.get? report k)

/-- The members of the report under the names are read as those of the parameters. -/
structure Read (p : FailoverParams) (names : List String) (report : Members) : Prop where
  mode : "mode" ∈ names → report.required "mode" = some p.mode
  timeout : "failover_timeout" ∈ names → report.defaulted "failover_timeout" 0 = some p.timeout
  stateProvider : "state_provider" ∈ names → report.optional "state_provider" = some p.stateProvider
  fencingEnabled : "fencing_enabled" ∈ names →
    report.defaulted "fencing_enabled" false = some p.fencingEnabled
  fencingTimeout : "fencing_timeout" ∈ names → report.defaulted "fencing_timeout" 0 = some p.fencingTimeout
  fencingPause : "fencing_pause" ∈ names → report.defaulted "fencing_pause" 0 = some p.fencingPause
  etcd2 : "etcd2_params" ∈ names → report.optional "etcd2_params" = some p.etcd2
  stateboard : "stateboard_params" ∈ names → report.optional "stateboard_params" = some p.stateboard

/-- What is told is read as it was. -/
theorem Tells.read (h : p.Tells names report) : p.Read names report := by
  have hget : ∀ k ∈ names, Option.Rel (Json.Widened (innerNames k))
      ((p.members.find? (·.key = k)).bind Member.value) (Entries.get? report k) := by
    intro k hk
    rw [← Member.get?_written _ (by simp [members, Member.always, Member.unlessDefault, Member.ifSome]) k]
    exact h k hk
  exact {
    mode := fun hk => Members.required_told (.of_ne_obj (fun _ _ h => by cases h) _) (hget _ hk)
    timeout := fun hk => Members.defaulted_told (.of_ne_obj (fun _ _ h => by cases h) _) (hget _ hk)
    stateProvider := fun hk => Members.optional_told (.of_ne_obj (fun _ _ h => by cases h) _) (hget _ hk)
    fencingEnabled := fun hk => Members.defaulted_told (.of_ne_obj (fun _ _ h => by cases h) _) (hget _ hk)
    fencingTimeout := fun hk => Members.defaulted_told (.of_ne_obj (fun _ _ h => by cases h) _) (hget _ hk)
    fencingPause := fun hk => Members.defaulted_told (.of_ne_obj (fun _ _ h => by cases h) _) (hget _ hk)
    etcd2 := fun hk => Members.optional_told Etcd2Params.ignoresUnknown (hget _ hk)
    stateboard := fun hk => Members.optional_told StateboardParams.ignoresUnknown (hget _ hk) }

/-- A report is read member by member. -/
theorem read_eq_some_iff : Wire.read (Json.obj report) = some p ↔ p.Read memberNames report := by
  simp only [Wire.read, Json.record?, Option.bind_eq_bind, Option.bind_some,
    Option.bind_eq_some_iff, Option.pure_def, Option.some.injEq]
  constructor
  · rintro ⟨_, hmode, _, htimeout, _, hprovider, _, hfencing, _, hfencingTimeout, _, hpause, _, hetcd2, _,
      hstateboard, rfl⟩
    exact ⟨fun _ => hmode, fun _ => htimeout, fun _ => hprovider, fun _ => hfencing,
      fun _ => hfencingTimeout, fun _ => hpause, fun _ => hetcd2, fun _ => hstateboard⟩
  · intro h
    exact ⟨_, h.mode (by decide), _, h.timeout (by decide), _, h.stateProvider (by decide), _,
      h.fencingEnabled (by decide), _, h.fencingTimeout (by decide), _, h.fencingPause (by decide), _,
      h.etcd2 (by decide), _, h.stateboard (by decide), rfl⟩

/-- The parameters tell themselves. -/
theorem tells_written (p : FailoverParams) (names : List String) :
    p.Tells names (Member.written p.members) := by
  intro k _
  cases Entries.get? (Member.written p.members) k with
  | none => exact .none
  | some j => exact .some .same

/-! ### What is compared -/

/-- The members that the mode and the provider make use of. -/
def relevant (p : FailoverParams) : List String :=
  ["mode", "failover_timeout"] ++
    if p.mode = .stateful then
      ["state_provider", "fencing_enabled", "fencing_timeout", "fencing_pause"] ++
        match p.stateProvider with
        | some .etcd2 => ["etcd2_params"]
        | some .stateboard => ["stateboard_params"]
        | none => []
    else []

/-- The parameters with the default for whatever the mode and the provider make no use of. -/
def compared (p : FailoverParams) : FailoverParams :=
  if p.mode = .stateful then
    { p with
      etcd2 := if p.stateProvider = some .etcd2 then p.etcd2 else none
      stateboard := if p.stateProvider = some .stateboard then p.stateboard else none }
  else plain p.mode p.timeout

theorem compared_mode (p : FailoverParams) : p.compared.mode = p.mode := by
  rw [compared]
  split <;> rfl

/-- Parameters satisfy others exactly if what is compared of them is the same. -/
theorem satisfiedBy_iff_compared_eq : p.SatisfiedBy q ↔ p.compared = q.compared := by
  by_cases hmode : p.mode = q.mode
  · obtain ⟨mode, timeout, provider, fencing, fencingTimeout, pause, etcd2, stateboard⟩ := p
    obtain ⟨mode', timeout', provider', fencing', fencingTimeout', pause', etcd2', stateboard'⟩ := q
    obtain rfl : mode = mode' := hmode
    by_cases hstateful : mode = .stateful
    · subst hstateful
      rcases provider with _ | _ | _ <;> rcases provider' with _ | _ | _ <;>
        simp [SatisfiedBy, ProviderSatisfied, compared]
    · simp [SatisfiedBy, compared, hstateful, plain]
  · have hne : p.compared ≠ q.compared := by
      intro h
      exact hmode (by rw [← compared_mode p, h, compared_mode])
    exact iff_of_false (fun h => hmode h.1) hne

theorem equivalence_satisfiedBy : Equivalence SatisfiedBy := by
  have heq : SatisfiedBy = fun p q => p.compared = q.compared := by
    funext p q
    exact propext satisfiedBy_iff_compared_eq
  rw [heq]
  exact ⟨fun _ => rfl, Eq.symm, Eq.trans⟩

/-- Two parameters that are read from the relevant members of one report. -/
theorem Read.satisfiedBy (h : p.Read p.relevant report) (hq : q.Read memberNames report) :
    p.SatisfiedBy q := by
  have hagree {α : Type} {found : Option α} {a b : α} (ha : found = some a) (hb : found = some b) : a = b :=
    Option.some.inj (ha.symm.trans hb)
  refine ⟨hagree (h.mode (by simp [relevant])) (hq.mode (by decide)),
    hagree (h.timeout (by simp [relevant])) (hq.timeout (by decide)), fun hstateful => ?_⟩
  refine ⟨hagree (h.stateProvider (by simp [relevant, hstateful])) (hq.stateProvider (by decide)),
    hagree (h.fencingEnabled (by simp [relevant, hstateful])) (hq.fencingEnabled (by decide)),
    hagree (h.fencingTimeout (by simp [relevant, hstateful])) (hq.fencingTimeout (by decide)),
    hagree (h.fencingPause (by simp [relevant, hstateful])) (hq.fencingPause (by decide)), ?_⟩
  rw [ProviderSatisfied]
  split
  next hprovider =>
    exact hagree (h.etcd2 (by simp [relevant, hstateful, hprovider])) (hq.etcd2 (by decide))
  next hprovider =>
    exact hagree (h.stateboard (by simp [relevant, hstateful, hprovider])) (hq.stateboard (by decide))
  next => trivial

/-- Parameters are read as they were written, also if the report or the settings in it have further members;
comparing is an equivalence; and parameters are satisfied by whatever is read from a report that tells what is
relevant of them, whatever else is in it. -/
theorem written_read_compared :
    (∀ p : FailoverParams, Wire.read (Wire.write p) = some p) ∧
    (∀ (p : FailoverParams) (report : Members), p.Tells memberNames report →
      Wire.read (Json.obj report) = some p) ∧
    Equivalence SatisfiedBy ∧
    ∀ (p q : FailoverParams) (report : Members), p.Tells p.relevant report →
      Wire.read (Json.obj report) = some q → p.SatisfiedBy q := by
  refine ⟨fun p => ?_, fun p report h => ?_, equivalence_satisfiedBy, fun p q report h hq => ?_⟩
  · exact read_eq_some_iff.2 (p.tells_written memberNames).read
  · exact read_eq_some_iff.2 h.read
  · exact h.read.satisfiedBy (read_eq_some_iff.1 hq)

/-! ### An example: a report with more in it -/

/-- A report of stateful failover with a member that is unknown, and settings that have one too. -/
def chatty (more : Members) : Members :=
  more ++ [("leader_autoreturn", .bool false), ("mode", .str "stateful"), ("failover_timeout", .int 20),
    ("state_provider", .str "stateboard"), ("fencing_enabled", .bool true), ("fencing_timeout", .int 10),
    ("fencing_pause", .int 2),
    ("stateboard_params", .obj [("password", .str ""), ("retries", .int 3), ("uri", .str "stateboard:4401")])]

/-- The report is read as the parameters; with settings of the other provider in it, it still satisfies them. -/
theorem chatty_satisfies :
    Wire.read (Json.obj (chatty [])) = some (stateful true) ∧
      ∃ q, Wire.read (Json.obj (chatty [("etcd2_params", .obj [])])) = some q ∧ q ≠ stateful true ∧
        (stateful true).SatisfiedBy q := by
  obtain ⟨_, hread, _, hcompared⟩ := written_read_compared
  have hsettings : Json.Widened StateboardParams.memberNames
      (.obj [("password", .str ""), ("uri", .str "stateboard:4401")])
      (.obj [("password", .str ""), ("retries", .int 3), ("uri", .str "stateboard:4401")]) :=
    .object (by decide)
  refine ⟨hread _ _ ?_, { stateful true with etcd2 := some ⟨[], "", "", 0, ""⟩ }, rfl, by decide,
    hcompared _ _ (chatty [("etcd2_params", .obj [])]) ?_ rfl⟩
  · simp only [Tells, memberNames, List.forall_mem_cons]
    exact ⟨.some .same, .some .same, .some .same, .some .same, .some .same, .some .same, .none,
      .some hsettings, nofun⟩
  · simp only [Tells, relevant, stateful, plain, if_pos, List.cons_append, List.nil_append, List.forall_mem_cons]
    exact ⟨.some .same, .some .same, .some .same, .some .same, .some .same, .some .same,
      .some hsettings, nofun⟩

end FailoverParams

end ClusterKeeper
