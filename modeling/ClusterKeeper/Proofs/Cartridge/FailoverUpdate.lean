import ClusterKeeper.Pass.ClusterPass
import ClusterKeeper.Proofs.Json.Wire
import ClusterKeeper.Proofs.Pass.Requests

/-!
What comes of setting failover parameters. The argument of the call leaves out the members that have
their default, and an instance that overwrites no more than the members that it is sent keeps its own
values for these (`FailoverParams.overwriting`). So the parameters that it reports then satisfy the wanted ones
exactly if it reported the defaults for whatever is left out and compared (`FailoverParams.Covers`).

Main statement: the next pass sets the parameters again exactly if they are not covered
(`FailoverParams.update_satisfies_iff`).
-/

namespace ClusterKeeper

open Program

namespace LawfulWire

instance : LawfulWire FailoverMode := ⟨fun m => by cases m <;> rfl, nofun⟩

instance : LawfulWire StateProvider := ⟨fun p => by cases p <;> rfl, nofun⟩

instance : LawfulWire Etcd2Params :=
  .of_present (fun _ => rfl) (fun _ => by simp [Member.always]) fun p found hget => by
    simp only [Wire.read, Json.record?, Option.bind_eq_bind, Option.bind_some]
    rw [Members.defaulted_write [] (hget "endpoints"), Members.defaulted_write "" (hget "username"),
      Members.defaulted_write "" (hget "password"), Members.defaulted_write 0 (hget "lock_delay"),
      Members.defaulted_write "" (hget "prefix")]
    rfl

instance : LawfulWire StateboardParams :=
  .of_present (fun _ => rfl) (fun _ => by simp [Member.always]) fun p found hget => by
    simp only [Wire.read, Json.record?, Option.bind_eq_bind, Option.bind_some]
    rw [Members.defaulted_write "" (hget "uri"), Members.defaulted_write "" (hget "password")]
    rfl

end LawfulWire

namespace FailoverParams

/-- The parameters after others were sent to an instance that overwrites the members that it is sent. -/
def overwriting (sent reported : FailoverParams) : FailoverParams where
  mode := sent.mode
  timeout := if sent.timeout = 0 then reported.timeout else sent.timeout
  stateProvider := sent.stateProvider.or reported.stateProvider
  fencingEnabled := if sent.fencingEnabled = false then reported.fencingEnabled else sent.fencingEnabled
  fencingTimeout := if sent.fencingTimeout = 0 then reported.fencingTimeout else sent.fencingTimeout
  fencingPause := if sent.fencingPause = 0 then reported.fencingPause else sent.fencingPause
  etcd2 := sent.etcd2.or reported.etcd2
  stateboard := sent.stateboard.or reported.stateboard

/-- The reported parameters have the default wherever the wanted ones have it and are compared. -/
structure Covers (wanted reported : FailoverParams) : Prop where
  timeout : wanted.timeout = 0 → reported.timeout = 0
  stateProvider : wanted.mode = .stateful → wanted.stateProvider = none → reported.stateProvider = none
  fencingEnabled : wanted.mode = .stateful → wanted.fencingEnabled = false → reported.fencingEnabled = false
  fencingTimeout : wanted.mode = .stateful → wanted.fencingTimeout = 0 → reported.fencingTimeout = 0
  fencingPause : wanted.mode = .stateful → wanted.fencingPause = 0 → reported.fencingPause = 0
  etcd2 : wanted.mode = .stateful → wanted.stateProvider = some .etcd2 → wanted.etcd2 = none →
    reported.etcd2 = none
  stateboard : wanted.mode = .stateful → wanted.stateProvider = some .stateboard →
    wanted.stateboard = none → reported.stateboard = none

variable {wanted reported : FailoverParams}

/-- The members of parameters as they are sent. -/
def members (p : FailoverParams) : List Member := [
  .always "mode" p.mode,
  .unlessDefault 0 "failover_timeout" p.timeout,
  .ifSome "state_provider" p.stateProvider,
  .unlessDefault false "fencing_enabled" p.fencingEnabled,
  .unlessDefault 0 "fencing_timeout" p.fencingTimeout,
  .unlessDefault 0 "fencing_pause" p.fencingPause,
  .ifSome "etcd2_params" p.etcd2,
  .ifSome "stateboard_params" p.stateboard]

/-- The members that are sent, over those of a report. -/
theorem read_union {j report : SortedMap Json} (hsent : Wire.write wanted = Json.ofMap j)
    (hreport : Wire.read (Json.ofMap report) = some reported) :
    Wire.read (Json.ofMap (report.union j)) = some (wanted.overwriting reported) := by
  have hget : ∀ k, Entries.get? (report.union j).entries k =
      ((wanted.members.find? (·.key = k)).bind Member.value).or (Entries.get? report.entries k) := by
    intro k
    have hj : Member.written wanted.members = j.entries := Json.obj.inj hsent
    rw [← Member.get?_written _ (by simp [members, Member.always, Member.unlessDefault, Member.ifSome]) k, hj]
    exact SortedMap.get?_union
  simp only [Wire.read, Json.ofMap, Json.record?, Option.bind_eq_bind, Option.bind_some,
    Option.bind_eq_some_iff, Option.pure_def, Option.some.injEq] at hreport
  obtain ⟨mode, hmode, timeout, htimeout, provider, hprovider, fencing, hfencing, fencingTimeout,
    hfencingTimeout, pause, hpause, etcd2, hetcd2, stateboard, hstateboard, rfl⟩ := hreport
  simp only [Wire.read, Json.ofMap, Json.record?, Option.bind_eq_bind, Option.bind_some]
  rw [Members.required_write (hget "mode"), Members.defaulted_or htimeout (hget _),
    Members.optional_or hprovider (hget _), Members.defaulted_or hfencing (hget _),
    Members.defaulted_or hfencingTimeout (hget _), Members.defaulted_or hpause (hget _),
    Members.optional_or hetcd2 (hget _), Members.optional_or hstateboard (hget _)]
  rfl

theorem eq_ite_iff {α : Type} [DecidableEq α] {a b default : α} :
    a = (if a = default then b else a) ↔ (a = default → b = default) := by
  split
  next heq => simp [heq, eq_comm]
  next hne => simp [hne]

theorem eq_or_iff {α : Type} {a b : Option α} : a = a.or b ↔ (a = none → b = none) := by
  cases a <;> simp [eq_comm]

/-- What is kept of a report is as wanted exactly if it is the default where it is compared. -/
theorem satisfiedBy_overwriting_iff : wanted.SatisfiedBy (wanted.overwriting reported) ↔ wanted.Covers reported := by
  have hprovider : wanted.ProviderSatisfied (wanted.overwriting reported) ↔
      (wanted.stateProvider = some .etcd2 → wanted.etcd2 = none → reported.etcd2 = none) ∧
        (wanted.stateProvider = some .stateboard → wanted.stateboard = none → reported.stateboard = none) := by
    rw [ProviderSatisfied, overwriting]
    split <;> simp_all [eq_or_iff]
  rw [SatisfiedBy, hprovider]
  simp only [overwriting, eq_ite_iff, eq_or_iff, true_and]
  constructor
  · rintro ⟨htimeout, hrest⟩
    exact ⟨htimeout, fun h => (hrest h).1, fun h => (hrest h).2.1, fun h => (hrest h).2.2.1,
      fun h => (hrest h).2.2.2.1, fun h => (hrest h).2.2.2.2.1, fun h => (hrest h).2.2.2.2.2⟩
  · rintro h
    exact ⟨h.timeout, fun hm => ⟨h.stateProvider hm, h.fencingEnabled hm, h.fencingTimeout hm,
      h.fencingPause hm, h.etcd2 hm, h.stateboard hm⟩⟩

end FailoverParams

namespace ClusterPass

/-- The request sets failover parameters. -/
def SetsFailover (q : Request) : Prop := ∃ leader params, q = .admin (.setFailoverParams leader params)

/-- What the failover step says once it was told the wanted parameters, or was not: the report is asked for,
and the parameters are set if it does not satisfy them. -/
inductive Course (leader : Pod) (t : Talk Surroundings) : Except OperatorError FailoverParams →
    Talk Surroundings → Prop
  | unknown {e : OperatorError} : Course leader t (.error e) t
  | unreported {wanted : FailoverParams} {e : AdminError} :
      Course leader t (.ok wanted) (⟨Request.admin (.failoverParams leader), Except.error e⟩ :: t)
  | satisfied {wanted reported : FailoverParams} : wanted.SatisfiedBy reported →
      Course leader t (.ok wanted) (⟨Request.admin (.failoverParams leader), Except.ok reported⟩ :: t)
  | sets {wanted reported : FailoverParams} {accepted : Except AdminError Unit} : ¬wanted.SatisfiedBy reported →
      Course leader t (.ok wanted) (⟨Request.admin (.setFailoverParams leader wanted), accepted⟩ ::
        ⟨Request.log .info "Applying failover parameters", ()⟩ ::
        ⟨Request.admin (.failoverParams leader), Except.ok reported⟩ :: t)

theorem course_of_goes {c : ClusterPass} {cluster : Cluster} {leader : Pod} {t t' : Talk Surroundings}
    {r : Outcome × ClusterPass} (hcluster : c.cluster = some cluster) (hleader : c.leader = some leader)
    (hgoes : (configureFailover.run c).Goes t t' r) :
    ∃ t₁ w, (Failover.wanted cluster).run.Goes t t₁ w ∧ Course leader t₁ w t' := by
  rw [configureFailover, Step.reading, Step.ofAttempt, goes_bind] at hgoes
  simp only [loaded, known, hcluster, hleader, pure_bind, goes_run_bind] at hgoes
  obtain ⟨_, result, ⟨t₃, outcome, ⟨t₁, w, hw, hrest⟩, hresult⟩, hend⟩ := hgoes
  obtain rfl : t' = t₃ := by
    cases result <;> cases outcome <;> exact hend.1.trans hresult.1
  refine ⟨t₁, w, hw, ?_⟩
  cases w with
  | error e =>
    obtain ⟨rfl, _⟩ := hrest
    exact .unknown
  | ok wanted =>
    obtain ⟨_, answer, hasked, hrest⟩ := hrest
    obtain ⟨a, rfl, rfl⟩ := goes_run_admin.1 hasked
    cases a with
    | error e =>
      obtain ⟨rfl, _⟩ := hrest
      exact .unreported
    | ok reported =>
      dsimp only [Except.mapError] at hrest
      split at hrest
      next hsatisfied =>
        obtain ⟨rfl, _⟩ := hrest
        exact .satisfied hsatisfied
      next hnot =>
        rw [goes_run_bind] at hrest
        obtain ⟨_, _, ⟨_, rfl, rfl⟩, hrest⟩ := hrest
        rw [goes_run_bind] at hrest
        obtain ⟨_, _, hset, hrest⟩ := hrest
        obtain ⟨accepted, rfl, rfl⟩ := goes_run_admin.1 hset
        cases accepted <;> obtain ⟨rfl, _⟩ := hrest <;> exact .sets hnot

/-- The failover step sets parameters exactly if the reported ones do not satisfy the wanted ones. -/
theorem configureFailover_sets_iff {c : ClusterPass} {cluster : Cluster} {leader : Pod}
    {wanted reported : FailoverParams} {t t₁ said : Talk Surroundings} {r : Outcome × ClusterPass}
    (hcluster : c.cluster = some cluster) (hleader : c.leader = some leader)
    (hwanted : (Failover.wanted cluster).run.Goes t t₁ (.ok wanted))
    (hgoes : (configureFailover.run c).Goes t
      (said ++ ⟨Request.admin (.failoverParams leader), Except.ok reported⟩ :: t₁) r) :
    (∃ e ∈ said, SetsFailover e.ask) ↔ ¬wanted.SatisfiedBy reported := by
  obtain ⟨t₂, w, hw, hcourse⟩ := course_of_goes hcluster hleader hgoes
  generalize htalk : said ++ ⟨Request.admin (.failoverParams leader), Except.ok reported⟩ :: t₁ = t' at hcourse
  have hasked : t₁ <:+ t' := htalk ▸ (List.suffix_cons _ _).trans (List.suffix_append said _)
  have hafter : t₂ <:+ t' := by
    cases hcourse with
    | unknown => exact List.suffix_rfl
    | unreported => exact List.suffix_cons _ _
    | satisfied _ => exact List.suffix_cons _ _
    | sets _ => exact ⟨[_, _, _], rfl⟩
  -- the wanted parameters are told by the turns before the report
  obtain ⟨rfl, rfl⟩ := hwanted.eq_of_suffix hw hasked hafter
  cases hcourse with
  | unreported =>
    obtain ⟨_, hhead⟩ := List.append_inj' (htalk.trans (List.nil_append _).symm) rfl
    simp at hhead
  | @satisfied _ reported' hsatisfied =>
    obtain ⟨rfl, hhead⟩ := List.append_inj' (htalk.trans (List.nil_append _).symm) rfl
    obtain rfl : reported = reported' := by simpa using hhead
    simp [hsatisfied]
  | @sets _ reported' accepted hnot =>
    have hsplit : said ++ ⟨Request.admin (.failoverParams leader), Except.ok reported⟩ :: t₁ =
        [⟨Request.admin (.setFailoverParams leader wanted), accepted⟩,
          ⟨Request.log .info "Applying failover parameters", ()⟩] ++
          ⟨Request.admin (.failoverParams leader), Except.ok reported'⟩ :: t₁ := htalk
    obtain ⟨rfl, hhead⟩ := List.append_inj' hsplit rfl
    obtain rfl : reported = reported' := by simpa using hhead
    simp [hnot, SetsFailover]

end ClusterPass

namespace FailoverParams

/-- Whatever is wanted, and whatever was reported when it was sent: the instance overwrites the members
that it is sent and keeps the others, so that it then reports parameters that satisfy the wanted ones
exactly if the former ones have the default wherever the wanted ones have it and are compared; and if
not, every pass that asks for them and is told them sets them again. -/
theorem update_satisfies_iff {wanted reported : FailoverParams} {j report : SortedMap Json} (leader : Pod)
    (hsent : (AdminRequest.setFailoverParams leader wanted).args = [Json.ofMap j])
    (hreport : Wire.read (Json.ofMap report) = some reported) :
    ∃ updated, Wire.read (Json.ofMap (report.union j)) = some updated ∧
      (wanted.SatisfiedBy updated ↔ wanted.Covers reported) ∧
      ∀ c cluster leader t t₁ said r, ClusterPass.cluster c = some cluster → c.leader = some leader →
        (Failover.wanted cluster).run.Goes t t₁ (.ok wanted) →
        (ClusterPass.configureFailover.run c).Goes t
          (said ++ ⟨Request.admin (.failoverParams leader), Except.ok updated⟩ :: t₁) r →
        ((∃ e ∈ said, ClusterPass.SetsFailover e.ask) ↔ ¬wanted.Covers reported) := by
  have hwritten : Wire.write wanted = Json.ofMap j := (List.cons.inj hsent).1
  refine ⟨wanted.overwriting reported, read_union hwritten hreport, satisfiedBy_overwriting_iff, ?_⟩
  intro c cluster leader t t₁ said r hcluster hleader hwanted hgoes
  rw [ClusterPass.configureFailover_sets_iff hcluster hleader hwanted hgoes, satisfiedBy_overwriting_iff]

/-! ### An example: fencing in stateful mode -/

/-- Stateful failover of a shop, with a stateboard. -/
def stateful (fencing : Bool) : FailoverParams :=
  { plain .stateful 20 with
    stateProvider := some .stateboard
    fencingEnabled := fencing
    fencingTimeout := 10
    fencingPause := 2
    stateboard := some ⟨"stateboard:4401", ""⟩ }

/-- The shop. -/
def shop (fencing : Bool) : Cluster where
  metadata := { ObjectMeta.blank with name := some "shop", ns := some "db" }
  spec := { ClusterSpec.default with
    failover := { FailoverSpec.default with
      mode := .stateful
      stateProvider := some .stateboard
      fencing
      stateboard := some ⟨"stateboard:4401", none⟩ } }
  status := none

/-- The leader of the shop. -/
def router : Pod := ⟨{ ObjectMeta.blank with name := some "router-0-0", ns := some "db" }, none, none⟩

/-- A pass over the shop that knows its leader. -/
def led (fencing : Bool) : ClusterPass := ⟨⟨"db", "shop"⟩, some (shop fencing), some router⟩

/-- Parameters as they are on the wire. -/
def wire (p : FailoverParams) : SortedMap Json := ⟨Member.written p.members, Entries.ordered_sort _⟩

/-- Fencing can be enabled: it is reported then, and not set again. -/
theorem fencing_enabled_once :
    ∃ updated, Wire.read (Json.ofMap ((wire (stateful false)).union (wire (stateful true)))) = some updated ∧
      (stateful true).SatisfiedBy updated ∧
      ∀ said r, (ClusterPass.configureFailover.run (led true)).Goes []
        (said ++ [⟨Request.admin (.failoverParams router), Except.ok updated⟩]) r →
        ¬∃ e ∈ said, ClusterPass.SetsFailover e.ask := by
  have hcovers : (stateful true).Covers (stateful false) := by
    constructor <;> simp [stateful, plain]
  have hsent : (AdminRequest.setFailoverParams router (stateful true)).args =
      [Json.ofMap (wire (stateful true))] := rfl
  have hreport : Wire.read (Json.ofMap (wire (stateful false))) = some (stateful false) := by rfl
  obtain ⟨updated, hread, hsatisfied, hsets⟩ := update_satisfies_iff router hsent hreport
  refine ⟨updated, hread, hsatisfied.2 hcovers, fun said r hgoes => ?_⟩
  rw [hsets (led true) (shop true) router [] [] said r rfl rfl ⟨rfl, rfl⟩ hgoes]
  exact not_not_intro hcovers

/-- Fencing cannot be disabled: the argument says nothing of it, so that it is reported as before and set
again. -/
theorem fencing_never_disabled :
    ¬(stateful false).SatisfiedBy (stateful true) ∧
      (AdminRequest.setFailoverParams router (stateful false)).args = [Json.ofMap (wire (stateful false))] ∧
      ∃ updated, Wire.read (Json.ofMap ((wire (stateful true)).union (wire (stateful false)))) = some updated ∧
        ¬(stateful false).SatisfiedBy updated ∧
        ∃ said r, (ClusterPass.configureFailover.run (led false)).Goes []
          (said ++ [⟨Request.admin (.failoverParams router), Except.ok updated⟩]) r ∧
          ∃ e ∈ said, ClusterPass.SetsFailover e.ask := by
  refine ⟨by decide, rfl, stateful true, by rfl, by decide,
    [⟨Request.admin (.setFailoverParams router (stateful false)), Except.ok ()⟩,
      ⟨Request.log .info "Applying failover parameters", ()⟩], (.next, led false), ?_, ?_⟩
  · exact ⟨Except.ok (stateful true), (), Except.ok (), rfl, rfl⟩
  · exact ⟨_, List.mem_cons_self, router, stateful false, rfl⟩

end FailoverParams

end ClusterKeeper
