import ClusterKeeper.Proofs.Cartridge.FailoverUpdate
import ClusterKeeper.Proofs.Failover

/-!
How failover is configured: the parameters that a cluster asks for are made out first, then the running ones are
read, and the former are set as a whole if the latter do not satisfy them.

What the wanted parameters take is told by the specification and by at most one look at the store, for the secret
of the provider that is named. What is said meanwhile, and what comes of it, is listed case by case
(`Failover.Resolves`); that a password is there, and that no settings of another provider are in the parameters,
follows from the list (`Failover.Resolution`).

Main statement: `ClusterPass.failover_whole_or_none`.
-/

namespace ClusterKeeper

open Program

/-! ### The settings of a provider -/

namespace FailoverSpec

/-- The reference to a password in the settings of a provider, when there are such settings. -/
def reference (s : FailoverSpec) : StateProvider → Option (Option SecretReference)
  | .etcd2 => s.etcd2.map (·.password)
  | .stateboard => s.stateboard.map (·.password)

/-- The parameters of stateful failover with a provider and its settings, and no others. -/
def params (s : FailoverSpec) (provider : StateProvider) (password : String) : FailoverParams where
  mode := s.mode
  timeout := s.timeout
  stateProvider := some provider
  fencingEnabled := s.fencing
  fencingTimeout := s.fencingTimeout
  fencingPause := s.fencingPause
  etcd2 := match provider with
    | .etcd2 => s.etcd2.map fun e => ⟨e.endpoints, e.username, password, e.lockDelay, e.keyPrefix⟩
    | .stateboard => none
  stateboard := match provider with
    | .etcd2 => none
    | .stateboard => s.stateboard.map fun b => ⟨b.uri, password⟩

end FailoverSpec

/-- The text under a key of a secret, if the key is there and its bytes are text. -/
def Secret.text? (secret : Secret) (key : String) : Option String :=
  (secret.data.bind (·.get? key)).bind Bytes.text?

namespace Failover

/-- The store is asked for the secret of a reference, which is in the cluster's namespace unless it says otherwise. -/
abbrev secretTold (ns : String) (r : SecretReference) (answer : Except OperatorError (Option Secret)) :
    Turn Surroundings :=
  ⟨Request.store (.get .secret (r.ns.getD ns) r.name), answer⟩

/-- The text in the secret of a reference, under the key of the reference or else that of the provider. -/
def textTold (provider : StateProvider) (r : SecretReference) : Except OperatorError (Option Secret) → Option String
  | .ok (some secret) => secret.text? (r.key.getD (defaultKey provider))
  | _ => none

/-- What is said to get the password of a provider, and the password that comes of it. -/
inductive Unlocks (ns : String) (provider : StateProvider) :
    Option SecretReference → Talk Surroundings → Option String → Prop
  | bare : Unlocks ns provider none [] (some "")
  | secret (r : SecretReference) (answer : Except OperatorError (Option Secret)) :
      Unlocks ns provider (some r) [secretTold ns r answer] (textTold provider r answer)

theorem password_unlocks (ns : String) (provider : StateProvider) (ref : Option SecretReference)
    (t : Talk Surroundings) :
    KeepsOr (fun _ _ => True) (password ns provider ref)
      (fun t' text => ∃ said, t' = said ++ t ∧ Unlocks ns provider ref said (some text))
      (fun t' _ => ∃ said, t' = said ++ t ∧ Unlocks ns provider ref said none) t := by
  cases ref with
  | none => exact ⟨[], rfl, .bare⟩
  | some r =>
    have hsaid : ∀ {answer text}, textTold provider r answer = text → ∃ said,
        secretTold ns r answer :: t = said ++ t ∧ Unlocks ns provider (some r) said text := by
      rintro answer _ rfl
      exact ⟨[_], rfl, .secret r answer⟩
    rw [password, readPassword]
    dsimp only
    rw [keepsOr_bind, Attempt.get, keepsOr_store]
    refine ⟨trivial, fun secret => ?_, fun e => hsaid rfl⟩
    cases secret with
    | none => exact hsaid rfl
    | some secret =>
      have hdata : (secret.data.getD .empty).get? (r.key.getD (defaultKey provider)) =
          secret.data.bind (·.get? (r.key.getD (defaultKey provider))) := by
        cases secret.data <;> rfl
      dsimp only
      rw [hdata]
      split
      next hkey => exact hsaid (by rw [textTold, Secret.text?, hkey]; rfl)
      next bytes hkey =>
        split
        next hbytes => exact hsaid (by rw [textTold, Secret.text?, hkey]; exact hbytes)
        next text hbytes => exact hsaid (by rw [textTold, Secret.text?, hkey]; exact hbytes)

/-- What is said to make out the parameters that a cluster asks for, and what comes of it. -/
inductive Resolves (cluster : Cluster) : Talk Surroundings → Except OperatorError FailoverParams → Prop
  | plain : cluster.spec.failover.mode ≠ .stateful →
      Resolves cluster [] (.ok (.plain cluster.spec.failover.mode cluster.spec.failover.timeout))
  | unnamed (e : OperatorError) : cluster.spec.failover.mode = .stateful →
      cluster.spec.failover.stateProvider = none → Resolves cluster [] (.error e)
  | unset (provider : StateProvider) (e : OperatorError) : cluster.spec.failover.mode = .stateful →
      cluster.spec.failover.stateProvider = some provider → cluster.spec.failover.reference provider = none →
      Resolves cluster [] (.error e)
  | locked (provider : StateProvider) (ref : Option SecretReference) (said : Talk Surroundings) (e : OperatorError) :
      cluster.spec.failover.mode = .stateful → cluster.spec.failover.stateProvider = some provider →
      cluster.spec.failover.reference provider = some ref → Unlocks cluster.nsOf provider ref said none →
      Resolves cluster said (.error e)
  | settled (provider : StateProvider) (ref : Option SecretReference) (said : Talk Surroundings) (password : String) :
      cluster.spec.failover.mode = .stateful → cluster.spec.failover.stateProvider = some provider →
      cluster.spec.failover.reference provider = some ref →
      Unlocks cluster.nsOf provider ref said (some password) →
      Resolves cluster said (.ok (cluster.spec.failover.params provider password))

/-- With a provider and its settings, all that is left to make out is the password. -/
theorem password_resolves {cluster : Cluster} {provider : StateProvider} {ref : Option SecretReference}
    {settings : String → FailoverParams} (hmode : cluster.spec.failover.mode = .stateful)
    (hnamed : cluster.spec.failover.stateProvider = some provider)
    (href : cluster.spec.failover.reference provider = some ref)
    (hparams : cluster.spec.failover.params provider = settings) (t : Talk Surroundings) :
    KeepsOr (fun _ _ => True) (do return settings (← password cluster.nsOf provider ref))
      (fun t' p => ∃ said, t' = said ++ t ∧ Resolves cluster said (.ok p))
      (fun t' e => ∃ said, t' = said ++ t ∧ Resolves cluster said (.error e)) t := by
  rw [keepsOr_bind]
  refine (password_unlocks _ _ _ t).mono ?_ ?_
  · rintro t' text ⟨said, ht', hsaid⟩
    exact ⟨said, ht', hparams ▸ .settled provider ref said text hmode hnamed href hsaid⟩
  · rintro t' e ⟨said, ht', hsaid⟩
    exact ⟨said, ht', .locked provider ref said e hmode hnamed href hsaid⟩

theorem wanted_resolves (cluster : Cluster) (t : Talk Surroundings) :
    Keeps (fun _ _ => True) (wanted cluster).run (fun t' res => ∃ said, t' = said ++ t ∧ Resolves cluster said res)
      t := by
  rw [keeps_run, wanted]
  dsimp only
  rw [keepsOr_ite]
  refine ⟨fun hplain => ⟨[], rfl, .plain hplain⟩, fun hstateful => ?_⟩
  have hmode := not_not.1 hstateful
  split
  next hnamed => exact ⟨[], rfl, .unnamed _ hmode hnamed⟩
  next hnamed =>
    split
    next hset => exact ⟨[], rfl, .unset .etcd2 _ hmode hnamed (by rw [FailoverSpec.reference, hset]; rfl)⟩
    next e hset =>
      refine password_resolves hmode hnamed (by rw [FailoverSpec.reference, hset]; rfl) (funext fun text => ?_) t
      rw [FailoverSpec.params, hset]
      rfl
  next hnamed =>
    split
    next hset => exact ⟨[], rfl, .unset .stateboard _ hmode hnamed (by rw [FailoverSpec.reference, hset]; rfl)⟩
    next b hset =>
      refine password_resolves hmode hnamed (by rw [FailoverSpec.reference, hset]; rfl) (funext fun text => ?_) t
      rw [FailoverSpec.params, hset]
      rfl

/-! ### What comes of it -/

/-- A password for a provider is told: it is empty if there is no reference to one, and otherwise the text that was
found in the secret of the reference. -/
def Tells (ns : String) (provider : StateProvider) (said : Talk Surroundings) (password : String) :
    Option SecretReference → Prop
  | none => password = ""
  | some r => ∃ secret, secretTold ns r (.ok (some secret)) ∈ said ∧
      secret.text? (r.key.getD (defaultKey provider)) = some password

/-- Failover is settled by a provider and a password: the mode is stateful, the provider is named and has settings,
and what was said tells the password. -/
def Settles (cluster : Cluster) (said : Talk Surroundings) (provider : StateProvider) (password : String) : Prop :=
  cluster.spec.failover.mode = .stateful ∧ cluster.spec.failover.stateProvider = some provider ∧
    ∃ ref, cluster.spec.failover.reference provider = some ref ∧ Tells cluster.nsOf provider said password ref

/-- The request asks for the secret that the settings of the named provider refer to, in stateful mode. -/
def Refers (cluster : Cluster) (q : Request) : Prop :=
  cluster.spec.failover.mode = .stateful ∧ ∃ provider r, cluster.spec.failover.stateProvider = some provider ∧
    cluster.spec.failover.reference provider = some (some r) ∧
      q = .store (.get .secret (r.ns.getD cluster.nsOf) r.name)

/-- What making out the wanted parameters says and gives. -/
structure Resolution (cluster : Cluster) (said : Talk Surroundings) (res : Except OperatorError FailoverParams) :
    Prop where
  /-- It succeeds outside stateful mode, and in it once all is settled. -/
  ok_iff : (∃ p, res = .ok p) ↔
    cluster.spec.failover.mode ≠ .stateful ∨ ∃ provider password, Settles cluster said provider password
  /-- The secret that is referred to is asked for, and nothing else is. -/
  reads_iff : ∀ q, (∃ e ∈ said, e.ask = q) ↔ Refers cluster q
  once : said.length ≤ 1
  plain : ∀ p, res = .ok p → cluster.spec.failover.mode ≠ .stateful →
    p = .plain cluster.spec.failover.mode cluster.spec.failover.timeout
  stateful : ∀ p, res = .ok p → cluster.spec.failover.mode = .stateful →
    ∃ provider password, Settles cluster said provider password ∧
      p = cluster.spec.failover.params provider password
  etcd2 : ∀ p, res = .ok p → p.etcd2.isSome →
    cluster.spec.failover.mode = .stateful ∧ cluster.spec.failover.stateProvider = some .etcd2
  stateboard : ∀ p, res = .ok p → p.stateboard.isSome →
    cluster.spec.failover.mode = .stateful ∧ cluster.spec.failover.stateProvider = some .stateboard

variable {cluster : Cluster} {said : Talk Surroundings}

theorem Unlocks.tells_iff {ns : String} {provider : StateProvider} {ref : Option SecretReference}
    {text : Option String} (h : Unlocks ns provider ref said text) (password : String) :
    Tells ns provider said password ref ↔ text = some password := by
  cases h with
  | bare => simp [Tells, eq_comm]
  | secret r answer =>
    constructor
    · rintro ⟨secret, htold, htext⟩
      obtain rfl : Except.ok (some secret) = answer := by simpa [secretTold] using htold
      exact htext
    · intro htext
      unfold textTold at htext
      split at htext
      next secret => exact ⟨secret, List.mem_singleton_self _, htext⟩
      next => cases htext

theorem Unlocks.reads_iff {provider : StateProvider} {ref : Option SecretReference} {text : Option String}
    (hmode : cluster.spec.failover.mode = .stateful) (hnamed : cluster.spec.failover.stateProvider = some provider)
    (href : cluster.spec.failover.reference provider = some ref)
    (h : Unlocks cluster.nsOf provider ref said text) (q : Request) :
    (∃ e ∈ said, e.ask = q) ↔ Refers cluster q := by
  have hrefers : Refers cluster q ↔ ∃ r, ref = some r ∧ q = .store (.get .secret (r.ns.getD cluster.nsOf) r.name) := by
    constructor
    · rintro ⟨_, provider', r, hnamed', href', hq⟩
      obtain rfl := Option.some.inj (hnamed.symm.trans hnamed')
      exact ⟨r, Option.some.inj (href.symm.trans href'), hq⟩
    · rintro ⟨r, rfl, hq⟩
      exact ⟨hmode, provider, r, hnamed, href, hq⟩
  rw [hrefers]
  cases h with
  | bare => simp
  | secret r answer => simp [secretTold, eq_comm]

theorem Unlocks.once {ns : String} {provider : StateProvider} {ref : Option SecretReference} {text : Option String}
    (h : Unlocks ns provider ref said text) : said.length ≤ 1 := by
  cases h <;> simp

/-- Of the provider that is named, the password that is told is the one that came of it. -/
theorem settles_iff {provider : StateProvider} {ref : Option SecretReference} {text : Option String}
    (hmode : cluster.spec.failover.mode = .stateful) (hnamed : cluster.spec.failover.stateProvider = some provider)
    (href : cluster.spec.failover.reference provider = some ref)
    (h : Unlocks cluster.nsOf provider ref said text) (provider' : StateProvider) (password : String) :
    Settles cluster said provider' password ↔ provider' = provider ∧ text = some password := by
  constructor
  · rintro ⟨_, hnamed', ref', href', htells⟩
    obtain rfl := Option.some.inj (hnamed.symm.trans hnamed')
    obtain rfl := Option.some.inj (href.symm.trans href')
    exact ⟨rfl, (h.tells_iff password).1 htells⟩
  · rintro ⟨rfl, htext⟩
    exact ⟨hmode, hnamed, ref, href, (h.tells_iff password).2 htext⟩

/-- Nothing comes of it in stateful mode if nothing is settled. -/
theorem resolution_of_error {e : OperatorError} (hmode : cluster.spec.failover.mode = .stateful)
    (hunsettled : ∀ provider password, ¬Settles cluster said provider password)
    (hreads : ∀ q, (∃ e ∈ said, e.ask = q) ↔ Refers cluster q) (honce : said.length ≤ 1) :
    Resolution cluster said (.error e) where
  ok_iff := by
    constructor
    · rintro ⟨p, hp⟩
      cases hp
    · rintro (hplain | ⟨provider, password, hsettles⟩)
      · exact absurd hmode hplain
      · exact absurd hsettles (hunsettled provider password)
  reads_iff := hreads
  once := honce
  plain _ h := nomatch h
  stateful _ h := nomatch h
  etcd2 _ h := nomatch h
  stateboard _ h := nomatch h

/-- Without settings of a named provider, there is nothing to read. -/
theorem resolution_of_unset {e : OperatorError} (hmode : cluster.spec.failover.mode = .stateful)
    (hunset : ∀ provider, cluster.spec.failover.stateProvider = some provider →
      cluster.spec.failover.reference provider = none) : Resolution cluster [] (.error e) := by
  refine resolution_of_error hmode ?_ (fun q => ⟨?_, ?_⟩) (Nat.zero_le _)
  · rintro provider _ ⟨_, hnamed, ref, href, _⟩
    cases (hunset provider hnamed).symm.trans href
  · rintro ⟨e, he, _⟩
    cases he
  · rintro ⟨_, provider, r, hnamed, href, _⟩
    cases (hunset provider hnamed).symm.trans href

theorem Resolves.resolution {res : Except OperatorError FailoverParams} (h : Resolves cluster said res) :
    Resolution cluster said res := by
  cases h with
  | plain hplain =>
    refine ⟨⟨fun _ => .inl hplain, fun _ => ⟨_, rfl⟩⟩, fun q => ⟨?_, fun hq => absurd hq.1 hplain⟩, Nat.zero_le _,
      ?_, ?_, ?_, ?_⟩
    · rintro ⟨e, he, _⟩
      cases he
    · rintro p ⟨⟩ _
      rfl
    · rintro p ⟨⟩ hstateful
      exact absurd hstateful hplain
    · rintro p ⟨⟩ hsome
      cases hsome
    · rintro p ⟨⟩ hsome
      cases hsome
  | unnamed e hmode hnamed => exact resolution_of_unset hmode fun provider h => by cases hnamed.symm.trans h
  | unset provider e hmode hnamed hset =>
    refine resolution_of_unset hmode fun provider' h => ?_
    obtain rfl := Option.some.inj (hnamed.symm.trans h)
    exact hset
  | locked provider ref said e hmode hnamed href hlocked =>
    refine resolution_of_error hmode (fun provider' password hsettles => ?_) (hlocked.reads_iff hmode hnamed href)
      hlocked.once
    cases ((settles_iff hmode hnamed href hlocked provider' password).1 hsettles).2
  | settled provider ref said password hmode hnamed href hopen =>
    have hsettles := (settles_iff hmode hnamed href hopen provider password).2 ⟨rfl, rfl⟩
    refine ⟨⟨fun _ => .inr ⟨provider, password, hsettles⟩, fun _ => ⟨_, rfl⟩⟩, hopen.reads_iff hmode hnamed href,
      hopen.once, ?_, ?_, ?_, ?_⟩
    · intro p _ hplain
      exact absurd hmode hplain
    · rintro p ⟨⟩ _
      exact ⟨provider, password, hsettles, rfl⟩
    · rintro p ⟨⟩ hsome
      cases provider with
      | etcd2 => exact ⟨hmode, hnamed⟩
      | stateboard => cases hsome
    · rintro p ⟨⟩ hsome
      cases provider with
      | etcd2 => cases hsome
      | stateboard => exact ⟨hmode, hnamed⟩

theorem resolution_of_goes {t t' : Talk Surroundings} {res : Except OperatorError FailoverParams}
    (h : (wanted cluster).run.Goes t t' res) : ∃ said, t' = said ++ t ∧ Resolution cluster said res := by
  obtain ⟨⟨said, ht', hsaid⟩, _⟩ := (wanted_resolves cluster t).of_goes h
  exact ⟨said, ht', hsaid.resolution⟩

end Failover

/-! ### What is set -/

/-- The leader and the parameters of a request that sets them. -/
def Request.failoverSet? : Request → Option (Pod × FailoverParams)
  | .admin (.setFailoverParams leader params) => some (leader, params)
  | _ => none

/-- The parameters that were set during a talk, the latest first. -/
def Talk.failoverSet (said : Talk Surroundings) : List (Pod × FailoverParams) :=
  said.filterMap fun e => e.ask.failoverSet?

namespace Talk

variable {said : Talk Surroundings}

@[simp] theorem failoverSet_nil : failoverSet [] = [] := rfl

@[simp] theorem failoverSet_log {level : LogLevel} {message : String} :
    failoverSet (⟨Request.log level message, ()⟩ :: said) = said.failoverSet := rfl

@[simp] theorem failoverSet_reads {leader : Pod} {answer : Except AdminError FailoverParams} :
    failoverSet (⟨Request.admin (.failoverParams leader), answer⟩ :: said) = said.failoverSet := rfl

@[simp] theorem failoverSet_sets {leader : Pod} {params : FailoverParams} {answer : Except AdminError Unit} :
    failoverSet (⟨Request.admin (.setFailoverParams leader params), answer⟩ :: said) =
      (leader, params) :: said.failoverSet := rfl

end Talk

namespace ClusterPass

/-- The wanted parameters were made out, the running ones were read, and they do not satisfy them. -/
def Unsatisfied (leader : Pod) (resolved : Except OperatorError FailoverParams) (said : Talk Surroundings) : Prop :=
  ∃ wanted reported, resolved = .ok wanted ∧
    ⟨Request.admin (.failoverParams leader), Except.ok reported⟩ ∈ said ∧ ¬wanted.SatisfiedBy reported

/-- What is set once the wanted parameters were made out, or were not. -/
structure Applied (leader : Pod) (resolved : Except OperatorError FailoverParams) (said : Talk Surroundings) :
    Prop where
  once : said.failoverSet.length ≤ 1
  sets_iff : said.failoverSet ≠ [] ↔ Unsatisfied leader resolved said
  whole : ∀ set ∈ said.failoverSet, set.1 = leader ∧ resolved = .ok set.2
  reads_iff : (∃ e ∈ said, e.ask = .admin (.failoverParams leader)) ↔ ∃ wanted, resolved = .ok wanted

variable {cluster : Cluster} {leader : Pod} {resolving t t' : Talk Surroundings}
  {resolved : Except OperatorError FailoverParams}

theorem Course.applied (h : Course leader t resolved t') :
    ∃ later, t' = later ++ t ∧ Applied leader resolved later := by
  cases h with
  | unknown => exact ⟨[], rfl, by simp, by simp [Unsatisfied], by simp, by simp⟩
  | unreported => exact ⟨[_], rfl, by simp, by simp [Unsatisfied], by simp, by simp⟩
  | satisfied hsatisfied =>
    refine ⟨[_], rfl, by simp, ?_, by simp, by simp⟩
    simpa [Unsatisfied] using hsatisfied
  | sets hnot =>
    refine ⟨[_, _, _], rfl, by simp, ?_, by simp, by simp⟩
    simpa [Unsatisfied] using hnot

/-- Making out the wanted parameters sets none and does not read the running ones. -/
theorem Applied.append {said : Talk Surroundings} (h : Applied leader resolved said)
    (hresolving : Failover.Resolution cluster resolving resolved) : Applied leader resolved (said ++ resolving) := by
  have hstore : ∀ e ∈ resolving, ∃ q, e.ask = .store q := by
    intro e he
    obtain ⟨_, _, _, _, _, hask⟩ := (hresolving.reads_iff e.ask).1 ⟨e, he, rfl⟩
    exact ⟨_, hask⟩
  have hset : Talk.failoverSet (said ++ resolving) = said.failoverSet := by
    have hnone : Talk.failoverSet resolving = [] := by
      refine List.filterMap_eq_nil_iff.2 fun e he => ?_
      obtain ⟨q, hask⟩ := hstore e he
      rw [hask]
      rfl
    rw [Talk.failoverSet, List.filterMap_append, ← Talk.failoverSet, ← Talk.failoverSet, hnone, List.append_nil]
  have hread : ∀ e ∈ resolving, e.ask ≠ .admin (.failoverParams leader) := by
    intro e he
    obtain ⟨q, hask⟩ := hstore e he
    rw [hask]
    exact nofun
  have hmem : ∀ e : Turn Surroundings, e.ask = .admin (.failoverParams leader) →
      (e ∈ said ++ resolving ↔ e ∈ said) := by
    intro e hask
    rw [List.mem_append, or_iff_left fun he => hread e he hask]
  refine ⟨hset ▸ h.once, ?_, hset ▸ h.whole, ?_⟩
  · simp only [hset, h.sets_iff, Unsatisfied, hmem]
  · rw [← h.reads_iff]
    exact ⟨fun ⟨e, he, hask⟩ => ⟨e, (hmem e hask).1 he, hask⟩, fun ⟨e, he, hask⟩ => ⟨e, (hmem e hask).2 he, hask⟩⟩

theorem eq_of_unknown {c : ClusterPass} {r : Outcome × ClusterPass} (h : c.cluster = none ∨ c.leader = none)
    (hgoes : (configureFailover.run c).Goes t t' r) : t' = t := by
  cases hcluster : c.cluster with
  | none =>
    simp only [configureFailover, Step.reading, Step.ofAttempt, loaded, hcluster] at hgoes
    exact hgoes.1
  | some cluster =>
    have hleader : c.leader = none := h.resolve_left (by simp [hcluster])
    simp only [configureFailover, Step.reading, Step.ofAttempt, loaded, known, hcluster, hleader] at hgoes
    exact hgoes.1

/-- Failover is applied whole or not at all. Whatever the store and the topology answer: the wanted parameters are made
out as `Failover.Resolution` says, and the step sets parameters once if those were made out, the running ones were
read and do not satisfy them, and not otherwise; what it sets are the wanted parameters. Before the cluster and the
leader are known it says nothing. -/
theorem failover_whole_or_none (cluster : Cluster) :
    (∀ t t' resolved, (Failover.wanted cluster).run.Goes t t' resolved →
      ∃ said, t' = said ++ t ∧ Failover.Resolution cluster said resolved) ∧
    ∀ c t t' r, (configureFailover.run c).Goes t t' r →
      (∀ leader, c.cluster = some cluster → c.leader = some leader →
        ∃ resolving later resolved, t' = later ++ resolving ++ t ∧
          (Failover.wanted cluster).run.Goes t (resolving ++ t) resolved ∧
          Failover.Resolution cluster resolving resolved ∧ Applied leader resolved (later ++ resolving)) ∧
      (c.cluster = none ∨ c.leader = none → t' = t) := by
  refine ⟨fun t t' resolved => Failover.resolution_of_goes, fun c t t' r hgoes => ⟨?_, ?_⟩⟩
  · intro leader hcluster hleader
    obtain ⟨t₁, resolved, hwanted, hcourse⟩ := course_of_goes hcluster hleader hgoes
    obtain ⟨resolving, rfl, hresolution⟩ := Failover.resolution_of_goes hwanted
    obtain ⟨later, rfl, happlied⟩ := hcourse.applied
    exact ⟨resolving, later, resolved, (List.append_assoc ..).symm, hwanted, hresolution, happlied.append hresolution⟩
  · exact fun hunknown => eq_of_unknown hunknown hgoes

/-! ### An example: a password for etcd -/

/-- A cluster that keeps the password of its state provider in a secret. -/
def locked : Cluster where
  metadata := { ObjectMeta.blank with name := some "shop", ns := some "db" }
  spec := { ClusterSpec.default with
    failover := { FailoverSpec.default with
      mode := .stateful
      stateProvider := some .etcd2
      etcd2 := some ⟨["etcd:2379"], "shop", some ⟨"etcd", none, none⟩, 10, "/shop"⟩
      stateboard := some ⟨"stateboard:4401", some ⟨"stateboard", none, none⟩⟩ } }
  status := none

/-- The secret, with the password under the default key. -/
def lock : Secret where
  metadata := { ObjectMeta.blank with name := some "etcd", ns := some "db" }
  data := some (SortedMap.empty.insert "etcd2-password" ⟨[112, 119]⟩)

/-- The leader of the cluster. -/
def leading : Pod := ⟨{ ObjectMeta.blank with name := some "router-0-0", ns := some "db" }, none, none⟩

/-- What the cluster asks for. -/
def unlocked : FailoverParams :=
  { FailoverParams.plain .stateful 20 with
    stateProvider := some .etcd2
    fencingTimeout := 10
    fencingPause := 2
    etcd2 := some ⟨["etcd:2379"], "shop", "pw", 10, "/shop"⟩ }

/-- What is said when failover is disabled so far. -/
def configured : Talk Surroundings := [
  ⟨Request.admin (.setFailoverParams leading unlocked), Except.ok ()⟩,
  ⟨Request.log .info "Applying failover parameters", ()⟩,
  ⟨Request.admin (.failoverParams leading), Except.ok (FailoverParams.plain .disabled 20)⟩,
  ⟨Request.store (.get .secret "db" "etcd"), Except.ok (some lock)⟩]

/-- The password is sent as it is in the secret of the provider that is named. -/
theorem failover_unlocked :
    (configureFailover.run ⟨⟨"db", "shop"⟩, some locked, some leading⟩).Goes [] configured
        (.next, ⟨⟨"db", "shop"⟩, some locked, some leading⟩) ∧
      Talk.failoverSet configured = [(leading, unlocked)] ∧
      ∃ said, said <:+ configured ∧ Failover.Resolution locked said (.ok unlocked) := by
  have hgoes : (configureFailover.run ⟨⟨"db", "shop"⟩, some locked, some leading⟩).Goes [] configured
      (.next, ⟨⟨"db", "shop"⟩, some locked, some leading⟩) :=
    ⟨Except.ok (some lock), Except.ok (FailoverParams.plain .disabled 20), (), Except.ok (), rfl, rfl⟩
  have hset : Talk.failoverSet configured = [(leading, unlocked)] := rfl
  obtain ⟨resolving, later, resolved, htalk, _, hresolution, happlied⟩ :=
    ((failover_whole_or_none locked).2 _ _ _ _ hgoes).1 leading rfl rfl
  rw [List.append_nil] at htalk
  obtain rfl : resolved = .ok unlocked := (happlied.whole (leading, unlocked) (by simp [← htalk, hset])).2
  exact ⟨hgoes, hset, resolving, htalk ▸ List.suffix_append later resolving, hresolution⟩

end ClusterPass

end ClusterKeeper
