import ClusterKeeper.Proofs.Http.Wiring
import Mathlib.Data.List.Nodup

/-!
Listings of roles. The API server may list objects in any order, and roles are looked at by their names
(`Kind.arranged_role_of_perm`). A live pass that begins with a listing of roles goes on in the same way, exchange
for exchange, when the server lists the same roles in another order (`Deployment.makes_of_relisted`).
-/

namespace ClusterKeeper

open Program

/-- The objects that a reply lists. -/
def Http.Reply.objects (k : Kind) (reply : Http.Reply) : Except (Option ApiRefusal) (List k.Object) :=
  match reply.content with
  | .error refusal => .error refusal
  | .ok body =>
    match k.itemsOf? body with
    | some items => .ok items
    | none => .error none

/-- Roles of distinct names are looked at in one order, whatever the order in which they come. -/
theorem Kind.arranged_role_of_perm {roles roles' : List Role} (hperm : roles.Perm roles')
    (hnames : (roles.map KubeObject.name).Nodup) : Kind.role.arranged roles = Kind.role.arranged roles' := by
  have hsorted : ∀ roles : List Role, (Kind.role.arranged roles).Pairwise fun a b : Role =>
      decide (KubeObject.name a ≤ KubeObject.name b) = true := by
    intro roles
    refine List.pairwise_mergeSort (fun a b c hab hbc => ?_) (fun a b => ?_) roles
    · simp only [decide_eq_true_eq] at hab hbc ⊢
      exact String.le_trans hab hbc
    · simp only [Bool.or_eq_true, decide_eq_true_eq]
      exact String.le_total _ _
  have hsame : ∀ roles : List Role, (Kind.role.arranged roles).Perm roles := fun roles => List.mergeSort_perm roles _
  refine List.Perm.eq_of_pairwise (fun a b ha hb hab hba => ?_) (hsorted roles) (hsorted roles')
    ((hsame roles).trans (hperm.trans (hsame roles').symm))
  have hmem : a ∈ roles := (hsame roles).mem_iff.1 ha
  have hmem' : b ∈ roles := hperm.mem_iff.2 ((hsame roles').mem_iff.1 hb)
  simp only [decide_eq_true_eq] at hab hba
  exact List.inj_on_of_nodup_map hnames hmem hmem' (String.le_antisymm hab hba)

theorem Exchange.run_typed {α : Type} (read : Json → Option α) (answer : Json) :
    (typed read answer).run = done (match read answer with
      | some a => .ok a
      | none => .error none) := by
  unfold typed
  cases read answer with
  | none => rfl
  | some a => rfl

/-- A listing is one exchange, unless it cannot be asked for. -/
theorem StoreRequest.perform_list (k : Kind) (ns : String) (selector : Labels) : (list k ns selector).perform =
    match Http.Target.ofText? (Http.Target.text (k.collection ns) [("labelSelector", selector.selectorText)]) with
    | none => return .error (.kube none)
    | some target => do
      let reply ← question (I := ApiServer) ⟨.get, target, none⟩
      return ((reply.objects k).map k.arranged).mapError OperatorError.kube := by
  rw [perform, Exchange.call, Http.send]
  cases Http.Target.ofText? (Http.Target.text (k.collection ns) [("labelSelector", selector.selectorText)]) with
  | none => rfl
  | some target =>
    refine congrArg (ask (I := ApiServer) ⟨.get, target, none⟩) (funext fun reply => ?_)
    -- a program that has the reply and asks for nothing more
    change (ExceptT.bindCont (fun body => Exchange.typed k.itemsOf? body) (Http.Reply.content reply)).bind
        (fun items => done ((items.map k.arranged).mapError OperatorError.kube)) =
      done (((Http.Reply.objects k reply).map k.arranged).mapError OperatorError.kube)
    unfold Http.Reply.objects
    cases Http.Reply.content reply with
    | error refusal => rfl
    | ok body =>
      change (Exchange.typed k.itemsOf? body).run.bind _ = done _
      rw [Exchange.run_typed]
      dsimp only
      cases k.itemsOf? body with
      | none => rfl
      | some items => rfl

namespace Deployment

variable {α : Type} {d : Deployment} {published : Published} {ns : String} {selector : Labels}
  {f : List Role → Attempt α} {w : Talk ApiServer} {r : Except OperatorError α × Published}

/-- Live, a part of a pass makes some exchanges, the latest first, and ends with a result. -/
structure Makes (d : Deployment) (act : Act α) (published : Published) (w : Talk ApiServer) (r : α × Published) :
    Prop where
  -- a structure, since the type of a course alone is computed wherever it is named, with all its texts
  goes : (d.run act published).Goes [] w r

theorem makes_iff {act : Act α} {r : α × Published} :
    d.Makes act published w r ↔ (d.run act published).Goes [] w r := ⟨fun h => h.goes, fun h => ⟨h⟩⟩

/-- A server that has a reply to every message tells what a part of a pass makes. -/
theorem exists_makes_served (d : Deployment) (act : Act α) (published : Published)
    (server : Http.Message → Http.Reply) :
    ∃ w r, d.Makes act published w r ∧ ∀ e ∈ w, e.answer = server e.ask :=
  ⟨_, _, ⟨goes_hear (I := ApiServer) server (d.run act published) []⟩,
    fun _ he => answer_of_mem_hear (I := ApiServer) he⟩

/-- A live pass that begins with a request to the store carries it out, and goes on with its result. -/
theorem run_store (q : StoreRequest) (next : Except OperatorError q.Result → Act α) :
    d.run (ask (.store q) next) published = q.perform >>= fun a => d.run (next a) published := by
  change Program.bind (Program.bind q.perform _) _ = _
  rw [Program.bind_assoc]
  rfl

/-- A live pass that begins with a listing of roles makes this exchange first. It goes on with the roles that are
listed, and ends when none can be. -/
theorem goes_run_list : (d.run (Attempt.list .role ns selector >>= f).run published).Goes [] w r ↔
    match Http.Target.ofText? (Http.Target.text (Kind.role.collection ns)
      [("labelSelector", selector.selectorText)]) with
    | none => w = [] ∧ r = (.error (.kube none), published)
    | some target => ∃ (w' : Talk ApiServer) (reply : Http.Reply), w = w' ++ [⟨⟨.get, target, none⟩, reply⟩] ∧
      match reply.objects .role with
      | .ok roles => (d.run (f (Kind.role.arranged roles)).run published).Goes [] w' r
      | .error refusal => w' = [] ∧ r = (.error (.kube refusal), published) := by
  have hrun : d.run (Attempt.list .role ns selector >>= f).run published =
      (StoreRequest.list .role ns selector).perform >>= fun a =>
        d.run (ExceptT.bindCont f a : Act (Except OperatorError α)) published :=
    run_store (StoreRequest.list .role ns selector) fun a => ExceptT.bindCont f a
  rw [hrun, StoreRequest.perform_list]
  cases Http.Target.ofText? (Http.Target.text (Kind.role.collection ns)
      [("labelSelector", selector.selectorText)]) with
  | none => exact Iff.rfl
  | some target =>
    dsimp only
    have hends : ∀ (reply : Http.Reply) (w : Talk ApiServer),
        Goes (d.run (ExceptT.bindCont f (((reply.objects .role).map Kind.role.arranged).mapError OperatorError.kube) :
          Act (Except OperatorError α)) published) [⟨⟨.get, target, none⟩, reply⟩] w r ↔
        ∃ w' : Talk ApiServer, w = w' ++ [⟨⟨.get, target, none⟩, reply⟩] ∧
          match reply.objects .role with
          | .ok roles => (d.run (f (Kind.role.arranged roles)).run published).Goes [] w' r
          | .error refusal => w' = [] ∧ r = (.error (.kube refusal), published) := by
      intro reply w
      cases reply.objects .role with
      | error refusal =>
        constructor
        · rintro ⟨rfl, hr⟩
          exact ⟨[], rfl, rfl, hr⟩
        · rintro ⟨w', rfl, rfl, hr⟩
          exact ⟨rfl, hr⟩
      | ok roles => exact goes_append []
    constructor
    · intro h
      obtain ⟨w₁, a, hlist, hrest⟩ := goes_bind.1 h
      obtain ⟨w₂, reply, hask, rfl, rfl⟩ := goes_bind.1 hlist
      obtain rfl := goes_question.1 hask
      obtain ⟨w', hw, hrest⟩ := (hends reply w).1 hrest
      exact ⟨w', reply, hw, hrest⟩
    · rintro ⟨w', reply, hw, hrest⟩
      refine goes_bind.2 ⟨_, _, goes_bind.2 ⟨_, reply, goes_question.2 rfl, rfl, rfl⟩, ?_⟩
      exact (hends reply w).2 ⟨w', hw, hrest⟩

/-- When the server lists the same roles in another order, a live pass that begins with this listing goes on in the
same way, exchange for exchange. -/
theorem makes_of_relisted {m : Http.Message} {reply reply' : Http.Reply} {roles roles' : List Role}
    (hreply : reply.objects .role = .ok roles) (hreply' : reply'.objects .role = .ok roles')
    (hperm : roles.Perm roles') (hnames : (roles.map KubeObject.name).Nodup)
    (h : d.Makes (Attempt.list .role ns selector >>= f).run published (w ++ [⟨m, reply⟩]) r) :
    d.Makes (Attempt.list .role ns selector >>= f).run published (w ++ [⟨m, reply'⟩]) r := by
  rw [makes_iff, goes_run_list] at h ⊢
  generalize Http.Target.ofText? (Http.Target.text (Kind.role.collection ns)
    [("labelSelector", selector.selectorText)]) = target at h ⊢
  cases target with
  | none =>
    -- without a listing there is no exchange at all
    obtain ⟨hw, -⟩ := h
    simp at hw
  | some target =>
    obtain ⟨w', reply₁, hw, hrest⟩ := h
    obtain ⟨rfl, hturn⟩ := List.append_inj' hw rfl
    cases hturn
    dsimp only
    refine ⟨w, reply', rfl, ?_⟩
    rw [hreply] at hrest
    rw [hreply']
    dsimp only at hrest ⊢
    rwa [← Kind.arranged_role_of_perm hperm hnames]

/-- A live pass that begins with a listing that can be asked for makes it first. -/
theorem exists_makes_listed (d : Deployment) (published : Published) (f : List Role → Attempt α)
    (server : Http.Message → Http.Reply)
    (htarget : (Http.Target.ofText? (Http.Target.text (Kind.role.collection ns)
      [("labelSelector", selector.selectorText)])).isSome = true) :
    ∃ w m r, d.Makes (Attempt.list .role ns selector >>= f).run published (w ++ [⟨m, server m⟩]) r := by
  obtain ⟨target, htarget⟩ := Option.isSome_iff_exists.1 htarget
  obtain ⟨said, r, hmakes, hserved⟩ :=
    exists_makes_served d (Attempt.list .role ns selector >>= f).run published server
  have hcourse := hmakes
  rw [makes_iff, goes_run_list, htarget] at hcourse
  obtain ⟨w, reply, rfl, -⟩ := hcourse
  have hreply : reply = server ⟨.get, target, none⟩ := hserved ⟨⟨.get, target, none⟩, reply⟩ (by simp)
  rw [hreply] at hmakes
  exact ⟨w, ⟨.get, target, none⟩, r, hmakes⟩

end Deployment

end ClusterKeeper
