import ClusterKeeper.Pass.Step
import ClusterKeeper.Proofs.Pass.Requests

/-!
The turns of a pass that decide how it ends. A pass asks for its object once and goes by what it is told
(`Talk.Fetches`, `Talk.Loads`). An answer may park a role for good (`Turn.Blames`), and a talk is `BlameFree` as
long as there is no such answer and no warning was recorded. Turns that have to do with none of this are
`LookupBlameFree`, and `Harmless` when they leave the copy of the cluster alone as well, which is so for all
turns of requests that are no deeds and for lines of the log (`Turn.Logs`).
-/

namespace ClusterKeeper

/-- An error of a request parks a role: its roles are not known where instances are joined, or its weight
would leave no storage. -/
def AdminRequest.Parks : AdminRequest → AdminError → Prop
  | .join .., .unknownRole _ => True
  | .instanceUuid _, .unknownRole _ => True
  | .setWeight .., .lastStorageWeight => True
  | _, _ => False

namespace Turn

/-- The answer parks a role. -/
inductive Blames : Turn Surroundings → Prop
  | parked {q : AdminRequest} {e : AdminError} : q.Parks e → Blames ⟨Request.admin q, Except.error e⟩

/-- The turn is a line of the log. -/
def Logs (e : Turn Surroundings) : Prop := ∃ level message, e.ask = .log level message

/-- The turn looks up no object of a kind by its name. -/
def Skips (k : Kind) (e : Turn Surroundings) : Prop := ∀ ns name, e.ask ≠ .store (.get k ns name)

/-- The turn looks up no object of a kind by its name, parks no role and warns of nothing. -/
structure LookupBlameFree (k : Kind) (e : Turn Surroundings) : Prop where
  skips : e.Skips k
  blames : ¬e.Blames
  warns : ¬e.ask.Warns

/-- The turn looks up no object that passes are made over, blames and warns of nothing, and leaves the copy of the
cluster alone. -/
structure Harmless (e : Turn Surroundings) : Prop where
  lookupBlameFree : ∀ k, k.isCustom = true → e.LookupBlameFree k
  elsewhere : e.ask.Elsewhere

theorem lookupBlameFree_store {k : Kind} {q : StoreRequest} (hq : ∀ ns name, q ≠ .get k ns name)
    (a : Except OperatorError q.Result) : LookupBlameFree k ⟨Request.store q, a⟩ where
  skips ns name h := hq ns name (Request.store.inj h)
  blames := nofun
  warns := id

theorem harmless_store {q : StoreRequest} (hget : ∀ k ns name, q ≠ .get k ns name) (hq : q.kind ≠ .cluster)
    (a : Except OperatorError q.Result) : Harmless ⟨Request.store q, a⟩ :=
  ⟨fun k _ => lookupBlameFree_store (hget k) a, hq⟩

/-- Requests to instances are harmless unless the answer parks the role. -/
theorem harmless_admin {q : AdminRequest} {a : Except AdminError q.Result}
    (h : ∀ e, a = .error e → ¬q.Parks e) : Harmless ⟨Request.admin q, a⟩ where
  lookupBlameFree k hk := {
    skips := nofun
    blames := by
      rintro ⟨hparks⟩
      exact h _ rfl hparks
    warns := id }
  elsewhere := trivial

theorem skips_of_deedFree {k : Kind} (hk : k.isCustom = true) {q : Request} (hq : q.DeedFree) (a : q.Answer) :
    Skips k ⟨q, a⟩ := by
  rintro ns name rfl
  exact Bool.false_ne_true (hq.symm.trans hk)

theorem harmless_of_deedFree {q : Request} (hq : q.DeedFree) (a : q.Answer) : Harmless ⟨q, a⟩ where
  lookupBlameFree k hk := {
    skips := skips_of_deedFree hk hq a
    blames := by
      rintro ⟨hparks⟩
      rename_i q e
      cases q <;> first | exact hq.elim | exact hparks.elim
    warns := hq.not_warns }
  elsewhere := hq.joinFree.elsewhere

theorem Logs.deedFree {e : Turn Surroundings} (h : e.Logs) : e.ask.DeedFree := by
  obtain ⟨level, message, hask⟩ := h
  rw [hask]
  trivial

theorem Logs.skips {e : Turn Surroundings} (h : e.Logs) {k : Kind} (hk : k.isCustom = true) : e.Skips k :=
  skips_of_deedFree hk h.deedFree e.answer

theorem Logs.harmless {e : Turn Surroundings} (h : e.Logs) : e.Harmless := harmless_of_deedFree h.deedFree e.answer

end Turn

namespace Talk

variable {k : Kind} {key : ObjectKey} {o : k.Object} {a : Except OperatorError (Option k.Object)}
  {t t' : Talk Surroundings}

/-- An object was asked for, with the same answer each time. -/
def Fetches (k : Kind) (t : Talk Surroundings) (key : ObjectKey)
    (a : Except OperatorError (Option k.Object)) : Prop :=
  ∀ a', (⟨Request.store (.get k key.ns key.name), a'⟩ : Turn Surroundings) ∈ t ↔ a' = a

/-- An object was found. -/
def Loads (k : Kind) (t : Talk Surroundings) (key : ObjectKey) (o : k.Object) : Prop :=
  t.Fetches k key (.ok (some o))

/-- No answer parks a role, and no warning is recorded. -/
def BlameFree (t : Talk Surroundings) : Prop := ∀ e ∈ t, ¬e.Blames ∧ ¬e.ask.Warns

theorem Fetches.cons (h : t.Fetches k key a) {e : Turn Surroundings} (he : e.Skips k) :
    Fetches k (e :: t) key a := by
  intro a'
  have hne : (⟨Request.store (.get k key.ns key.name), a'⟩ : Turn Surroundings) ≠ e := by
    rintro rfl
    exact he _ _ rfl
  rw [List.mem_cons, or_iff_right hne, h a']

theorem Fetches.extends (h : t.Fetches k key a) (ht : t.Extends (Turn.Skips k) t') : t'.Fetches k key a :=
  ht.ind (fun t => Fetches k t key a) h fun _ _ he h => h.cons he

theorem Fetches.unique {a' : Except OperatorError (Option k.Object)} (h : t.Fetches k key a)
    (h' : t.Fetches k key a') : a = a' := (h' a).1 ((h a).2 rfl)

theorem Loads.extends (h : t.Loads k key o) (ht : t.Extends (Turn.Skips k) t') : t'.Loads k key o :=
  Fetches.extends h ht

theorem Loads.unique {o' : k.Object} (h : t.Loads k key o) (h' : t.Loads k key o') : o = o' :=
  Option.some.inj (Except.ok.inj (Fetches.unique h h'))

theorem BlameFree.cons (h : t.BlameFree) {e : Turn Surroundings} (hblames : ¬e.Blames) (hwarns : ¬e.ask.Warns) :
    BlameFree (e :: t) := List.forall_mem_cons.2 ⟨⟨hblames, hwarns⟩, h⟩

theorem BlameFree.store (h : t.BlameFree) (q : StoreRequest) (a : Except OperatorError q.Result) :
    BlameFree (⟨Request.store q, a⟩ :: t) := h.cons nofun id

theorem BlameFree.extends (h : t.BlameFree) (ht : t.Extends (Turn.LookupBlameFree k) t') : t'.BlameFree :=
  ht.ind BlameFree h fun _ _ he h => h.cons he.blames he.warns

/-- The object of a pass is loaded, no answer parks it, and no warning is recorded. -/
structure Knows (k : Kind) (t : Talk Surroundings) (key : ObjectKey) (o : k.Object) : Prop where
  loads : t.Loads k key o
  blameFree : t.BlameFree

theorem Knows.extends (h : t.Knows k key o) (ht : t.Extends (Turn.LookupBlameFree k) t') : t'.Knows k key o :=
  ⟨Fetches.extends h.loads (ht.imp fun _ he => he.skips), h.blameFree.extends ht⟩

theorem Extends.harmless (ht : t.Extends Turn.Logs t') : t.Extends Turn.Harmless t' :=
  ht.imp fun _ => Turn.Logs.harmless

theorem lookupBlameFree_of_extends (hk : k.isCustom = true) (ht : t.Extends Turn.Harmless t') :
    t.Extends (Turn.LookupBlameFree k) t' := ht.imp fun _ he => he.lookupBlameFree k hk

/-- What a pass asks for first, after turns that are harmless. -/
theorem fetches_of_extends_nil {ns name : String} (hk : k.isCustom = true) (ht : Extends Turn.Harmless [] t) :
    Fetches k (⟨Request.store (.get k ns name), a⟩ :: t) ⟨ns, name⟩ a := by
  intro a'
  have hnew : (⟨Request.store (.get k ns name), a'⟩ : Turn Surroundings) ∉ t := by
    obtain ⟨said, rfl, hsaid⟩ := ht
    rw [List.append_nil]
    exact fun ha' => ((hsaid _ ha').lookupBlameFree k hk).skips ns name rfl
  rw [List.mem_cons, or_iff_left hnew]
  simp

theorem knows_of_found {ns name : String} (hk : k.isCustom = true) (ht : Extends Turn.Harmless [] t) :
    Knows k (⟨Request.store (.get k ns name), Except.ok (some o)⟩ :: t) ⟨ns, name⟩ o := by
  have hnil : BlameFree [] := fun _ he => nomatch he
  exact ⟨fetches_of_extends_nil hk ht, (hnil.extends (lookupBlameFree_of_extends hk ht)).store _ _⟩

theorem copy_of_extends (ht : t.Extends Turn.Harmless t') : t'.copy = t.copy :=
  ht.ind (fun t' => t'.copy = t.copy) rfl fun _ e he h => (copy_cons he.elsewhere e.answer).trans h

end Talk

end ClusterKeeper
