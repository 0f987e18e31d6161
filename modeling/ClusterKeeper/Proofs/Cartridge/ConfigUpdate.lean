import ClusterKeeper.Pass.ConfigPass
import ClusterKeeper.Proofs.Cartridge.Settings
import ClusterKeeper.Proofs.Pass.Requests
import ClusterKeeper.Proofs.Program.Course

/-!
What comes of uploading a clusterwide config. The sections that are uploaded are those of the document but for
the reserved ones (`Sections.ofYaml_eq_ok_iff`). An instance that tells its config without the reserved sections,
and sets every section of a patch (`Turn.Patches`), holds all of them after an upload; then it is left alone
whenever the same document is uploaded again (`ConfigPass.Uploads.left`).

Main statement: uploads converge, and reserved sections are never part of one (`ConfigPass.uploads_converge`).
-/

namespace ClusterKeeper

open Program

/-! ### Sections of documents -/

namespace Sections

variable {data : String} {wanted config document : Sections} {name : String}

/-- A section is free in a config if it is there and not reserved. -/
theorem get?_free : config.free.get? name = if name ∈ reserved then none else config.get? name := by
  refine Option.ext fun value => ?_
  rw [free, ← SortedMap.mem_entries, SortedMap.filter, List.mem_filter, SortedMap.mem_entries]
  split
  next hreserved => simp [hreserved]
  next hfree => simp [hfree]

/-- The sections of a text: there are none in an empty text and in `null`, and those of a mapping otherwise. -/
inductive Documents (data : String) : Sections → Prop
  | blank : Text.trim data.toList = [] → Documents data .empty
  | null : Text.trim data.toList ≠ [] → Yaml.toJson? data = some .null → Documents data .empty
  | mapping {members : Members} : Text.trim data.toList ≠ [] → Yaml.toJson? data = some (.obj members) →
      Documents data (.ofList members)

theorem ofYaml_of_documents (h : Documents data document) : ofYaml data = .ok document.free := by
  rw [ofYaml]
  cases h with
  | blank hblank => rw [if_pos hblank]; rfl
  | null htext hnull => rw [if_neg htext, hnull]; rfl
  | mapping htext hmapping => rw [if_neg htext, hmapping]

theorem exists_documents_of_ofYaml (h : ofYaml data = .ok wanted) :
    ∃ document, Documents data document ∧ wanted = document.free := by
  rw [ofYaml] at h
  split at h
  next hblank =>
    cases h
    exact ⟨_, .blank hblank, rfl⟩
  next htext =>
    split at h
    next => cases h
    next members hmapping =>
      cases h
      exact ⟨_, .mapping htext hmapping, rfl⟩
    next hnull =>
      cases h
      exact ⟨_, .null htext hnull, rfl⟩
    next => cases h

/-- What is wanted of a text are the sections of its document that are not reserved. -/
theorem ofYaml_eq_ok_iff : ofYaml data = .ok wanted ↔
    ∃ document, Documents data document ∧
      ∀ name, wanted.get? name = if name ∈ reserved then none else document.get? name := by
  constructor
  · intro h
    obtain ⟨document, hdocument, rfl⟩ := exists_documents_of_ofYaml h
    exact ⟨document, hdocument, fun name => get?_free⟩
  · rintro ⟨document, hdocument, hwanted⟩
    rw [ofYaml_of_documents hdocument]
    refine congrArg _ (SortedMap.ext_get? fun name => ?_)
    rw [get?_free, hwanted]

/-- What is wanted is free. -/
theorem get?_eq_none_of_ofYaml (h : ofYaml data = .ok wanted) (hname : name ∈ reserved) :
    wanted.get? name = none := by
  obtain ⟨document, _, hwanted⟩ := ofYaml_eq_ok_iff.1 h
  rw [hwanted, if_pos hname]

/-- Nothing is a subset of everything. -/
theorem subset_of_get?_eq_none (h : ∀ name, wanted.get? name = none) : wanted.subset config = true := by
  refine subset_of_get? fun name value hname => ?_
  rw [h] at hname
  cases hname

/-- After a patch the sections of the patch are there. -/
theorem subset_free_patched (h : ofYaml data = .ok wanted) : wanted.subset (config.patched wanted).free = true := by
  refine subset_of_get? fun name value hname => ?_
  have hfree : name ∉ reserved := by
    intro hreserved
    rw [get?_eq_none_of_ofYaml h hreserved] at hname
    cases hname
  rw [get?_free, if_neg hfree, patched]
  exact SortedMap.get?_union_right hname

end Sections

/-! ### What an instance holds -/

/-- The request patches the config. -/
def Request.PatchesConfig (q : Request) : Prop := ∃ leader sections, q = .admin (.applyCartridgeConfig leader sections)

/-- The request reads the config. -/
def Request.ReadsConfig (q : Request) : Prop := ∃ leader, q = .admin (.cartridgeConfig leader)

/-- What becomes of the config of an instance with a turn. It is told without the reserved sections, and a patch
sets its sections; a patch that failed may have been made nevertheless. -/
inductive Turn.Patches : Turn Surroundings → Sections → Sections → Prop
  | told {leader : Pod} {held : Sections} :
      Patches ⟨Request.admin (.cartridgeConfig leader), Except.ok held.free⟩ held held
  | untold {leader : Pod} {held : Sections} {e : AdminError} :
      Patches ⟨Request.admin (.cartridgeConfig leader), Except.error e⟩ held held
  | patched {leader : Pod} {held sections : Sections} {accepted : Except AdminError Unit} :
      Patches ⟨Request.admin (.applyCartridgeConfig leader sections), accepted⟩ held (held.patched sections)
  | refused {leader : Pod} {held sections : Sections} {e : AdminError} :
      Patches ⟨Request.admin (.applyCartridgeConfig leader sections), Except.error e⟩ held held
  | elsewhere {e : Turn Surroundings} {held : Sections} : ¬e.ask.ReadsConfig → ¬e.ask.PatchesConfig →
      Patches e held held

namespace Turn.Patches

variable {leader : Pod} {held held' sections actual : Sections}

/-- What is read is the config without the reserved sections. -/
theorem of_read (h : Patches ⟨Request.admin (.cartridgeConfig leader), Except.ok actual⟩ held held') :
    actual = held.free ∧ held' = held := by
  cases h with
  | told => exact ⟨rfl, rfl⟩
  | elsewhere hread _ => exact absurd ⟨leader, rfl⟩ hread

theorem of_failed_read {e : AdminError}
    (h : Patches ⟨Request.admin (.cartridgeConfig leader), Except.error e⟩ held held') : held' = held := by
  cases h with
  | untold => rfl
  | elsewhere hread _ => exact absurd ⟨leader, rfl⟩ hread

theorem of_patch (h : Patches ⟨Request.admin (.applyCartridgeConfig leader sections), Except.ok ()⟩ held held') :
    held' = held.patched sections := by
  cases h with
  | patched => rfl
  | elsewhere _ hpatch => exact absurd ⟨leader, sections, rfl⟩ hpatch

theorem of_log {level : LogLevel} {message : String} (h : Patches ⟨Request.log level message, ()⟩ held held') :
    held' = held := by
  cases h with
  | elsewhere => rfl

end Turn.Patches

/-- An instance that held a config holds another one after a talk. -/
inductive Talk.Patches (held : Sections) : Talk Surroundings → Sections → Prop
  | nil : Patches held [] held
  | cons {t : Talk Surroundings} {e : Turn Surroundings} {held₁ held₂ : Sections} :
      Patches held t held₁ → e.Patches held₁ held₂ → Patches held (e :: t) held₂

namespace Talk

variable {held held' : Sections} {t said : Talk Surroundings}

theorem patches_append : Patches held (said ++ t) held' ↔ ∃ held₁, Patches held t held₁ ∧ Patches held₁ said held' := by
  induction said generalizing held' with
  | nil =>
    constructor
    · intro h
      exact ⟨held', h, .nil⟩
    · rintro ⟨held₁, h, hnil⟩
      cases hnil
      exact h
  | cons e said ih =>
    constructor
    · intro h
      cases h with
      | cons h he =>
        obtain ⟨held₁, ht, hsaid⟩ := ih.1 h
        exact ⟨held₁, ht, .cons hsaid he⟩
    · rintro ⟨held₁, ht, hsaid⟩
      cases hsaid with
      | cons hsaid he => exact .cons (ih.2 ⟨held₁, ht, hsaid⟩) he

end Talk

namespace ConfigPass

variable {data : String} {t t' said : Talk Surroundings} {c : ConfigPass} {config : CartridgeConfig}
  {o : Outcome × ConfigPass} {held held' wanted : Sections}

/-! ### The upload -/

/-- What the upload of a document says: nothing when the document cannot be read or there is no leader; and
otherwise the config is read, and patched if it lacks a wanted section. -/
inductive Course (data : String) : Talk Surroundings → Prop
  | unasked : Course data []
  | unread {leader : Pod} {wanted : Sections} {e : AdminError} : Sections.ofYaml data = .ok wanted →
      Course data [⟨Request.admin (.cartridgeConfig leader), Except.error e⟩]
  | left {leader : Pod} {wanted actual : Sections} : Sections.ofYaml data = .ok wanted → wanted.subset actual = true →
      Course data [⟨Request.log .debug "Cartridge config is up to date", ()⟩,
        ⟨Request.admin (.cartridgeConfig leader), Except.ok actual⟩]
  | patches {leader : Pod} {wanted actual : Sections} {accepted : Except AdminError Unit} :
      Sections.ofYaml data = .ok wanted → wanted.subset actual = false →
      Course data [⟨Request.admin (.applyCartridgeConfig leader wanted), accepted⟩,
        ⟨Request.log .info "Applying cartridge config", ()⟩,
        ⟨Request.admin (.cartridgeConfig leader), Except.ok actual⟩]

theorem course_of_goes (hconfig : c.object = some config) (hgoes : (configure.run c).Goes t (said ++ t) o) :
    Course config.spec.data said := by
  obtain ⟨said', hsaid, hgoes⟩ := (goes_append []).1 hgoes
  obtain rfl := List.append_cancel_right hsaid
  rw [configure, Step.reading, Step.ofAttempt, goes_bind] at hgoes
  simp only [hconfig, goes_run_bind] at hgoes
  obtain ⟨_, result, ⟨t₁, outcome, hcourse, hresult⟩, hend⟩ := hgoes
  obtain rfl : said = t₁ := by
    cases result <;> cases outcome <;> exact hend.1.trans hresult.1
  split at hcourse
  next hnone => cases hnone
  next =>
    obtain ⟨rfl, _⟩ := hcourse
    exact .unasked
  next config' leader heq _ =>
    obtain rfl := Option.some.inj heq
    rw [goes_run_bind] at hcourse
    obtain ⟨_, read, hread, hcourse⟩ := hcourse
    obtain ⟨rfl, rfl⟩ := goes_run_ofExcept.1 hread
    cases hwanted : Sections.ofYaml config.spec.data with
    | error e =>
      rw [hwanted] at hcourse
      obtain ⟨rfl, _⟩ := hcourse
      exact .unasked
    | ok wanted =>
      rw [hwanted] at hcourse
      dsimp only at hcourse
      rw [goes_run_bind] at hcourse
      obtain ⟨_, answer, hasked, hcourse⟩ := hcourse
      obtain ⟨answer, rfl, rfl⟩ := goes_run_admin.1 hasked
      cases answer with
      | error e =>
        obtain ⟨rfl, _⟩ := hcourse
        exact .unread hwanted
      | ok actual =>
        dsimp only [Except.mapError] at hcourse
        split at hcourse
        next hsubset =>
          rw [goes_run_bind] at hcourse
          obtain ⟨_, _, hlog, hcourse⟩ := hcourse
          obtain ⟨rfl, rfl⟩ := goes_run_log.1 hlog
          obtain ⟨rfl, _⟩ := hcourse
          exact .left hwanted hsubset
        next hmissing =>
          rw [goes_run_bind] at hcourse
          obtain ⟨_, _, hlog, hcourse⟩ := hcourse
          obtain ⟨rfl, rfl⟩ := goes_run_log.1 hlog
          rw [goes_run_bind] at hcourse
          obtain ⟨_, _, hpatch, hcourse⟩ := hcourse
          obtain ⟨accepted, rfl, rfl⟩ := goes_run_admin.1 hpatch
          have hlacks : wanted.subset actual = false := by simpa using hmissing
          cases accepted <;> obtain ⟨rfl, _⟩ := hcourse <;> exact .patches hwanted hlacks

/-- A document with a section that the config lacks is uploaded. -/
theorem goes_of_lacks {leader : Pod} {actual : Sections} (hconfig : c.object = some config)
    (hleader : c.leader = some leader) (hwanted : Sections.ofYaml config.spec.data = .ok wanted)
    (hlacks : wanted.subset actual = false) :
    (configure.run c).Goes t (⟨Request.admin (.applyCartridgeConfig leader wanted), Except.ok ()⟩ ::
      ⟨Request.log .info "Applying cartridge config", ()⟩ ::
      ⟨Request.admin (.cartridgeConfig leader), Except.ok actual⟩ :: t) (.next, c) := by
  rw [configure, Step.reading, Step.ofAttempt, goes_bind]
  refine ⟨_, .ok (.next, c), .run_bind (a := Outcome.next) ?_ ⟨rfl, rfl⟩, rfl, rfl⟩
  simp only [hconfig, hleader]
  refine .run_bind (goes_run_ofExcept.2 ⟨rfl, hwanted.symm⟩) (.run_bind (goes_run_admin.2 ⟨.ok actual, rfl, rfl⟩) ?_)
  rw [if_neg (by simp [hlacks])]
  refine .run_bind (goes_run_log.2 ⟨rfl, rfl⟩) (.run_bind (goes_run_admin.2 ⟨.ok (), rfl, rfl⟩) ⟨rfl, rfl⟩)

namespace Course

variable {leader : Pod} {actual sections : Sections} {accepted : Except AdminError Unit}

/-- Once it was read, the config is patched exactly if the document lacks nothing but the config lacks a section. -/
theorem patches_iff (h : Course data said)
    (hread : (⟨Request.admin (.cartridgeConfig leader), Except.ok actual⟩ : Turn Surroundings) ∈ said) :
    (∃ e ∈ said, e.ask.PatchesConfig) ↔ ∃ wanted, Sections.ofYaml data = .ok wanted ∧ wanted.subset actual = false := by
  cases h with
  | unasked => simp at hread
  | unread hwanted => simp at hread
  | left hwanted hsubset =>
    simp at hread
    obtain ⟨rfl, rfl⟩ := hread
    simp [Request.PatchesConfig, hwanted, hsubset]
  | patches hwanted hlacks =>
    simp at hread
    obtain ⟨rfl, rfl⟩ := hread
    simp [Request.PatchesConfig, hwanted, hlacks]

/-- A config that could not be read is not patched. -/
theorem left_of_unread {e : AdminError} (h : Course data said)
    (hread : (⟨Request.admin (.cartridgeConfig leader), Except.error e⟩ : Turn Surroundings) ∈ said) :
    ∀ e ∈ said, ¬e.ask.PatchesConfig := by
  cases h with
  | unasked => simp at hread
  | unread hwanted => simp [Request.PatchesConfig]
  | left hwanted hsubset => simp at hread
  | patches hwanted hlacks => simp at hread

/-- A patch follows a read of a config that lacks a section of it. -/
theorem of_patch (h : Course data said)
    (hpatch : (⟨Request.admin (.applyCartridgeConfig leader sections), accepted⟩ : Turn Surroundings) ∈ said) :
    Sections.ofYaml data = .ok sections ∧ ∃ actual, sections.subset actual = false ∧
      (⟨Request.admin (.cartridgeConfig leader), Except.ok actual⟩ : Turn Surroundings) ∈ said := by
  cases h with
  | unasked => simp at hpatch
  | unread hwanted => simp at hpatch
  | left hwanted hsubset => simp at hpatch
  | patches hwanted hlacks =>
    simp at hpatch
    obtain ⟨⟨rfl, rfl⟩, rfl⟩ := hpatch
    exact ⟨hwanted, _, hlacks, by simp⟩

/-- An instance that accepted a patch holds its sections. -/
theorem held_of_patch (h : Course data said) (hheld : Talk.Patches held said held')
    (hpatch : (⟨Request.admin (.applyCartridgeConfig leader sections), Except.ok ()⟩ : Turn Surroundings) ∈ said) :
    held' = held.patched sections := by
  cases h with
  | unasked => simp at hpatch
  | unread hwanted => simp at hpatch
  | left hwanted hsubset => simp at hpatch
  | patches hwanted hlacks =>
    simp at hpatch
    obtain ⟨⟨rfl, rfl⟩, rfl⟩ := hpatch
    obtain _ | ⟨_ | ⟨_ | ⟨hnil, hread⟩, hlog⟩, hset⟩ := hheld
    cases hnil
    obtain ⟨_, rfl⟩ := hread.of_read
    obtain rfl := hlog.of_log
    exact hset.of_patch

/-- An instance that has all sections of the document is left alone. -/
theorem left_of_subset (h : Course data said)
    (hthere : ∀ wanted, Sections.ofYaml data = .ok wanted → wanted.subset held.free = true)
    (hheld : Talk.Patches held said held') : (∀ e ∈ said, ¬e.ask.PatchesConfig) ∧ held' = held := by
  cases h with
  | unasked =>
    cases hheld
    exact ⟨by simp, rfl⟩
  | unread hwanted =>
    obtain _ | ⟨hnil, hread⟩ := hheld
    cases hnil
    exact ⟨by simp [Request.PatchesConfig], hread.of_failed_read⟩
  | left hwanted hsubset =>
    obtain _ | ⟨_ | ⟨hnil, hread⟩, hlog⟩ := hheld
    cases hnil
    obtain ⟨_, rfl⟩ := hread.of_read
    exact ⟨by simp [Request.PatchesConfig], hlog.of_log⟩
  | patches hwanted hlacks =>
    obtain _ | ⟨_ | ⟨_ | ⟨hnil, hread⟩, hlog⟩, hset⟩ := hheld
    cases hnil
    obtain ⟨rfl, _⟩ := hread.of_read
    rw [hthere _ hwanted] at hlacks
    cases hlacks

end Course

/-! ### One upload after another -/

/-- A document was uploaded any number of times, each time by a pass that had loaded it. -/
inductive Uploads (data : String) : Talk Surroundings → Prop
  | nil : Uploads data []
  | cons {c : ConfigPass} {config : CartridgeConfig} {t said : Talk Surroundings} {o : Outcome × ConfigPass} :
      Uploads data t → c.object = some config → config.spec.data = data →
      (configure.run c).Goes t (said ++ t) o → Uploads data (said ++ t)

namespace Uploads

/-- As long as an instance has all sections of the document it is left alone. -/
theorem left (h : Uploads data t)
    (hthere : ∀ wanted, Sections.ofYaml data = .ok wanted → wanted.subset held.free = true)
    (hheld : Talk.Patches held t held') : (∀ e ∈ t, ¬e.ask.PatchesConfig) ∧ held' = held := by
  induction h generalizing held' with
  | nil =>
    cases hheld
    exact ⟨by simp, rfl⟩
  | cons _ hconfig hdata hgoes ih =>
    obtain ⟨held₁, ht, hsaid⟩ := Talk.patches_append.1 hheld
    obtain ⟨hbefore, rfl⟩ := ih ht
    have hcourse := hdata ▸ course_of_goes hconfig hgoes
    obtain ⟨hnow, rfl⟩ := hcourse.left_of_subset hthere hsaid
    exact ⟨List.forall_mem_append.2 ⟨hnow, hbefore⟩, rfl⟩

/-- A document whose sections are all reserved is never uploaded. -/
theorem left_of_reserved (h : Uploads data t)
    (hreserved : ∀ document, Sections.Documents data document → ∀ name ∉ Sections.reserved, document.get? name = none) :
    ∀ e ∈ t, ¬e.ask.PatchesConfig := by
  induction h with
  | nil => simp
  | cons _ hconfig hdata hgoes ih =>
    have hcourse := hdata ▸ course_of_goes hconfig hgoes
    refine List.forall_mem_append.2 ⟨?_, ih⟩
    rintro ⟨_, accepted⟩ he ⟨leader, sections, rfl⟩
    obtain ⟨hwanted, actual, hlacks, _⟩ := hcourse.of_patch he
    obtain ⟨document, hdocument, hsections⟩ := Sections.ofYaml_eq_ok_iff.1 hwanted
    have hnone : ∀ name, sections.get? name = none := by
      intro name
      rw [hsections]
      split
      next => rfl
      next hfree => exact hreserved document hdocument name hfree
    rw [Sections.subset_of_get?_eq_none hnone] at hlacks
    cases hlacks

end Uploads

/-- For every text and whatever config an instance holds. Once an upload has read the config, it patches exactly
if the text is a document of which the config lacks a section. It patches only after a read, with the sections of
the document that are not reserved. When the patch is accepted, the instance holds these sections, all other ones
as before, and every later upload of the text leaves it alone. A document whose sections are all reserved, and one
without sections, is never uploaded. -/
theorem uploads_converge (data : String) :
    (∀ (c : ConfigPass) config t said o, c.object = some config → config.spec.data = data →
      (configure.run c).Goes t (said ++ t) o →
        (∀ leader actual, (⟨Request.admin (.cartridgeConfig leader), Except.ok actual⟩ : Turn Surroundings) ∈ said →
          ((∃ e ∈ said, e.ask.PatchesConfig) ↔
            ∃ wanted, Sections.ofYaml data = .ok wanted ∧ wanted.subset actual = false)) ∧
        ∀ leader sections accepted,
          (⟨Request.admin (.applyCartridgeConfig leader sections), accepted⟩ : Turn Surroundings) ∈ said →
          (∃ actual, (⟨Request.admin (.cartridgeConfig leader), Except.ok actual⟩ : Turn Surroundings) ∈ said) ∧
          (∃ document, Sections.Documents data document ∧ ∀ name,
            sections.get? name = if name ∈ Sections.reserved then none else document.get? name) ∧
          ∀ held held', Talk.Patches held said held' → accepted = .ok () →
            (∀ name, held'.get? name = (sections.get? name).or (held.get? name)) ∧
            (∀ name ∈ Sections.reserved, held'.get? name = held.get? name) ∧
            sections.subset held'.free = true ∧
            ∀ later held'', Uploads data later → Talk.Patches held' later held'' →
              (∀ e ∈ later, ¬e.ask.PatchesConfig) ∧ held'' = held') ∧
    ((∀ document, Sections.Documents data document → ∀ name ∉ Sections.reserved, document.get? name = none) →
      ∀ talk, Uploads data talk → ∀ e ∈ talk, ¬e.ask.PatchesConfig) := by
  refine ⟨?_, fun hreserved talk huploads => huploads.left_of_reserved hreserved⟩
  rintro c config t said o hconfig rfl hgoes
  have hcourse := course_of_goes hconfig hgoes
  refine ⟨fun leader actual hread => hcourse.patches_iff hread, fun leader sections accepted hpatch => ?_⟩
  obtain ⟨hwanted, actual, _, hread⟩ := hcourse.of_patch hpatch
  refine ⟨⟨actual, hread⟩, Sections.ofYaml_eq_ok_iff.1 hwanted, ?_⟩
  rintro held held' hheld rfl
  obtain rfl := hcourse.held_of_patch hheld hpatch
  have hthere : sections.subset (held.patched sections).free = true := Sections.subset_free_patched hwanted
  refine ⟨fun name => SortedMap.get?_union, fun name hname => ?_, hthere, fun later held'' huploads hlater => ?_⟩
  · have hnone := Sections.get?_eq_none_of_ofYaml hwanted hname
    rw [Sections.patched, SortedMap.get?_union, hnone, Option.none_or]
  · refine huploads.left (fun wanted hwanted' => ?_) hlater
    obtain rfl : sections = wanted := Except.ok.inj (hwanted.symm.trans hwanted')
    exact hthere

/-! ### An example: pages beside a topology -/

/-- A document with a section that is free and one that is reserved. -/
def pagesText : String := "pages: 7\ntopology: none\n"

/-- The section that is free. -/
def pages : Sections := SortedMap.empty.insert "pages" (.int 7)

theorem ofYaml_pagesText : Sections.ofYaml pagesText = .ok pages := by
  have hread : (Sections.ofYaml pagesText).toOption = some pages := by decide +kernel
  cases h : Sections.ofYaml pagesText with
  | error e => rw [h] at hread; cases hread
  | ok wanted => rw [h] at hread; rw [Option.some.inj hread]

/-- The leader of a topology. -/
def router : Pod := ⟨{ ObjectMeta.blank with name := some "router-0-0", ns := some "db" }, none, none⟩

/-- The config of a shop with the document. -/
def document : CartridgeConfig where
  metadata := { ObjectMeta.blank with
    name := some "settings", ns := some "db", labels := some (Labels.clusterSelector "shop") }
  spec := ⟨pagesText⟩
  status := none

/-- A pass that has loaded the document and knows the leader; irreducible, so that to elaborate something about it
does not read the document. -/
@[irreducible] def loaded : ConfigPass := ⟨⟨"db", "settings"⟩, some document, none, some router⟩

/-- What an instance holds before. -/
def topology : Sections := SortedMap.empty.insert "topology" (.str "ours")

/-- What the upload says. -/
def uploaded : Talk Surroundings := [
  ⟨Request.admin (.applyCartridgeConfig router pages), Except.ok ()⟩,
  ⟨Request.log .info "Applying cartridge config", ()⟩,
  ⟨Request.admin (.cartridgeConfig router), Except.ok topology.free⟩]

/-- The pages are uploaded, the topology stays, and later uploads leave the instance alone. -/
theorem pages_uploaded_once :
    (configure.run loaded).Goes [] (uploaded ++ []) (.next, loaded) ∧
      ∃ held', Talk.Patches topology uploaded held' ∧
        held'.get? "pages" = some (.int 7) ∧ held'.get? "topology" = some (.str "ours") ∧
        ∀ later held'', Uploads pagesText later → Talk.Patches held' later held'' →
          (∀ e ∈ later, ¬e.ask.PatchesConfig) ∧ held'' = held' := by
  have hconfig : loaded.object = some document := by rw [loaded]
  have hwanted : Sections.ofYaml document.spec.data = .ok pages := ofYaml_pagesText
  have hlacks : pages.subset topology.free = false := by decide
  have hleader : loaded.leader = some router := by rw [loaded]
  have hgoes : (configure.run loaded).Goes [] (uploaded ++ []) (.next, loaded) :=
    goes_of_lacks hconfig hleader hwanted hlacks
  have hheld : Talk.Patches topology uploaded (topology.patched pages) :=
    .cons (.cons (.cons .nil .told) (.elsewhere (by simp [Request.ReadsConfig]) (by simp [Request.PatchesConfig])))
      .patched
  refine ⟨hgoes, _, hheld, ?_⟩
  obtain ⟨_, hpatch⟩ := (uploads_converge pagesText).1 loaded document [] uploaded _ hconfig rfl hgoes
  obtain ⟨_, _, hconverges⟩ := hpatch router pages (.ok ()) List.mem_cons_self
  obtain ⟨hsections, hreserved, _, hlater⟩ := hconverges _ _ hheld rfl
  exact ⟨(hsections "pages").trans (by decide), (hreserved "topology" (by decide)).trans (by decide), hlater⟩

end ConfigPass

end ClusterKeeper
