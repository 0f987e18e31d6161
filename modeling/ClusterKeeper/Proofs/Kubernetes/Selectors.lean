import ClusterKeeper.Proofs.Json.Wire
import ClusterKeeper.Proofs.Kubernetes.Labels
import Mathlib.Data.List.Basic

/-!
The text of a selector, and what is read off it. The store is asked by text for the objects that a selector
selects, while passes look at labels themselves, so both have to mean the same. A text is read part by part: the
parts stand between commas, and a pair is split at the first equals sign of its part (`Selector.pairs?`). What was
written is read as it was if no comma and no equals sign stands where it would be taken for a separator
(`Selector.Separable`).

Main statement: the text says what the selector says, the labels of several sets match the last one, and what
belongs to a replicaset belongs to its role (`Selector.text_faithful`).
-/

namespace ClusterKeeper

namespace Selector

/-- The pair that a part of a text writes; its key ends at the first equals sign. -/
def pair? (part : List Char) : Option (String × String) :=
  match part.dropWhile (· ≠ '=') with
  | [] => none
  | _ :: value => some (String.ofList (part.takeWhile (· ≠ '=')), String.ofList value)

/-- The pairs that a text writes; the empty text writes none. -/
def pairs? (text : String) : Option (Entries String) :=
  if text = "" then some [] else (text.toList.splitOn ',').mapM pair?

/-- Labels, if there are any, are selected by a text if they have all the pairs that it writes. -/
def Selects (text : String) (labels : Option Labels) : Prop :=
  ∃ pairs, pairs? text = some pairs ∧ ∀ e ∈ pairs, labels.bind (·.get? e.1) = some e.2

/-- No comma stands in a key or a value, and no equals sign in a key. -/
def Separable (selector : Labels) : Prop :=
  ∀ e ∈ selector.entries, ',' ∉ e.1.toList ∧ '=' ∉ e.1.toList ∧ ',' ∉ e.2.toList

instance (selector : Labels) : Decidable (Separable selector) :=
  inferInstanceAs (Decidable (∀ e ∈ selector.entries, _))

variable {m n : Labels}

/-- The part of a text that writes a pair. -/
def part (e : String × String) : List Char := e.1.toList ++ '=' :: e.2.toList

theorem toList_text (m : Labels) :
    m.selectorText.toList = List.intercalate [','] (m.entries.map part) := by
  rw [Labels.selectorText, String.toList_intercalate, List.map_map]
  refine congrArg (List.intercalate [',']) (List.map_congr_left fun e _ => ?_)
  simp [part]

/-- A key without an equals sign is read up to the one that was written. -/
theorem pair?_part {e : String × String} (h : '=' ∉ e.1.toList) : pair? (part e) = some e := by
  have hkey : ∀ c ∈ e.1.toList, decide (c ≠ '=') = true := by
    intro c hc
    exact decide_eq_true fun heq => h (heq ▸ hc)
  rw [pair?, part, List.dropWhile_append_of_pos hkey, List.takeWhile_append_of_pos hkey]
  simp

/-- The text of a selector is empty if the selector is: every pair has its equals sign. -/
theorem text_eq_empty_iff : m.selectorText = "" ↔ m = .empty := by
  constructor
  · intro h
    have hparts : List.intercalate [','] (m.entries.map part) = [] := by
      rw [← toList_text, h]
      rfl
    refine SortedMap.ext ?_
    cases hentries : m.entries with
    | nil => rfl
    | cons e es =>
      rw [hentries, List.map_cons, part] at hparts
      cases es <;> simp [List.intercalate] at hparts
  · rintro rfl
    rfl

/-- What was written is read as it was. -/
theorem pairs?_text (h : Separable m) : pairs? m.selectorText = some m.entries := by
  rw [pairs?]
  split
  next hempty => rw [text_eq_empty_iff.1 hempty]; rfl
  next hne =>
    have hparts : m.entries.map part ≠ [] := by
      intro hnil
      refine hne (text_eq_empty_iff.2 (SortedMap.ext ?_))
      exact List.map_eq_nil_iff.1 hnil
    have hcommas : ∀ p ∈ m.entries.map part, ',' ∉ p := by
      intro p hp
      obtain ⟨e, he, rfl⟩ := List.mem_map.1 hp
      obtain ⟨hkey, -, hvalue⟩ := h e he
      simp [part, hkey, hvalue]
    rw [toList_text, List.splitOn_intercalate _ hcommas hparts]
    exact mapM_map_eq_some fun e he => pair?_part (h e he).2.1

/-- Selectors that can be told from their texts are told by them. -/
theorem eq_of_text_eq (hm : Separable m) (hn : Separable n) (h : m.selectorText = n.selectorText) : m = n := by
  have hpairs : some m.entries = some n.entries := by
    rw [← pairs?_text hm, ← pairs?_text hn, h]
  exact SortedMap.ext (Option.some.inj hpairs)

/-- The text selects what matches. -/
theorem selects_text_iff (h : Separable m) {labels : Option Labels} :
    Selects m.selectorText labels ↔ Labels.Matches labels m := by
  simp only [Selects, pairs?_text h, Option.some.injEq, exists_eq_left']
  rfl

/-- A selector that can be told from its text is read off it, pair by pair, the empty text being that of the empty
selector; so different selectors have different texts, and what the text selects is what matches. And for any
labels at all: several sets as one match the last of them, and what matches the selector of a replicaset matches
that of its role. -/
theorem text_faithful :
    (∀ m : Labels, Separable m → pairs? m.selectorText = some m.entries) ∧
    (∀ m : Labels, m.selectorText = "" ↔ m = .empty) ∧
    (∀ m n : Labels, Separable m → Separable n → m.selectorText = n.selectorText → m = n) ∧
    (∀ (m : Labels) (labels : Option Labels), Separable m →
      (Selects m.selectorText labels ↔ Labels.Matches labels m)) ∧
    (∀ (sets : List Labels) (last : Labels), Labels.Matches (some (Labels.merge (sets ++ [last]))) last) ∧
    ∀ (labels : Option Labels) (cluster role : String) (ordinal : Int),
      Labels.Matches labels (Labels.ordinalSelector cluster role ordinal) →
        Labels.Matches labels (Labels.roleSelector cluster role) := by
  refine ⟨fun m => pairs?_text, fun m => text_eq_empty_iff, fun m n => eq_of_text_eq,
    fun m labels h => selects_text_iff h, fun sets last => ?_,
    fun labels cluster role ordinal => Labels.matches_roleSelector⟩
  exact Labels.matches_iff.2 fun k v => Labels.get?_merge_last

/-! ### An example: a value with an equals sign in it -/

/-- The selector of a replicaset of the shop, with one more label. -/
def noted : Labels := (Labels.ordinalSelector "shop" "storage" 0).insert "note" "a=b"

/-- The text of the selector is read at its commas and at the first equals sign of each part. -/
theorem noted_faithful :
    Separable noted ∧ noted.selectorText = "note=a=b,tarantool.io/cluster-name=shop," ++
      "tarantool.io/replicaset-ordinal=0,tarantool.io/role-name=storage" ∧
      pairs? noted.selectorText = some noted.entries ∧ Selects noted.selectorText (some noted) ∧
      Labels.Matches (some noted) (Labels.roleSelector "shop" "storage") := by
  obtain ⟨hread, _, _, hselects, _, hrole⟩ := text_faithful
  have hseparable : Separable noted := by decide
  exact ⟨hseparable, by decide, hread noted hseparable, (hselects noted _ hseparable).2 (by decide),
    hrole _ _ _ 0 (by decide)⟩

end Selector

end ClusterKeeper
