import ClusterKeeper.Proofs.Json.Wire

/-!
Edits of objects that keep them readable. A record reads each of its members by a rule (`MemberRule`): the member
may be left out or not, and its value has to be readable. An object is edited when members that may be left out
are, when objects in it are edited likewise, and when there is anything at all under keys that the record does not
know (`Members.Edited`).

Main statement: an object that can be read still can when it was edited (`RecordWire.reads_of_edited`).
-/

namespace ClusterKeeper

/-- A value of a type can be read. -/
def Json.Reads (α : Type) [Wire α] (j : Json) : Prop := (Wire.read j : Option α).isSome = true

/-- Types that know edits of their objects. These can still be read afterwards. -/
class EditableWire (α : Type) [Wire α] where
  Edits : Members → Members → Prop
  reads_of_edits : ∀ {ms ms' : Members}, Edits ms ms' → (Json.obj ms).Reads α → (Json.obj ms').Reads α

/-- How a record reads one of its members. -/
structure MemberRule where
  key : String
  /-- The member may be left out. -/
  absentable : Bool
  /-- The values that can be read. -/
  Reads : Json → Prop
  /-- The edits of objects among these values. -/
  Edits : Members → Members → Prop
  reads_of_edits : ∀ {ms ms' : Members}, Edits ms ms' → Reads (.obj ms) → Reads (.obj ms')

namespace MemberRule

/-- The record reads what is found under the key. -/
def Takes (rule : MemberRule) (found : Option Json) : Prop := found.elim (rule.absentable = true) rule.Reads

/-- What becomes of what is found under the key: it is kept, or left out if it may be, or is an object that is
edited. -/
inductive Edited (rule : MemberRule) : Option Json → Option Json → Prop
  | kept (found : Option Json) : rule.Edited found found
  | dropped (found : Option Json) : rule.absentable = true → rule.Edited found none
  | inside {ms ms' : Members} : rule.Edits ms ms' → rule.Edited (some (.obj ms)) (some (.obj ms'))

theorem takes_of_edited {rule : MemberRule} {old new : Option Json} (h : rule.Edited old new)
    (hold : rule.Takes old) : rule.Takes new := by
  cases h with
  | kept => exact hold
  | dropped _ habsentable => exact habsentable
  | inside hedits => exact rule.reads_of_edits hedits hold

variable (α : Type) [Wire α] [EditableWire α]

/-- A member that has to be there. -/
def required (k : String) : MemberRule :=
  ⟨k, false, Json.Reads α, EditableWire.Edits α, EditableWire.reads_of_edits⟩

/-- A member with a default for its absence. -/
def defaulted (k : String) : MemberRule :=
  ⟨k, true, Json.Reads α, EditableWire.Edits α, EditableWire.reads_of_edits⟩

/-- A member that may be absent or `null`. -/
def optional (k : String) : MemberRule where
  key := k
  absentable := true
  Reads j := j = .null ∨ j.Reads α
  Edits := EditableWire.Edits α
  reads_of_edits h hold := .inr (EditableWire.reads_of_edits h (hold.resolve_left (by simp)))

variable {α} {ms : Members} {k : String}

@[simp] theorem key_required : (required α k).key = k := rfl

@[simp] theorem key_defaulted : (defaulted α k).key = k := rfl

@[simp] theorem key_optional : (optional α k).key = k := rfl

@[simp] theorem exists_required :
    (∃ a : α, ms.required k = some a) ↔ (required α k).Takes (Entries.get? ms k) := by
  rw [Members.required, ← Option.isSome_iff_exists]
  cases Entries.get? ms k with
  | none => simp [required, Takes]
  | some j => rfl

@[simp] theorem exists_defaulted {default : α} :
    (∃ a, ms.defaulted k default = some a) ↔ (defaulted α k).Takes (Entries.get? ms k) := by
  rw [Members.defaulted, ← Option.isSome_iff_exists]
  cases Entries.get? ms k with
  | none => simp [defaulted, Takes]
  | some j => rfl

@[simp] theorem exists_optional :
    (∃ a : Option α, ms.optional k = some a) ↔ (optional α k).Takes (Entries.get? ms k) := by
  rw [Members.optional, ← Option.isSome_iff_exists]
  cases Entries.get? ms k with
  | none => simp [optional, Takes]
  | some j =>
    show _ ↔ j = .null ∨ j.Reads α
    rw [Json.Reads]
    split
    next h => cases h
    next h => simp [Option.some.inj h]
    next j' hne h =>
      obtain rfl := Option.some.inj h
      have hnull : j ≠ .null := fun hnull => hne (hnull ▸ rfl)
      simp [hnull]

end MemberRule

/-! ### Records -/

/-- Each member that a record knows is edited by its rule. -/
def Members.Edited (rules : List MemberRule) (ms ms' : Members) : Prop :=
  ∀ rule ∈ rules, rule.Edited (Entries.get? ms rule.key) (Entries.get? ms' rule.key)

/-- Records whose objects are read exactly if all rules take what they find. -/
class RecordWire (α : Type) [Wire α] where
  rules : List MemberRule
  reads_iff : ∀ ms : Members, (Json.obj ms).Reads α ↔ ∀ rule ∈ rules, rule.Takes (Entries.get? ms rule.key)

namespace RecordWire

variable {α : Type} [Wire α]

theorem isSome_bind_iff {α β : Type} {x : Option α} {f : α → Option β} :
    (x.bind f).isSome = true ↔ ∃ a, x = some a ∧ (f a).isSome = true := by
  cases x <;> simp

/-- Objects that can be read still can when they were edited. -/
theorem reads_of_edited [RecordWire α] {ms ms' : Members} (h : Members.Edited (rules α) ms ms')
    (hold : (Json.obj ms).Reads α) : (Json.obj ms').Reads α := by
  rw [reads_iff] at hold ⊢
  exact fun rule hrule => MemberRule.takes_of_edited (h rule hrule) (hold rule hrule)

instance [RecordWire α] : EditableWire α := ⟨Members.Edited (rules α), reads_of_edited⟩

/-- Where no rules are known, no edits are. -/
instance (priority := low) : EditableWire α := ⟨fun _ _ => False, fun h => h.elim⟩

end RecordWire

end ClusterKeeper
