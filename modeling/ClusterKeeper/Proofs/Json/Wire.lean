import ClusterKeeper.Json.Wire
import ClusterKeeper.Proofs.SortedMap

/-!
Values that come back from the wire as they were written (`LawfulWire`), and the members of a record
that is written: each key has the value of its one member (`Member.get?_written`). A record may be read
after some of its members were written over others; what is left out when it has its default then
keeps the value that was there before (`Members.defaulted_or`).
-/

namespace ClusterKeeper

/-- Values are read as they were written, and no value is written as `null`. -/
class LawfulWire (α : Type) [Wire α] : Prop where
  read_write : ∀ a : α, Wire.read (Wire.write a) = some a
  write_ne_null : ∀ a : α, Wire.write a ≠ Json.null

/-- Items that come back one by one come back together. -/
theorem mapM_map_eq_some {α β : Type} {f : α → β} {g : β → Option α} {as : List α}
    (h : ∀ a ∈ as, g (f a) = some a) : (as.map f).mapM g = some as := by
  induction as with
  | nil => rfl
  | cons a as ih =>
    obtain ⟨ha, has⟩ := List.forall_mem_cons.1 h
    rw [List.map_cons, List.mapM_cons, ha, ih has]
    rfl

namespace LawfulWire

instance : LawfulWire String := ⟨fun _ => rfl, nofun⟩

instance : LawfulWire Bool := ⟨fun _ => rfl, nofun⟩

instance : LawfulWire Int32 where
  read_write x := by
    have hmin := x.le_toInt
    have hmax := x.toInt_lt
    show (if -0x80000000 ≤ x.toInt ∧ x.toInt < 0x80000000 then some (Int32.ofInt x.toInt) else none) = some x
    rw [if_pos ⟨by omega, by omega⟩, Int32.ofInt_toInt]
  write_ne_null := nofun

instance : LawfulWire Int64 where
  read_write x := by
    have hmin := x.le_toInt
    have hmax := x.toInt_lt
    show (if -0x8000000000000000 ≤ x.toInt ∧ x.toInt < 0x8000000000000000 then some (Int64.ofInt x.toInt)
      else none) = some x
    rw [if_pos ⟨by omega, by omega⟩, Int64.ofInt_toInt]
  write_ne_null := nofun

instance {α : Type} [Wire α] [LawfulWire α] : LawfulWire (List α) where
  read_write _ := mapM_map_eq_some fun x _ => read_write x
  write_ne_null := nofun

instance {α : Type} [Wire α] [LawfulWire α] : LawfulWire (SortedMap α) where
  read_write m := by
    have hentries : (m.entries.map fun e => (e.1, Wire.write e.2)).mapM
        (fun e => do return (e.1, ← Wire.read e.2)) = some m.entries := by
      refine mapM_map_eq_some fun e _ => ?_
      rw [read_write]
      rfl
    have hsorted : SortedMap.ofList m.entries = m := SortedMap.ext (Entries.sort_of_ordered m.ordered)
    simp only [Wire.read, Wire.write]
    rw [hentries, Option.bind_eq_bind, Option.bind_some, hsorted]
    rfl
  write_ne_null := nofun

end LawfulWire

/-- Values that come back are told by what is written of them. -/
theorem LawfulWire.write_injective {α : Type} [Wire α] [LawfulWire α] :
    Function.Injective (Wire.write : α → Json) := by
  intro a b h
  have hread : Wire.read (Wire.write a) = some b := h ▸ LawfulWire.read_write b
  exact Option.some.inj ((LawfulWire.read_write a).symm.trans hread)

/-! ### Members that are written -/

namespace Member

variable {ms : List Member}

/-- The entries of a record that is written. -/
def written (ms : List Member) : Members := Entries.sort (ms.filterMap fun m => m.value.map (m.key, ·))

theorem present_eq (ms : List Member) : Json.present ms = .obj (written ms) := rfl

theorem get?_filterMap (h : (ms.map key).Nodup) (k : String) :
    Entries.get? (ms.filterMap fun m => m.value.map (m.key, ·)) k =
      (ms.find? (·.key = k)).bind value := by
  induction ms with
  | nil => rfl
  | cons m ms ih =>
    obtain ⟨key, value⟩ := m
    rw [List.map_cons, List.nodup_cons] at h
    by_cases hk : key = k
    · have hrest : ms.find? (·.key = k) = none := by
        rw [List.find?_eq_none]
        rintro m hm hkey
        exact h.1 (List.mem_map.2 ⟨m, hm, (of_decide_eq_true hkey).trans hk.symm⟩)
      cases value with
      | none => simp [hk, ih h.2, hrest]
      | some j => simp [hk, Entries.get?_cons]
    · cases value with
      | none => simp [hk, ih h.2]
      | some j => simp [hk, Ne.symm hk, ih h.2, Entries.get?_cons]

/-- Each key has the value of its one member. -/
theorem get?_written (ms : List Member) (h : (ms.map key).Nodup) (k : String) :
    Entries.get? (written ms) k = (ms.find? (·.key = k)).bind value := by
  have hkeys : ((ms.filterMap fun m => m.value.map (m.key, ·)).map Prod.fst).Nodup := by
    refine h.sublist ?_
    clear h
    induction ms with
    | nil => exact List.Sublist.slnil
    | cons m ms ih =>
      obtain ⟨key, value⟩ := m
      cases value with
      | none => exact ih.cons _
      | some j => exact ih.cons_cons _
  rw [written, Entries.get?_sort hkeys, get?_filterMap h]

end Member

/-- Records that are read from any members that have what is written under each key. -/
theorem LawfulWire.of_present {α : Type} [Wire α] {ms : α → List Member}
    (hwrite : ∀ a, Wire.write a = Json.present (ms a)) (hkeys : ∀ a, ((ms a).map Member.key).Nodup)
    (hread : ∀ a found, (∀ k, Entries.get? found k = ((ms a).find? (·.key = k)).bind Member.value) →
      Wire.read (Json.obj found) = some a) : LawfulWire α where
  read_write a := by
    rw [hwrite, Member.present_eq]
    exact hread a _ (Member.get?_written (ms a) (hkeys a))
  write_ne_null a := by
    rw [hwrite, Member.present_eq]
    exact nofun

/-! ### Members that are read -/

namespace Members

variable {α : Type} [Wire α] [LawfulWire α] {ms old : Members} {k : String}

theorem required_write {a : α} (h : Entries.get? ms k = some (Wire.write a)) : ms.required k = some a := by
  rw [required, h]
  exact LawfulWire.read_write a

theorem defaulted_write {a : α} (default : α) (h : Entries.get? ms k = some (Wire.write a)) :
    ms.defaulted k default = some a := by
  rw [defaulted, h]
  exact LawfulWire.read_write a

/-- A member that is left out when it has its default. -/
theorem defaulted_unlessDefault [DecidableEq α] {a default : α}
    (h : Entries.get? ms k = (Member.unlessDefault default k a).value) : ms.defaulted k default = some a := by
  rw [Member.unlessDefault] at h
  split at h
  next heq => rw [defaulted, h, heq]
  next => exact defaulted_write default h

/-- A member that is left out when it has its default, over another record. -/
theorem defaulted_or [DecidableEq α] {a b default : α} (hold : old.defaulted k default = some b)
    (h : Entries.get? ms k = (Member.unlessDefault default k a).value.or (Entries.get? old k)) :
    ms.defaulted k default = some (if a = default then b else a) := by
  rw [Member.unlessDefault] at h
  split at h
  next heq => rw [if_pos heq, ← hold, defaulted, defaulted, h, Option.none_or]
  next hne => rw [if_neg hne]; exact defaulted_write default h

/-- A member that is left out when it is absent, over another record. -/
theorem optional_or {a b : Option α} (hold : old.optional k = some b)
    (h : Entries.get? ms k = (Member.ifSome k a).value.or (Entries.get? old k)) :
    ms.optional k = some (a.or b) := by
  cases a with
  | none => rw [Option.none_or, ← hold, optional, optional, h]; rfl
  | some a =>
    have hwritten : Entries.get? ms k = some (Wire.write a) := h
    rw [optional, hwritten]
    have hread := LawfulWire.read_write a
    split
    next h' => cases h'
    next h' => exact absurd (Option.some.inj h') (LawfulWire.write_ne_null a)
    next j _ h' => rw [← Option.some.inj h', hread]; rfl

/-- A member that is left out when it is absent. -/
theorem optional_ifSome {a : Option α} (h : Entries.get? ms k = (Member.ifSome k a).value) :
    ms.optional k = some a := by
  have hold : Members.optional [] k = some (none : Option α) := rfl
  have hnew := optional_or (a := a) hold (h.trans (Option.or_none ..).symm)
  rwa [Option.or_none] at hnew

theorem lenient_write {a : α} (default : α) (h : Entries.get? ms k = some (Wire.write a)) :
    ms.lenient k default = some a := by
  rw [lenient, optional_ifSome (a := some a) h]
  rfl

end Members

end ClusterKeeper
