/-!
Maps from text to values, kept as a list of entries in strictly increasing key order. Label sets,
annotations, config sections and JSON objects are all of this kind: what can be read off such a map
is its entries, in the order of the keys' code points, so that equal maps have equal entries.

The operations work on the list of entries (`Entries`), and `SortedMap` packs such a list with the
proof that it is in order. Main statements: an insertion keeps the order (`Entries.ordered_insert`), and
entries in order are not moved (`Entries.sort_of_ordered`).
-/

namespace ClusterKeeper

/-- Key and value pairs, the keys in any order. -/
abbrev Entries (α : Type) := List (String × α)

namespace Entries

variable {α : Type}

/-- The keys strictly increase. -/
def Ordered (es : Entries α) : Prop := es.Pairwise (fun a b => a.1 < b.1)

instance (es : Entries α) : Decidable es.Ordered :=
  inferInstanceAs (Decidable (List.Pairwise _ es))

/-- Puts an entry in its place, over an entry of the same key. -/
def insert (k : String) (v : α) : Entries α → Entries α
  | [] => [(k, v)]
  | (k', v') :: es =>
    if k < k' then (k, v) :: (k', v') :: es
    else if k = k' then (k, v) :: es
    else (k', v') :: insert k v es

/-- The entries of a list in order; of two with one key the later counts. -/
def sort (es : Entries α) : Entries α := es.foldl (fun acc e => insert e.1 e.2 acc) []

/-- The value of a key. -/
def get? (es : Entries α) (k : String) : Option α := List.lookup k es

theorem mem_insert {k : String} {v : α} {es : Entries α} {e : String × α} :
    e ∈ insert k v es → e = (k, v) ∨ e ∈ es := by
  induction es with
  | nil => intro h; exact Or.inl (List.mem_singleton.1 h)
  | cons e' es ih =>
    intro h
    rw [insert] at h
    split at h
    · rcases List.mem_cons.1 h with h | h
      · exact Or.inl h
      · exact Or.inr h
    · split at h
      · rcases List.mem_cons.1 h with h | h
        · exact Or.inl h
        · exact Or.inr (List.mem_cons_of_mem _ h)
      · rcases List.mem_cons.1 h with h | h
        · exact Or.inr (h ▸ List.mem_cons_self)
        · rcases ih h with h | h
          · exact Or.inl h
          · exact Or.inr (List.mem_cons_of_mem _ h)

/-- An insertion keeps the entries in order. -/
theorem ordered_insert (k : String) (v : α) {es : Entries α} (h : es.Ordered) :
    (insert k v es).Ordered := by
  induction es with
  | nil => simp [insert, Ordered]
  | cons e es ih =>
    obtain ⟨hhead, htail⟩ := List.pairwise_cons.1 h
    rw [insert]
    split
    · rename_i hlt
      refine List.pairwise_cons.2 ⟨fun x hx => ?_, h⟩
      rcases List.mem_cons.1 hx with rfl | hx
      · exact hlt
      · exact String.lt_trans hlt (hhead x hx)
    · split
      · rename_i _ heq
        exact List.pairwise_cons.2 ⟨fun x hx => heq ▸ hhead x hx, htail⟩
      · rename_i hge hne
        refine List.pairwise_cons.2 ⟨fun x hx => ?_, ih htail⟩
        rcases mem_insert hx with rfl | hx
        · rcases Std.lt_trichotomy k e.1 with hlt | heq | hlt
          · exact absurd hlt hge
          · exact absurd heq hne
          · exact hlt
        · exact hhead x hx

theorem ordered_sort (es : Entries α) : (sort es).Ordered := by
  suffices ∀ (acc : Entries α), acc.Ordered →
      (es.foldl (fun acc e => insert e.1 e.2 acc) acc).Ordered from this [] List.Pairwise.nil
  induction es with
  | nil => exact fun _ h => h
  | cons e es ih => exact fun acc h => ih _ (ordered_insert e.1 e.2 h)

/-- A key above all others is put at the end. -/
theorem insert_of_forall_lt {k : String} (v : α) {es : Entries α} (h : ∀ e ∈ es, e.1 < k) :
    insert k v es = es ++ [(k, v)] := by
  induction es with
  | nil => rfl
  | cons e es ih =>
    have hlt : e.1 < k := h e List.mem_cons_self
    have hne : k ≠ e.1 := fun heq => String.lt_irrefl k (heq ▸ hlt)
    rw [insert, if_neg (String.lt_asymm hlt), if_neg hne,
      ih fun x hx => h x (List.mem_cons_of_mem _ hx)]
    rfl

/-- Entries in order are left as they are. -/
theorem sort_of_ordered {es : Entries α} (h : es.Ordered) : sort es = es := by
  suffices ∀ acc : Entries α, Ordered (acc ++ es) →
      es.foldl (fun acc e => insert e.1 e.2 acc) acc = acc ++ es from this [] h
  induction es with
  | nil => exact fun acc _ => (List.append_nil acc).symm
  | cons e es ih =>
    intro acc hacc
    have hlast : ∀ x ∈ acc, x.1 < e.1 :=
      fun x hx => (List.pairwise_append.1 hacc).2.2 x hx e List.mem_cons_self
    rw [List.foldl_cons, insert_of_forall_lt e.2 hlast]
    have hassoc : acc ++ e :: es = acc ++ [(e.1, e.2)] ++ es := by simp
    rw [hassoc] at hacc ⊢
    exact ih (List.pairwise_cons.1 h).2 _ hacc

theorem ordered_filter {es : Entries α} (keep : String × α → Bool) (h : es.Ordered) :
    Ordered (es.filter keep) := List.Pairwise.filter keep h

end Entries

/-- A map from text to values whose entries are in key order. -/
structure SortedMap (α : Type) where
  entries : Entries α
  ordered : entries.Ordered

namespace SortedMap

variable {α β : Type}

@[ext] theorem ext {m n : SortedMap α} (h : m.entries = n.entries) : m = n := by
  cases m; cases n; cases h; rfl

instance [DecidableEq α] : DecidableEq (SortedMap α) := fun m n =>
  if h : m.entries = n.entries then isTrue (ext h) else isFalse fun e => h (e ▸ rfl)

/-- The map without entries. -/
def empty : SortedMap α := ⟨[], List.Pairwise.nil⟩

instance : Inhabited (SortedMap α) := ⟨empty⟩
instance : EmptyCollection (SortedMap α) := ⟨empty⟩

/-- The map of a list of entries; of two entries with one key the later counts. -/
def ofList (es : Entries α) : SortedMap α := ⟨Entries.sort es, Entries.ordered_sort es⟩

/-- The value of a key. -/
def get? (m : SortedMap α) (k : String) : Option α := m.entries.get? k

/-- Whether a key has a value. -/
def contains (m : SortedMap α) (k : String) : Bool := (m.get? k).isSome

/-- Sets the value of a key. -/
def insert (m : SortedMap α) (k : String) (v : α) : SortedMap α :=
  ⟨Entries.insert k v m.entries, Entries.ordered_insert k v m.ordered⟩

/-- The entries that satisfy a test. -/
def filter (keep : String × α → Bool) (m : SortedMap α) : SortedMap α :=
  ⟨m.entries.filter keep, Entries.ordered_filter keep m.ordered⟩

/-- The map without a key. -/
def erase (m : SortedMap α) (k : String) : SortedMap α := m.filter (fun e => e.1 ≠ k)

/-- Both maps together; where they share a key, the second counts. -/
def union (m n : SortedMap α) : SortedMap α :=
  n.entries.foldl (fun acc e => acc.insert e.1 e.2) m

/-- The keys, in order. -/
def keys (m : SortedMap α) : List String := m.entries.map (·.1)

/-- The values, in the order of their keys. -/
def values (m : SortedMap α) : List α := m.entries.map (·.2)

/-- Whether there is no entry. -/
def isEmpty (m : SortedMap α) : Bool := m.entries.isEmpty

end SortedMap

end ClusterKeeper
