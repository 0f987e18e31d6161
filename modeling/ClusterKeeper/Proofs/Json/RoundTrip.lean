import ClusterKeeper.Proofs.Json.Leaves

/-!
A value printed as compact text and read again is the same value, if it holds no double, its objects
are in key order, its integers in range and it is not nested deeper than is read (`Plain`).

The induction is on the value, with what follows its text left open. One unit of fuel is spent for a
character at most, so the length of the text is fuel enough. Main statements: `readValue_print` and
`parseBytes?_compact`.
-/

namespace ClusterKeeper.Json

/-! ### Plain values -/

mutual

/-- Every number is an integer. -/
def Integral : Json → Prop
  | .float _ => False
  | .arr items => IntegralItems items
  | .obj members => IntegralMembers members
  | _ => True

/-- Every number of every item is an integer. -/
def IntegralItems : List Json → Prop
  | [] => True
  | v :: vs => Integral v ∧ IntegralItems vs

/-- Every number of every member is an integer. -/
def IntegralMembers : List (String × Json) → Prop
  | [] => True
  | (_, v) :: ms => Integral v ∧ IntegralMembers ms

end

mutual

/-- How many arrays and objects are nested. -/
def depth : Json → Nat
  | .arr items => depthOfItems items + 1
  | .obj members => depthOfMembers members + 1
  | _ => 0

/-- The depth of the deepest item. -/
def depthOfItems : List Json → Nat
  | [] => 0
  | v :: vs => max (depth v) (depthOfItems vs)

/-- The depth of the deepest member. -/
def depthOfMembers : List (String × Json) → Nat
  | [] => 0
  | (_, v) :: ms => max (depth v) (depthOfMembers ms)

end

/-- A value that compact text carries without loss. -/
structure Plain (v : Json) : Prop where
  valid : v.Valid
  integral : v.Integral
  shallow : v.depth ≤ nestingLimit

/-! ### What a text begins with and what follows it -/

/-- A character that a value's text may begin with. -/
def Opens (c : Char) : Prop := c.isDigit ∨ c ∈ ['n', 't', 'f', '"', '[', '{', '-']

theorem Opens.not_blank {c : Char} (hc : Opens c) : isBlank c = false := by
  rw [Bool.eq_false_iff]
  intro hb
  simp only [isBlank, Bool.or_eq_true, beq_iff_eq] at hb
  rcases hb with ((rfl | rfl) | rfl) | rfl <;> exact absurd hc (by simp [Opens])

theorem Opens.ne_bracket {c : Char} (hc : Opens c) : c ≠ ']' := by
  rintro rfl
  exact absurd hc (by simp [Opens])

theorem integer_head (i : Int) : ∃ c cs, integer i = c :: cs ∧ (c.isDigit ∨ c = '-') := by
  rw [integer]
  split
  · exact ⟨'-', _, rfl, Or.inr rfl⟩
  · cases hds : Nat.toDigits 10 i.natAbs with
    | nil => exact absurd hds Nat.toDigits_ne_nil
    | cons c ds =>
      have hc : c ∈ Nat.toDigits 10 i.natAbs := hds ▸ List.mem_cons_self
      exact ⟨c, ds, rfl, Or.inl (Nat.isDigit_of_mem_toDigits (by decide) (by decide) hc)⟩

theorem print_head {v : Json} (hv : v.Integral) : ∃ c cs, print v = c :: cs ∧ Opens c := by
  cases v with
  | null => exact ⟨'n', _, rfl, Or.inr (by simp)⟩
  | bool b =>
    cases b with
    | false => exact ⟨'f', _, rfl, Or.inr (by simp)⟩
    | true => exact ⟨'t', _, rfl, Or.inr (by simp)⟩
  | int i =>
    obtain ⟨c, cs, hcs, hc⟩ := integer_head i
    refine ⟨c, cs, by rw [print, hcs], hc.imp_right fun h => ?_⟩
    simp [h]
  | float x => exact hv.elim
  | str s => exact ⟨'"', _, by rw [print, quote]; rfl, Or.inr (by simp)⟩
  | arr items => exact ⟨'[', _, by rw [print], Or.inr (by simp)⟩
  | obj members => exact ⟨'{', _, by rw [print], Or.inr (by simp)⟩

theorem one_le_length_print {v : Json} (hv : v.Integral) : 1 ≤ (print v).length := by
  obtain ⟨c, cs, hcs, _⟩ := print_head hv
  rw [hcs]
  exact Nat.le_add_left 1 _

theorem one_le_length_printMoreItems (vs : List Json) : 1 ≤ (printMoreItems vs).length := by
  cases vs with
  | nil => exact Nat.le_refl 1
  | cons v vs => exact Nat.le_add_left 1 _

theorem skipBlanks_cons {c : Char} (hc : isBlank c = false) (cs : List Char) :
    skipBlanks (c :: cs) = c :: cs := by
  rw [skipBlanks, List.dropWhile_cons_of_neg (by simp [hc])]

theorem endsNumber_printMoreItems (vs : List Json) (rest : List Char) :
    EndsNumber (printMoreItems vs ++ rest) := by
  cases vs with
  | nil => exact (by decide : Char.isDigit ']' = false ∧ ']' ≠ '.' ∧ ']' ≠ 'e' ∧ ']' ≠ 'E')
  | cons v vs => exact (by decide : Char.isDigit ',' = false ∧ ',' ≠ '.' ∧ ',' ≠ 'e' ∧ ',' ≠ 'E')

theorem endsNumber_printMoreMembers (ms : List (String × Json)) (rest : List Char) :
    EndsNumber (printMoreMembers ms ++ rest) := by
  cases ms with
  | nil =>
    exact (by decide : Char.isDigit '}' = false ∧ '}' ≠ '.' ∧ '}' ≠ 'e' ∧ '}' ≠ 'E')
  | cons m ms =>
    obtain ⟨k, v⟩ := m
    exact (by decide : Char.isDigit ',' = false ∧ ',' ≠ '.' ∧ ',' ≠ 'e' ∧ ',' ≠ 'E')

theorem printMoreItems_cons (v : Json) (vs : List Json) :
    printMoreItems (v :: vs) = ',' :: printItems (v :: vs) := rfl

theorem printMoreMembers_cons (m : String × Json) (ms : List (String × Json)) :
    printMoreMembers (m :: ms) = ',' :: printMembers (m :: ms) := rfl

/-- What begins with a digit or a minus is read as a number. -/
theorem readValue_number {c : Char} (hc : c.isDigit ∨ c = '-') (cs : List Char) (fuel depth : Nat) :
    readValue (fuel + 1) depth (c :: cs) = readNumber (c :: cs) := by
  have hopens : Opens c := hc.imp_right fun h => by simp [h]
  have hother : ∀ d : Char, d.isDigit = false → d ≠ '-' → c ≠ d := by
    rintro d hdigit hminus rfl
    rcases hc with hc | hc
    · rw [hdigit] at hc
      exact absurd hc (by decide)
    · exact hminus hc
  rw [readValue, skipBlanks_cons hopens.not_blank]
  split
  next h => exact absurd (List.cons.inj h).1 (hother _ rfl (by decide))
  next h => exact absurd (List.cons.inj h).1 (hother _ rfl (by decide))
  next h => exact absurd (List.cons.inj h).1 (hother _ rfl (by decide))
  next h => exact absurd (List.cons.inj h).1 (hother _ rfl (by decide))
  next h => exact absurd (List.cons.inj h).1 (hother _ rfl (by decide))
  next h => exact absurd (List.cons.inj h).1 (hother _ rfl (by decide))
  next => rfl

/-! ### Values -/

mutual

/-- A value is read back from its text, which has to be over where a number ends. -/
theorem readValue_print (v : Json) (hvalid : v.Valid) (hint : v.Integral) (fuel depth : Nat)
    (hfuel : (print v).length ≤ fuel) (hdepth : v.depth ≤ depth) (rest : List Char)
    (hrest : EndsNumber rest) : readValue fuel depth (print v ++ rest) = some (v, rest) := by
  obtain ⟨fuel, rfl⟩ : ∃ f, fuel = f + 1 :=
    ⟨fuel - 1, by have := one_le_length_print hint; omega⟩
  cases v with
  | null => rfl
  | bool b => cases b with
    | false => rfl
    | true => rfl
  | int i =>
    obtain ⟨c, cs, hcs, hc⟩ := integer_head i
    have hnumber := readNumber_integer hrest hvalid
    rw [hcs] at hnumber
    rw [print, hcs]
    exact (readValue_number hc _ _ _).trans hnumber
  | float x => exact hint.elim
  | str s =>
    rw [print, quote]
    simp only [List.cons_append, List.append_assoc, List.nil_append]
    rw [readValue, skipBlanks_cons (by decide)]
    simp only [readText_quote, Option.map_some, String.ofList_toList]
  | arr items =>
    cases items with
    | nil => cases depth with
      | zero => exact absurd hdepth (Nat.not_succ_le_zero _)
      | succ depth => rfl
    | cons v vs =>
      cases depth with
      | zero => exact absurd hdepth (Nat.not_succ_le_zero _)
      | succ depth =>
        have hitems := readItems_print (v :: vs) (List.cons_ne_nil _ _) hvalid hint fuel depth
          (Nat.le_of_succ_le_succ hfuel) (Nat.le_of_succ_le_succ hdepth) rest
        obtain ⟨c, cs, hcs, hc⟩ := print_head hint.1
        have hfirst : printItems (v :: vs) ++ rest = c :: (cs ++ printMoreItems vs ++ rest) := by
          rw [printItems, hcs]; rfl
        rw [print, List.cons_append, readValue, skipBlanks_cons (by decide)]
        rw [hfirst] at hitems ⊢
        simp only [skipBlanks_cons hc.not_blank]
        split
        next h => exact absurd h (Nat.succ_ne_zero _)
        next h => exact absurd (List.cons.inj h).1 hc.ne_bracket
        next h _ => rw [← Nat.succ.inj h, hitems, Option.map_some]
  | obj members =>
    cases members with
    | nil => cases depth with
      | zero => exact absurd hdepth (Nat.not_succ_le_zero _)
      | succ depth => rfl
    | cons m ms =>
      cases depth with
      | zero => exact absurd hdepth (Nat.not_succ_le_zero _)
      | succ depth =>
        have hmembers := readMembers_print (m :: ms) (List.cons_ne_nil _ _) hvalid.2 hint fuel depth
          (Nat.le_of_succ_le_succ hfuel) (Nat.le_of_succ_le_succ hdepth) rest
        have hfirst : printMembers (m :: ms) ++ rest = '"' :: (m.1.toList.flatMap escape ++ ['"'] ++
            ':' :: print m.2 ++ printMoreMembers ms ++ rest) := by
          obtain ⟨k, v⟩ := m
          rw [printMembers, quote]; rfl
        rw [print, List.cons_append, readValue, skipBlanks_cons (by decide)]
        rw [hfirst] at hmembers ⊢
        simp only [skipBlanks_cons (by decide : isBlank '"' = false)]
        split
        next h => exact absurd h (Nat.succ_ne_zero _)
        next h => exact absurd (List.cons.inj h).1 (by decide)
        next h _ =>
          rw [← Nat.succ.inj h, hmembers, Option.map_some, object, Entries.sort_of_ordered hvalid.1]

/-- The items of an array are read back up to its bracket. -/
theorem readItems_print (items : List Json) (hne : items ≠ []) (hvalid : ValidItems items)
    (hint : IntegralItems items) (fuel depth : Nat) (hfuel : (printItems items).length ≤ fuel)
    (hdepth : depthOfItems items ≤ depth) (rest : List Char) :
    readItems fuel depth (printItems items ++ rest) = some (items, rest) := by
  cases items with
  | nil => exact absurd rfl hne
  | cons v vs =>
    have hlength := one_le_length_print hint.1
    rw [printItems, List.length_append] at hfuel
    rw [depthOfItems, Nat.max_le] at hdepth
    have hmore := one_le_length_printMoreItems vs
    cases fuel with
    | zero => omega
    | succ fuel =>
      have hvalue := readValue_print v hvalid.1 hint.1 fuel depth (by omega) hdepth.1
        (printMoreItems vs ++ rest) (endsNumber_printMoreItems vs rest)
      rw [printItems, List.append_assoc, readItems, hvalue]
      cases vs with
      | nil => rfl
      | cons w ws =>
        rw [printMoreItems_cons, List.length_cons] at hfuel
        have hitems := readItems_print (w :: ws) (List.cons_ne_nil _ _) hvalid.2 hint.2 fuel depth
          (by omega) hdepth.2 rest
        rw [printMoreItems_cons, List.cons_append]
        simp only [skipBlanks_cons (by decide : isBlank ',' = false), hitems, Option.map_some]

/-- The members of an object are read back up to its brace. -/
theorem readMembers_print (members : List (String × Json)) (hne : members ≠ [])
    (hvalid : ValidMembers members) (hint : IntegralMembers members) (fuel depth : Nat)
    (hfuel : (printMembers members).length ≤ fuel) (hdepth : depthOfMembers members ≤ depth)
    (rest : List Char) :
    readMembers fuel depth (printMembers members ++ rest) = some (members, rest) := by
  cases members with
  | nil => exact absurd rfl hne
  | cons m ms =>
    obtain ⟨k, v⟩ := m
    rw [printMembers, quote] at hfuel ⊢
    simp only [List.cons_append, List.append_assoc, List.length_cons, List.length_append,
      List.nil_append] at hfuel ⊢
    rw [depthOfMembers, Nat.max_le] at hdepth
    cases fuel with
    | zero => omega
    | succ fuel =>
      have hvalue := readValue_print v hvalid.1 hint.1 fuel depth (by omega) hdepth.1
        (printMoreMembers ms ++ rest) (endsNumber_printMoreMembers ms rest)
      rw [readMembers, skipBlanks_cons (by decide)]
      simp only [readText_quote, skipBlanks_cons (by decide : isBlank ':' = false), hvalue,
        String.ofList_toList]
      cases ms with
      | nil => rfl
      | cons m ms =>
        rw [printMoreMembers_cons, List.length_cons] at hfuel
        have hmembers := readMembers_print (m :: ms) (List.cons_ne_nil _ _) hvalid.2 hint.2 fuel depth
          (by omega) hdepth.2 rest
        rw [printMoreMembers_cons, List.cons_append]
        simp only [skipBlanks_cons (by decide : isBlank ',' = false), hmembers, Option.map_some]

end

/-! ### Whole texts -/

theorem parse?_compact {v : Json} (hv : v.Plain) : parse? v.compact = some v := by
  have hvalue := readValue_print v hv.valid hv.integral ((print v).length + 1) nestingLimit
    (Nat.le_succ _) hv.shallow [] trivial
  rw [List.append_nil] at hvalue
  rw [parse?, compact, String.toList_ofList]
  simp only [hvalue]
  rfl

/-- The loop that lists an array's bytes adds those from an index on. -/
theorem toList_loop (bytes : ByteArray) (i : Nat) (acc : List UInt8) :
    ByteArray.toList.loop bytes i acc = acc.reverse ++ bytes.data.toList.drop i := by
  fun_induction ByteArray.toList.loop bytes i acc with
  | case1 i acc h ih =>
    have hlength : i < bytes.data.toList.length := h
    have hget : bytes.get! i = bytes.data.toList[i] := getElem!_pos bytes.data i h
    rw [ih, hget, List.reverse_cons, List.append_assoc, List.singleton_append,
      ← List.drop_eq_getElem_cons]
  | case2 i acc h =>
    have hend : bytes.data.toList.drop i = [] := List.drop_eq_nil_of_le (Nat.le_of_not_lt h)
    rw [hend, List.append_nil]

theorem toList_toByteArray (bytes : List UInt8) : bytes.toByteArray.toList = bytes := by
  rw [ByteArray.toList, toList_loop, List.toList_data_toByteArray]
  rfl

/-- The bytes of a value's compact text. -/
theorem bytes_compact (v : Json) :
    v.compact.toByteArray.toList = (print v).flatMap String.utf8EncodeChar :=
  toList_toByteArray _

theorem parseBytes?_compact {v : Json} (hv : v.Plain) :
    parseBytes? v.compact.toByteArray.toList.toByteArray = some v := by
  have hbytes : v.compact.toByteArray.toList.toByteArray = v.compact.toByteArray := by
    rw [bytes_compact]
    rfl
  rw [hbytes, parseBytes?, String.fromUTF8?, dif_pos v.compact.isValidUTF8, String.fromUTF8]
  exact parse?_compact hv

end ClusterKeeper.Json
