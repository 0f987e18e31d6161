import ClusterKeeper.Console.Chunk

/-!
The arguments of a call are what the chunk's literal means. `readLiteral` reads such a literal by the
rules of the language and knows nothing of how one is written: an escape is a backslash with a
quotation mark, a backslash, a letter for a break, a return or a tab, or three decimal digits, any
other character stands for itself, and the first quotation mark that is not escaped ends it.

A literal is read escape by escape, and what is between its marks holds no control character, so the
tabs that are removed from a chunk are none of its own. Main statement: `argument_literal`.
-/

namespace ClusterKeeper.Chunk

/-! ### Reading a literal -/

/-- The ASCII character of three decimal digits. -/
def ofThreeDigits? (a b c : Char) : Option Char :=
  if a.isDigit && b.isDigit && c.isDigit then
    let n := ((a.toNat - '0'.toNat) * 10 + (b.toNat - '0'.toNat)) * 10 + (c.toNat - '0'.toNat)
    if n < 0x80 then some (Char.ofNat n) else none
  else none

/-- The value of a literal from after its opening mark, and the text after its closing one. -/
def readLiteral : List Char → Option (List Char × List Char)
  | '"' :: rest => some ([], rest)
  | '\\' :: '"' :: rest => (readLiteral rest).map fun (s, r) => ('"' :: s, r)
  | '\\' :: '\\' :: rest => (readLiteral rest).map fun (s, r) => ('\\' :: s, r)
  | '\\' :: 'n' :: rest => (readLiteral rest).map fun (s, r) => ('\n' :: s, r)
  | '\\' :: 'r' :: rest => (readLiteral rest).map fun (s, r) => ('\r' :: s, r)
  | '\\' :: 't' :: rest => (readLiteral rest).map fun (s, r) => ('\t' :: s, r)
  | '\\' :: a :: b :: c :: rest =>
    match ofThreeDigits? a b c with
    | some e => (readLiteral rest).map fun (s, r) => (e :: s, r)
    | none => none
  | c :: rest => if c = '\\' then none else (readLiteral rest).map fun (s, r) => (c :: s, r)
  | [] => none

/-- The text after the first occurrence of a part that is not empty. -/
def afterFirst (part : List Char) : List Char → Option (List Char)
  | [] => none
  | c :: cs =>
    if part.isPrefixOf (c :: cs) then some ((c :: cs).drop part.length) else afterFirst part cs

/-! ### Escapes -/

theorem ofThreeDigits?_digits : ∀ n < 0x80,
    ofThreeDigits? (Nat.digitChar (n / 100 % 10)) (Nat.digitChar (n / 10 % 10))
      (Nat.digitChar (n % 10)) = some (Char.ofNat n) := by
  decide

theorem digitChar_ne : ∀ m < 10, Nat.digitChar m ≠ '"' ∧ Nat.digitChar m ≠ '\\' ∧
    Nat.digitChar m ≠ 'n' ∧ Nat.digitChar m ≠ 'r' ∧ Nat.digitChar m ≠ 't' := by
  decide

/-- A control character is read from its digits. -/
theorem readLiteral_digits {n : Nat} (hn : n < 0x80) (rest : List Char) :
    readLiteral ('\\' :: threeDigits n ++ rest) =
      (readLiteral rest).map fun (s, r) => (Char.ofNat n :: s, r) := by
  obtain ⟨hquote, hslash, hbreak, hreturn, htab⟩ :=
    digitChar_ne (n / 100 % 10) (Nat.mod_lt _ (by decide))
  show readLiteral ('\\' :: Nat.digitChar (n / 100 % 10) :: Nat.digitChar (n / 10 % 10) ::
    Nat.digitChar (n % 10) :: rest) = _
  rw [readLiteral]
  · rw [ofThreeDigits?_digits n hn]
  · exact hquote
  · exact hslash
  · exact hbreak
  · exact hreturn
  · exact htab

/-- A character that stands for itself is read as itself. -/
theorem readLiteral_plain {c : Char} (hquote : c ≠ '"') (hslash : c ≠ '\\') (rest : List Char) :
    readLiteral (c :: rest) = (readLiteral rest).map fun (s, r) => (c :: s, r) := by
  rw [readLiteral.eq_def]
  split
  next h => exact absurd (List.cons.inj h).1 hquote
  next h => exact absurd (List.cons.inj h).1 hslash
  next h => exact absurd (List.cons.inj h).1 hslash
  next h => exact absurd (List.cons.inj h).1 hslash
  next h => exact absurd (List.cons.inj h).1 hslash
  next h => exact absurd (List.cons.inj h).1 hslash
  next h => exact absurd (List.cons.inj h).1 hslash
  next h =>
    obtain ⟨rfl, rfl⟩ := List.cons.inj h
    rw [if_neg hslash]
  next h => exact absurd h (List.cons_ne_nil _ _)

theorem readLiteral_escapeChar (c : Char) (rest : List Char) :
    readLiteral (escapeChar c ++ rest) = (readLiteral rest).map fun (s, r) => (c :: s, r) := by
  rw [escapeChar]
  split
  next h => rw [h]; rfl
  split
  next h => rw [h]; rfl
  split
  next h => rw [h]; rfl
  split
  next h => rw [h]; rfl
  split
  next h => rw [h]; rfl
  split
  next hcontrol =>
    have hascii : c.toNat < 0x80 := by
      simp only [isControl, Bool.or_eq_true, decide_eq_true_eq, beq_iff_eq] at hcontrol
      omega
    rw [readLiteral_digits hascii, Char.ofNat_toNat]
  next hquote hslash _ _ _ _ => exact readLiteral_plain hquote hslash rest

theorem readLiteral_flatMap (cs rest : List Char) :
    readLiteral (cs.flatMap escapeChar ++ '"' :: rest) = some (cs, rest) := by
  induction cs with
  | nil => rfl
  | cons c cs ih =>
    rw [List.flatMap_cons, List.append_assoc, readLiteral_escapeChar, ih, Option.map_some]

/-- A digit after a decimal escape is not taken for a part of it. -/
example : readLiteral ("\\0019\"".toList) = some (['\x01', '9'], []) := by
  decide

/-! ### Control characters -/

theorem isControl_digitChar : ∀ m < 10, isControl (Nat.digitChar m) = false := by
  decide

theorem not_control_of_mem_escapeChar {c d : Char} (hd : d ∈ escapeChar c) : isControl d = false := by
  have hletter : ∀ e, isControl e = false → d ∈ ['\\', e] → isControl d = false := by
    intro e he hmem
    simp only [List.mem_cons, List.not_mem_nil, or_false] at hmem
    rcases hmem with rfl | rfl
    · decide
    · exact he
  rw [escapeChar] at hd
  split at hd
  · exact hletter '"' (by decide) hd
  split at hd
  · exact hletter '\\' (by decide) hd
  split at hd
  · exact hletter 'n' (by decide) hd
  split at hd
  · exact hletter 'r' (by decide) hd
  split at hd
  · exact hletter 't' (by decide) hd
  split at hd
  · simp only [threeDigits, List.mem_cons, List.not_mem_nil, or_false] at hd
    rcases hd with rfl | rfl | rfl | rfl
    · decide
    · exact isControl_digitChar _ (Nat.mod_lt _ (by decide))
    · exact isControl_digitChar _ (Nat.mod_lt _ (by decide))
    · exact isControl_digitChar _ (Nat.mod_lt _ (by decide))
  next hcontrol =>
    rw [List.mem_singleton.1 hd]
    exact Bool.eq_false_iff.2 hcontrol

theorem not_control_of_mem_flatMap {cs : List Char} {d : Char} (hd : d ∈ cs.flatMap escapeChar) :
    isControl d = false := by
  obtain ⟨c, _, hc⟩ := List.mem_flatMap.1 hd
  exact not_control_of_mem_escapeChar hc

theorem withoutTabs_of_not_control {cs : List Char} (h : ∀ c ∈ cs, isControl c = false) :
    withoutTabs cs = cs := by
  rw [withoutTabs, List.filter_eq_self]
  intro c hc
  rw [decide_eq_true_eq]
  rintro rfl
  exact absurd (h _ hc) (by decide)

theorem withoutTabs_append (cs ds : List Char) :
    withoutTabs (cs ++ ds) = withoutTabs cs ++ withoutTabs ds := List.filter_append _ _

/-! ### The chunk -/

/-- A chunk as it is before its tabs are removed. -/
def withTabs (script : String) (args : List Json) : List Char :=
  opening ++ argsLiteral args ++ middle ++ script.toList ++ closing

theorem stdin_ofCall (script : String) (args : List Json) :
    (ConsoleCommand.ofCall script args).stdin.toList = withoutTabs (withTabs script args) :=
  String.toList_ofList

theorem afterFirst_opening (rest : List Char) :
    afterFirst "json.decode(".toList (opening ++ rest) = some rest := by
  rfl

theorem argsLiteral_cons (arg : Json) (args : List Json) :
    argsLiteral (arg :: args) =
      '"' :: (Json.print (.arr (arg :: args))).flatMap escapeChar ++ ['"'] := by
  rw [argsLiteral, if_neg (List.cons_ne_nil arg args), literal]

/-- The arguments have no tab that could be removed. -/
theorem withoutTabs_argsLiteral (args : List Json) :
    withoutTabs (argsLiteral args) = argsLiteral args := by
  cases args with
  | nil => decide
  | cons arg args =>
    rw [argsLiteral_cons]
    refine withoutTabs_of_not_control fun c hc => ?_
    rw [List.cons_append, List.mem_cons, List.mem_append, List.mem_singleton] at hc
    rcases hc with rfl | hc | rfl
    · decide
    · exact not_control_of_mem_flatMap hc
    · decide

/-- The arguments stand after the first place where JSON is decoded, before a bracket, and the chunk's
tabs are removed around them. -/
theorem afterFirst_args (script : String) (args : List Json) :
    (∃ more, afterFirst "json.decode(".toList (withTabs script args) =
      some (argsLiteral args ++ ')' :: more)) ∧
    ∃ more, afterFirst "json.decode(".toList (withoutTabs (withTabs script args)) =
      some (argsLiteral args ++ ')' :: more) := by
  have hmiddle : middle = ')' :: middle.tail := rfl
  constructor
  · refine ⟨middle.tail ++ script.toList ++ closing, ?_⟩
    rw [withTabs, hmiddle, List.append_assoc, List.append_assoc, List.append_assoc, afterFirst_opening,
      List.tail_cons, List.cons_append, List.append_assoc]
  · have hopening : withoutTabs opening = opening := by decide
    have hbracket : withoutTabs middle = ')' :: withoutTabs middle.tail := rfl
    refine ⟨withoutTabs middle.tail ++ withoutTabs script.toList ++ withoutTabs closing, ?_⟩
    rw [withTabs, withoutTabs_append, withoutTabs_append, withoutTabs_append, withoutTabs_append,
      hopening, withoutTabs_argsLiteral, hbracket, List.append_assoc, List.append_assoc,
      List.append_assoc, afterFirst_opening, List.cons_append, List.append_assoc]

/-- The first text that a chunk decodes is one literal. It ends where it should, its value is the
compact text of the arguments, no control character stands in it, and it is the same before the chunk's
tabs are removed. Without arguments it is an empty table. -/
theorem argument_literal (script : String) :
    (∀ args, (ConsoleCommand.ofCall script args).stdin.toList = withoutTabs (withTabs script args)) ∧
    (∀ (arg : Json) (args : List Json), ∃ literal : List Char,
      (∃ more, afterFirst "json.decode(".toList
        (ConsoleCommand.ofCall script (arg :: args)).stdin.toList =
          some ('"' :: literal ++ '"' :: ')' :: more)) ∧
      (∃ more, afterFirst "json.decode(".toList (withTabs script (arg :: args)) =
        some ('"' :: literal ++ '"' :: ')' :: more)) ∧
      (∀ more, readLiteral (literal ++ '"' :: more) =
        some ((Json.compact (.arr (arg :: args))).toList, more)) ∧
      ∀ c ∈ literal, ¬(c.toNat < 0x20 ∨ c.toNat = 0x7f)) ∧
    ∃ more, afterFirst "json.decode(".toList (ConsoleCommand.ofCall script []).stdin.toList =
      some (['\'', '{', '}', '\''] ++ ')' :: more) := by
  refine ⟨stdin_ofCall script, fun arg args => ?_, ?_⟩
  · obtain ⟨htabs, hstdin⟩ := afterFirst_args script (arg :: args)
    simp only [argsLiteral_cons, List.append_assoc, List.singleton_append] at htabs hstdin
    rw [stdin_ofCall]
    refine ⟨(Json.print (.arr (arg :: args))).flatMap escapeChar, hstdin, htabs, fun more => ?_,
      fun c hc => ?_⟩
    · rw [readLiteral_flatMap, Json.compact, String.toList_ofList]
    · have hplain := not_control_of_mem_flatMap hc
      simp only [isControl, Bool.or_eq_false_iff, decide_eq_false_iff_not,
        beq_eq_false_iff_ne] at hplain
      omega
  · rw [stdin_ofCall]
    exact (afterFirst_args script []).2

end ClusterKeeper.Chunk
