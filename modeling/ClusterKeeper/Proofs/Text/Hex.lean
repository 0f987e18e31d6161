import ClusterKeeper.Text.Hex

/-!
Hexadecimal text is read back to its bytes, in lower case and in upper case (`encodeIn`), and a text with
another character than a digit is not read. Main statements: `decode?_encodeIn` and `decode?_eq_none`.
-/

namespace ClusterKeeper.Hex

/-- The digit of a number below sixteen, in upper case or in lower case. -/
def digit (upper : Bool) (n : Nat) : Char := if upper then (Nat.digitChar n).toUpper else Nat.digitChar n

/-- The text of bytes with its letters in upper case or in lower case. -/
def encodeIn (upper : Bool) (bytes : List UInt8) : List Char :=
  if upper then (encode bytes).map Char.toUpper else encode bytes

theorem hexValue?_digit : ∀ upper, ∀ n < 16, Json.hexValue? (digit upper n) = some n := by
  decide

theorem encodeIn_nil (upper : Bool) : encodeIn upper [] = [] := by
  cases upper <;> rfl

theorem encodeIn_cons (upper : Bool) (b : UInt8) (bytes : List UInt8) :
    encodeIn upper (b :: bytes) =
      digit upper (b.toNat / 16) :: digit upper (b.toNat % 16) :: encodeIn upper bytes := by
  cases upper <;> rfl

theorem decode?_encodeIn (upper : Bool) (bytes : List UInt8) :
    decode? (encodeIn upper bytes) = some bytes := by
  induction bytes with
  | nil => rw [encodeIn_nil, decode?]
  | cons b bytes ih =>
    have hb : b.toNat < 256 := b.toNat_lt
    have hbyte : b.toNat / 16 * 16 + b.toNat % 16 = b.toNat := Nat.div_add_mod' b.toNat 16
    rw [encodeIn_cons, decode?, hexValue?_digit upper _ (by omega), hexValue?_digit upper _ (by omega), ih]
    simp only [Option.bind_eq_bind, Option.bind_some, hbyte, UInt8.ofNat_toNat]
    rfl

/-- What holds of the digits holds of every character written. -/
theorem forall_mem_encodeIn {p : Char → Bool} {upper : Bool} (hdigit : ∀ n < 16, p (digit upper n))
    (bytes : List UInt8) : ∀ c ∈ encodeIn upper bytes, p c := by
  induction bytes with
  | nil =>
    rw [encodeIn_nil]
    exact List.forall_mem_nil _
  | cons b bytes ih =>
    have hb : b.toNat < 256 := b.toNat_lt
    simp only [encodeIn_cons, List.forall_mem_cons]
    exact ⟨hdigit _ (by omega), hdigit _ (by omega), ih⟩

theorem mem_encodeIn (upper : Bool) {b : UInt8} {bytes : List UInt8} (hb : b ∈ bytes) :
    digit upper (b.toNat % 16) ∈ encodeIn upper bytes := by
  induction bytes with
  | nil => exact absurd hb List.not_mem_nil
  | cons a bytes ih =>
    rw [encodeIn_cons]
    obtain rfl | hb := List.mem_cons.1 hb
    · exact List.mem_cons_of_mem _ List.mem_cons_self
    · exact List.mem_cons_of_mem _ (List.mem_cons_of_mem _ (ih hb))

/-- What holds a character that is no digit is refused. -/
theorem decode?_eq_none {cs : List Char} {c : Char} (hc : Json.hexValue? c = none) (hmem : c ∈ cs) :
    decode? cs = none := by
  fun_induction decode? cs with
  | case1 => exact absurd hmem List.not_mem_nil
  | case2 => rfl
  | case3 a b rest ih =>
    obtain rfl | hmem := List.mem_cons.1 hmem
    · rw [hc]
      rfl
    obtain rfl | hmem := List.mem_cons.1 hmem
    · rw [hc]
      cases Json.hexValue? a <;> rfl
    · rw [ih hmem]
      cases Json.hexValue? a <;> cases Json.hexValue? b <;> rfl

end ClusterKeeper.Hex
