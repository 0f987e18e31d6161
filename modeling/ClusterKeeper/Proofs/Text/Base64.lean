import ClusterKeeper.Text.Base64

/-!
Base64 text is read back to its bytes, and every character of it is one of the alphabet or the equals
sign. Main statements: `decode?_encode` and `forall_mem_encode`.
-/

namespace ClusterKeeper.Base64

theorem value?_digit : ∀ n < 64, value? (digit n) = some n := by
  decide

theorem digit_ne_filling : ∀ n < 64, digit n ≠ '=' := by
  decide

/-- Four characters of the alphabet are three bytes. -/
theorem decode?_digits {a b c d : Nat} (ha : a < 64) (hb : b < 64) (hc : c < 64) (hd : d < 64)
    (rest : List Char) :
    decode? (digit a :: digit b :: digit c :: digit d :: rest) = (decode? rest).map fun more =>
      UInt8.ofNat ((((a * 64 + b) * 64 + c) * 64 + d) / 65536) ::
        UInt8.ofNat ((((a * 64 + b) * 64 + c) * 64 + d) / 256 % 256) ::
          UInt8.ofNat ((((a * 64 + b) * 64 + c) * 64 + d) % 256) :: more := by
  rw [decode?]
  · rw [value?_digit a ha, value?_digit b hb, value?_digit c hc, value?_digit d hd]
    cases decode? rest with
    | none => rfl
    | some more => rfl
  · intro _ h
    exact absurd h (digit_ne_filling d hd)
  · intro h
    exact absurd h (digit_ne_filling d hd)

theorem decode?_encode (bytes : List UInt8) : decode? (encode bytes) = some bytes := by
  fun_induction encode bytes with
  | case1 => rfl
  | case2 a n =>
    have ha : a.toNat < 256 := a.toNat_lt
    have hn : n / 64 * 64 + n % 64 = n := Nat.div_add_mod' n 64
    rw [decode?, value?_digit (n / 64) (by omega), value?_digit (n % 64) (by omega)]
    simp only [Option.bind_eq_bind, Option.bind_some, hn]
    rw [if_pos (by omega), Nat.mul_div_cancel _ (by decide), UInt8.ofNat_toNat]
  | case3 a b n =>
    have ha : a.toNat < 256 := a.toNat_lt
    have hb : b.toNat < 256 := b.toNat_lt
    have hn : (n / 4096 * 64 + n / 64 % 64) * 64 + n % 64 = n := by omega
    have hfirst : n / 1024 = a.toNat := by omega
    have hsecond : n / 4 % 256 = b.toNat := by omega
    rw [decode?]
    · rw [value?_digit (n / 4096) (by omega), value?_digit (n / 64 % 64) (by omega),
        value?_digit (n % 64) (by omega)]
      simp only [Option.bind_eq_bind, Option.bind_some, hn]
      rw [if_pos (by omega), hfirst, hsecond, UInt8.ofNat_toNat, UInt8.ofNat_toNat]
    · exact digit_ne_filling (n % 64) (by omega)
  | case4 a b c rest n ih =>
    have ha : a.toNat < 256 := a.toNat_lt
    have hb : b.toNat < 256 := b.toNat_lt
    have hc : c.toNat < 256 := c.toNat_lt
    have hn : ((n / 262144 * 64 + n / 4096 % 64) * 64 + n / 64 % 64) * 64 + n % 64 = n := by omega
    have hfirst : n / 65536 = a.toNat := by omega
    have hsecond : n / 256 % 256 = b.toNat := by omega
    have hthird : n % 256 = c.toNat := by omega
    rw [decode?_digits (by omega) (Nat.mod_lt _ (by decide)) (Nat.mod_lt _ (by decide))
      (Nat.mod_lt _ (by decide)), ih, hn, hfirst, hsecond, hthird, UInt8.ofNat_toNat,
      UInt8.ofNat_toNat, UInt8.ofNat_toNat]
    rfl

/-- What holds of the alphabet and of the equals sign holds of every character written. -/
theorem forall_mem_encode {p : Char → Bool} (hdigit : ∀ n < 64, p (digit n)) (hfilling : p '=')
    (bytes : List UInt8) : ∀ c ∈ encode bytes, p c := by
  fun_induction encode bytes with
  | case1 => exact fun c hc => absurd hc List.not_mem_nil
  | case2 a n =>
    have ha : a.toNat < 256 := a.toNat_lt
    simp only [List.forall_mem_cons]
    exact ⟨hdigit _ (by omega), hdigit _ (by omega), hfilling, hfilling, List.forall_mem_nil _⟩
  | case3 a b n =>
    have ha : a.toNat < 256 := a.toNat_lt
    have hb : b.toNat < 256 := b.toNat_lt
    simp only [List.forall_mem_cons]
    exact ⟨hdigit _ (by omega), hdigit _ (by omega), hdigit _ (by omega), hfilling,
      List.forall_mem_nil _⟩
  | case4 a b c rest n ih =>
    have ha : a.toNat < 256 := a.toNat_lt
    have hb : b.toNat < 256 := b.toNat_lt
    have hc : c.toNat < 256 := c.toNat_lt
    simp only [List.forall_mem_cons]
    exact ⟨hdigit _ (by omega), hdigit _ (by omega), hdigit _ (by omega), hdigit _ (by omega), ih⟩

/-- The first character tells the upper six bits of the first byte. -/
theorem encode_cons (b : UInt8) (bytes : List UInt8) :
    ∃ cs, encode (b :: bytes) = digit (b.toNat / 4) :: cs := by
  have hb : b.toNat < 256 := b.toNat_lt
  cases bytes with
  | nil =>
    have hfirst : b.toNat * 16 / 64 = b.toNat / 4 := by omega
    exact ⟨_, congrArg (fun n => digit n :: _) hfirst⟩
  | cons c bytes =>
    have hc : c.toNat < 256 := c.toNat_lt
    cases bytes with
    | nil =>
      have hfirst : (b.toNat * 256 + c.toNat) * 4 / 4096 = b.toNat / 4 := by omega
      exact ⟨_, congrArg (fun n => digit n :: _) hfirst⟩
    | cons d bytes =>
      have hd : d.toNat < 256 := d.toNat_lt
      have hfirst : ((b.toNat * 256 + c.toNat) * 256 + d.toNat) / 262144 = b.toNat / 4 := by omega
      exact ⟨_, congrArg (fun n => digit n :: _) hfirst⟩

end ClusterKeeper.Base64
