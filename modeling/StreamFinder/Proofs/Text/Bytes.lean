import Mathlib.Data.List.Basic
import Mathlib.Tactic.SplitIfs
import StreamFinder.Text.Base64
import StreamFinder.Text.Percent

/-!
# What bytes tell of a text

Reading the bytes of a text back gives the text, so two texts with the same
bytes are the same; and base64 keeps bytes apart. Percent decoding does not:
many texts are decoded to the same bytes. But it never makes bytes longer,
and where it does not make them shorter it has left them alone.
-/

namespace StreamFinder.Text

/-! ## UTF-8 -/

theorem toNat_ofNat {n : Nat} (h : n < 256) : (UInt8.ofNat n).toNat = n :=
  UInt8.toNat_ofNat_of_lt' h

/-- One more byte of a character, `k` being its six bits. -/
theorem collect_continuation {low high k : Nat} (ranges : List (Nat × Nat)) (bits : Nat)
    (s : List UInt8) (hk : k < 0x40) (hlow : low ≤ 0x80 + k) (hhigh : 0x80 + k ≤ high) :
    collect ((low, high) :: ranges) bits (.ofNat (0x80 + k) :: s) =
      collect ranges (bits * 0x40 + k) s := by
  have hb : (UInt8.ofNat (0x80 + k)).toNat = 0x80 + k := toNat_ofNat (by omega)
  have hbits : (0x80 + k) % 0x40 = k := by omega
  rw [collect, hb, if_pos ⟨hlow, hhigh⟩, hbits]

/-- A first byte beyond ASCII with what follows it. -/
theorem firstChar_of_collect {b n : Nat} {ranges : List (Nat × Nat)} {s rest : List UInt8}
    (hlow : 0x80 ≤ b) (hhigh : b < 256) (hranges : followers b = some ranges)
    (h : collect ranges (leadingBits b ranges.length) s = (some n, rest)) :
    firstChar (.ofNat b) s = (Char.ofNat n, rest) := by
  simp only [firstChar, toNat_ofNat hhigh, if_neg (Nat.not_lt.mpr hlow), hranges, h]

/-- The first character of bytes that begin with those of a character. -/
theorem lossy_charBytes_append (c : Char) (rest : List UInt8) :
    lossy (charBytes c ++ rest) = c :: lossy rest := by
  have hvalid : c.toNat < 0xd800 ∨ 0xdfff < c.toNat ∧ c.toNat < 0x110000 := c.valid
  -- the ranges of the second byte depend on the first one, so it is enough to find some
  suffices h : ∃ b s, charBytes c = b :: s ∧ firstChar b (s ++ rest) = (c, rest) by
    obtain ⟨b, s, hbytes, hfirst⟩ := h
    rw [hbytes, List.cons_append, lossy, hfirst]
  have hback : Char.ofNat c.toNat = c := Char.ofNat_toNat c
  simp only [charBytes]
  generalize c.toNat = n at hvalid hback
  subst hback
  split_ifs with h1 h2 h3
  · refine ⟨_, _, rfl, ?_⟩
    rw [firstChar, toNat_ofNat (by omega), if_pos h1, List.nil_append]
  · refine ⟨_, _, rfl, firstChar_of_collect (by omega) (by omega) (if_pos (by omega)) ?_⟩
    rw [List.cons_append, collect_continuation _ _ _ (by omega) (by omega) (by omega)]
    simp only [collect, leadingBits, List.length_cons, List.length_nil, List.nil_append]
    exact congrArg (fun k => (some k, rest)) (by simp; omega)
  · have hranges : ∃ low high, followers (0xe0 + n / 0x1000) = some [(low, high), (0x80, 0xbf)] ∧
        low ≤ 0x80 + n / 0x40 % 0x40 ∧ 0x80 + n / 0x40 % 0x40 ≤ high := by
      unfold followers
      split_ifs <;> first | omega | exact ⟨_, _, rfl, by omega, by omega⟩
    obtain ⟨low, high, hranges, hlow, hhigh⟩ := hranges
    refine ⟨_, _, rfl, firstChar_of_collect (by omega) (by omega) hranges ?_⟩
    rw [List.cons_append, collect_continuation _ _ _ (by omega) hlow hhigh,
      List.cons_append, collect_continuation _ _ _ (by omega) (by omega) (by omega)]
    exact congrArg (fun k => (some k, rest)) (by simp [leadingBits]; omega)
  · have hranges : ∃ low high,
        followers (0xf0 + n / 0x40000) = some [(low, high), (0x80, 0xbf), (0x80, 0xbf)] ∧
          low ≤ 0x80 + n / 0x1000 % 0x40 ∧ 0x80 + n / 0x1000 % 0x40 ≤ high := by
      unfold followers
      split_ifs <;> first | omega | exact ⟨_, _, rfl, by omega, by omega⟩
    obtain ⟨low, high, hranges, hlow, hhigh⟩ := hranges
    refine ⟨_, _, rfl, firstChar_of_collect (by omega) (by omega) hranges ?_⟩
    rw [List.cons_append, collect_continuation _ _ _ (by omega) hlow hhigh,
      List.cons_append, collect_continuation _ _ _ (by omega) (by omega) (by omega),
      List.cons_append, collect_continuation _ _ _ (by omega) (by omega) (by omega)]
    exact congrArg (fun k => (some k, rest)) (by simp [leadingBits]; omega)

/-- **The bytes of a text read back as the text.** -/
@[simp]
theorem lossy_utf8 (s : List Char) : lossy (utf8 s) = s := by
  induction s with
  | nil => rw [utf8, List.flatMap_nil, lossy]
  | cons c s ih => rw [utf8, List.flatMap_cons, lossy_charBytes_append, ← utf8, ih]

theorem utf8_injective : Function.Injective utf8 := Function.LeftInverse.injective lossy_utf8

theorem utf8_append (s t : List Char) : utf8 (s ++ t) = utf8 s ++ utf8 t := List.flatMap_append

/-- Only the empty text has no bytes. -/
theorem utf8_eq_nil {s : List Char} : utf8 s = [] ↔ s = [] := by
  constructor
  · intro h
    exact utf8_injective h
  · rintro rfl
    rfl

/-! ## Base64 -/

theorem base64Digit_inj {m n : Nat} (hm : m < 0x40) (hn : n < 0x40)
    (h : base64Digit m = base64Digit n) : m = n := by
  have hall : ∀ m < 0x40, ∀ n < 0x40, base64Digit m = base64Digit n → m = n := by decide +kernel
  exact hall m hm n hn h

theorem base64Digit_ne_equals {n : Nat} (h : n < 0x40) : base64Digit n ≠ '=' := by
  have hall : ∀ n < 0x40, base64Digit n ≠ '=' := by decide
  exact hall n h

/-- Four digits determine the 24 bits that they write. -/
theorem eq_of_base64Digits {m n : Nat} (hm : m < 0x1000000) (hn : n < 0x1000000)
    (h1 : base64Digit (m / 0x40000) = base64Digit (n / 0x40000))
    (h2 : base64Digit (m / 0x1000 % 0x40) = base64Digit (n / 0x1000 % 0x40))
    (h3 : base64Digit (m / 0x40 % 0x40) = base64Digit (n / 0x40 % 0x40))
    (h4 : base64Digit (m % 0x40) = base64Digit (n % 0x40)) : m = n := by
  have := base64Digit_inj (by omega) (by omega) h1
  have := base64Digit_inj (by omega) (by omega) h2
  have := base64Digit_inj (by omega) (by omega) h3
  have := base64Digit_inj (by omega) (by omega) h4
  omega

/-- **Different bytes have different digits.** -/
theorem base64_injective : Function.Injective base64 := by
  intro s
  -- texts with a different number of bytes in the last group differ in a `=`
  induction s using base64.induct with
  | case1 => rintro (_ | ⟨a', _ | ⟨b', _ | ⟨c', t⟩⟩⟩) h <;> simp [base64] at h ⊢
  | case2 a =>
    have ha := a.toNat_lt
    rintro (_ | ⟨a', _ | ⟨b', _ | ⟨c', t⟩⟩⟩) h <;> simp only [base64, List.cons.injEq] at h
    · simp at h
    · have ha' := a'.toNat_lt
      have := base64Digit_inj (by omega) (by omega) h.1
      have := base64Digit_inj (by omega) (by omega) h.2.1
      rw [UInt8.toNat_inj.mp (show a.toNat = a'.toNat by omega)]
    · exact absurd h.2.2.1.symm (base64Digit_ne_equals (by omega))
    · exact absurd h.2.2.1.symm (base64Digit_ne_equals (by omega))
  | case3 a b =>
    have ha := a.toNat_lt
    have hb := b.toNat_lt
    rintro (_ | ⟨a', _ | ⟨b', _ | ⟨c', t⟩⟩⟩) h <;> simp only [base64, List.cons.injEq] at h
    · simp at h
    · exact absurd h.2.2.1 (base64Digit_ne_equals (by omega))
    · have ha' := a'.toNat_lt
      have hb' := b'.toNat_lt
      have := base64Digit_inj (by omega) (by omega) h.1
      have := base64Digit_inj (by omega) (by omega) h.2.1
      have := base64Digit_inj (by omega) (by omega) h.2.2.1
      rw [UInt8.toNat_inj.mp (show a.toNat = a'.toNat by omega),
        UInt8.toNat_inj.mp (show b.toNat = b'.toNat by omega)]
    · exact absurd h.2.2.2.1.symm (base64Digit_ne_equals (by omega))
  | case4 a b c rest ih =>
    have ha := a.toNat_lt
    have hb := b.toNat_lt
    have hc := c.toNat_lt
    rintro (_ | ⟨a', _ | ⟨b', _ | ⟨c', t⟩⟩⟩) h <;> simp only [base64, List.cons.injEq] at h
    · simp at h
    · exact absurd h.2.2.1 (base64Digit_ne_equals (by omega))
    · exact absurd h.2.2.2.1 (base64Digit_ne_equals (by omega))
    · have ha' := a'.toNat_lt
      have hb' := b'.toNat_lt
      have hc' := c'.toNat_lt
      have hbits := eq_of_base64Digits (by omega) (by omega) h.1 h.2.1 h.2.2.1 h.2.2.2.1
      rw [UInt8.toNat_inj.mp (show a.toNat = a'.toNat by omega),
        UInt8.toNat_inj.mp (show b.toNat = b'.toNat by omega),
        UInt8.toNat_inj.mp (show c.toNat = c'.toNat by omega), ih h.2.2.2.2]

/-! ## Percent decoding -/

/-- Decoding never makes bytes longer. -/
theorem length_percentDecodeBytes_le (s : List UInt8) :
    (percentDecodeBytes s).length ≤ s.length := by
  fun_induction percentDecodeBytes s with
  | case1 => simp; omega
  | case2 => simp_all
  | case3 => simp_all
  | case4 => exact Nat.le_refl _

/-- Decoding that does not make bytes shorter has nothing to decode. -/
theorem percentDecodeBytes_eq_self {s : List UInt8}
    (h : (percentDecodeBytes s).length = s.length) : percentDecodeBytes s = s := by
  fun_induction percentDecodeBytes s with
  | case1 a b rest high hhigh low hlow =>
    have := length_percentDecodeBytes_le rest
    simp at h
    omega
  | case2 => simp_all
  | case3 => simp_all
  | case4 => rfl

/-- A text is at least as long as what it is decoded to. -/
theorem length_le_of_percentDecode {s t : List Char} (h : percentDecode s = utf8 t) :
    (utf8 t).length ≤ (utf8 s).length :=
  h ▸ length_percentDecodeBytes_le (utf8 s)

/-- A text that is decoded to one of its own length is that text. -/
theorem eq_of_percentDecode {s t : List Char} (h : percentDecode s = utf8 t)
    (hlength : (utf8 t).length = (utf8 s).length) : s = t := by
  rw [percentDecode] at h
  rw [← h] at hlength
  exact utf8_injective ((percentDecodeBytes_eq_self hlength).symm.trans h)

/-- Only the empty text is decoded to nothing. -/
theorem percentDecode_eq_nil {s : List Char} : percentDecode s = [] ↔ s = [] := by
  have hbytes (bytes : List UInt8) : percentDecodeBytes bytes = [] ↔ bytes = [] := by
    fun_cases percentDecodeBytes bytes <;> simp_all
  rw [percentDecode, hbytes, utf8_eq_nil]

end StreamFinder.Text
