import Mathlib.Data.List.Basic

/-!
# Base64

The standard alphabet, with padding. Three bytes are four digits of six bits. The
decoder is the lenient one: it skips what is not a digit, and stops at the padding
that completes a group of four. Encoding loses nothing; and a text has not more than
three bytes for four digits.
-/

namespace Encoding

namespace Base64

/-- The digits, by their values. -/
def alphabet : List Char :=
  "ABCDEFGHIJKLMNOPQRSTUVWXYZabcdefghijklmnopqrstuvwxyz0123456789+/".toList

def digit (n : Nat) : Char := alphabet.getD n '='

/-- The value of a digit. -/
def value (c : Char) : Option Nat := alphabet.idxOf? c

theorem value_digit {n : Nat} (h : n < 64) : value (digit n) = some n := by
  revert n
  decide +kernel

theorem value_pad : value '=' = none := by decide

theorem digit_ne_pad {n : Nat} (h : n < 64) : digit n ≠ '=' := by
  intro hpad
  have hvalue := value_digit h
  rw [hpad, value_pad] at hvalue
  cases hvalue

/-- `b64encode`. -/
def encode : List UInt8 → List Char
  | [] => []
  | [a] => [digit (a.toNat / 4), digit (a.toNat % 4 * 16), '=', '=']
  | [a, b] =>
      [digit (a.toNat / 4), digit (a.toNat % 4 * 16 + b.toNat / 16), digit (b.toNat % 16 * 4), '=']
  | a :: b :: c :: bytes =>
      digit (a.toNat / 4) :: digit (a.toNat % 4 * 16 + b.toNat / 16) ::
        digit (b.toNat % 16 * 4 + c.toNat / 64) :: digit (c.toNat % 64) :: encode bytes

/-- The loop of `b64decode`: `pos` digits of the group are read, `left` holds the bits
of them that are not in a byte yet, `pads` counts the padding. -/
def decodeFrom (pos left pads : Nat) : List Char → Option (List UInt8)
  | [] => if pos = 0 then some [] else none
  | c :: text =>
      if c = '=' then
        if pos < 2 then decodeFrom pos left pads text
        else if 4 ≤ pos + (pads + 1) then some []
        else decodeFrom pos left (pads + 1) text
      else
        match value c with
        | none => decodeFrom pos left pads text
        | some v =>
            match pos with
            | 0 => decodeFrom 1 v 0 text
            | 1 => (decodeFrom 2 (v % 16) 0 text).map (UInt8.ofNat (left * 4 + v / 16) :: ·)
            | 2 => (decodeFrom 3 (v % 4) 0 text).map (UInt8.ofNat (left * 16 + v / 4) :: ·)
            | _ => (decodeFrom 0 0 0 text).map (UInt8.ofNat (left * 64 + v) :: ·)

/-- `b64decode`. -/
def decode (text : List Char) : Option (List UInt8) := decodeFrom 0 0 0 text

section Digit

variable {n left pads : Nat} {text : List Char}

@[simp] theorem decodeFrom_digit_zero (h : n < 64) :
    decodeFrom 0 left pads (digit n :: text) = decodeFrom 1 n 0 text := by
  refine (if_neg (digit_ne_pad h)).trans ?_
  simp only [value_digit h]

@[simp] theorem decodeFrom_digit_one (h : n < 64) :
    decodeFrom 1 left pads (digit n :: text) =
      (decodeFrom 2 (n % 16) 0 text).map (UInt8.ofNat (left * 4 + n / 16) :: ·) := by
  refine (if_neg (digit_ne_pad h)).trans ?_
  simp only [value_digit h]

@[simp] theorem decodeFrom_digit_two (h : n < 64) :
    decodeFrom 2 left pads (digit n :: text) =
      (decodeFrom 3 (n % 4) 0 text).map (UInt8.ofNat (left * 16 + n / 4) :: ·) := by
  refine (if_neg (digit_ne_pad h)).trans ?_
  simp only [value_digit h]

@[simp] theorem decodeFrom_digit_three (h : n < 64) :
    decodeFrom 3 left pads (digit n :: text) =
      (decodeFrom 0 0 0 text).map (UInt8.ofNat (left * 64 + n) :: ·) := by
  refine (if_neg (digit_ne_pad h)).trans ?_
  simp only [value_digit h]

end Digit

theorem ofNat_eq {a : UInt8} {n : Nat} (h : n = a.toNat) : UInt8.ofNat n = a := by
  rw [h, UInt8.ofNat_toNat]

/-- Encoding loses nothing. -/
theorem decode_encode (bytes : List UInt8) : decode (encode bytes) = some bytes := by
  unfold decode
  induction bytes using encode.induct with
  | case1 => rfl
  | case2 a =>
      have ha := a.toNat_lt
      have hbyte : UInt8.ofNat (a.toNat / 4 * 4 + a.toNat % 4 * 16 / 16) = a := ofNat_eq (by omega)
      rw [encode, decodeFrom_digit_zero (by omega), decodeFrom_digit_one (by omega), hbyte]
      simp [decodeFrom]
  | case3 a b =>
      have ha := a.toNat_lt
      have hb := b.toNat_lt
      have hfirst : UInt8.ofNat
          (a.toNat / 4 * 4 + (a.toNat % 4 * 16 + b.toNat / 16) / 16) = a := ofNat_eq (by omega)
      have hsecond : UInt8.ofNat
          ((a.toNat % 4 * 16 + b.toNat / 16) % 16 * 16 + b.toNat % 16 * 4 / 4) = b :=
        ofNat_eq (by omega)
      rw [encode, decodeFrom_digit_zero (by omega), decodeFrom_digit_one (by omega),
        decodeFrom_digit_two (by omega), hfirst, hsecond]
      simp [decodeFrom]
  | case4 a b c bytes ih =>
      have ha := a.toNat_lt
      have hb := b.toNat_lt
      have hc := c.toNat_lt
      have hfirst : UInt8.ofNat
          (a.toNat / 4 * 4 + (a.toNat % 4 * 16 + b.toNat / 16) / 16) = a := ofNat_eq (by omega)
      have hsecond : UInt8.ofNat
          ((a.toNat % 4 * 16 + b.toNat / 16) % 16 * 16 +
            (b.toNat % 16 * 4 + c.toNat / 64) / 4) = b := ofNat_eq (by omega)
      have hthird : UInt8.ofNat
          ((b.toNat % 16 * 4 + c.toNat / 64) % 4 * 64 + c.toNat % 64) = c := ofNat_eq (by omega)
      rw [encode, decodeFrom_digit_zero (by omega), decodeFrom_digit_one (by omega),
        decodeFrom_digit_two (by omega), decodeFrom_digit_three (by omega), ih, hfirst, hsecond,
        hthird]
      rfl

theorem digit_mem {n : Nat} (h : n < 64) : digit n ∈ alphabet := by
  have hvalue := value_digit h
  unfold value at hvalue
  exact List.isSome_idxOf?.mp (by rw [hvalue]; rfl)

/-- A text is made of digits and padding. -/
theorem mem_of_mem_encode (bytes : List UInt8) : ∀ c ∈ encode bytes, c ∈ '=' :: alphabet := by
  have hdigit : ∀ {n}, n < 64 → digit n ∈ '=' :: alphabet :=
    fun h => List.mem_cons_of_mem _ (digit_mem h)
  induction bytes using encode.induct with
  | case1 => simp [encode]
  | case2 a =>
      have ha := a.toNat_lt
      rw [encode]
      simp only [List.forall_mem_cons]
      refine ⟨hdigit (by omega), hdigit (by omega), ?_⟩
      simp
  | case3 a b =>
      have ha := a.toNat_lt
      have hb := b.toNat_lt
      rw [encode]
      simp only [List.forall_mem_cons]
      refine ⟨hdigit (by omega), hdigit (by omega), hdigit (by omega), ?_⟩
      simp
  | case4 a b c bytes ih =>
      have ha := a.toNat_lt
      have hb := b.toNat_lt
      have hc := c.toNat_lt
      rw [encode]
      simp only [List.forall_mem_cons]
      exact ⟨hdigit (by omega), hdigit (by omega), hdigit (by omega), hdigit (by omega), ih⟩

theorem encode_ne_nil {bytes : List UInt8} (h : bytes ≠ []) : encode bytes ≠ [] := by
  cases bytes using encode.induct with
  | case1 => exact absurd rfl h
  | case2 a => simp [encode]
  | case3 a b => simp [encode]
  | case4 a b c bytes => simp [encode]

/-- The groups of six bits in some bytes. -/
def sextets : List UInt8 → List Nat
  | [] => []
  | [a] => [a.toNat / 4, a.toNat % 4 * 16]
  | [a, b] => [a.toNat / 4, a.toNat % 4 * 16 + b.toNat / 16, b.toNat % 16 * 4]
  | a :: b :: c :: bytes =>
      a.toNat / 4 :: (a.toNat % 4 * 16 + b.toNat / 16) ::
        (b.toNat % 16 * 4 + c.toNat / 64) :: c.toNat % 64 :: sextets bytes

theorem slash_eq_digit {n : Nat} (h : n < 64) : '/' = digit n ↔ 63 = n := by
  have hslash : '/' = digit 63 := by decide
  constructor
  · intro hdigit
    have hvalue := value_digit h
    rw [← hdigit, hslash, value_digit (by decide)] at hvalue
    exact Option.some.inj hvalue
  · rintro rfl
    exact hslash

/-- The slash is the digit of six bits that are all set. -/
theorem slash_mem_encode (bytes : List UInt8) : '/' ∈ encode bytes ↔ 63 ∈ sextets bytes := by
  have hpad : '/' ≠ '=' := by decide
  induction bytes using encode.induct with
  | case1 => simp [encode, sextets]
  | case2 a =>
      have ha := a.toNat_lt
      simp only [encode, sextets, List.mem_cons, slash_eq_digit (n := a.toNat / 4) (by omega),
        slash_eq_digit (n := a.toNat % 4 * 16) (by omega), hpad, List.not_mem_nil, or_false]
  | case3 a b =>
      have ha := a.toNat_lt
      have hb := b.toNat_lt
      simp only [encode, sextets, List.mem_cons, slash_eq_digit (n := a.toNat / 4) (by omega),
        slash_eq_digit (n := a.toNat % 4 * 16 + b.toNat / 16) (by omega),
        slash_eq_digit (n := b.toNat % 16 * 4) (by omega), hpad, List.not_mem_nil, or_false]
  | case4 a b c bytes ih =>
      have ha := a.toNat_lt
      have hb := b.toNat_lt
      have hc := c.toNat_lt
      simp only [encode, sextets, List.mem_cons, slash_eq_digit (n := a.toNat / 4) (by omega),
        slash_eq_digit (n := a.toNat % 4 * 16 + b.toNat / 16) (by omega),
        slash_eq_digit (n := b.toNat % 16 * 4 + c.toNat / 64) (by omega),
        slash_eq_digit (n := c.toNat % 64) (by omega), ih]

/-- How many digits a text has. -/
def digits (text : List Char) : Nat := text.countP fun c => (value c).isSome

@[simp] theorem digits_nil : digits [] = 0 := rfl

theorem digits_append (text text' : List Char) :
    digits (text ++ text') = digits text + digits text' :=
  List.countP_append

theorem digits_cons_digit {n : Nat} (h : n < 64) (text : List Char) :
    digits (digit n :: text) = digits text + 1 := by
  simp [digits, value_digit h]

theorem digits_pad (text : List Char) : digits ('=' :: text) = digits text := by
  simp [digits, value_pad]

theorem digits_slash : digits ['/'] = 1 := by decide

/-- Three bytes take four digits, and what is left over two or three. -/
theorem digits_encode (bytes : List UInt8) : 3 * digits (encode bytes) ≤ 4 * bytes.length + 2 := by
  induction bytes using encode.induct with
  | case1 => simp [encode]
  | case2 a =>
      have ha := a.toNat_lt
      rw [encode, digits_cons_digit (by omega), digits_cons_digit (by omega), digits_pad,
        digits_pad]
      simp
  | case3 a b =>
      have ha := a.toNat_lt
      have hb := b.toNat_lt
      rw [encode, digits_cons_digit (by omega), digits_cons_digit (by omega),
        digits_cons_digit (by omega), digits_pad]
      simp
  | case4 a b c bytes ih =>
      have ha := a.toNat_lt
      have hb := b.toNat_lt
      have hc := c.toNat_lt
      rw [encode, digits_cons_digit (by omega), digits_cons_digit (by omega),
        digits_cons_digit (by omega), digits_cons_digit (by omega)]
      simp only [List.length_cons]
      omega

/-- The thirds of a digit that the group read so far still gives to bytes. -/
def owed : Nat → Nat
  | 0 => 0
  | 1 => 3
  | 2 => 2
  | _ => 1

/-- Four digits give three bytes at most. -/
theorem length_decodeFrom {pos left pads : Nat} {text : List Char} {bytes : List UInt8}
    (h : decodeFrom pos left pads text = some bytes) :
    4 * bytes.length ≤ 3 * digits text + owed pos := by
  induction text generalizing pos left pads bytes with
  | nil =>
      rw [decodeFrom] at h
      split at h
      · cases h
        simp
      · cases h
  | cons c text ih =>
      rw [decodeFrom] at h
      by_cases hpad : c = '='
      · subst hpad
        rw [if_pos rfl] at h
        rw [digits_pad]
        split at h
        · exact ih h
        · split at h
          · cases h
            simp
          · exact ih h
      · rw [if_neg hpad] at h
        cases hvalue : value c with
        | none =>
            rw [hvalue] at h
            have hdigits : digits (c :: text) = digits text := by simp [digits, hvalue]
            rw [hdigits]
            exact ih h
        | some v =>
            rw [hvalue] at h
            have hdigits : digits (c :: text) = digits text + 1 := by simp [digits, hvalue]
            rw [hdigits]
            match pos with
            | 0 =>
                have hrest := ih h
                simp only [owed] at hrest ⊢
                omega
            | 1 =>
                obtain ⟨rest, hrest, rfl⟩ := Option.map_eq_some_iff.mp h
                have hlength := ih hrest
                simp only [owed, List.length_cons] at hlength ⊢
                omega
            | 2 =>
                obtain ⟨rest, hrest, rfl⟩ := Option.map_eq_some_iff.mp h
                have hlength := ih hrest
                simp only [owed, List.length_cons] at hlength ⊢
                omega
            | n + 3 =>
                obtain ⟨rest, hrest, rfl⟩ := Option.map_eq_some_iff.mp h
                have hlength := ih hrest
                simp only [owed, List.length_cons] at hlength ⊢
                omega

/-- A text that is cut after a digit and another one has fewer bytes. -/
theorem length_decode_lt {bytes bytes' : List UInt8} {start text : List Char}
    (h : encode bytes = start ++ text) (hstart : 2 ≤ digits start)
    (hdecode : decode text = some bytes') : bytes'.length < bytes.length := by
  have hlength := length_decodeFrom hdecode
  have hdigits := digits_encode bytes
  rw [h, digits_append] at hdigits
  simp only [owed] at hlength
  omega

end Base64

end Encoding
