import Mathlib.Data.Nat.Digits.Lemmas
import Mathlib.Tactic.NormNum

/-!
# Base58

Standard Base58 over the alphabet without {lit}`0`, {lit}`O`, {lit}`I` and
{lit}`l`.  Every leading zero byte is written as one {lit}`1`, the rest is the
number in base 58.  Both directions are one operation on digit strings, the
change of radix that keeps leading zeros, so the round trip is proved once for
two arbitrary radices.

Main results:

- Theorem {lit}`changeRadix_changeRadix`: changing the radix back recovers the
  digit string.
- Theorem {lit}`changeRadix_length_le`: a bound on the number of digits from a
  comparison of two powers.
- Theorem {lit}`decode_eq_some_iff`: the decoder accepts exactly the encodings.
- Theorem {lit}`encode_length_le`: a bound on the encoded length.
-/

namespace Base58

/-! ## Change of radix -/

/-- Number of leading zeros of a digit string, most significant digit first. -/
def leadingZeros (digits : List Nat) : Nat :=
  (digits.takeWhile (· = 0)).length

/-- Value of a digit string, most significant digit first. -/
def value (b : Nat) (digits : List Nat) : Nat :=
  Nat.ofDigits b digits.reverse

/-- Write the value of a digit string in another radix and keep its leading zeros. -/
def changeRadix (b c : Nat) (digits : List Nat) : List Nat :=
  List.replicate (leadingZeros digits) 0 ++ (Nat.digits c (value b digits)).reverse

/-- A canonical digit string has a nonzero first digit, or none. -/
theorem leadingZeros_digits_reverse {c : Nat} (n : Nat) :
    leadingZeros (Nat.digits c n).reverse = 0 := by
  unfold leadingZeros
  by_cases hn : n = 0
  · simp [hn]
  · have hlast := Nat.getLast_digit_ne_zero c hn
    have hne : (Nat.digits c n) ≠ [] := Nat.digits_ne_nil_iff_ne_zero.mpr hn
    rw [← List.dropLast_append_getLast hne, List.reverse_append]
    simp [hlast]

/-- Zeros in front are counted as leading zeros. -/
theorem leadingZeros_replicate_append (count : Nat) (digits : List Nat) :
    leadingZeros (List.replicate count 0 ++ digits) = count + leadingZeros digits := by
  unfold leadingZeros
  rw [List.takeWhile_append_of_pos (by simp), List.length_append, List.length_replicate]

/-- Zeros in front do not change the number. -/
theorem value_replicate_append (b count : Nat) (digits : List Nat) :
    value b (List.replicate count 0 ++ digits) = value b digits := by
  unfold value
  rw [List.reverse_append, List.reverse_replicate, Nat.ofDigits_append_replicate_zero]

/-- A digit string is its leading zeros followed by the canonical digits of its value. -/
theorem eq_replicate_append_digits {b : Nat} (hb : 1 < b) {digits : List Nat}
    (hlt : ∀ d ∈ digits, d < b) :
    digits = List.replicate (leadingZeros digits) 0 ++
      (Nat.digits b (value b digits)).reverse := by
  induction digits with
  | nil => simp [leadingZeros, value]
  | cons d digits ih =>
      by_cases hd : d = 0
      · subst hd
        have hzeros : leadingZeros (0 :: digits) = leadingZeros digits + 1 := by
          simp [leadingZeros]
        have hvalue : value b (0 :: digits) = value b digits :=
          value_replicate_append b 1 digits
        rw [hzeros, hvalue, List.replicate_succ, List.cons_append]
        rw [← ih fun x hx => hlt x (List.mem_cons_of_mem 0 hx)]
      · have hzeros : leadingZeros (d :: digits) = 0 := by
          simp [leadingZeros, hd]
        have hdigits : Nat.digits b (value b (d :: digits)) = (d :: digits).reverse := by
          refine Nat.digits_ofDigits b hb _ (fun x hx => hlt x (List.mem_reverse.mp hx)) ?_
          intro hne
          simpa using hd
        rw [hzeros, hdigits]
        simp

/-- Changing the radix there and back recovers the digit string. -/
theorem changeRadix_changeRadix {b c : Nat} (hb : 1 < b) {digits : List Nat}
    (hlt : ∀ d ∈ digits, d < b) :
    changeRadix c b (changeRadix b c digits) = digits := by
  have hzeros : leadingZeros (changeRadix b c digits) = leadingZeros digits := by
    rw [changeRadix, leadingZeros_replicate_append, leadingZeros_digits_reverse, Nat.add_zero]
  have hvalue : value c (changeRadix b c digits) = value b digits := by
    rw [changeRadix, value_replicate_append]
    simp [value, Nat.ofDigits_digits]
  conv_lhs => rw [changeRadix, hzeros, hvalue]
  exact (eq_replicate_append_digits hb hlt).symm

/-- The new digits are digits of the new radix. -/
theorem changeRadix_lt {b c : Nat} (hc : 1 < c) (digits : List Nat) :
    ∀ d ∈ changeRadix b c digits, d < c := by
  intro d hd
  rcases List.mem_append.mp hd with hzero | hdigit
  · rw [List.eq_of_mem_replicate hzero]
    omega
  · exact Nat.digits_lt_base hc (List.mem_reverse.mp hdigit)

/-- There are no more leading zeros than digits. -/
theorem leadingZeros_le_length (digits : List Nat) : leadingZeros digits ≤ digits.length :=
  (List.takeWhile_prefix _).length_le

/-- If {lit}`bound` digits in the new radix can hold every string of this length,
they also hold it together with its leading zeros. -/
theorem changeRadix_length_le {b c bound : Nat} (hc : 1 < c) (hcb : c ≤ b)
    {digits : List Nat} (hlt : ∀ d ∈ digits, d < b)
    (hpow : b ^ digits.length ≤ c ^ bound) :
    (changeRadix b c digits).length ≤ bound := by
  have hb : 1 < b := Nat.lt_of_lt_of_le hc hcb
  have hzle := leadingZeros_le_length digits
  have hlength : digits.length ≤ bound := by
    have hle : b ^ digits.length ≤ b ^ bound :=
      hpow.trans (Nat.pow_le_pow_left hcb bound)
    exact (Nat.pow_le_pow_iff_right hb).mp hle
  rcases Nat.exists_eq_add_of_le (hzle.trans hlength) with ⟨rest, hrest⟩
  -- The leading zeros already account for a factor `c ^ zeros` of the bound.
  have hvalue : value b digits < c ^ rest := by
    have hcanonical := eq_replicate_append_digits hb hlt
    have hcount : (Nat.digits b (value b digits)).length =
        digits.length - leadingZeros digits := by
      have hsum := congrArg List.length hcanonical
      rw [List.length_append, List.length_replicate, List.length_reverse] at hsum
      omega
    have hbase : value b digits < b ^ (digits.length - leadingZeros digits) :=
      hcount ▸ Nat.lt_base_pow_length_digits hb
    refine hbase.trans_le ?_
    have hmul : b ^ (digits.length - leadingZeros digits) * c ^ leadingZeros digits ≤
        c ^ rest * c ^ leadingZeros digits := by
      calc
        b ^ (digits.length - leadingZeros digits) * c ^ leadingZeros digits ≤
            b ^ (digits.length - leadingZeros digits) * b ^ leadingZeros digits :=
          Nat.mul_le_mul_left _ (Nat.pow_le_pow_left hcb _)
        _ = b ^ digits.length := by rw [← Nat.pow_add, Nat.sub_add_cancel hzle]
        _ ≤ c ^ bound := hpow
        _ = c ^ rest * c ^ leadingZeros digits := by
          rw [hrest, Nat.pow_add, Nat.mul_comm]
    exact Nat.le_of_mul_le_mul_right hmul (Nat.pow_pos (by omega))
  have hdigits : (Nat.digits c (value b digits)).length ≤ rest :=
    (Nat.digits_length_le_iff hc _).mpr hvalue
  rw [changeRadix, List.length_append, List.length_replicate, List.length_reverse]
  omega

/-! ## Alphabet -/

/-- The 58 symbols in the order of their values. -/
def alphabet : List Char :=
  "123456789ABCDEFGHJKLMNPQRSTUVWXYZabcdefghijkmnopqrstuvwxyz".toList

/-- Symbol of a digit. -/
def symbol (digit : Nat) : Char :=
  alphabet.getD digit '1'

/-- Digit of a symbol. -/
def digit? (c : Char) : Option Nat :=
  alphabet.idxOf? c

/-- The alphabet has 58 symbols. -/
theorem alphabet_length : alphabet.length = 58 := by
  decide

/-- The symbol of a digit is read as that digit. -/
theorem digit?_symbol {digit : Nat} (hdigit : digit < 58) :
    digit? (symbol digit) = some digit := by
  have hall : ∀ d : Fin 58, digit? (symbol d) = some d.val := by
    decide
  exact hall ⟨digit, hdigit⟩

/-- What is read from a symbol is a digit with that symbol. -/
theorem digit?_eq_some {c : Char} {digit : Nat} (hdigit : digit? c = some digit) :
    digit < 58 ∧ symbol digit = c := by
  rcases List.findIdx?_eq_some_iff_getElem.mp hdigit with ⟨hlt, hsymbol, -⟩
  refine ⟨alphabet_length ▸ hlt, ?_⟩
  rw [symbol, List.getD_eq_getElem?_getD, List.getElem?_eq_getElem hlt]
  simpa using hsymbol

/-! ## Encoding and decoding -/

/-- Base58 digits of a byte string. -/
def encodeDigits (bytes : List UInt8) : List Nat :=
  changeRadix 256 58 (bytes.map UInt8.toNat)

/-- Base58 text of a byte string. -/
def encode (bytes : List UInt8) : String :=
  String.ofList ((encodeDigits bytes).map symbol)

/-- Bytes of a Base58 text, or {lean}`none` when a symbol is not in the alphabet. -/
def decode (text : String) : Option (List UInt8) := do
  let digits ← text.toList.mapM digit?
  return (changeRadix 58 256 digits).map UInt8.ofNat

/-- Bytes are digits of radix 256. -/
theorem bytes_lt (bytes : List UInt8) : ∀ d ∈ bytes.map UInt8.toNat, d < 256 := by
  intro d hd
  rcases List.mem_map.mp hd with ⟨byte, -, rfl⟩
  exact byte.toNat_lt

/-- A text is read symbol by symbol. -/
theorem mapM_digit?_eq_some_iff {symbols : List Char} {digits : List Nat} :
    symbols.mapM digit? = some digits ↔
      (∀ d ∈ digits, d < 58) ∧ symbols = digits.map symbol := by
  induction symbols generalizing digits with
  | nil =>
      cases digits <;> simp
  | cons c symbols ih =>
      simp only [List.mapM_cons, Option.bind_eq_bind, Option.bind_eq_some_iff, Option.pure_def,
        Option.some.injEq, ih]
      constructor
      · rintro ⟨digit, hdigit, digits, ⟨hlt, rfl⟩, rfl⟩
        rcases digit?_eq_some hdigit with ⟨hdigitLt, hsymbol⟩
        exact ⟨List.forall_mem_cons.mpr ⟨hdigitLt, hlt⟩, by rw [List.map_cons, hsymbol]⟩
      · rintro ⟨hlt, hsymbols⟩
        cases digits with
        | nil => simp at hsymbols
        | cons digit digits =>
            rcases List.forall_mem_cons.mp hlt with ⟨hdigitLt, hlt⟩
            rcases List.cons.inj hsymbols with ⟨rfl, rfl⟩
            exact ⟨digit, digit?_symbol hdigitLt, digits, ⟨hlt, rfl⟩, rfl⟩

/-- The decoder accepts exactly the encodings, and inverts them. -/
theorem decode_eq_some_iff {text : String} {bytes : List UInt8} :
    decode text = some bytes ↔ text = encode bytes := by
  simp only [decode, Option.bind_eq_bind, Option.bind_eq_some_iff, Option.pure_def,
    Option.some.injEq, mapM_digit?_eq_some_iff]
  constructor
  · rintro ⟨digits, ⟨hlt, htext⟩, rfl⟩
    have hbytes : ((changeRadix 58 256 digits).map UInt8.ofNat).map UInt8.toNat =
        changeRadix 58 256 digits := by
      rw [List.map_map]
      calc
        (changeRadix 58 256 digits).map (UInt8.toNat ∘ UInt8.ofNat) =
            (changeRadix 58 256 digits).map id :=
          List.map_congr_left fun d hd =>
            UInt8.toNat_ofNat_of_lt' (changeRadix_lt (by norm_num) digits d hd)
        _ = changeRadix 58 256 digits := List.map_id _
    rw [encode, encodeDigits, hbytes, changeRadix_changeRadix (by norm_num) hlt, ← htext,
      String.ofList_toList]
  · rintro rfl
    refine ⟨encodeDigits bytes, ⟨changeRadix_lt (by norm_num) _, ?_⟩, ?_⟩
    · rw [encode, String.toList_ofList]
    · rw [encodeDigits, changeRadix_changeRadix (by norm_num) (bytes_lt bytes), List.map_map]
      simp [Function.comp_def]

/-- Base58 text never needs more than {lit}`bound` symbols when {lit}`bound`
base-58 digits can hold every byte string of that length. -/
theorem encode_length_le {bytes : List UInt8} {bound : Nat}
    (hpow : 256 ^ bytes.length ≤ 58 ^ bound) : (encode bytes).length ≤ bound := by
  rw [encode, String.length_ofList, List.length_map]
  exact changeRadix_length_le (by norm_num) (by norm_num) (bytes_lt bytes) (by simpa using hpow)

/-- Every symbol takes one byte. -/
theorem utf8Size_symbol (digit : Nat) : (symbol digit).utf8Size = 1 := by
  have hall : ∀ c ∈ alphabet, c.utf8Size = 1 := by
    have hcheck : alphabet.all (fun c => c.utf8Size == 1) = true := by decide
    intro c hmem
    exact beq_iff_eq.mp (List.all_eq_true.mp hcheck c hmem)
  unfold symbol
  rw [List.getD_eq_getElem?_getD]
  cases hget : alphabet[digit]? with
  | none => rfl
  | some c => exact hall c (List.mem_of_getElem? hget)

/-- Base58 text is ASCII: it takes as many bytes as symbols. -/
theorem utf8ByteSize_encode (bytes : List UInt8) :
    (encode bytes).utf8ByteSize = (encode bytes).length := by
  unfold encode
  induction encodeDigits bytes with
  | nil => rfl
  | cons digit digits ih =>
      rw [List.map_cons, String.ofList_cons, String.utf8ByteSize_append,
        String.utf8ByteSize_singleton, utf8Size_symbol, ih, String.length_append,
        String.length_singleton]

/-- Different bytes have different texts. -/
theorem encode_injective {bytes bytes' : List UInt8} (h : encode bytes = encode bytes') :
    bytes = bytes' := by
  have hdecode := decode_eq_some_iff.mpr h
  rw [decode_eq_some_iff.mpr rfl] at hdecode
  exact Option.some.inj hdecode

end Base58
