import SeldonCore.Dataflow.Transformers
import Mathlib.Data.Nat.Digits

/-! # The text of an application id

`nameFor` names a transformer's Kafka Streams application by `md5`: the MD5 digest of the
name's UTF-8 bytes, read as a non-negative `BigInteger`, written in base 16 and padded with
`0` to 32 characters. The digest is `java.security.MessageDigest`'s, a parameter here, and
is 16 bytes long. Writing it out loses nothing: the text is always 32 lowercase
hexadecimal digits, and two names get the same text exactly when their digests are equal
(`md5_text_eq_iff`).
-/

namespace SeldonCore.Dataflow

/-- `BigInteger(1, magnitude)`: the bytes, most significant first, as a number. -/
def bigIntegerOf (magnitude : List UInt8) : Nat :=
  magnitude.foldl (fun n b => n * 256 + b.toNat) 0

/-- `BigInteger.toString(16)` of a non-negative number: its digits by `Character.forDigit`,
most significant first, and `"0"` for zero. -/
def toStringHex (n : Nat) : List Char :=
  if n = 0 then ['0'] else ((Nat.digits 16 n).map Nat.digitChar).reverse

def padStart (s : List Char) (length : Nat) (padChar : Char) : List Char :=
  if length ≤ s.length then s else List.replicate (length - s.length) padChar ++ s

/-- `md5`; `digest` is `MessageDigest.getInstance("MD5").digest`. -/
def md5 (digest : List UInt8 → List UInt8) (input : String) : String :=
  ⟨padStart (toStringHex (bigIntegerOf (digest input.toUTF8.data.toList))) 32 '0'⟩

/-! ## Numbers and their digits -/

theorem foldl_mul_add (b : Nat) (l : List Nat) (acc : Nat) :
    l.foldl (fun n d => n * b + d) acc = acc * b ^ l.length + Nat.ofDigits b l.reverse := by
  induction l generalizing acc with
  | nil => simp
  | cons d l ih =>
    rw [List.foldl_cons, ih, List.reverse_cons, Nat.ofDigits_append, Nat.ofDigits_singleton,
      List.length_reverse, List.length_cons, pow_succ]
    ring

theorem bigIntegerOf_eq (magnitude : List UInt8) :
    bigIntegerOf magnitude = Nat.ofDigits 256 (magnitude.map UInt8.toNat).reverse := by
  rw [bigIntegerOf, ← List.foldl_map UInt8.toNat (fun n d => n * 256 + d), foldl_mul_add,
    zero_mul, zero_add]

theorem ofDigits_inj_of_length_eq {b : Nat} (hb : 0 < b) :
    ∀ {l l' : List Nat}, l.length = l'.length → (∀ x ∈ l, x < b) → (∀ x ∈ l', x < b) →
      Nat.ofDigits b l = Nat.ofDigits b l' → l = l'
  | [], [], _, _, _, _ => rfl
  | x :: l, x' :: l', hlen, hl, hl', h => by
    rw [Nat.ofDigits_cons, Nat.ofDigits_cons] at h
    have hx := hl x (List.mem_cons_self _ _)
    have hx' := hl' x' (List.mem_cons_self _ _)
    have hmod := congrArg (· % b) h
    have hdiv := congrArg (· / b) h
    simp only [Nat.add_mul_mod_self_left, Nat.mod_eq_of_lt hx, Nat.mod_eq_of_lt hx'] at hmod
    simp only [Nat.add_mul_div_left _ _ hb, Nat.div_eq_of_lt hx, Nat.div_eq_of_lt hx',
      zero_add] at hdiv
    rw [hmod, ofDigits_inj_of_length_eq hb (Nat.succ.inj hlen)
      (fun y hy => hl y (List.mem_cons_of_mem _ hy)) (fun y hy => hl' y (List.mem_cons_of_mem _ hy))
      hdiv]

/-- Magnitudes of one length are told apart by their number. -/
theorem bigIntegerOf_inj {magnitude magnitude' : List UInt8}
    (hlen : magnitude.length = magnitude'.length)
    (h : bigIntegerOf magnitude = bigIntegerOf magnitude') : magnitude = magnitude' := by
  rw [bigIntegerOf_eq, bigIntegerOf_eq] at h
  have hlt : ∀ m : List UInt8, ∀ x ∈ (m.map UInt8.toNat).reverse, x < 256 := fun m x hx => by
    obtain ⟨b, -, rfl⟩ := List.mem_map.mp (List.mem_reverse.mp hx)
    exact UInt8.toNat_lt_size b
  have hmap := List.reverse_injective
    (ofDigits_inj_of_length_eq (by norm_num) (by simp [hlen]) (hlt _) (hlt _) h)
  exact List.map_injective_iff.mpr (fun _ _ => UInt8.toNat.inj) hmap

theorem bigIntegerOf_lt {magnitude : List UInt8} (hlen : magnitude.length = 16) :
    bigIntegerOf magnitude < 16 ^ 32 := by
  rw [bigIntegerOf_eq, show (16 : Nat) ^ 32 = 256 ^ 16 by norm_num]
  convert Nat.ofDigits_lt_base_pow_length (by norm_num : 1 < 256) fun x hx => ?_ using 2
  · simp [hlen]
  · obtain ⟨b, -, rfl⟩ := List.mem_map.mp (List.mem_reverse.mp hx)
    exact UInt8.toNat_lt_size b

/-! ## Thirty-two hexadecimal digits -/

/-- The base-16 digits of `n`, least significant first, padded with zeros to 32. -/
def hexDigits32 (n : Nat) : List Nat :=
  Nat.digits 16 n ++ List.replicate (32 - (Nat.digits 16 n).length) 0

theorem digits_length_le {n : Nat} (hn : n < 16 ^ 32) : (Nat.digits 16 n).length ≤ 32 := by
  rcases Nat.eq_zero_or_pos n with rfl | hpos
  · simp
  · rw [Nat.digits_len 16 n (by norm_num) hpos.ne']
    exact Nat.log_lt_of_lt_pow hpos.ne' hn

theorem ofDigits_append_replicate_zero (b : Nat) (l : List Nat) (k : Nat) :
    Nat.ofDigits b (l ++ List.replicate k 0) = Nat.ofDigits b l := by
  have h0 : Nat.ofDigits b (List.replicate k 0) = 0 := by
    induction k with
    | zero => rfl
    | succ k ih => rw [List.replicate_succ, Nat.ofDigits_cons, ih]; simp
  rw [Nat.ofDigits_append, h0, mul_zero, add_zero]

theorem hexDigits32_spec {n : Nat} (hn : n < 16 ^ 32) :
    (hexDigits32 n).length = 32 ∧ (∀ d ∈ hexDigits32 n, d < 16) ∧
      Nat.ofDigits 16 (hexDigits32 n) = n := by
  have hlen := digits_length_le hn
  refine ⟨by simp [hexDigits32]; omega, fun d hd => ?_, ?_⟩
  · rcases List.mem_append.mp hd with hd | hd
    · exact Nat.digits_lt_base (by norm_num) hd
    · rw [List.eq_of_mem_replicate hd]; norm_num
  · rw [hexDigits32, ofDigits_append_replicate_zero, Nat.ofDigits_digits]

/-- Padded to 32 characters, `toString(16)` is the 32 digits of `hexDigits32`, most
significant first. -/
theorem padStart_toStringHex {n : Nat} (hn : n < 16 ^ 32) :
    padStart (toStringHex n) 32 '0' = ((hexDigits32 n).map Nat.digitChar).reverse := by
  have hlen := digits_length_le hn
  rcases Nat.eq_zero_or_pos n with rfl | hpos
  · simp [padStart, toStringHex, hexDigits32, List.replicate_succ]
    rfl
  · have hl : (((Nat.digits 16 n).map Nat.digitChar).reverse).length ≤ 32 := by simpa using hlen
    rw [toStringHex, if_neg hpos.ne', padStart]
    split
    · have h32 : (Nat.digits 16 n).length = 32 := by simp at *; omega
      simp [hexDigits32, h32]
    · simp [hexDigits32, List.map_replicate, show Nat.digitChar 0 = '0' from rfl]

theorem digitChar_injOn : ∀ d < 16, ∀ d' < 16, Nat.digitChar d = Nat.digitChar d' → d = d' := by
  decide

theorem digitChar_mem_hex : ∀ d < 16, Nat.digitChar d ∈ "0123456789abcdef".data := by
  decide

theorem map_digitChar_inj {l l' : List Nat} (hl : ∀ d ∈ l, d < 16) (hl' : ∀ d ∈ l', d < 16)
    (h : l.map Nat.digitChar = l'.map Nat.digitChar) : l = l' := by
  induction l generalizing l' with
  | nil => exact (List.map_eq_nil_iff.mp h.symm).symm
  | cons d l ih =>
    obtain ⟨d', l', rfl⟩ := List.exists_cons_of_ne_nil
      (fun he : l' = [] => by simp [he] at h)
    simp only [List.map_cons, List.cons.injEq] at h
    rw [digitChar_injOn d (hl d (List.mem_cons_self _ _)) d' (hl' d' (List.mem_cons_self _ _)) h.1,
      ih (fun x hx => hl x (List.mem_cons_of_mem _ hx))
        (fun x hx => hl' x (List.mem_cons_of_mem _ hx)) h.2]

/-- With a 16-byte digest, `md5` always gives 32 lowercase hexadecimal digits, and two
strings get the same text exactly when the digests of their UTF-8 bytes are equal: the
`BigInteger` and its padded base-16 text lose nothing of the digest. -/
theorem md5_text_eq_iff {digest : List UInt8 → List UInt8}
    (hdigest : ∀ bytes, (digest bytes).length = 16) (input input' : String) :
    (md5 digest input).length = 32 ∧
    (∀ c ∈ (md5 digest input).data, c ∈ "0123456789abcdef".data) ∧
    (md5 digest input = md5 digest input' ↔
      digest input.toUTF8.data.toList = digest input'.toUTF8.data.toList) := by
  have htext : ∀ s, (md5 digest s).data =
      ((hexDigits32 (bigIntegerOf (digest s.toUTF8.data.toList))).map Nat.digitChar).reverse :=
    fun s => padStart_toStringHex (bigIntegerOf_lt (hdigest _))
  have hspec := fun s => hexDigits32_spec (bigIntegerOf_lt (hdigest (s : String).toUTF8.data.toList))
  refine ⟨?_, fun c hc => ?_, ⟨fun h => ?_, fun h => by rw [md5, md5, h]⟩⟩
  · rw [String.length, htext]; simp [(hspec input).1]
  · rw [htext] at hc
    obtain ⟨d, hd, rfl⟩ := List.mem_map.mp (List.mem_reverse.mp hc)
    exact digitChar_mem_hex d ((hspec input).2.1 d hd)
  · have hd := map_digitChar_inj (hspec input).2.1 (hspec input').2.1
      (List.reverse_injective (by rw [← htext, ← htext, h]))
    have hn := congrArg (Nat.ofDigits 16) hd
    rw [(hspec input).2.2, (hspec input').2.2] at hn
    exact bigIntegerOf_inj (by rw [hdigest, hdigest]) hn

theorem md5_text_eq_iff_zero_digest :
    (∀ bytes : List UInt8, ((fun _ : List UInt8 => List.replicate 16 (0 : UInt8)) bytes).length =
      16) ∧
    ((md5 (fun _ => List.replicate 16 0) "a").length = 32 ∧
      (∀ c ∈ (md5 (fun _ => List.replicate 16 0) "a").data, c ∈ "0123456789abcdef".data) ∧
      (md5 (fun _ => List.replicate 16 0) "a" = md5 (fun _ => List.replicate 16 0) "b" ↔
        List.replicate 16 (0 : UInt8) = List.replicate 16 0)) :=
  ⟨fun _ => rfl, @md5_text_eq_iff (fun _ => List.replicate 16 0) (fun _ => rfl) "a" "b"⟩

end SeldonCore.Dataflow
