import CommandBridge.Text.Base64

/-! Bytes are recovered from their text in base 64. -/
namespace CommandBridge.Text

/-- The number a digit stands for; an equals sign stands for zero. -/
def base64Value (c : Char) : Nat := ((List.range 64).find? (base64Digit · == c)).getD 0

/-- The bytes of a text: three for four digits, fewer where equals signs are. -/
def base64Bytes : List Char → List UInt8
  | a :: b :: c :: d :: rest =>
    let n := ((base64Value a * 64 + base64Value b) * 64 + base64Value c) * 64 + base64Value d
    let high := UInt8.ofNat (n / 65536)
    let middle := UInt8.ofNat (n / 256 % 256)
    let low := UInt8.ofNat (n % 256)
    if c = '=' then [high]
    else if d = '=' then [high, middle]
    else high :: middle :: low :: base64Bytes rest
  | _ => []

theorem base64Value_base64Digit : ∀ n < 64, base64Value (base64Digit n) = n := by
  decide +kernel

theorem base64Digit_ne : ∀ n < 64, base64Digit n ≠ '=' := by decide +kernel

theorem base64Value_equals : base64Value '=' = 0 := by decide +kernel

theorem base64Bytes_base64 (bytes : List UInt8) : base64Bytes (base64 bytes) = bytes := by
  have hbyte : ∀ b : UInt8, b.toNat < 256 := fun b => b.toNat_lt
  fun_induction base64 bytes with
  | case1 => rfl
  | case2 a n =>
    have ha := hbyte a
    have hnumber : ((n / 64 * 64 + n % 64) * 64 + 0) * 64 + 0 = a.toNat * 65536 := by omega
    simp only [base64Bytes, if_true, base64Value_equals,
      base64Value_base64Digit (n / 64) (by omega), base64Value_base64Digit (n % 64) (by omega),
      hnumber, Nat.mul_div_cancel _ (show 0 < 65536 by decide), UInt8.ofNat_toNat]
  | case3 a b n =>
    have ha := hbyte a
    have hb := hbyte b
    have hnumber : ((n / 4096 * 64 + n / 64 % 64) * 64 + n % 64) * 64 + 0 =
        (a.toNat * 256 + b.toNat) * 256 := by omega
    have hhigh : (a.toNat * 256 + b.toNat) * 256 / 65536 = a.toNat := by omega
    have hmiddle : (a.toNat * 256 + b.toNat) * 256 / 256 % 256 = b.toNat := by omega
    simp only [base64Bytes, if_true, base64Value_equals, base64Digit_ne (n % 64) (by omega),
      if_false, base64Value_base64Digit (n / 4096) (by omega),
      base64Value_base64Digit (n / 64 % 64) (by omega),
      base64Value_base64Digit (n % 64) (by omega), hnumber, hhigh, hmiddle, UInt8.ofNat_toNat]
  | case4 a b c rest n ih =>
    have ha := hbyte a
    have hb := hbyte b
    have hc := hbyte c
    have hnumber : ((n / 262144 * 64 + n / 4096 % 64) * 64 + n / 64 % 64) * 64 + n % 64 = n := by
      omega
    have hhigh : n / 65536 = a.toNat := by omega
    have hmiddle : n / 256 % 256 = b.toNat := by omega
    have hlow : n % 256 = c.toNat := by omega
    simp only [base64Bytes, base64Digit_ne (n / 64 % 64) (by omega),
      base64Digit_ne (n % 64) (by omega), if_false,
      base64Value_base64Digit (n / 262144) (by omega),
      base64Value_base64Digit (n / 4096 % 64) (by omega),
      base64Value_base64Digit (n / 64 % 64) (by omega),
      base64Value_base64Digit (n % 64) (by omega), hnumber, hhigh, hmiddle, hlow,
      UInt8.ofNat_toNat, ih]

theorem base64_injective {a b : List UInt8} (h : base64 a = base64 b) : a = b := by
  rw [← base64Bytes_base64 a, h, base64Bytes_base64]

end CommandBridge.Text
