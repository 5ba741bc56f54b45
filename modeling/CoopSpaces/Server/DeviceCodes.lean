import CoopSpaces.Lib.Text

namespace CoopSpaces

/-- The storage form of an invite's code: its UTF-8 bytes as hexadecimal digits. -/
def encodeDeviceCode (display : String) : String := hexEncode display.toByteArray.data.toList

def hexDecode : List Char → Option (List UInt8)
  | [] => some []
  | [_] => none
  | high :: low :: rest => do
    let high ← hexValue high
    let low ← hexValue low
    let bytes ← hexDecode rest
    some (UInt8.ofNat (16 * high.val + low.val) :: bytes)

/-- Back again; what is no such form stands for itself. -/
def decodeDeviceCode (stored : String) : String :=
  ((hexDecode stored.toList).bind fun bytes => String.fromUTF8? ⟨bytes.toArray⟩).getD stored

theorem hexDecode_hexEncode (bytes : List UInt8) : hexDecode (hexEncode bytes).toList = some bytes := by
  induction bytes with
  | nil => rfl
  | cons byte rest ih =>
    rw [hexEncode, String.toList_ofList] at ih ⊢
    rw [List.flatMap_cons, List.cons_append, List.cons_append, List.nil_append, hexDecode, ih, hexValue_hexChar,
      hexValue_hexChar]
    have bound := byte.toNat_lt
    have whole : UInt8.ofNat (16 * (Fin.ofNat 16 (byte.toNat / 16)).val + (Fin.ofNat 16 (byte.toNat % 16)).val) =
        byte := by
      have digits : 16 * (Fin.ofNat 16 (byte.toNat / 16)).val + (Fin.ofNat 16 (byte.toNat % 16)).val =
          byte.toNat := by
        simp only [Fin.ofNat]
        omega
      rw [digits, UInt8.ofNat_toNat]
    exact congrArg (fun byte => some (byte :: rest)) whole

end CoopSpaces
