import StatelessPgp.Text.Utf8

/-!
# Hexadecimal digits

Bytes are written as two digits each, high half first.  Reading takes digits of
either case and refuses an odd one out.
-/

namespace StatelessPgp
namespace Text

def hexDigit (value : Nat) : Char :=
  if value < 10 then Char.ofNat (48 + value) else Char.ofNat (55 + value)

def lowerHexDigit (value : Nat) : Char :=
  if value < 10 then Char.ofNat (48 + value) else Char.ofNat (87 + value)

def hex (bytes : Bytes) : List Char :=
  bytes.flatMap fun byte => [hexDigit (byte.toNat / 16), hexDigit (byte.toNat % 16)]

def lowerHex (bytes : Bytes) : List Char :=
  bytes.flatMap fun byte =>
    [lowerHexDigit (byte.toNat / 16), lowerHexDigit (byte.toNat % 16)]

/-- The value of a digit of either case. -/
def hexValue? (character : Char) : Option Nat :=
  if '0' ≤ character ∧ character ≤ '9' then some (character.toNat - 48)
  else if 'A' ≤ character ∧ character ≤ 'F' then some (character.toNat - 55)
  else if 'a' ≤ character ∧ character ≤ 'f' then some (character.toNat - 87)
  else none

/-- The bytes that digits stand for, two digits each. -/
def unhex? : List Char → Option Bytes
  | [] => some []
  | [_] => none
  | high :: low :: rest =>
      match hexValue? high, hexValue? low, unhex? rest with
      | some highValue, some lowValue, some bytes =>
          some (UInt8.ofNat (highValue * 16 + lowValue) :: bytes)
      | _, _, _ => none

/-- The lower case digits of a number without leading zeros. -/
def hexNumber (number : Nat) : List Char :=
  Nat.toDigits 16 number

end Text
end StatelessPgp
