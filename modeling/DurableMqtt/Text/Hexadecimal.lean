/-!
Bytes written as pairs of hexadecimal digits, the high half first.
-/

namespace DurableMqtt.Text

def digitOfNibble (n : UInt8) : Char := Nat.digitChar n.toNat

def hexOfBytes (bytes : ByteArray) : String :=
  String.ofList (bytes.toList.flatMap fun b => [digitOfNibble (b / 16), digitOfNibble (b % 16)])

def nibbleOfDigit? (c : Char) : Option UInt8 :=
  let c := c.toLower
  if c.isDigit then some (.ofNat (c.toNat - '0'.toNat))
  else if 'a' ≤ c ∧ c ≤ 'f' then some (.ofNat (c.toNat - 'a'.toNat + 10))
  else none

def bytesOfDigits? : List Char → Option (List UInt8)
  | [] => some []
  | [_] => none
  | high :: low :: rest => do
    let b := 16 * (← nibbleOfDigit? high) + (← nibbleOfDigit? low)
    some (b :: (← bytesOfDigits? rest))

def bytesOfHex? (text : String) : Option ByteArray := do
  some ⟨(← bytesOfDigits? text.toList).toArray⟩

end DurableMqtt.Text
