/-!
Byte strings read as UTF-8. `pieces` cuts a byte string into characters and maximal runs that are
no character; replacing each such run by U+FFFD gives the lossy text, and a byte string without
one is text as it stands.
-/

namespace DependencyLinks

/-- Text as the system hands it over: bytes that need not be UTF-8. -/
abbrev RawText := List UInt8

namespace Utf8

def encode (cs : List Char) : RawText :=
  cs.flatMap String.utf8EncodeChar

/-- The bytes that go on with a character. -/
def continuation (b : UInt8) : Bool :=
  0x80 ≤ b && b ≤ 0xBF

/-- The second byte of a three-byte character: no overlong form and no surrogate. -/
def secondOfThree (lead b : UInt8) : Bool :=
  if lead == 0xE0 then 0xA0 ≤ b && b ≤ 0xBF
  else if lead == 0xED then 0x80 ≤ b && b ≤ 0x9F
  else continuation b

/-- The second byte of a four-byte character: no overlong form, nothing above U+10FFFF. -/
def secondOfFour (lead b : UInt8) : Bool :=
  if lead == 0xF0 then 0x90 ≤ b && b ≤ 0xBF
  else if lead == 0xF4 then 0x80 ≤ b && b ≤ 0x8F
  else continuation b

/-- The payload of a continuation byte. -/
def payload (b : UInt8) : Nat :=
  b.toNat % 64

/-- Cuts bytes into characters and, as `none`, maximal beginnings of a character that break off. -/
def pieces : RawText → List (Option Char)
  | [] => []
  | a :: afterA =>
    if a < 0x80 then some (Char.ofNat a.toNat) :: pieces afterA
    else if a < 0xC2 || 0xF4 < a then none :: pieces afterA
    else match afterA with
      | [] => [none]
      | b :: afterB =>
        if a < 0xE0 then
          if continuation b then
            some (Char.ofNat (a.toNat % 32 * 64 + payload b)) :: pieces afterB
          else none :: pieces (b :: afterB)
        else if a < 0xF0 then
          if secondOfThree a b then
            match afterB with
            | [] => [none]
            | c :: afterC =>
              if continuation c then
                some (Char.ofNat (a.toNat % 16 * 4096 + payload b * 64 + payload c)) ::
                  pieces afterC
              else none :: pieces (c :: afterC)
          else none :: pieces (b :: afterB)
        else
          if secondOfFour a b then
            match afterB with
            | [] => [none]
            | c :: afterC =>
              if continuation c then
                match afterC with
                | [] => [none]
                | d :: afterD =>
                  if continuation d then
                    some (Char.ofNat (a.toNat % 8 * 262144 + payload b * 4096 +
                      payload c * 64 + payload d)) :: pieces afterD
                  else none :: pieces (d :: afterD)
              else none :: pieces (c :: afterC)
          else none :: pieces (b :: afterB)

/-- Each piece that is no character becomes U+FFFD. -/
def lossy (bytes : RawText) : List Char :=
  (pieces bytes).map (·.getD '\uFFFD')

/-- The text, if every piece is a character. -/
def decode? (bytes : RawText) : Option (List Char) :=
  (pieces bytes).mapM id

@[simp] theorem pieces_nil : pieces [] = [] := by simp [pieces]

theorem pieces_ascii (a : UInt8) (rest : RawText) (small : a < 0x80) :
    pieces (a :: rest) = some (Char.ofNat a.toNat) :: pieces rest := by
  rw [pieces.eq_def]
  simp [small]

end Utf8

namespace RawText

def ofString (s : String) : RawText :=
  Utf8.encode s.toList

def text? (raw : RawText) : Option String :=
  (Utf8.decode? raw).map String.ofList

def lossy (raw : RawText) : String :=
  String.ofList (Utf8.lossy raw)

end RawText

end DependencyLinks
