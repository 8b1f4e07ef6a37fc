-- SUMMARY: UUIDs as the pipeline uses them: the canonical string and uuid.Parse, which read each other back.
import Mathlib.Data.List.Basic

/-!
# UUIDs

The identifiers of `github.com/google/uuid` as the pipeline uses them: a notification's
id travels through the log as its canonical string (`UUID.String`), and the worker reads
it back with `uuid.Parse` before loading the row. The idempotency store returns the bound
id as a string too, which intake parses the same way.

`parse` works on the bytes of the string, as Go indexes strings by byte; a Lean string is
valid UTF-8, as every string that `json.Unmarshal` produces is. The one property the rest
of the development needs is `parse_toString`: parsing reads back what `String` wrote.
-/

namespace Uuid

/-- A `uuid.UUID`: sixteen bytes. -/
structure UUID where
  bytes : List UInt8
  length_eq : bytes.length = 16
deriving DecidableEq, Repr

/-- `uuid.Nil`, the value `Parse` returns beside its error. -/
def nil : UUID := ⟨List.replicate 16 0, rfl⟩

/-- A sixteen-byte list as a UUID. -/
def UUID.ofBytes? (l : List UInt8) : Option UUID :=
  if h : l.length = 16 then some ⟨l, h⟩ else none

-- ---------------------------------------------------------------------------
-- String
-- ---------------------------------------------------------------------------

/-- The lowercase hex digit of a nibble, as `hex.Encode` writes it. -/
def hexChar (n : Nat) : Char :=
  if n < 10 then Char.ofNat (48 + n) else Char.ofNat (87 + n)

/-- `hex.Encode`: two lowercase digits per byte. -/
def encodeHex : List UInt8 → List Char
  | [] => []
  | b :: bs => hexChar (b.toNat / 16) :: hexChar (b.toNat % 16) :: encodeHex bs

/-- `UUID.String`: `xxxxxxxx-xxxx-xxxx-xxxx-xxxxxxxxxxxx`, laid out as `encodeHex` does. -/
def UUID.toString (u : UUID) : String :=
  ⟨encodeHex (u.bytes.take 4) ++ '-' :: encodeHex ((u.bytes.drop 4).take 2) ++
    '-' :: encodeHex ((u.bytes.drop 6).take 2) ++ '-' :: encodeHex ((u.bytes.drop 8).take 2) ++
    '-' :: encodeHex (u.bytes.drop 10)⟩

-- ---------------------------------------------------------------------------
-- Parse
-- ---------------------------------------------------------------------------

/-- `xvalues`: the value of an ASCII hex digit of either case. -/
def xvalue (c : UInt8) : Option Nat :=
  if 48 ≤ c.toNat ∧ c.toNat ≤ 57 then some (c.toNat - 48)
  else if 97 ≤ c.toNat ∧ c.toNat ≤ 102 then some (c.toNat - 87)
  else if 65 ≤ c.toNat ∧ c.toNat ≤ 70 then some (c.toNat - 55)
  else none

/-- `xtob`: the byte spelled by two hex digits. -/
def xtob (x1 x2 : UInt8) : Option UInt8 := do
  let h ← xvalue x1
  let l ← xvalue x2
  pure (h * 16 + l).toUInt8

/-- The bytes spelled by the hex pairs that start at the given positions. -/
def readPairs (s : List UInt8) : List Nat → Option (List UInt8)
  | [] => some []
  | x :: xs => do
    let b ← xtob (s.getD x 0) (s.getD (x + 1) 0)
    let bs ← readPairs s xs
    pure (b :: bs)

/-- The body of `Parse` once a prefix is gone: hyphens at 8, 13, 18 and 23, and the sixteen
hex pairs around them. Bytes past the 36th are not looked at. -/
def parseHyphenated (s : List UInt8) : Option UUID :=
  if s.getD 8 0 = 45 ∧ s.getD 13 0 = 45 ∧ s.getD 18 0 = 45 ∧ s.getD 23 0 = 45 then
    readPairs s [0, 2, 4, 6, 9, 11, 14, 16, 19, 21, 24, 26, 28, 30, 32, 34] >>= UUID.ofBytes?
  else none

/-- The thirty-two hex digits of the unhyphenated form. -/
def parseHex : List UInt8 → Option (List UInt8)
  | x1 :: x2 :: rest => do
    let b ← xtob x1 x2
    let bs ← parseHex rest
    pure (b :: bs)
  | _ => some []

/-- ASCII lower case, as `strings.EqualFold` compares the `urn:uuid:` prefix. -/
def lowerAscii (c : UInt8) : UInt8 := if 65 ≤ c.toNat ∧ c.toNat ≤ 90 then c + 32 else c

/-- `uuid.Parse` on the bytes of a string, dispatching on the length as the library does.
The braced form only drops its first byte; neither brace is checked. -/
def parseBytes (s : List UInt8) : Option UUID :=
  if s.length = 36 then parseHyphenated s
  else if s.length = 45 then
    if (s.take 9).map lowerAscii = "urn:uuid:".toUTF8.data.toList
    then parseHyphenated (s.drop 9) else none
  else if s.length = 38 then parseHyphenated (s.drop 1)
  else if s.length = 32 then parseHex s >>= UUID.ofBytes?
  else none

/-- `uuid.Parse`. The error's text is dropped: callers here only tell success from failure. -/
def parse (s : String) : Option UUID := parseBytes s.toUTF8.data.toList

-- ---------------------------------------------------------------------------
-- Round trip
-- ---------------------------------------------------------------------------

/-- The ASCII byte of `hexChar n`. -/
def hexByte (n : Nat) : UInt8 := if n < 10 then (48 + n).toUInt8 else (87 + n).toUInt8

/-- `hex.Encode` at the byte level. -/
def encodeHexBytes : List UInt8 → List UInt8
  | [] => []
  | b :: bs => hexByte (b.toNat / 16) :: hexByte (b.toNat % 16) :: encodeHexBytes bs

theorem toNat_hexByte {n : Nat} (h : n < 16) :
    (hexByte n).toNat = if n < 10 then 48 + n else 87 + n := by
  unfold hexByte
  split <;> exact UInt8.toNat_ofNat_of_lt (by unfold UInt8.size; omega)

theorem xvalue_hexByte {n : Nat} (h : n < 16) : xvalue (hexByte n) = some n := by
  rw [xvalue, toNat_hexByte h]
  by_cases hn : n < 10
  · rw [if_pos hn, if_pos (by omega)]; congr 1; omega
  · rw [if_neg hn, if_neg (by omega), if_pos (by omega)]; congr 1; omega

/-- The two digits `hex.Encode` writes for a byte spell that byte. -/
theorem xtob_hexByte (b : UInt8) :
    xtob (hexByte (b.toNat / 16)) (hexByte (b.toNat % 16)) = some b := by
  have hb : b.toNat < 256 := b.toNat_lt_size
  simp only [xtob, xvalue_hexByte (show b.toNat / 16 < 16 by omega),
    xvalue_hexByte (show b.toNat % 16 < 16 by omega), Option.pure_def, Option.bind_eq_bind,
    Option.some_bind, Option.some.injEq]
  apply UInt8.toNat.inj
  rw [Nat.toUInt8, UInt8.toNat_ofNat_of_lt (by unfold UInt8.size; omega)]
  omega

theorem utf8EncodeChar_hexChar : ∀ n < 16, String.utf8EncodeChar (hexChar n) = [hexByte n] := by
  decide

@[simp] theorem utf8EncodeChar_hexChar_div (b : UInt8) :
    String.utf8EncodeChar (hexChar (b.toNat / 16)) = [hexByte (b.toNat / 16)] :=
  utf8EncodeChar_hexChar _ (by have := b.toNat_lt_size; unfold UInt8.size at this; omega)

@[simp] theorem utf8EncodeChar_hexChar_mod (b : UInt8) :
    String.utf8EncodeChar (hexChar (b.toNat % 16)) = [hexByte (b.toNat % 16)] :=
  utf8EncodeChar_hexChar _ (Nat.mod_lt _ (by omega))

@[simp] theorem utf8EncodeChar_hyphen : String.utf8EncodeChar '-' = [45] := by decide

theorem flatMap_encodeHex (bs : List UInt8) :
    (encodeHex bs).flatMap String.utf8EncodeChar = encodeHexBytes bs := by
  induction bs <;> simp [encodeHex, encodeHexBytes, *]

/-- `Parse` reads back what `String` writes. -/
theorem parse_toString (u : UUID) : parse u.toString = some u := by
  obtain ⟨bs, hl⟩ := u
  match bs, hl with
  | [b0, b1, b2, b3, b4, b5, b6, b7, b8, b9, b10, b11, b12, b13, b14, b15], _ =>
    simp only [parse, UUID.toString, String.toUTF8, List.flatMap_append, List.flatMap_cons,
      flatMap_encodeHex]
    simp [encodeHexBytes, parseBytes, parseHyphenated, readPairs, xtob_hexByte, UUID.ofBytes?]

example : parse "not-a-uuid" = none := by decide

theorem UUID.toString_injective {u v : UUID} (h : u.toString = v.toString) : u = v := by
  simpa [parse_toString] using congrArg parse h

end Uuid
