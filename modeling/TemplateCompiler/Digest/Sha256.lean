import TemplateCompiler.Text.Hex

/-! # SHA-256

The hash function over lists of bytes. A message is padded to whole blocks of sixteen
words, and the blocks are folded into a state of eight words.
-/

namespace TemplateCompiler.Digest

/-- The eight words of the hash state. -/
structure State where
  a : UInt32
  b : UInt32
  c : UInt32
  d : UInt32
  e : UInt32
  f : UInt32
  g : UInt32
  h : UInt32
deriving DecidableEq, Repr

/-- The state before the first block. -/
def initial : State :=
  ⟨0x6a09e667, 0xbb67ae85, 0x3c6ef372, 0xa54ff53a, 0x510e527f, 0x9b05688c, 0x1f83d9ab,
    0x5be0cd19⟩

/-- The constants of the sixty-four rounds. -/
def roundConstants : List UInt32 := [
  0x428a2f98, 0x71374491, 0xb5c0fbcf, 0xe9b5dba5, 0x3956c25b, 0x59f111f1, 0x923f82a4, 0xab1c5ed5,
  0xd807aa98, 0x12835b01, 0x243185be, 0x550c7dc3, 0x72be5d74, 0x80deb1fe, 0x9bdc06a7, 0xc19bf174,
  0xe49b69c1, 0xefbe4786, 0x0fc19dc6, 0x240ca1cc, 0x2de92c6f, 0x4a7484aa, 0x5cb0a9dc, 0x76f988da,
  0x983e5152, 0xa831c66d, 0xb00327c8, 0xbf597fc7, 0xc6e00bf3, 0xd5a79147, 0x06ca6351, 0x14292967,
  0x27b70a85, 0x2e1b2138, 0x4d2c6dfc, 0x53380d13, 0x650a7354, 0x766a0abb, 0x81c2c92e, 0x92722c85,
  0xa2bfe8a1, 0xa81a664b, 0xc24b8b70, 0xc76c51a3, 0xd192e819, 0xd6990624, 0xf40e3585, 0x106aa070,
  0x19a4c116, 0x1e376c08, 0x2748774c, 0x34b0bcb5, 0x391c0cb3, 0x4ed8aa4a, 0x5b9cca4f, 0x682e6ff3,
  0x748f82ee, 0x78a5636f, 0x84c87814, 0x8cc70208, 0x90befffa, 0xa4506ceb, 0xbef9a3f7, 0xc67178f2]

/-- A word rotated to the right. -/
def rotate (word amount : UInt32) : UInt32 := (word >>> amount) ||| (word <<< (32 - amount))

/-- The words of a block, extended to `16 + count` words. -/
def extend (words : Array UInt32) : (count : Nat) → Array UInt32
  | 0 => words
  | count + 1 =>
    let word (back : Nat) : UInt32 := words.getD (words.size - back) 0
    let x := word 15
    let y := word 2
    let sigma0 := rotate x 7 ^^^ rotate x 18 ^^^ (x >>> 3)
    let sigma1 := rotate y 17 ^^^ rotate y 19 ^^^ (y >>> 10)
    extend (words.push (word 16 + sigma0 + word 7 + sigma1)) count

/-- One round with its constant and its word of the extended block. -/
def round (s : State) (constant word : UInt32) : State :=
  let sum1 := rotate s.e 6 ^^^ rotate s.e 11 ^^^ rotate s.e 25
  let choice := (s.e &&& s.f) ^^^ ((~~~ s.e) &&& s.g)
  let t1 := s.h + sum1 + choice + constant + word
  let sum0 := rotate s.a 2 ^^^ rotate s.a 13 ^^^ rotate s.a 22
  let majority := (s.a &&& s.b) ^^^ (s.a &&& s.c) ^^^ (s.b &&& s.c)
  ⟨t1 + (sum0 + majority), s.a, s.b, s.c, s.d + t1, s.e, s.f, s.g⟩

/-- The sum of two states, word by word. -/
def State.add (s t : State) : State :=
  ⟨s.a + t.a, s.b + t.b, s.c + t.c, s.d + t.d, s.e + t.e, s.f + t.f, s.g + t.g, s.h + t.h⟩

/-- The state after one block of sixteen words. -/
def compress (s : State) (block : List UInt32) : State :=
  let words := (extend block.toArray 48).toList
  s.add ((roundConstants.zip words).foldl (fun s (constant, word) => round s constant word) s)

/-- The words of a list of bytes, four bytes a word, the highest first. -/
def wordsOf : List UInt8 → List UInt32
  | a :: b :: c :: d :: rest =>
    ((a.toUInt32 <<< 24) ||| (b.toUInt32 <<< 16) ||| (c.toUInt32 <<< 8) ||| d.toUInt32) ::
      wordsOf rest
  | _ => []

/-- The message with its padding: a set bit, then zeros up to a whole block less the
length of the message in bits. -/
def pad (message : List UInt8) : List UInt8 :=
  let length := message.length
  let zeros := (119 - length % 64) % 64
  let bits := 8 * length
  let lengthBytes := [56, 48, 40, 32, 24, 16, 8, 0].map fun shift => UInt8.ofNat (bits >>> shift)
  message ++ 0x80 :: (List.replicate zeros 0 ++ lengthBytes)

/-- The state after the words of whole blocks; `block` holds the words of the block that
is being read, the latest first. -/
def absorb (s : State) (block : List UInt32) (size : Nat) : List UInt32 → State
  | [] => s
  | word :: rest =>
    if size = 15 then absorb (compress s (word :: block).reverse) [] 0 rest
    else absorb s (word :: block) (size + 1) rest

/-- The hash of a message. -/
def sha256 (message : List UInt8) : State := absorb initial [] 0 (wordsOf (pad message))

/-- The bytes of a word, the highest first. -/
def bytesOf (word : UInt32) : List UInt8 :=
  [(word >>> 24).toUInt8, (word >>> 16).toUInt8, (word >>> 8).toUInt8, word.toUInt8]

/-- The words of a state. -/
def State.words (s : State) : List UInt32 := [s.a, s.b, s.c, s.d, s.e, s.f, s.g, s.h]

/-- The hash of a message in hexadecimal. -/
def sha256Hex (message : List UInt8) : String :=
  String.join (((sha256 message).words.flatMap bytesOf).map Text.hexByte)

/-- The hash of a text in UTF-8, in hexadecimal. -/
def sha256HexOfText (text : String) : String := sha256Hex text.toUTF8.toList

end TemplateCompiler.Digest
