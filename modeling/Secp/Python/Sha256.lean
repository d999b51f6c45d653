import Mathlib.Algebra.Ring.Nat
import Secp.Python.Text

/-!
# SHA-256 over encoded text

The digest of FIPS 180-4, executable and structurally recursive, so that a run of a program
that hashes can be evaluated. Words are natural numbers below `2 ^ 32`. Nothing is proved
about the digest: results elsewhere hold whatever values it takes.
-/

namespace Secp.Python.Sha256

open Secp.Python

/-- The UTF-8 bytes of one code point. -/
def encodeChar (c : Char) : List Nat :=
  let n := c.toNat
  if n < 0x80 then [n]
  else if n < 0x800 then [0xC0 + n / 64, 0x80 + n % 64]
  else if n < 0x10000 then [0xE0 + n / 4096, 0x80 + n / 64 % 64, 0x80 + n % 64]
  else [0xF0 + n / 262144, 0x80 + n / 4096 % 64, 0x80 + n / 64 % 64, 0x80 + n % 64]

/-- `s.encode("utf-8")`. -/
def encode (s : Str) : List Nat := s.flatMap encodeChar

/-- The eight working words. -/
structure Words where
  a : Nat
  b : Nat
  c : Nat
  d : Nat
  e : Nat
  f : Nat
  g : Nat
  h : Nat

def word (n : Nat) : Nat := n % 4294967296

/-- Rotate a word right. -/
def rotr (x n : Nat) : Nat := (x >>> n) ||| word (x <<< (32 - n))

/-- The initial hash value. -/
def initial : Words :=
  ⟨0x6a09e667, 0xbb67ae85, 0x3c6ef372, 0xa54ff53a, 0x510e527f, 0x9b05688c, 0x1f83d9ab, 0x5be0cd19⟩

/-- The round constants. -/
def constants : List Nat := [
  0x428a2f98, 0x71374491, 0xb5c0fbcf, 0xe9b5dba5, 0x3956c25b, 0x59f111f1, 0x923f82a4, 0xab1c5ed5,
  0xd807aa98, 0x12835b01, 0x243185be, 0x550c7dc3, 0x72be5d74, 0x80deb1fe, 0x9bdc06a7, 0xc19bf174,
  0xe49b69c1, 0xefbe4786, 0x0fc19dc6, 0x240ca1cc, 0x2de92c6f, 0x4a7484aa, 0x5cb0a9dc, 0x76f988da,
  0x983e5152, 0xa831c66d, 0xb00327c8, 0xbf597fc7, 0xc6e00bf3, 0xd5a79147, 0x06ca6351, 0x14292967,
  0x27b70a85, 0x2e1b2138, 0x4d2c6dfc, 0x53380d13, 0x650a7354, 0x766a0abb, 0x81c2c92e, 0x92722c85,
  0xa2bfe8a1, 0xa81a664b, 0xc24b8b70, 0xc76c51a3, 0xd192e819, 0xd6990624, 0xf40e3585, 0x106aa070,
  0x19a4c116, 0x1e376c08, 0x2748774c, 0x34b0bcb5, 0x391c0cb3, 0x4ed8aa4a, 0x5b9cca4f, 0x682e6ff3,
  0x748f82ee, 0x78a5636f, 0x84c87814, 0x8cc70208, 0x90befffa, 0xa4506ceb, 0xbef9a3f7, 0xc67178f2]

/-- The next word of the message schedule, from the sixteen before it. -/
def schedule (window : List Nat) : Nat :=
  let w1 := window.getD 1 0
  let w14 := window.getD 14 0
  let small0 := rotr w1 7 ^^^ rotr w1 18 ^^^ (w1 >>> 3)
  let small1 := rotr w14 17 ^^^ rotr w14 19 ^^^ (w14 >>> 10)
  word (window.getD 0 0 + small0 + window.getD 9 0 + small1)

/-- One round: mix the constant `k` and the schedule word `w` into the working words. -/
def round (k w : Nat) (s : Words) : Words :=
  let big1 := rotr s.e 6 ^^^ rotr s.e 11 ^^^ rotr s.e 25
  let choice := (s.e &&& s.f) ^^^ ((4294967295 - s.e) &&& s.g)
  let t1 := s.h + big1 + choice + k + w
  let big0 := rotr s.a 2 ^^^ rotr s.a 13 ^^^ rotr s.a 22
  let majority := (s.a &&& s.b) ^^^ (s.a &&& s.c) ^^^ (s.b &&& s.c)
  ⟨word (t1 + big0 + majority), s.a, s.b, s.c, word (s.d + t1), s.e, s.f, s.g⟩

/-- All rounds of one block; `window` holds the sixteen schedule words still needed. -/
def rounds : List Nat → List Nat → Words → Words
  | [], _, s => s
  | k :: ks, window, s =>
      rounds ks (window.tail ++ [schedule window]) (round k (window.getD 0 0) s)

/-- Absorb one block of sixteen words. -/
def compress (s : Words) (block : List Nat) : Words :=
  let r := rounds constants block s
  ⟨word (s.a + r.a), word (s.b + r.b), word (s.c + r.c), word (s.d + r.d),
    word (s.e + r.e), word (s.f + r.f), word (s.g + r.g), word (s.h + r.h)⟩

/-- Big-endian words of a byte sequence. -/
def toWords : List Nat → List Nat
  | b0 :: b1 :: b2 :: b3 :: rest => (b0 * 16777216 + b1 * 65536 + b2 * 256 + b3) :: toWords rest
  | _ => []

/-- The big-endian bytes of `n`, `width` of them. -/
def bigEndian (width n : Nat) : List Nat :=
  (List.range width).map fun i => n / 256 ^ (width - 1 - i) % 256

/-- The message followed by a one bit, zeros and its length in bits. -/
def pad (bytes : List Nat) : List Nat :=
  bytes ++ 0x80 :: List.replicate ((119 - bytes.length % 64) % 64) 0 ++
    bigEndian 8 (bytes.length * 8)

/-- Absorb the first `count` blocks of a word sequence. -/
def absorb : Nat → List Nat → Words → Words
  | 0, _, s => s
  | count + 1, words, s => absorb count (words.drop 16) (compress s (words.take 16))

/-- The final working words for a byte sequence. -/
def hashWords (bytes : List Nat) : Words :=
  let words := toWords (pad bytes)
  absorb (words.length / 16) words initial

/-- `hashlib.sha256(bytes).digest()`. -/
def digest (bytes : List Nat) : List Nat :=
  let s := hashWords bytes
  [s.a, s.b, s.c, s.d, s.e, s.f, s.g, s.h].flatMap (bigEndian 4)

/-- `hashlib.sha256(bytes).hexdigest()`. -/
def hexdigest (bytes : List Nat) : Str := (digest bytes).flatMap hex2

/-- `int.from_bytes(digest[:8], "big")`: the first two words. -/
def leadingInt (bytes : List Nat) : Nat :=
  let s := hashWords bytes
  s.a * 4294967296 + s.b

example : leadingInt (encode (str "abc")) = 0xba7816bf8f01cfea := by with_unfolding_all decide

/-- `hmac.digest(key, message, "sha256")`. -/
def hmac (key message : List Nat) : List Nat :=
  let key := if 64 < key.length then digest key else key
  let block := key ++ List.replicate (64 - key.length) 0
  digest (block.map (fun b => b ^^^ 0x5c) ++ digest (block.map (fun b => b ^^^ 0x36) ++ message))

/-- The iterations after the first: `last` is the block of the one before, `acc` the sum so far. -/
def pbkdf2Rounds (password : List Nat) : Nat → List Nat → List Nat → List Nat
  | 0, _, acc => acc
  | count + 1, last, acc =>
      let block := hmac password last
      pbkdf2Rounds password count block (List.zipWith (fun a b => a ^^^ b) acc block)

/-- `hashlib.pbkdf2_hmac("sha256", password, salt, iterations)`, whose key is one block long. -/
def pbkdf2 (password salt : List Nat) (iterations : Nat) : List Nat :=
  let first := hmac password (salt ++ [0, 0, 0, 1])
  pbkdf2Rounds password (iterations - 1) first first

example : (pbkdf2 (encode (str "password")) (encode (str "salt")) 1).take 4 =
    [0x12, 0x0f, 0xb6, 0xcf] := by decide +kernel

end Secp.Python.Sha256
