/-!
The digest SHA-512. A message is padded to whole blocks of 128 bytes; each
block drives 80 rounds over eight 64-bit working words. The schedule is kept as
a window of the sixteen words that the next rounds need.
-/

namespace DiceRoller.Digest

def roundConstants : List UInt64 :=
  [0x428a2f98d728ae22, 0x7137449123ef65cd, 0xb5c0fbcfec4d3b2f, 0xe9b5dba58189dbbc,
   0x3956c25bf348b538, 0x59f111f1b605d019, 0x923f82a4af194f9b, 0xab1c5ed5da6d8118,
   0xd807aa98a3030242, 0x12835b0145706fbe, 0x243185be4ee4b28c, 0x550c7dc3d5ffb4e2,
   0x72be5d74f27b896f, 0x80deb1fe3b1696b1, 0x9bdc06a725c71235, 0xc19bf174cf692694,
   0xe49b69c19ef14ad2, 0xefbe4786384f25e3, 0x0fc19dc68b8cd5b5, 0x240ca1cc77ac9c65,
   0x2de92c6f592b0275, 0x4a7484aa6ea6e483, 0x5cb0a9dcbd41fbd4, 0x76f988da831153b5,
   0x983e5152ee66dfab, 0xa831c66d2db43210, 0xb00327c898fb213f, 0xbf597fc7beef0ee4,
   0xc6e00bf33da88fc2, 0xd5a79147930aa725, 0x06ca6351e003826f, 0x142929670a0e6e70,
   0x27b70a8546d22ffc, 0x2e1b21385c26c926, 0x4d2c6dfc5ac42aed, 0x53380d139d95b3df,
   0x650a73548baf63de, 0x766a0abb3c77b2a8, 0x81c2c92e47edaee6, 0x92722c851482353b,
   0xa2bfe8a14cf10364, 0xa81a664bbc423001, 0xc24b8b70d0f89791, 0xc76c51a30654be30,
   0xd192e819d6ef5218, 0xd69906245565a910, 0xf40e35855771202a, 0x106aa07032bbd1b8,
   0x19a4c116b8d2d0c8, 0x1e376c085141ab53, 0x2748774cdf8eeb99, 0x34b0bcb5e19b48a8,
   0x391c0cb3c5c95a63, 0x4ed8aa4ae3418acb, 0x5b9cca4f7763e373, 0x682e6ff3d6b2b8a3,
   0x748f82ee5defb2fc, 0x78a5636f43172f60, 0x84c87814a1f0ab72, 0x8cc702081a6439ec,
   0x90befffa23631e28, 0xa4506cebde82bde9, 0xbef9a3f7b2c67915, 0xc67178f2e372532b,
   0xca273eceea26619c, 0xd186b8c721c0c207, 0xeada7dd6cde0eb1e, 0xf57d4f7fee6ed178,
   0x06f067aa72176fba, 0x0a637dc5a2c898a6, 0x113f9804bef90dae, 0x1b710b35131c471b,
   0x28db77f523047d84, 0x32caab7b40c72493, 0x3c9ebe0a15c9bebc, 0x431d67c49c100d4c,
   0x4cc5d4becb3e42b6, 0x597f299cfc657e2a, 0x5fcb6fab3ad6faec, 0x6c44198c4a475817]

/-- Eight 64-bit words: the running hash, or the working words of a block. -/
structure Words where
  a : UInt64
  b : UInt64
  c : UInt64
  d : UInt64
  e : UInt64
  f : UInt64
  g : UInt64
  h : UInt64

def initial : Words :=
  ⟨0x6a09e667f3bcc908, 0xbb67ae8584caa73b, 0x3c6ef372fe94f82b, 0xa54ff53a5f1d36f1,
   0x510e527fade682d1, 0x9b05688c2b3e6c1f, 0x1f83d9abfb41bd6b, 0x5be0cd19137e2179⟩

def Words.add (x y : Words) : Words :=
  ⟨x.a + y.a, x.b + y.b, x.c + y.c, x.d + y.d, x.e + y.e, x.f + y.f, x.g + y.g, x.h + y.h⟩

def Words.toList (words : Words) : List UInt64 :=
  [words.a, words.b, words.c, words.d, words.e, words.f, words.g, words.h]

def rotated (word distance : UInt64) : UInt64 :=
  (word >>> distance) ||| (word <<< (64 - distance))

abbrev Window := Vector UInt64 16

/-- The window one round later: the oldest word leaves, the next one enters. -/
def Window.next (window : Window) : Window :=
  let x := window[1]
  let y := window[14]
  let early := rotated x 1 ^^^ rotated x 8 ^^^ (x >>> 7)
  let late := rotated y 19 ^^^ rotated y 61 ^^^ (y >>> 6)
  window.tail.push (late + window[9] + early + window[0])

def Words.round (words : Words) (constant word : UInt64) : Words :=
  let high := rotated words.e 14 ^^^ rotated words.e 18 ^^^ rotated words.e 41
  let choice := (words.e &&& words.f) ^^^ (~~~words.e &&& words.g)
  let first := words.h + high + choice + constant + word
  let low := rotated words.a 28 ^^^ rotated words.a 34 ^^^ rotated words.a 39
  let majority := (words.a &&& words.b) ^^^ (words.a &&& words.c) ^^^ (words.b &&& words.c)
  ⟨first + (low + majority), words.a, words.b, words.c,
   words.d + first, words.e, words.f, words.g⟩

def rounds : List UInt64 → Window → Words → Words
  | [], _, words => words
  | constant :: rest, window, words => rounds rest window.next (words.round constant window[0])

/-- Eight bytes, the most significant one first. -/
def wordOf (bytes : List UInt8) : UInt64 :=
  bytes.foldl (fun word byte => (word <<< 8) ||| byte.toUInt64) 0

def bytesOf (word : UInt64) : List UInt8 :=
  [56, 48, 40, 32, 24, 16, 8, 0].map fun (distance : UInt64) => (word >>> distance).toUInt8

def windowOf (block : List UInt8) : Window :=
  Vector.ofFn fun place => wordOf ((block.drop (8 * place.val)).take 8)

def absorb (block : List UInt8) (hash : Words) : Words :=
  hash.add (rounds roundConstants (windowOf block) hash)

/-- The length of a message in bits, as sixteen bytes. -/
def lengthBytes (count : Nat) : List UInt8 :=
  (List.range 16).map fun place => UInt8.ofNat ((8 * count) >>> (8 * (15 - place)))

/-- A one bit, the fewest zero bits that leave room for the length, and the length. -/
def padded (message : List UInt8) : List UInt8 :=
  message ++ 0x80 :: List.replicate ((239 - message.length % 128) % 128) 0 ++
    lengthBytes message.length

def absorbAll (bytes : List UInt8) (hash : Words) : Words :=
  if 0 < bytes.length then absorbAll (bytes.drop 128) (absorb (bytes.take 128) hash)
  else hash
termination_by bytes.length
decreasing_by
  rw [List.length_drop]
  omega

def sha512 (message : List UInt8) : List UInt8 :=
  (absorbAll (padded message) initial).toList.flatMap bytesOf

end DiceRoller.Digest
