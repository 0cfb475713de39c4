/-!
# The MD5 digest

The 128-bit digest that names the content of a rule. It is used as a short name only: two texts
with one digest are taken for equal, which is safe as far as nobody searches for collisions.
-/

namespace CriticalCss.Digest

/-- The four words of the running state. -/
structure State where
  a : UInt32
  b : UInt32
  c : UInt32
  d : UInt32
deriving DecidableEq, Repr

/-- The state before the first block. -/
def State.start : State :=
  ⟨0x67452301, 0xefcdab89, 0x98badcfe, 0x10325476⟩

/-- The additive constants of the 64 steps: the integer parts of `2 ^ 32 * |sin i|`. -/
def constants : List UInt32 :=
  [0xd76aa478, 0xe8c7b756, 0x242070db, 0xc1bdceee, 0xf57c0faf, 0x4787c62a,
   0xa8304613, 0xfd469501, 0x698098d8, 0x8b44f7af, 0xffff5bb1, 0x895cd7be,
   0x6b901122, 0xfd987193, 0xa679438e, 0x49b40821, 0xf61e2562, 0xc040b340,
   0x265e5a51, 0xe9b6c7aa, 0xd62f105d, 0x02441453, 0xd8a1e681, 0xe7d3fbc8,
   0x21e1cde6, 0xc33707d6, 0xf4d50d87, 0x455a14ed, 0xa9e3e905, 0xfcefa3f8,
   0x676f02d9, 0x8d2a4c8a, 0xfffa3942, 0x8771f681, 0x6d9d6122, 0xfde5380c,
   0xa4beea44, 0x4bdecfa9, 0xf6bb4b60, 0xbebfbc70, 0x289b7ec6, 0xeaa127fa,
   0xd4ef3085, 0x04881d05, 0xd9d4d039, 0xe6db99e5, 0x1fa27cf8, 0xc4ac5665,
   0xf4292244, 0x432aff97, 0xab9423a7, 0xfc93a039, 0x655b59c3, 0x8f0ccc92,
   0xffeff47d, 0x85845dd1, 0x6fa87e4f, 0xfe2ce6e0, 0xa3014314, 0x4e0811a1,
   0xf7537e82, 0xbd3af235, 0x2ad7d2bb, 0xeb86d391]

/-- The left rotations of the four rounds, repeated within a round. -/
def rotations : List (List UInt32) :=
  [[7, 12, 17, 22], [5, 9, 14, 20], [4, 11, 16, 23], [6, 10, 15, 21]]

/-- Rotation of a word to the left, by fewer than 32 places. -/
def rotate (x places : UInt32) : UInt32 :=
  (x <<< places) ||| (x >>> (32 - places))

/-- The mixing function of a step and the place of the word of the block that the step uses. -/
def mix (step : Nat) (s : State) : UInt32 × Nat :=
  match step / 16 with
  | 0 => ((s.b &&& s.c) ||| ((~~~s.b) &&& s.d), step)
  | 1 => ((s.d &&& s.b) ||| ((~~~s.d) &&& s.c), (5 * step + 1) % 16)
  | 2 => (s.b ^^^ s.c ^^^ s.d, (3 * step + 5) % 16)
  | _ => (s.c ^^^ (s.b ||| (~~~s.d)), 7 * step % 16)

/-- One step on a block of sixteen words. -/
def stepState (words : List UInt32) (s : State) (numbered : UInt32 × Nat) : State :=
  let (constant, step) := numbered
  let (mixed, place) := mix step s
  let rotation := ((rotations.getD (step / 16) []).getD (step % 4) 0)
  let sum := s.a + mixed + constant + words.getD place 0
  ⟨s.d, s.b + rotate sum rotation, s.b, s.c⟩

/-- The state after one block. -/
def addBlock (s : State) (words : List UInt32) : State :=
  let t := constants.zipIdx.foldl (stepState words) s
  ⟨s.a + t.a, s.b + t.b, s.c + t.c, s.d + t.d⟩

/-- Cuts a list into rows of `n + 1` elements; what does not fill a row is dropped. -/
def rows {α : Type} (n : Nat) (xs : List α) : List (List α) :=
  if xs.length ≤ n then [] else xs.take (n + 1) :: rows n (xs.drop (n + 1))
termination_by xs.length
decreasing_by simp; omega

/-- The value of bytes, the lowest one first. -/
def littleEndian (bytes : List UInt8) : UInt32 :=
  bytes.foldr (fun byte word => word * 256 + byte.toUInt32) 0

/-- The message with a one bit, zeros, and its length in bits in eight bytes, so that it fills
blocks of 64 bytes. -/
def padded (message : List UInt8) : List UInt8 :=
  let size := message.length
  let zeros := (119 - size % 64) % 64
  message ++ 0x80 :: List.replicate zeros 0 ++
    (List.range 8).map fun place => (size * 8 / Nat.pow 256 place).toUInt8

/-- The bytes of a word, the lowest one first, as hexadecimal digits. -/
def wordText (word : UInt32) : List Char :=
  (List.range 4).flatMap fun place =>
    let byte := word.toNat / Nat.pow 256 place % 256
    [Nat.digitChar (byte / 16), Nat.digitChar (byte % 16)]

/-- The digest of a message as 32 hexadecimal digits. -/
def md5 (message : List UInt8) : String :=
  let words := (rows 3 (padded message)).map littleEndian
  let final := (rows 15 words).foldl addBlock State.start
  String.ofList ([final.a, final.b, final.c, final.d].flatMap wordText)

/-- The digest of an ASCII text. -/
def ofAscii (cs : List Char) : String :=
  md5 (cs.map fun c => c.toNat.toUInt8)

end CriticalCss.Digest
