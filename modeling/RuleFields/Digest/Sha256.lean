-- The SHA-256 digest of a list of bytes, over words of 32 bits. The message
-- is padded to whole blocks, and each block is mixed into the state.

namespace RuleFields

namespace Sha256

/-! ## Words -/

def rotateRight (x : UInt32) (n : UInt32) : UInt32 := (x >>> n) ||| (x <<< (32 - n))

/-- The four bytes of a word, the highest first. -/
def wordBytes (w : UInt32) : List UInt8 :=
  [(w >>> 24).toUInt8, (w >>> 16).toUInt8, (w >>> 8).toUInt8, w.toUInt8]

/-- The words of a list of bytes, four bytes each, the highest byte first. -/
def words : List UInt8 → List UInt32
  | a :: b :: c :: d :: rest =>
    ((a.toUInt32 <<< 24) ||| (b.toUInt32 <<< 16) ||| (c.toUInt32 <<< 8) ||| d.toUInt32) ::
      words rest
  | _ => []

/-- One constant for each round. -/
def roundConstants : List UInt32 :=
  [0x428a2f98, 0x71374491, 0xb5c0fbcf, 0xe9b5dba5, 0x3956c25b, 0x59f111f1, 0x923f82a4, 0xab1c5ed5,
   0xd807aa98, 0x12835b01, 0x243185be, 0x550c7dc3, 0x72be5d74, 0x80deb1fe, 0x9bdc06a7, 0xc19bf174,
   0xe49b69c1, 0xefbe4786, 0x0fc19dc6, 0x240ca1cc, 0x2de92c6f, 0x4a7484aa, 0x5cb0a9dc, 0x76f988da,
   0x983e5152, 0xa831c66d, 0xb00327c8, 0xbf597fc7, 0xc6e00bf3, 0xd5a79147, 0x06ca6351, 0x14292967,
   0x27b70a85, 0x2e1b2138, 0x4d2c6dfc, 0x53380d13, 0x650a7354, 0x766a0abb, 0x81c2c92e, 0x92722c85,
   0xa2bfe8a1, 0xa81a664b, 0xc24b8b70, 0xc76c51a3, 0xd192e819, 0xd6990624, 0xf40e3585, 0x106aa070,
   0x19a4c116, 0x1e376c08, 0x2748774c, 0x34b0bcb5, 0x391c0cb3, 0x4ed8aa4a, 0x5b9cca4f, 0x682e6ff3,
   0x748f82ee, 0x78a5636f, 0x84c87814, 0x8cc70208, 0x90befffa, 0xa4506ceb, 0xbef9a3f7, 0xc67178f2]

/-! ## The message -/

/-- The message with one bit set after it, then zeros, then its length in bits in eight bytes.
The zeros are as few as fill the last block of 64 bytes. -/
def pad (message : List UInt8) : List UInt8 :=
  let bits := message.length * 8
  let zeros := (119 - message.length % 64) % 64
  message ++ 0x80 :: List.replicate zeros 0 ++
    wordBytes (UInt32.ofNat (bits / Nat.pow 2 32)) ++ wordBytes (UInt32.ofNat bits)

/-- The blocks of sixteen words. -/
def blocks (ws : List UInt32) : List (List UInt32) :=
  if _h : ws.length < 16 then []
  else ws.take 16 :: blocks (ws.drop 16)
termination_by ws.length
decreasing_by simp only [List.length_drop]; omega

/-- The words of the rounds: those of the block, then 48 more, each made of four before it. -/
def schedule (block : List UInt32) : List UInt32 :=
  let small0 (x : UInt32) := rotateRight x 7 ^^^ rotateRight x 18 ^^^ (x >>> 3)
  let small1 (x : UInt32) := rotateRight x 17 ^^^ rotateRight x 19 ^^^ (x >>> 10)
  let extend (w : Array UInt32) (i : Nat) :=
    w.push (small1 (w.getD (i + 14) 0) + w.getD (i + 9) 0 + small0 (w.getD (i + 1) 0) + w.getD i 0)
  ((List.range 48).foldl extend block.toArray).toList

/-! ## The state -/

/-- The eight words that a digest is made of. -/
structure State where
  a : UInt32
  b : UInt32
  c : UInt32
  d : UInt32
  e : UInt32
  f : UInt32
  g : UInt32
  h : UInt32

def initial : State :=
  ⟨0x6a09e667, 0xbb67ae85, 0x3c6ef372, 0xa54ff53a,
    0x510e527f, 0x9b05688c, 0x1f83d9ab, 0x5be0cd19⟩

/-- One round with the word and the constant of the round. -/
def State.round (s : State) (w k : UInt32) : State :=
  let big0 := rotateRight s.a 2 ^^^ rotateRight s.a 13 ^^^ rotateRight s.a 22
  let big1 := rotateRight s.e 6 ^^^ rotateRight s.e 11 ^^^ rotateRight s.e 25
  let choice := (s.e &&& s.f) ^^^ (~~~s.e &&& s.g)
  let majority := (s.a &&& s.b) ^^^ (s.a &&& s.c) ^^^ (s.b &&& s.c)
  let t1 := s.h + big1 + choice + k + w
  let t2 := big0 + majority
  ⟨t1 + t2, s.a, s.b, s.c, s.d + t1, s.e, s.f, s.g⟩

/-- The state after one block: the rounds, and the state before them added word by word. -/
def State.absorb (s : State) (block : List UInt32) : State :=
  let r := ((schedule block).zip roundConstants).foldl (fun r wk => r.round wk.1 wk.2) s
  ⟨s.a + r.a, s.b + r.b, s.c + r.c, s.d + r.d, s.e + r.e, s.f + r.f, s.g + r.g, s.h + r.h⟩

def State.bytes (s : State) : List UInt8 :=
  [s.a, s.b, s.c, s.d, s.e, s.f, s.g, s.h].flatMap wordBytes

end Sha256

/-- The digest of a message, 32 bytes. -/
def sha256 (message : List UInt8) : List UInt8 :=
  ((Sha256.blocks (Sha256.words (Sha256.pad message))).foldl Sha256.State.absorb
    Sha256.initial).bytes

theorem length_sha256 (message : List UInt8) : (sha256 message).length = 32 := rfl

end RuleFields
