/-!
# The SHA-1 digest

The digest that identifiers derived from a seed are cut from.  A message is padded to whole blocks
of 64 bytes; each block is expanded to 80 words and mixed into five words of state.

Words are unsigned and have 32 bits, and sums of them wrap around.  Numbers are written with the
most significant byte first throughout.
-/

namespace SceneEngine.Sha1

/-- The five words of the running digest. -/
structure State where
  a : UInt32
  b : UInt32
  c : UInt32
  d : UInt32
  e : UInt32

/-- The digest of nothing, from which every message starts. -/
def State.start : State := ⟨0x67452301, 0xefcdab89, 0x98badcfe, 0x10325476, 0xc3d2e1f0⟩

/-- Turns a word to the left by `n` bits, `0 < n < 32`. -/
def rotate (n x : UInt32) : UInt32 := (x <<< n) ||| (x >>> (32 - n))

/-- The `count` lowest bytes of a number, the most significant first. -/
def bigEndian (count n : Nat) : List UInt8 :=
  (List.range count).reverse.map fun i => (n >>> (8 * i)).toUInt8

/-- The number that big-endian bytes stand for. -/
def ofBigEndian (bytes : List UInt8) : Nat := bytes.foldl (fun n b => 256 * n + b.toNat) 0

/-- A message, a single one bit, zeros up to eight bytes before a full block, and the length of
the message in bits. -/
def padded (message : List UInt8) : List UInt8 :=
  let zeros := (119 - message.length % 64) % 64
  message ++ [0x80] ++ List.replicate zeros 0 ++ bigEndian 8 (8 * message.length)

/-- Cuts a list into pieces of `size`; `count` bounds their number. -/
def chunks {α : Type} (size : Nat) : Nat → List α → List (List α)
  | 0, _ => []
  | count + 1, l => if l.isEmpty then [] else l.take size :: chunks size count (l.drop size)

/-- Continues the word schedule: each new word is made of four among the last sixteen.  The words
are held latest first. -/
def extend : Nat → List UInt32 → List UInt32
  | 0, latest => latest
  | n + 1, latest =>
    let word (i : Nat) := latest.getD i 0
    extend n (rotate 1 (word 2 ^^^ word 7 ^^^ word 13 ^^^ word 15) :: latest)

/-- The 80 words of one block: sixteen that it consists of and 64 that follow from them. -/
def schedule (block : List UInt8) : List UInt32 :=
  let words := (chunks 4 16 block).map fun bytes => (ofBigEndian bytes).toUInt32
  (extend 64 words.reverse).reverse

/-- One of the eighty rounds.  The mixing function and its constant change every twenty rounds. -/
def round (s : State) (step : Nat × UInt32) : State :=
  let (i, word) := step
  let (f, k) : UInt32 × UInt32 :=
    if i < 20 then ((s.b &&& s.c) ||| (~~~s.b &&& s.d), 0x5a827999)
    else if i < 40 then (s.b ^^^ s.c ^^^ s.d, 0x6ed9eba1)
    else if i < 60 then ((s.b &&& s.c) ||| (s.b &&& s.d) ||| (s.c &&& s.d), 0x8f1bbcdc)
    else (s.b ^^^ s.c ^^^ s.d, 0xca62c1d6)
  ⟨rotate 5 s.a + f + s.e + k + word, s.a, rotate 30 s.b, s.c, s.d⟩

/-- Mixes one block into the digest: the rounds start from the digest so far, and their result is
added to it. -/
def absorb (s : State) (block : List UInt8) : State :=
  let words := schedule block
  let t := ((List.range words.length).zip words).foldl round s
  ⟨s.a + t.a, s.b + t.b, s.c + t.c, s.d + t.d, s.e + t.e⟩

/-- The twenty bytes of the digest of a message. -/
def digest (message : List UInt8) : List UInt8 :=
  let bytes := padded message
  let s := (chunks 64 bytes.length bytes).foldl absorb .start
  [s.a, s.b, s.c, s.d, s.e].flatMap fun word => bigEndian 4 word.toNat

end SceneEngine.Sha1
