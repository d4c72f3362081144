/-!
# Word streams

A word stream is an endless sequence of 32-bit words fixed by a seed. The words are the blocks of
the eight-round ChaCha function under a key spread from the seed, one block after the other.

## Main definitions

* `WordStream.ofSeed`: the stream of a seed.
* `WordStream.next`: the next word, and the stream after it.
* `WordStream.next64`: the next two words as one 64-bit word, low half first.
* `WordStream.drop`: the stream after a number of words.
-/

namespace ClaimGrid

/-- A position in the sequence of words that a key determines. -/
structure WordStream where
  /-- The key of the block function. -/
  key : Vector UInt32 8
  /-- The number of the first block of which no word was taken yet. -/
  block : UInt64
  /-- The words of earlier blocks that are still to come. -/
  pending : List UInt32
  deriving DecidableEq

namespace WordStream

/-- A word rotated to the left. -/
def rotateLeft (w n : UInt32) : UInt32 := (w <<< n) ||| (w >>> (32 - n))

/-- A word rotated to the right. -/
def rotateRight (w n : UInt32) : UInt32 := (w >>> n) ||| (w <<< (32 - n))

/-! ### The key of a seed -/

/-- One step of the generator that spreads a seed. -/
def spreadStep (state : UInt64) : UInt64 := state * 6364136223846793005 + 11634580027462260723

/-- The word that a state of the spreading generator stands for. -/
def spreadWord (state : UInt64) : UInt32 :=
  rotateRight (((state >>> 18) ^^^ state) >>> 27).toUInt32 (state >>> 59).toUInt32

/-- The states of the spreading generator that follow a seed. -/
def spreadStates : Nat → UInt64 → List UInt64
  | 0, _ => []
  | n + 1, state => spreadStep state :: spreadStates n (spreadStep state)

/-- The key spread from a seed. -/
def keyOfSeed (seed : UInt64) : Vector UInt32 8 :=
  Vector.ofFn fun i => spreadWord ((spreadStates 8 seed).getD i 0)

/-- The stream of a seed, from its first word. -/
def ofSeed (seed : UInt64) : WordStream := ⟨keyOfSeed seed, 0, []⟩

/-! ### The block function -/

/-- The quarter round on four of the sixteen words. -/
def quarterRound (v : Vector UInt32 16) (a b c d : Fin 16) : Vector UInt32 16 :=
  let v := v.set a (v[a] + v[b])
  let v := v.set d (rotateLeft (v[d] ^^^ v[a]) 16)
  let v := v.set c (v[c] + v[d])
  let v := v.set b (rotateLeft (v[b] ^^^ v[c]) 12)
  let v := v.set a (v[a] + v[b])
  let v := v.set d (rotateLeft (v[d] ^^^ v[a]) 8)
  let v := v.set c (v[c] + v[d])
  v.set b (rotateLeft (v[b] ^^^ v[c]) 7)

/-- A round on the columns followed by a round on the diagonals. -/
def doubleRound (v : Vector UInt32 16) : Vector UInt32 16 :=
  let v := quarterRound v 0 4 8 12
  let v := quarterRound v 1 5 9 13
  let v := quarterRound v 2 6 10 14
  let v := quarterRound v 3 7 11 15
  let v := quarterRound v 0 5 10 15
  let v := quarterRound v 1 6 11 12
  let v := quarterRound v 2 7 8 13
  quarterRound v 3 4 9 14

/-- The words that a block is computed from: four constants, the key, the block number in two
halves and a stream number of zero. -/
def blockInput (key : Vector UInt32 8) (block : UInt64) : Vector UInt32 16 :=
  #v[0x61707865, 0x3320646e, 0x79622d32, 0x6b206574,
    key[0], key[1], key[2], key[3], key[4], key[5], key[6], key[7],
    block.toUInt32, (block >>> 32).toUInt32, 0, 0]

/-- The sixteen words of a block: four double rounds, then the input added once more. -/
def blockWords (key : Vector UInt32 8) (block : UInt64) : Vector UInt32 16 :=
  let input := blockInput key block
  let mixed := doubleRound (doubleRound (doubleRound (doubleRound input)))
  Vector.zipWith (· + ·) mixed input

/-! ### Taking words -/

/-- The next word of a stream, and the stream after it. -/
def next (s : WordStream) : UInt32 × WordStream :=
  match s.pending with
  | word :: rest => (word, { s with pending := rest })
  | [] =>
    let words := blockWords s.key s.block
    (words[0], { s with block := s.block + 1, pending := words.toList.drop 1 })

/-- The next two words of a stream as one 64-bit word, the first of them being its low half. -/
def next64 (s : WordStream) : UInt64 × WordStream :=
  let low := s.next
  let high := low.2.next
  (low.1.toUInt64 ||| (high.1.toUInt64 <<< 32), high.2)

/-- The stream after `n` words. -/
def drop : Nat → WordStream → WordStream
  | 0, s => s
  | n + 1, s => drop n s.next.2

end WordStream

end ClaimGrid
