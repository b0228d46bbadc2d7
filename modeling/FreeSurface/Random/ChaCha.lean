import FreeSurface.Random.Source

/-!
# The ChaCha generator

A stream of words: blocks of sixteen, each the result of twelve rounds of mixing on a key and the
number of the block.

* `ChaCha.block` — the block of a given number.
* `ChaCha.next` — the next word of the stream.
* `ChaCha.ofSeed` — a generator whose key is expanded from a single word of 64 bits.
* `ChaCha.unitOfWord`, `ChaCha.symmetricOfWord` — numbers in `[0, 1)` and `[-1, 1]` from a word.
-/

namespace FreeSurface

open scoped Literals

/-- A position in the stream of words of a key. -/
structure ChaCha where
  key : Vector UInt32 8
  /-- The number of the next block. -/
  counter : UInt64
  /-- The words of the current block that are still to come. -/
  pending : List UInt32

namespace ChaCha

/-- The sixteen words that are mixed. -/
abbrev Block : Type := Vector UInt32 16

/-- Rotates a word to the left. -/
@[inline] def rotateLeft (w : UInt32) (n : UInt32) : UInt32 := (w <<< n) ||| (w >>> (32 - n))

/-- Mixes four words of a block. -/
@[inline] def quarterRound (s : Block) (a b c d : Fin 16) : Block :=
  let s := s.set a (s[a] + s[b])
  let s := s.set d (rotateLeft (s[d] ^^^ s[a]) 16)
  let s := s.set c (s[c] + s[d])
  let s := s.set b (rotateLeft (s[b] ^^^ s[c]) 12)
  let s := s.set a (s[a] + s[b])
  let s := s.set d (rotateLeft (s[d] ^^^ s[a]) 8)
  let s := s.set c (s[c] + s[d])
  s.set b (rotateLeft (s[b] ^^^ s[c]) 7)

/-- Mixes the columns, then the diagonals. -/
def doubleRound (s : Block) : Block :=
  let s := quarterRound s 0 4 8 12
  let s := quarterRound s 1 5 9 13
  let s := quarterRound s 2 6 10 14
  let s := quarterRound s 3 7 11 15
  let s := quarterRound s 0 5 10 15
  let s := quarterRound s 1 6 11 12
  let s := quarterRound s 2 7 8 13
  quarterRound s 3 4 9 14

/-- Constants, key, number of the block, and the number zero of the stream. -/
def input (key : Vector UInt32 8) (counter : UInt64) : Block :=
  #v[0x61707865, 0x3320646e, 0x79622d32, 0x6b206574,
    key[0], key[1], key[2], key[3], key[4], key[5], key[6], key[7],
    counter.toUInt32, (counter >>> 32).toUInt32, 0, 0]

def doubleRounds : Nat := 6

/-- The block of a given number: the mixed words added to the words that were mixed. -/
def block (key : Vector UInt32 8) (counter : UInt64) : Block :=
  let start := input key counter
  let mixed := (List.range doubleRounds).foldl (fun s _ => doubleRound s) start
  Vector.ofFn fun i => mixed[i] + start[i]

/-- The next word, and the generator after it. -/
def next (g : ChaCha) : UInt32 × ChaCha :=
  match g.pending with
  | w :: rest => (w, { g with pending := rest })
  | [] =>
    let words := block g.key g.counter
    (words[0], { g with counter := g.counter + 1, pending := words.toList.drop 1 })

/-! ## Seeding -/

/-- A step of the linear congruential sequence that expands a seed. -/
def expandStep (s : UInt64) : UInt64 := s * 6364136223846793005 + 11634580027462260723

/-- The word that a state of the sequence yields: some of its bits, rotated by the highest ones. -/
def expandWord (s : UInt64) : UInt32 :=
  let bits := (((s >>> 18) ^^^ s) >>> 27).toUInt32
  let turn := (s >>> 59).toUInt32
  (bits >>> turn) ||| (bits <<< ((32 - turn) % 32))

/-- The state after a number of steps. -/
def expandState (seed : UInt64) : Nat → UInt64
  | 0 => seed
  | n + 1 => expandStep (expandState seed n)

/-- The generator of a seed. -/
def ofSeed (seed : UInt64) : ChaCha where
  key := Vector.ofFn fun i => expandWord (expandState seed (i.val + 1))
  counter := 0
  pending := []

/-! ## Draws -/

section Draws

variable {S : Type} [Scalar S]

/-- The upper 24 bits of a word as a fraction. -/
def unitOfWord (w : UInt32) : S := Scalar.ofNat (w >>> 8).toNat * (1 / Scalar.ofNat 0x1000000)

/-- The distance of neighbouring fractions of 23 bits. -/
@[inline] def fractionStep : S := 1 / Scalar.ofNat 0x800000

/-- The upper 23 bits of a word as a fraction, stretched so that the largest one reaches from
`-1` to `1`. -/
def symmetricOfWord (w : UInt32) : S :=
  let fraction : S := Scalar.ofNat (w >>> 9).toNat * fractionStep
  let stretch : S := 2 / (1 - fractionStep)
  fraction * stretch + -(1 : S)

end Draws

end ChaCha

/-- A generator together with the carrier of the numbers drawn from it. -/
structure Generator (S : Type) where
  stream : ChaCha

instance {S : Type} [Scalar S] : RandomSource (Generator S) S where
  ofSeed seed := ⟨ChaCha.ofSeed seed.toUInt64⟩
  unit g :=
    let (w, stream) := g.stream.next
    (ChaCha.unitOfWord w, ⟨stream⟩)
  symmetric g :=
    let (w, stream) := g.stream.next
    (ChaCha.symmetricOfWord w, ⟨stream⟩)

end FreeSurface
