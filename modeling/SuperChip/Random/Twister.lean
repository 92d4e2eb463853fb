/-!
# The Mersenne Twister

A generator of 32-bit words with a state of 624 words, seeded by a list of words.

- `Twister.ofWords`: the state for a list of seed words.
- `Twister.next`: the next word and the state after it.
- `Twister.ofInteger`: the state for an integer seed, of which only the size counts.
- `Twister.nextByte`: a uniform byte.
-/

namespace SuperChip

/-- The number of words in the state. -/
def Twister.size : Nat := 624

/-- The state of the generator: its words, and how many of them are used up. -/
structure Twister where
  words : Vector UInt32 Twister.size
  used : Nat

namespace Twister

/-- The word at a position, counted around the state. -/
def word (words : Vector UInt32 size) (k : Nat) : UInt32 :=
  words.get ⟨k % size, Nat.mod_lt k (by decide)⟩

/-! ## Seeding -/

/-- How seeding mixes a word before it goes into the next one. -/
def mixed (w : UInt32) : UInt32 := w ^^^ (w >>> 30)

/-- Fills the state from a single word. -/
def ofWord (seed : UInt32) : Vector UInt32 size :=
  (List.range (size - 1)).foldl
    (fun words k =>
      words.setIfInBounds (k + 1) (1812433253 * mixed (word words k) + UInt32.ofNat (k + 1)))
    (Vector.replicate size seed)

/-- A state under seeding: its words and the position of the next one to be mixed. -/
structure Seeding where
  words : Vector UInt32 size
  position : Nat

/-- Replaces the word at the position and goes on. Behind the last word the first one takes
its value and the next position is the second. -/
def Seeding.put (s : Seeding) (w : UInt32) : Seeding :=
  let words := s.words.setIfInBounds s.position w
  if s.position + 1 < size then ⟨words, s.position + 1⟩
  else ⟨words.setIfInBounds 0 (word words (size - 1)), 1⟩

/-- The word at the position combined with a multiple of the word before it. -/
def Seeding.combined (s : Seeding) (factor : UInt32) : UInt32 :=
  word s.words s.position ^^^ (mixed (word s.words (s.position - 1)) * factor)

/-- Mixes in one seed word, the `j`th of its list. -/
def Seeding.add (s : Seeding) (seed : UInt32) (j : Nat) : Seeding :=
  s.put (s.combined 1664525 + seed + UInt32.ofNat j)

/-- Mixes the state without a seed word. -/
def Seeding.stir (s : Seeding) : Seeding :=
  s.put (s.combined 1566083941 - UInt32.ofNat s.position)

/-- The state for a list of seed words. The list is gone through in circles until every word
of the state and every seed word has had its turn. -/
def ofWords (seed : List UInt32) : Twister :=
  let rounds := max size seed.length
  let added := (List.range rounds).foldl
    (fun s k => s.add (seed.getD (k % seed.length) 0) (k % seed.length))
    (Seeding.mk (ofWord 19650218) 1)
  let stirred := (List.range (size - 1)).foldl (fun s _ => s.stir) added
  ⟨stirred.words.setIfInBounds 0 0x80000000, size⟩

/-- The 32-bit words of a number, the lowest first. Zero has one word. -/
def seedWords (n : Nat) : List UInt32 :=
  if n < 0x100000000 then [UInt32.ofNat n]
  else UInt32.ofNat (n % 0x100000000) :: seedWords (n / 0x100000000)

/-- The state for an integer seed. A seed and its negative give the same state. -/
def ofInteger (seed : Int) : Twister := ofWords (seedWords seed.natAbs)

/-! ## Drawing -/

/-- The next word of the state at position `k`: the highest bit of the word there and the
other bits of the word after it, halved and combined with a word further on. -/
def twisted (words : Vector UInt32 size) (k : Nat) : UInt32 :=
  let joined := (word words k &&& 0x80000000) ||| (word words (k + 1) &&& 0x7fffffff)
  let halved := word words (k + 397) ^^^ (joined >>> 1)
  if joined % 2 = 1 then halved ^^^ 0x9908b0df else halved

/-- Replaces every word of the state, in order. -/
def twist (words : Vector UInt32 size) : Vector UInt32 size :=
  (List.range size).foldl (fun words k => words.setIfInBounds k (twisted words k)) words

/-- The word that is handed out for a word of the state. -/
def tempered (w : UInt32) : UInt32 :=
  let a := w ^^^ (w >>> 11)
  let b := a ^^^ ((a <<< 7) &&& 0x9d2c5680)
  let c := b ^^^ ((b <<< 15) &&& 0xefc60000)
  c ^^^ (c >>> 18)

/-- The next word and the state after it. -/
def next (t : Twister) : UInt32 × Twister :=
  if t.used < size then (tempered (word t.words t.used), { t with used := t.used + 1 })
  else
    let words := twist t.words
    (tempered (word words 0), ⟨words, 1⟩)

/-- The first of at most `tries` draws of nine bits that is below 256. -/
def nextByteWithin : Nat → Twister → UInt8 × Twister
  | 0, t => (0, t)
  | tries + 1, t =>
    let (w, after) := t.next
    let candidate := w >>> 23
    if candidate < 256 then (candidate.toUInt8, after) else nextByteWithin tries after

/-- A uniform byte: nine bits are drawn until they are below 256. The highest bits of the words
follow a linear recurrence of order 19937, so they are not all one for longer than that. -/
def nextByte (t : Twister) : UInt8 × Twister := nextByteWithin (32 * size) t

end Twister

end SuperChip
