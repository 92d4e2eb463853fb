import SuperChip.Invalid
import SuperChip.Random.Twister

/-!
# Sources of random bytes

- `ByteCycle`: a list of bytes that is repeated for ever; `ByteCycle.ofIntegers?` makes one of
  integers.
- `RandomSource`: what a machine draws its random bytes from, a cycle or a generator.
- `RandomSource.next`: the next byte and the source after it.

Models `FixedRandomSource` and `SystemRandomSource`.
-/

namespace SuperChip

/-- Bytes that are handed out in order, again and again. The position lies inside the list,
so the list is not empty. -/
structure ByteCycle where
  bytes : Array UInt8
  position : Fin bytes.size
deriving Repr

namespace ByteCycle

/-- The cycle through a list of bytes from its first one on. -/
def ofList? (bytes : List UInt8) : Except Invalid ByteCycle :=
  if h : 0 < bytes.toArray.size then .ok ⟨bytes.toArray, ⟨0, h⟩⟩ else .error .emptyCycle

/-- The cycle through the low eight bits of each of a list of integers. -/
def ofIntegers? (values : List Int) : Except Invalid ByteCycle := ofList? (values.map UInt8.ofInt)

/-- The next byte and the cycle after it. -/
def next (c : ByteCycle) : UInt8 × ByteCycle :=
  (c.bytes[c.position.val],
    { c with position :=
        ⟨(c.position.val + 1) % c.bytes.size,
          Nat.mod_lt _ (Nat.lt_of_le_of_lt (Nat.zero_le _) c.position.isLt)⟩ })

end ByteCycle

/-- Where random bytes come from. -/
inductive RandomSource where
  /-- Known bytes, repeated. -/
  | cycle (bytes : ByteCycle)
  /-- The words of a generator. -/
  | twister (state : Twister)

namespace RandomSource

/-- The generator for an integer seed. -/
def seeded (seed : Int) : RandomSource := twister (Twister.ofInteger seed)

/-- The next byte and the source after it. -/
def next : RandomSource → UInt8 × RandomSource
  | cycle c => let (b, rest) := c.next; (b, cycle rest)
  | twister t => let (b, rest) := t.nextByte; (b, twister rest)

end RandomSource

end SuperChip
