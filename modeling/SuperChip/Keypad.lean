import SuperChip.Event
import SuperChip.Invalid
import SuperChip.Text.Case

/-!
# The keypad

The keypad has sixteen keys. Keys of the host are bound to them by name, and several of the
host's keys may hold one key of the keypad down: it is up again when all of them let go.

- `Keypad`: which names are bound to which keys, which keys are down, and who holds each of them.
- `Keypad.isDown`: whether a key is down.
- `Keypad.press`, `Keypad.release`: the host's keys by name.
- `Keypad.pressKey`, `Keypad.releaseKey`: the keys of the keypad by number.
- `Keys`, `Keypad.snapshot`, `firstPressed`: what a program sees of it.

Models `Keypad.press`, `release`, `press_key`, `release_key`, `lookup` and `snapshot`, and
`first_pressed`.
-/

namespace SuperChip

/-- Which of the sixteen keys are down. -/
abbrev Keys := Vector Bool 16

/-- A keypad: the bindings of the host's keys, and each key with its holders. -/
structure Keypad where
  /-- The host's keys in lower case, with the key that each is bound to. -/
  bindings : List (String × Int)
  /-- Which keys are down. -/
  pressed : Keys
  /-- The sources that hold each key down, without repetition. -/
  holders : Vector (List String) 16
deriving DecidableEq, Repr

namespace Keypad

/-- The left block of a keyboard in the layout of the keypad. -/
def defaultBindings : List (String × Int) :=
  [("1", 0x1), ("2", 0x2), ("3", 0x3), ("4", 0xC),
   ("q", 0x4), ("w", 0x5), ("e", 0x6), ("r", 0xD),
   ("a", 0x7), ("s", 0x8), ("d", 0x9), ("f", 0xE),
   ("z", 0xA), ("x", 0x0), ("c", 0xB), ("v", 0xF)]

/-- A keypad on which no key is held. -/
def ofBindings (bindings : List (String × Int)) : Keypad :=
  ⟨bindings, Vector.replicate 16 false, Vector.replicate 16 []⟩

/-- Whether a key is down. -/
def isDown (k : Keypad) (key : Fin 16) : Bool := k.pressed.get key

/-- Which keys are down. -/
def snapshot (k : Keypad) : Keys := Vector.ofFn k.isDown

/-- Whether the key that the low four bits of a number name is down. -/
def isPressed (k : Keypad) (key : Int) : Bool :=
  k.isDown ⟨(key % 16).toNat, by omega⟩

/-- The key of a number from 0 to 15. -/
def key? (key : Int) : Except Invalid (Fin 16) :=
  if h : 0 ≤ key ∧ key < 16 then .ok ⟨key.toNat, by omega⟩ else .error (.keyIndex key)

/-- The key that a key of the host is bound to, whatever its case. -/
def lookup (k : Keypad) (name : String) : Option Int := k.bindings.lookup (Text.lower name)

/-- Replaces the holders of a key. -/
def setHolders (k : Keypad) (key : Fin 16) (sources : List String) : Keypad :=
  { k with holders := k.holders.setIfInBounds key.val sources }

/-- Puts a key down or up. There is an event only if it was not there already. -/
def turn (k : Keypad) (key : Fin 16) (down : Bool) : Observed Keypad :=
  if k.isDown key = down then .quiet k
  else ⟨{ k with pressed := k.pressed.setIfInBounds key.val down }, [.keyChanged key down]⟩

/-- A source holds a key down. -/
def hold (k : Keypad) (key : Fin 16) (source : String) : Observed Keypad :=
  (k.setHolders key ((k.holders.get key).insert source)).turn key true

/-- A source lets go of a key, which stays down as long as others hold it. -/
def letGo (k : Keypad) (key : Fin 16) (source : String) : Observed Keypad :=
  let others := (k.holders.get key).erase source
  if others.isEmpty then (k.setHolders key others).turn key false
  else .quiet (k.setHolders key others)

/-- A source holds down the key of a number. -/
def pressKey (k : Keypad) (key : Int) (source : String) : Except Invalid (Observed Keypad) :=
  (key? key).map (k.hold · source)

/-- A source lets go of the key of a number. -/
def releaseKey (k : Keypad) (key : Int) (source : String) : Except Invalid (Observed Keypad) :=
  (key? key).map (k.letGo · source)

/-- A key of the host is pressed. The answer says whether it is bound. -/
def press (k : Keypad) (name : String) : Except Invalid (Observed (Keypad × Bool)) :=
  match k.lookup name with
  | none => .ok ⟨(k, false), [.unboundKey name true]⟩
  | some key => (k.pressKey key (Text.lower name)).map (·.map (·, true))

/-- A key of the host is released. The answer says whether it is bound. -/
def release (k : Keypad) (name : String) : Except Invalid (Observed (Keypad × Bool)) :=
  match k.lookup name with
  | none => .ok ⟨(k, false), [.unboundKey name false]⟩
  | some key => (k.releaseKey key (Text.lower name)).map (·.map (·, true))

/-- Everyone lets go of every key. -/
def reset (k : Keypad) : Keypad := ofBindings k.bindings

end Keypad

/-- The lowest number in a list of key states at which the key is down. -/
def firstPressed (keys : List Bool) : Option Nat := keys.findIdx? id

end SuperChip
