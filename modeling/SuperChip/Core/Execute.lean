import SuperChip.Core
import SuperChip.Screen.Sprite

/-!
# Executing instructions

An instruction makes all its checks before it changes anything, so that one that meets a fault
leaves the core as it found it.

- `Core.execute`: the effect of an instruction.
- `Core.step`: reading the instruction at the program counter and executing it.

Models `Chip8CPU.step` and the handlers `op_*`.
-/

namespace SuperChip.Core

/-- What an instruction leaves behind: whether it completed, and the core after it. -/
abbrev Outcome := Except Stop Unit × Core

/-- The instruction completed. -/
def completed (c : Core) : Outcome := (.ok (), c)

/-- The instruction met a fault and changed nothing. -/
def faulted (c : Core) (f : Fault) : Outcome := (.error (.fault f), c)

/-- Goes on with the result of a check, if it was passed. -/
def checked {α : Type} (c : Core) (check : Except Fault α) (next : α → Core) : Outcome :=
  match check with
  | .error f => c.faulted f
  | .ok a => (next a).completed

/-! ## Groups of instructions -/

/-- Puts a frame on the call stack and goes on at the target. -/
def call (c : Core) (target : Address) : Outcome :=
  match c.registers.push (c.registers.pc + 2) with
  | .error s => (.error s, c)
  | .ok r => ({ c with registers := r }.jump target.toNat).completed

/-- Goes on at the frame that is taken from the call stack. -/
def returnFromCall (c : Core) : Outcome :=
  match c.registers.pop with
  | (.error s, r) => (.error s, { c with registers := r })
  | (.ok frame, r) => ({ c with registers := r }.jump frame).completed

/-- Replaces cells from the index register on and goes on. -/
def storeBytes (c : Core) (bytes : List UInt8) : Outcome :=
  c.checked (c.memory.write c.registers.i.toNat bytes) fun memory =>
    { c with memory := memory }.advance false

/-- The hundreds, tens and ones of a byte. -/
def decimalDigits (b : UInt8) : List UInt8 := [b / 100, b / 10 % 10, b % 10]

/-- Loads `V0` to `Vx` from the index register on. -/
def loadBytes (c : Core) (x : Register) : Outcome :=
  c.checked (c.memory.read c.registers.i.toNat (x.val + 1)) fun bytes =>
    { c with registers := { c.registers with v := withLeading c.registers.v bytes } }.advance false

/-- Waits for a key: nothing but the wait is noted until a key is down, and then its number is
put into the register. -/
def awaitKey (c : Core) (keys : Keys) (x : Register) : Core :=
  match firstPressed keys.toList with
  | none => { c with waiting := true }
  | some key => { c with waiting := false }.assign x (UInt8.ofNat key)

/-- The sprite of an instruction: `rows` rows of eight pixels from the index register on, or
sixteen rows of sixteen pixels if no rows are asked for in the high resolution. -/
def sprite (c : Core) (rows : Fin 16) : Except Fault Sprite :=
  if rows.val = 0 ∧ c.screen.isHigh then
    (c.memory.read c.registers.i.toNat 32).map Sprite.ofBytePairs
  else (c.memory.read c.registers.i.toNat rows.val).map Sprite.ofBytes

/-- Draws a sprite at the column and the row in two registers. The flag says whether it met a
lit pixel. -/
def drawSprite (c : Core) (x y : Register) (rows : Fin 16) : Outcome :=
  c.checked (c.sprite rows) fun sprite =>
    let (screen, hit) := c.screen.draw sprite (c.registers.get x).toNat (c.registers.get y).toNat
    { c with
      screen := screen
      registers := (c.registers.set Registers.flag (if hit then 1 else 0)).advance false }

/-- Whether the key in a register is down. Only the low four bits of the register count. -/
def keyDown (c : Core) (keys : Keys) (x : Register) : Bool :=
  keys.get ⟨(c.registers.get x).toNat % 16, Nat.mod_lt _ (by decide)⟩

/-- Puts a random byte under a mask into a register. -/
def randomize (c : Core) (x : Register) (mask : UInt8) : Core :=
  let (b, rest) := c.random.next
  { c with random := rest }.assign x (b &&& mask)

/-- The columns by which the screen is scrolled sideways. -/
def scrollColumns : Int := 4

/-! ## All instructions -/

/-- The effect of an instruction, given which keys are down. -/
def execute (c : Core) (keys : Keys) : Instruction → Outcome
  | .sys _ => (c.advance false).completed
  | .cls => (c.display c.screen.clear).completed
  | .ret => c.returnFromCall
  | .scd rows => (c.display (c.screen.scrollDown rows.val)).completed
  | .scr => (c.display (c.screen.scrollRight scrollColumns)).completed
  | .scl => (c.display (c.screen.scrollLeft scrollColumns)).completed
  | .exit => { c with exited := true }.completed
  | .low => (c.display .low).completed
  | .high => (c.display .high).completed
  | .jp target => (c.jump target.toNat).completed
  | .call target => c.call target
  | .seByte x byte => (c.advance (c.registers.get x == byte)).completed
  | .sneByte x byte => (c.advance (c.registers.get x != byte)).completed
  | .seReg x y => (c.advance (c.registers.get x == c.registers.get y)).completed
  | .ldByte x byte => (c.assign x byte).completed
  | .addByte x byte => (c.assign x (c.registers.get x + byte)).completed
  | .ldReg x y => (c.assign x (c.registers.get y)).completed
  | .or x y => (c.assign x (c.registers.get x ||| c.registers.get y)).completed
  | .and x y => (c.assign x (c.registers.get x &&& c.registers.get y)).completed
  | .xor x y => (c.assign x (c.registers.get x ^^^ c.registers.get y)).completed
  | .addReg x y =>
    let a := c.registers.get x
    let b := c.registers.get y
    (c.assignWithFlag x (a + b) (decide (255 < a.toNat + b.toNat))).completed
  | .sub x y =>
    let a := c.registers.get x
    let b := c.registers.get y
    (c.assignWithFlag x (a - b) (decide (b ≤ a))).completed
  | .shr x =>
    let a := c.registers.get x
    (c.assignWithFlag x (a / 2) (a % 2 == 1)).completed
  | .subn x y =>
    let a := c.registers.get x
    let b := c.registers.get y
    (c.assignWithFlag x (b - a) (decide (a ≤ b))).completed
  | .shl x =>
    let a := c.registers.get x
    (c.assignWithFlag x (a + a) (decide (128 ≤ a))).completed
  | .sneReg x y => (c.advance (c.registers.get x != c.registers.get y)).completed
  | .ldIndex target => (c.assignIndex target.toNat).completed
  | .jpOffset target => (c.jump (target.toNat + (c.registers.get Registers.base).toNat)).completed
  | .rnd x mask => (c.randomize x mask).completed
  | .drw x y rows => c.drawSprite x y rows
  | .skp x => (c.advance (c.keyDown keys x)).completed
  | .sknp x => (c.advance (!c.keyDown keys x)).completed
  | .ldFromDelay x => (c.assign x c.timers.delay.value).completed
  | .ldKey x => (c.awaitKey keys x).completed
  | .ldDelay x =>
    ({ c with timers.delay := c.timers.delay.set (c.registers.get x) }.advance false).completed
  | .ldSound x =>
    ({ c with timers.sound := c.timers.sound.set (c.registers.get x) }.advance false).completed
  | .addIndex x =>
    (c.assignIndex (c.registers.i.toNat + (c.registers.get x).toNat)).completed
  | .ldGlyph x => (c.assignIndex (Glyph.smallAddress (c.registers.get x)).toNat).completed
  | .ldLargeGlyph x => (c.assignIndex (Glyph.largeAddress (c.registers.get x)).toNat).completed
  | .ldDecimal x => c.storeBytes (decimalDigits (c.registers.get x))
  | .store x => c.storeBytes (leading c.registers.v (x.val + 1))
  | .load x => c.loadBytes x
  | .saveFlags x =>
    ({ c with
        registers.rpl := withLeading c.registers.rpl (leading c.registers.v (x.val + 1))
      }.advance false).completed
  | .restoreFlags x =>
    ({ c with
        registers.v := withLeading c.registers.v (leading c.registers.rpl (x.val + 1))
      }.advance false).completed

/-- Reads the instruction at the program counter and executes it. -/
def step (c : Core) (keys : Keys) : Except Stop Decoded × Core :=
  match c.peek with
  | .error f => (.error (.fault f), c)
  | .ok d =>
    match c.execute keys d.instruction with
    | (.ok (), after) => (.ok d, after)
    | (.error s, after) => (.error s, after)

end SuperChip.Core
