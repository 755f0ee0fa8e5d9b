/-!
# The Keccak-256 hash

The sponge with a rate of 136 bytes over the 1600-bit permutation. The state is twenty-five
64-bit lanes; lane `x + 5 * y` stands in column `x` and row `y`. Padding appends the byte
`0x01`, zeros, and sets the highest bit of the last byte of the last block.
-/

namespace ControlPool.Keccak

/-- The permutation's state: five rows of five lanes. -/
abbrev Lanes := Vector UInt64 25

/-- Rotates a lane to the left. -/
def rotate (lane : UInt64) (bits : UInt64) : UInt64 :=
  (lane <<< bits) ||| (lane >>> (64 - bits))

/-- The parity of each column. -/
def parity (lanes : Lanes) : Vector UInt64 5 :=
  Vector.ofFn fun x : Fin 5 =>
    lanes[x.val] ^^^ lanes[x.val + 5] ^^^ lanes[x.val + 10] ^^^ lanes[x.val + 15]
      ^^^ lanes[x.val + 20]

/-- Adds to each lane the parities of the column before and of the column after it. -/
def theta (lanes : Lanes) : Lanes :=
  let columns := parity lanes
  Vector.ofFn fun i : Fin 25 =>
    lanes[i] ^^^ columns[(i.val + 4) % 5] ^^^ rotate columns[(i.val + 1) % 5] 1

/-- How far each lane is rotated. -/
def offsets : Vector UInt64 25 :=
  #v[0, 1, 62, 28, 27, 36, 44, 6, 55, 20, 3, 10, 43, 25, 39, 41, 45, 15, 21, 8, 18, 2, 61, 56, 14]

/-- Rotates each lane by its offset. -/
def rho (lanes : Lanes) : Lanes := Vector.ofFn fun i : Fin 25 => rotate lanes[i] offsets[i]

/-- Moves the lane in column `x` and row `y` to column `y` and row `2 * x + 3 * y`. -/
def pi (lanes : Lanes) : Lanes :=
  Vector.ofFn fun i : Fin 25 => lanes[(i.val % 5 + 3 * (i.val / 5)) % 5 + 5 * (i.val % 5)]

/-- Combines each lane with the next two of its row. -/
def chi (lanes : Lanes) : Lanes :=
  Vector.ofFn fun i : Fin 25 =>
    let row := 5 * (i.val / 5)
    lanes[i] ^^^ (~~~ lanes[row + (i.val + 1) % 5] &&& lanes[row + (i.val + 2) % 5])

/-- Adds the round's constant to the first lane. -/
def iota (constant : UInt64) (lanes : Lanes) : Lanes := lanes.set 0 (lanes[0] ^^^ constant)

/-- The constants of the twenty-four rounds. -/
def constants : List UInt64 :=
  [0x0000000000000001, 0x0000000000008082, 0x800000000000808A, 0x8000000080008000,
   0x000000000000808B, 0x0000000080000001, 0x8000000080008081, 0x8000000000008009,
   0x000000000000008A, 0x0000000000000088, 0x0000000080008009, 0x000000008000000A,
   0x000000008000808B, 0x800000000000008B, 0x8000000000008089, 0x8000000000008003,
   0x8000000000008002, 0x8000000000000080, 0x000000000000800A, 0x800000008000000A,
   0x8000000080008081, 0x8000000000008080, 0x0000000080000001, 0x8000000080008008]

/-- One round of the permutation. -/
def round (lanes : Lanes) (constant : UInt64) : Lanes :=
  iota constant (chi (pi (rho (theta lanes))))

/-- The permutation. -/
def permute (lanes : Lanes) : Lanes := constants.foldl round lanes

/-- The number of bytes absorbed between two permutations. -/
def rate : Nat := 136

/-- The bytes appended to a message of the given length. -/
def padding (length : Nat) : List UInt8 :=
  match rate - length % rate with
  | 0 => []
  | 1 => [0x81]
  | missing + 2 => 0x01 :: (List.replicate missing 0 ++ [0x80])

/-- The lane that bytes write, lowest first. -/
def laneOf (bytes : List UInt8) : UInt64 :=
  bytes.foldr (fun byte high => (high <<< 8) ||| byte.toUInt64) 0

/-- The eight bytes of a lane, lowest first. -/
def laneBytes (lane : UInt64) : List UInt8 :=
  [lane.toUInt8, (lane >>> 8).toUInt8, (lane >>> 16).toUInt8, (lane >>> 24).toUInt8,
   (lane >>> 32).toUInt8, (lane >>> 40).toUInt8, (lane >>> 48).toUInt8, (lane >>> 56).toUInt8]

/-- Adds one block to the state and permutes it. -/
def absorbBlock (lanes : Lanes) (block : List UInt8) : Lanes :=
  permute (Vector.ofFn fun i : Fin 25 => lanes[i] ^^^ laneOf ((block.drop (8 * i.val)).take 8))

/-- Absorbs the given number of blocks. -/
def absorb : Nat → List UInt8 → Lanes → Lanes
  | 0, _, lanes => lanes
  | blocks + 1, bytes, lanes => absorb blocks (bytes.drop rate) (absorbBlock lanes (bytes.take rate))

/-- The first four lanes of the state as bytes. -/
def squeeze (lanes : Lanes) : List UInt8 :=
  laneBytes lanes[0] ++ laneBytes lanes[1] ++ laneBytes lanes[2] ++ laneBytes lanes[3]

/-- The bytes of the Keccak-256 hash of a message. -/
def digest (message : List UInt8) : List UInt8 :=
  squeeze (absorb (message.length / rate + 1) (message ++ padding message.length)
    (Vector.replicate 25 0))

/-- Every digest has thirty-two bytes. -/
theorem length_digest (message : List UInt8) : (digest message).length = 32 := by
  simp [digest, squeeze, laneBytes]

end ControlPool.Keccak
