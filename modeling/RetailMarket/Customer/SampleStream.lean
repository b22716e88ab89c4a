import RetailMarket.Quantity

/-!
# Streams of samples

Seeded sources of samples in `[0, 1)`. The stream used in a run is the ChaCha block function with
twelve rounds, keyed by the expansion of a 64-bit seed.
-/

namespace RetailMarket

class SampleSource (G : Type) (R : outParam Type) where
  ofSeed : UInt64 → G
  next : G → R × G

namespace ChaCha

abbrev Block := Vector UInt32 16

def rotateLeft (x : UInt32) (amount : UInt32) : UInt32 :=
  (x <<< amount) ||| (x >>> (32 - amount))

def rotateRight (x : UInt32) (amount : UInt32) : UInt32 :=
  (x >>> amount) ||| (x <<< ((32 - amount) % 32))

def quarterRound (block : Block) (a b c d : Fin 16) : Block :=
  let wa := block[a] + block[b]
  let wd := rotateLeft (block[d] ^^^ wa) 16
  let wc := block[c] + wd
  let wb := rotateLeft (block[b] ^^^ wc) 12
  let wa := wa + wb
  let wd := rotateLeft (wd ^^^ wa) 8
  let wc := wc + wd
  let wb := rotateLeft (wb ^^^ wc) 7
  (((block.set a wa).set b wb).set c wc).set d wd

/-- A round on the columns and a round on the diagonals. -/
def doubleRound (block : Block) : Block :=
  let block := quarterRound block 0 4 8 12
  let block := quarterRound block 1 5 9 13
  let block := quarterRound block 2 6 10 14
  let block := quarterRound block 3 7 11 15
  let block := quarterRound block 0 5 10 15
  let block := quarterRound block 1 6 11 12
  let block := quarterRound block 2 7 8 13
  quarterRound block 3 4 9 14

abbrev Key := Vector UInt32 8

/-- The words "expand 32-byte k", the key, a 64-bit block counter and an empty nonce. -/
def initialBlock (key : Key) (counter : UInt64) : Block :=
  let constants : Vector UInt32 4 := #v[0x61707865, 0x3320646e, 0x79622d32, 0x6b206574]
  let position : Vector UInt32 4 := #v[counter.toUInt32, (counter >>> 32).toUInt32, 0, 0]
  constants ++ key ++ position

def block (key : Key) (counter : UInt64) : Block :=
  let start := initialBlock key counter
  let mixed := (List.range 6).foldl (fun state _ => doubleRound state) start
  mixed.zipWith (· + ·) start

/-- One step of the congruential generator that expands a seed, with its permuted output. -/
def expandStep (state : UInt64) : UInt32 × UInt64 :=
  let state := state * 6364136223846793005 + 11634580027462260723
  let mixed := (((state >>> 18) ^^^ state) >>> 27).toUInt32
  (rotateRight mixed (state >>> 59).toUInt32, state)

def expandWords : Nat → UInt64 → List UInt32
  | 0, _ => []
  | count + 1, state =>
    let (word, state) := expandStep state
    word :: expandWords count state

theorem length_expandWords (count : Nat) (state : UInt64) :
    (expandWords count state).length = count := by
  induction count generalizing state with
  | zero => rfl
  | succ count ih => simp [expandWords, ih]

def keyOfSeed (seed : UInt64) : Key :=
  ⟨(expandWords 8 seed).toArray, by simp [length_expandWords]⟩

end ChaCha

/-- The words of the current block that are left, and the number of the next block. -/
structure ChaChaStream where
  key : ChaCha.Key
  counter : UInt64 := 0
  words : List UInt32 := []

namespace ChaChaStream

def ofSeed (seed : UInt64) : ChaChaStream := { key := ChaCha.keyOfSeed seed }

/-- The next 64 bits: two words, the low one first. -/
def nextBits (stream : ChaChaStream) : UInt64 × ChaChaStream :=
  match stream.words with
  | low :: high :: rest =>
    (low.toUInt64 ||| (high.toUInt64 <<< 32), { stream with words := rest })
  | _ =>
    let block := ChaCha.block stream.key stream.counter
    (block[0].toUInt64 ||| (block[1].toUInt64 <<< 32),
      { stream with counter := stream.counter + 1, words := block.toList.drop 2 })

def nextSample (stream : ChaChaStream) : Float × ChaChaStream :=
  let (bits, stream) := stream.nextBits
  ((bits >>> 11).toFloat / 9007199254740992.0, stream)

instance : SampleSource ChaChaStream Float := ⟨ofSeed, nextSample⟩

end ChaChaStream

end RetailMarket
