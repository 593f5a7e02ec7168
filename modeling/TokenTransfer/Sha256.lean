import TokenTransfer.Bytes

namespace TokenTransfer.Sha256

-- The 256-bit hash of FIPS 180-4.

-- First 32 bits of the fractional parts of the cube roots of the first 64 primes.
def roundConstants : List UInt32 :=
  [0x428a2f98,0x71374491,0xb5c0fbcf,0xe9b5dba5,0x3956c25b,0x59f111f1,0x923f82a4,0xab1c5ed5,
   0xd807aa98,0x12835b01,0x243185be,0x550c7dc3,0x72be5d74,0x80deb1fe,0x9bdc06a7,0xc19bf174,
   0xe49b69c1,0xefbe4786,0x0fc19dc6,0x240ca1cc,0x2de92c6f,0x4a7484aa,0x5cb0a9dc,0x76f988da,
   0x983e5152,0xa831c66d,0xb00327c8,0xbf597fc7,0xc6e00bf3,0xd5a79147,0x06ca6351,0x14292967,
   0x27b70a85,0x2e1b2138,0x4d2c6dfc,0x53380d13,0x650a7354,0x766a0abb,0x81c2c92e,0x92722c85,
   0xa2bfe8a1,0xa81a664b,0xc24b8b70,0xc76c51a3,0xd192e819,0xd6990624,0xf40e3585,0x106aa070,
   0x19a4c116,0x1e376c08,0x2748774c,0x34b0bcb5,0x391c0cb3,0x4ed8aa4a,0x5b9cca4f,0x682e6ff3,
   0x748f82ee,0x78a5636f,0x84c87814,0x8cc70208,0x90befffa,0xa4506ceb,0xbef9a3f7,0xc67178f2]

structure Chaining where
  a : UInt32
  b : UInt32
  c : UInt32
  d : UInt32
  e : UInt32
  f : UInt32
  g : UInt32
  h : UInt32
deriving DecidableEq

def Chaining.start : Chaining :=
  ⟨0x6a09e667,0xbb67ae85,0x3c6ef372,0xa54ff53a,0x510e527f,0x9b05688c,0x1f83d9ab,0x5be0cd19⟩

def Chaining.add (x y : Chaining) : Chaining :=
  ⟨x.a+y.a,x.b+y.b,x.c+y.c,x.d+y.d,x.e+y.e,x.f+y.f,x.g+y.g,x.h+y.h⟩

def Chaining.words (x : Chaining) : List UInt32 := [x.a,x.b,x.c,x.d,x.e,x.f,x.g,x.h]

def rotate (x n : UInt32) : UInt32 := (x >>> n) ||| (x <<< (32 - n))
def choose (x y z : UInt32) : UInt32 := (x &&& y) ^^^ (~~~x &&& z)
def majority (x y z : UInt32) : UInt32 := (x &&& y) ^^^ (x &&& z) ^^^ (y &&& z)
def upper0 (x : UInt32) : UInt32 := rotate x 2 ^^^ rotate x 13 ^^^ rotate x 22
def upper1 (x : UInt32) : UInt32 := rotate x 6 ^^^ rotate x 11 ^^^ rotate x 25
def lower0 (x : UInt32) : UInt32 := rotate x 7 ^^^ rotate x 18 ^^^ (x >>> 3)
def lower1 (x : UInt32) : UInt32 := rotate x 17 ^^^ rotate x 19 ^^^ (x >>> 10)

-- Newest word first, so the four words of the recurrence stand at fixed places.
def extendSchedule : Nat → List UInt32 → List UInt32
  | 0,newest => newest
  | n+1,newest =>
    extendSchedule n ((lower1 (newest.getD 1 0) + newest.getD 6 0 +
      lower0 (newest.getD 14 0) + newest.getD 15 0) :: newest)

def schedule (block : List UInt32) : List UInt32 := (extendSchedule 48 block.reverse).reverse

def round (x : Chaining) (constant word : UInt32) : Chaining :=
  let mixed := x.h + upper1 x.e + choose x.e x.f x.g + constant + word
  ⟨mixed + upper0 x.a + majority x.a x.b x.c,x.a,x.b,x.c,x.d + mixed,x.e,x.f,x.g⟩

def compress (x : Chaining) (block : List UInt32) : Chaining :=
  x.add ((roundConstants.zip (schedule block)).foldl (fun y step => round y step.1 step.2) x)

def writeWord (word : UInt32) : Bytes := BigEndian.write 4 word.toNat

def readWords : Bytes → List UInt32
  | a :: b :: c :: d :: rest => UInt32.ofNat (BigEndian.read [a,b,c,d]) :: readWords rest
  | _ => []

def pad (message : Bytes) : Bytes :=
  message ++ 128 :: (List.replicate ((119 - message.length % 64) % 64) 0 ++
    BigEndian.write 8 (8 * message.length))

def absorb : Nat → List UInt32 → Chaining → Chaining
  | 0,_,x => x
  | blocks+1,words,x => absorb blocks (words.drop 16) (compress x (words.take 16))

def hash (message : Bytes) : Bytes :=
  let padded := pad message
  (absorb (padded.length / 64) (readWords padded) Chaining.start).words.flatMap writeWord

theorem hash_length (message : Bytes) : (hash message).length = 32 := by
  simp [hash,Chaining.words,writeWord,BigEndian.write_length]

end TokenTransfer.Sha256
